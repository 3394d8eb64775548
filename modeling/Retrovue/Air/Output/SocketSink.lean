/-
**The socket sink** (`SocketSink.cpp`): a bounded buffer that producers fill and a writer thread
empties into a socket.

* `Sink`, `step`: producer calls up to and under the lock, the writer's waits, polls and sends with
  whatever the system answers, the emission gate, `Close` and the detaches;
* `buffer_bounded`: on every run the buffer's size is that of the queue, within the capacity;
* `Orderly`: the writer takes no packet while the gate is held, no one holds the gate under a packet
  that is being sent, and no packet is given up before the writer is told to stop;
* `emission_clean`: on every orderly run nothing is sent while the gate is held, and what the kernel
  accepted is a prefix of what the producers handed over.
-/

import Mathlib
import Retrovue.Foundation.Transition

namespace Retrovue.Air.Output

open Retrovue.Foundation.Transition

/-! ### The sink -/

section Sink

/-- A buffer of bytes. -/
abbrev Bytes := List UInt8

/-- A producer's call that found the sink open and has not returned: `TryConsumeBytes`, or
`WaitAndConsumeBytes`, which may be waiting for space. -/
structure Call where
  data : Bytes
  blocking : Bool
  waiting : Bool
  deriving DecidableEq, Repr

/-- Where the writer thread is, with the rest of the packet that it has in hand. -/
inductive Writer
  /-- At the top of `WriterThreadLoop`. -/
  | top
  /-- In `queue_cv_.wait_for`. -/
  | waiting
  /-- At the top of the sending loop. -/
  | sending (rest : Bytes)
  /-- Behind a `poll` that found the socket writable. -/
  | ready (rest : Bytes)
  | exited
  deriving DecidableEq, Repr

/-- The bytes in the writer's hand. -/
def Writer.unsent : Writer → Bytes
  | .sending rest => rest
  | .ready rest => rest
  | _ => []

/-- What `poll` answers. -/
inductive PollOutcome
  | writable
  | timedOut
  | interrupted
  | failed
  /-- `POLLERR`, `POLLHUP` or `POLLNVAL`. -/
  | hungUp
  deriving DecidableEq, Repr

/-- What `send` answers. -/
inductive SendOutcome
  | accepted (count : ℕ)
  /-- `EAGAIN`, `EWOULDBLOCK` or `EINTR`. -/
  | retry
  /-- `EPIPE`. -/
  | brokenPipe
  | failed
  deriving DecidableEq, Repr

/-- A `SocketSink`. -/
structure Sink where
  detachOnOverflow : Bool
  packetQueue : List Bytes
  currentBufferSize : ℕ
  throttling : Bool
  emissionGateOpen : Bool
  closed : Bool
  detached : Bool
  writerStop : Bool
  /-- `0 ≤ fd_`. -/
  fdOpen : Bool
  calls : List Call
  writer : Writer
  /-- The bytes that producer calls have enqueued so far. -/
  enqueued : Bytes
  /-- The bytes that the kernel has accepted so far. -/
  delivered : Bytes
  /-- Whether `send` was ever called while the gate was held. -/
  handedWhileHeld : Bool
  deriving DecidableEq, Repr

/-- The sink as its constructor leaves it. -/
def Sink.initial : Sink where
  detachOnOverflow := true
  packetQueue := []
  currentBufferSize := 0
  throttling := false
  emissionGateOpen := true
  closed := false
  detached := false
  writerStop := false
  fdOpen := true
  calls := []
  writer := .top
  enqueued := []
  delivered := []
  handedWhileHeld := false

/-- A step of one of the threads. -/
inductive Action
  | setDetachOnOverflow (detach : Bool)
  /-- A call of `TryConsumeBytes` or `WaitAndConsumeBytes`, up to the lock. -/
  | consume (data : Bytes) (blocking : Bool)
  /-- The call at this place gets the lock, first or after a wait. -/
  | locked (place : ℕ)
  /-- The wait of the call at this place times out. -/
  | callTimedOut (place : ℕ)
  /-- The rest of `DetachSlowConsumer` behind its exchange of `detached_`, up to the descriptor. -/
  | finishDetach
  | holdEmission
  | openEmissionGate
  /-- `Close`, up to the join. -/
  | close
  /-- `ForceDetachAndClose`, up to the descriptor. -/
  | forceDetachAndClose
  /-- The descriptor is closed. -/
  | closeFd
  | writerTop
  /-- The writer leaves its wait: on a timeout, or on the condition. -/
  | writerWake (timedOut : Bool)
  | writerPoll (outcome : PollOutcome)
  | writerSend (outcome : SendOutcome)
  deriving DecidableEq, Repr

variable (bufferCapacity : ℕ)

/-- `high_water`. -/
def highWater : ℕ := bufferCapacity * 4 / 5

/-- `low_water`. -/
def lowWater : ℕ := bufferCapacity / 2

/-- `DetachSlowConsumer` up to its exchange of `detached_`. -/
def Sink.detach (sink : Sink) : Sink := { sink with detached := true }

/-- The stop flags. -/
def Sink.stop (sink : Sink) : Sink := { sink with closed := true, writerStop := true }

/-- The call at a place returns. -/
def Sink.returned (sink : Sink) (place : ℕ) : Sink := { sink with calls := sink.calls.eraseIdx place }

/-- A packet is enqueued. -/
def Sink.enqueue (sink : Sink) (data : Bytes) : Sink :=
  { sink with
    packetQueue := sink.packetQueue ++ [data]
    currentBufferSize := sink.currentBufferSize + data.length
    enqueued := sink.enqueued ++ data }

/-- `TryConsumeBytes` under the lock. -/
def Sink.tryEnqueue (sink : Sink) (data : Bytes) : Sink :=
  if bufferCapacity < sink.currentBufferSize + data.length then
    if sink.detachOnOverflow then sink.detach else sink
  else
    { sink with
      throttling := sink.throttling ||
        decide (highWater bufferCapacity ≤ sink.currentBufferSize + data.length) }.enqueue data

/-- A round of the waiting loop of `WaitAndConsumeBytes`, under the lock, by the call at a place. -/
def Sink.waitEnqueue (sink : Sink) (place : ℕ) (call : Call) : Sink :=
  if bufferCapacity < sink.currentBufferSize + call.data.length then
    if sink.closed || sink.detached then sink.returned place
    else { sink with calls := sink.calls.set place { call with waiting := true } }
  else (sink.enqueue call.data).returned place

/-- The packet in hand is done with: the low-water check, and back to the top of the loop. -/
def Sink.finishPacket (sink : Sink) : Sink :=
  { sink with
    throttling := sink.throttling && !decide (sink.currentBufferSize < lowWater bufferCapacity)
    writer := .top }

/-- The writer gets the lock behind its wait. -/
def Sink.wake (sink : Sink) : Sink :=
  if sink.writerStop then { sink with writer := .exited }
  else
    match sink.packetQueue with
    | [] => { sink with writer := .top }
    | packet :: rest =>
      { sink with
        packetQueue := rest
        currentBufferSize := sink.currentBufferSize - packet.length
        writer := .sending packet }

/-- A round of the sending loop up to the `send`. -/
def Sink.poll (sink : Sink) (rest : Bytes) (outcome : PollOutcome) : Sink :=
  if rest = [] ∨ sink.writerStop = true ∨ sink.fdOpen = false then sink.finishPacket bufferCapacity
  else
    match outcome with
    | .writable => { sink with writer := .ready rest }
    | .timedOut => sink
    | .interrupted => sink
    -- the packet is given up, the next one is not
    | .failed => sink.finishPacket bufferCapacity
    | .hungUp => sink.finishPacket bufferCapacity

/-- The `send`; the kernel accepts no more than it is offered, and nothing on a closed descriptor. -/
def Sink.send (sink : Sink) (rest : Bytes) (outcome : SendOutcome) : Option Sink :=
  let handed := { sink with handedWhileHeld := sink.handedWhileHeld || !sink.emissionGateOpen }
  match outcome with
  | .accepted count =>
    if sink.fdOpen ∧ count ≤ rest.length then
      some { handed with
        delivered := sink.delivered ++ rest.take count
        writer := .sending (rest.drop count) }
    else none
  | .retry => some { handed with writer := .sending rest }
  | .brokenPipe =>
    if sink.detached then some (handed.finishPacket bufferCapacity)
    else some (handed.detach.stop.finishPacket bufferCapacity)
  | .failed => some (handed.finishPacket bufferCapacity)

/-- A step; `none` where no thread can take it. -/
def step (sink : Sink) : Action → Option Sink
  | .setDetachOnOverflow detach => some { sink with detachOnOverflow := detach }
  | .consume data blocking =>
    if sink.closed || sink.detached || data.isEmpty then some sink
    else some { sink with calls := sink.calls ++ [⟨data, blocking, false⟩] }
  | .locked place =>
    (sink.calls[place]?).map fun call =>
      if call.blocking then sink.waitEnqueue bufferCapacity place call
      else (sink.tryEnqueue bufferCapacity call.data).returned place
  | .callTimedOut place =>
    (sink.calls[place]?).bind fun call => if call.waiting then some (sink.returned place) else none
  | .finishDetach => if sink.detached then some sink.stop else none
  | .holdEmission => some { sink with emissionGateOpen := false }
  | .openEmissionGate => some { sink with emissionGateOpen := true }
  | .close => some sink.stop
  | .forceDetachAndClose => if sink.detached then some sink else some sink.detach.stop
  | .closeFd =>
    -- after a detach at once, in `Close` once the writer has been joined
    if sink.writerStop && (sink.detached || decide (sink.writer = .exited)) then
      some { sink with fdOpen := false }
    else none
  | .writerTop =>
    match sink.writer with
    | .top => some { sink with writer := if sink.writerStop then .exited else .waiting }
    | _ => none
  | .writerWake timedOut =>
    match sink.writer with
    | .waiting =>
      if timedOut || (!sink.packetQueue.isEmpty && sink.emissionGateOpen) || sink.writerStop then
        some sink.wake
      else none
    | _ => none
  | .writerPoll outcome =>
    match sink.writer with
    | .sending rest => some (sink.poll bufferCapacity rest outcome)
    | _ => none
  | .writerSend outcome =>
    match sink.writer with
    | .ready rest => sink.send bufferCapacity rest outcome
    | _ => none

end Sink

/-! ### What the sink is for -/

section Purpose

variable (bufferCapacity : ℕ)

/-- The size counted is that of the queue, within the capacity. -/
def Bounded (sink : Sink) : Prop :=
  sink.currentBufferSize = (sink.packetQueue.map List.length).sum ∧
    sink.currentBufferSize ≤ bufferCapacity

/-- Nothing was sent while the gate was held, and the kernel accepted a prefix of what was enqueued. -/
def Clean (sink : Sink) : Prop :=
  sink.handedWhileHeld = false ∧ sink.delivered <+: sink.enqueued

/-- The writer calls `send` before it waits again, unless `poll` keeps it from it. -/
def Sink.sends (sink : Sink) : Bool :=
  match sink.writer with
  | .ready _ => true
  | .sending rest => !rest.isEmpty && !sink.writerStop
  | _ => false

/-- A step that gives the writer no occasion to break the stream:

* no one holds the gate under a packet that is being sent;
* the writer does not leave its wait on a timeout while the gate is held and packets are queued;
* no packet is given up half sent, on an error of `poll` or `send` or on a broken pipe whose detach
  another thread has begun, before the writer is told to stop. -/
def Orderly (sink : Sink) : Action → Prop
  | .holdEmission => sink.sends = false
  | .writerWake _ =>
    sink.emissionGateOpen = true ∨ sink.packetQueue = [] ∨ sink.writerStop = true
  | .writerPoll outcome =>
    outcome = .failed ∨ outcome = .hungUp → sink.writer.unsent = [] ∨ sink.writerStop = true
  | .writerSend outcome =>
    outcome = .failed ∨ (outcome = .brokenPipe ∧ sink.detached = true) → sink.writerStop = true
  | _ => True

instance orderlyDecidable (sink : Sink) (action : Action) : Decidable (Orderly sink action) :=
  Action.casesOn (motive := fun action => Decidable (Orderly sink action)) action
    (fun _ => inferInstanceAs (Decidable True)) (fun _ _ => inferInstanceAs (Decidable True))
    (fun _ => inferInstanceAs (Decidable True)) (fun _ => inferInstanceAs (Decidable True))
    (inferInstanceAs (Decidable True)) (inferInstanceAs (Decidable (_ = _)))
    (inferInstanceAs (Decidable True)) (inferInstanceAs (Decidable True))
    (inferInstanceAs (Decidable True)) (inferInstanceAs (Decidable True))
    (inferInstanceAs (Decidable True)) (fun _ => inferInstanceAs (Decidable (_ ∨ _)))
    (fun _ => inferInstanceAs (Decidable (_ → _))) (fun _ => inferInstanceAs (Decidable (_ → _)))

end Purpose

/-! ### The buffer -/

section Buffer

variable {bufferCapacity : ℕ}

theorem Bounded.enqueue {sink : Sink} (bounded : Bounded bufferCapacity sink) {data : Bytes}
    (fits : sink.currentBufferSize + data.length ≤ bufferCapacity) :
    Bounded bufferCapacity (sink.enqueue data) := by
  obtain ⟨size, _⟩ := bounded
  refine ⟨?_, fits⟩
  simp [Sink.enqueue, size]

/-- The buffer is the same, whatever else changed. -/
theorem Bounded.congr {sink next : Sink} (bounded : Bounded bufferCapacity sink)
    (queue : next.packetQueue = sink.packetQueue)
    (size : next.currentBufferSize = sink.currentBufferSize) : Bounded bufferCapacity next := by
  rw [Bounded, queue, size]
  exact bounded

theorem Bounded.tryEnqueue {sink : Sink} (bounded : Bounded bufferCapacity sink) (data : Bytes) :
    Bounded bufferCapacity (sink.tryEnqueue bufferCapacity data) := by
  unfold Sink.tryEnqueue
  split
  · split
    · exact bounded.congr rfl rfl
    · exact bounded
  · rename_i fits
    have raised : Bounded bufferCapacity { sink with
        throttling := sink.throttling ||
          decide (highWater bufferCapacity ≤ sink.currentBufferSize + data.length) } :=
      bounded.congr rfl rfl
    exact raised.enqueue (Nat.le_of_not_lt fits)

theorem Bounded.waitEnqueue {sink : Sink} (bounded : Bounded bufferCapacity sink) (place : ℕ)
    (call : Call) : Bounded bufferCapacity (sink.waitEnqueue bufferCapacity place call) := by
  unfold Sink.waitEnqueue
  split
  · split <;> exact bounded.congr rfl rfl
  · rename_i fits
    exact (bounded.enqueue (Nat.le_of_not_lt fits)).congr rfl rfl

theorem Bounded.wake {sink : Sink} (bounded : Bounded bufferCapacity sink) :
    Bounded bufferCapacity sink.wake := by
  unfold Sink.wake
  split
  · exact bounded.congr rfl rfl
  · split
    · exact bounded.congr rfl rfl
    · rename_i packet rest queued
      obtain ⟨size, limit⟩ := bounded
      rw [queued, List.map_cons, List.sum_cons] at size
      exact ⟨by dsimp only; omega, by dsimp only; omega⟩

theorem Bounded.poll {sink : Sink} (bounded : Bounded bufferCapacity sink) (rest : Bytes)
    (outcome : PollOutcome) : Bounded bufferCapacity (sink.poll bufferCapacity rest outcome) := by
  unfold Sink.poll
  split
  · exact bounded.congr rfl rfl
  · cases outcome <;> exact bounded.congr rfl rfl

theorem Bounded.send {sink next : Sink} (bounded : Bounded bufferCapacity sink) {rest : Bytes}
    {outcome : SendOutcome} (sent : sink.send bufferCapacity rest outcome = some next) :
    Bounded bufferCapacity next := by
  unfold Sink.send at sent
  cases outcome with
  | accepted count =>
    obtain ⟨_, same⟩ := Option.ite_none_right_eq_some.mp sent
    cases same
    exact bounded.congr rfl rfl
  | retry =>
    cases sent
    exact bounded.congr rfl rfl
  | brokenPipe =>
    dsimp only at sent
    split at sent <;> cases sent <;> exact bounded.congr rfl rfl
  | failed =>
    cases sent
    exact bounded.congr rfl rfl

/-- **The buffer stays bounded**, whatever step is taken. -/
theorem Bounded.step {sink next : Sink} (action : Action) (bounded : Bounded bufferCapacity sink)
    (taken : step bufferCapacity sink action = some next) : Bounded bufferCapacity next := by
  cases action with
  | consume data blocking =>
    simp only [Output.step] at taken
    split at taken <;> cases taken <;> exact bounded.congr rfl rfl
  | locked place =>
    obtain ⟨call, _, same⟩ := Option.map_eq_some_iff.mp taken
    split at same <;> cases same
    · exact bounded.waitEnqueue place call
    · exact (bounded.tryEnqueue call.data).congr rfl rfl
  | callTimedOut place =>
    obtain ⟨call, _, ended⟩ := Option.bind_eq_some_iff.mp taken
    split at ended <;> cases ended
    exact bounded.congr rfl rfl
  | writerTop =>
    simp only [Output.step] at taken
    split at taken <;> cases taken
    exact bounded.congr rfl rfl
  | writerWake timedOut =>
    simp only [Output.step] at taken
    split at taken
    · split at taken <;> cases taken
      exact bounded.wake
    · cases taken
  | writerPoll outcome =>
    simp only [Output.step] at taken
    split at taken <;> cases taken
    exact bounded.poll _ outcome
  | writerSend outcome =>
    simp only [Output.step] at taken
    split at taken
    · exact bounded.send taken
    · cases taken
  | _ =>
    simp only [Output.step] at taken
    first
    | cases taken; exact bounded.congr rfl rfl
    | split at taken <;> cases taken <;> exact bounded.congr rfl rfl

end Buffer

/-! ### The stream -/

section Stream

variable {bufferCapacity : ℕ}

/-- **The invariant** of orderly runs: what was enqueued is delivered, in the writer's hand, or queued,
unless the writer was told to stop and is leaving. -/
structure Tidy (sink : Sink) : Prop where
  gate : sink.sends = true → sink.emissionGateOpen = true
  held : sink.handedWhileHeld = false
  flow : sink.enqueued = sink.delivered ++ (sink.writer.unsent ++ sink.packetQueue.flatten) ∨
    (sink.writerStop = true ∧ (sink.writer = .top ∨ sink.writer = .exited) ∧
      sink.delivered <+: sink.enqueued)
  descriptor : sink.fdOpen = false → sink.writerStop = true

theorem Tidy.initial : Tidy Sink.initial where
  gate := by simp [Sink.initial, Sink.sends]
  held := rfl
  flow := .inl rfl
  descriptor := by simp [Sink.initial]

theorem Tidy.clean {sink : Sink} (tidy : Tidy sink) : Clean sink := by
  refine ⟨tidy.held, ?_⟩
  rcases tidy.flow with whole | ⟨_, _, part⟩
  · exact ⟨_, whole.symm⟩
  · exact part

/-- The writer sends no sooner when it is told to stop. -/
theorem sends_of_stop {sink next : Sink} (writer : next.writer = sink.writer)
    (stop : sink.writerStop = true → next.writerStop = true) (sends : next.sends = true) :
    sink.sends = true := by
  unfold Sink.sends at sends ⊢
  rw [writer] at sends
  split at sends
  · rfl
  · rw [Bool.and_eq_true] at sends ⊢
    refine ⟨sends.1, ?_⟩
    by_cases told : sink.writerStop = true
    · simp [stop told] at sends
    · simpa using told
  · cases sends

/-- A step that leaves the writer and the stream alone, and at most stops the writer. -/
theorem Tidy.congr {sink next : Sink} (tidy : Tidy sink) (writer : next.writer = sink.writer)
    (gate : sink.emissionGateOpen = true → next.emissionGateOpen = true)
    (held : next.handedWhileHeld = sink.handedWhileHeld)
    (queue : next.packetQueue = sink.packetQueue) (enqueued : next.enqueued = sink.enqueued)
    (delivered : next.delivered = sink.delivered)
    (stop : sink.writerStop = true → next.writerStop = true)
    (descriptor : next.fdOpen = false → sink.fdOpen = false ∨ next.writerStop = true) :
    Tidy next where
  gate := fun sends => gate (tidy.gate (sends_of_stop writer stop sends))
  held := held.trans tidy.held
  flow := by
    rw [writer, queue, enqueued, delivered]
    rcases tidy.flow with whole | ⟨stopped, leaving, part⟩
    · exact .inl whole
    · exact .inr ⟨stop stopped, leaving, part⟩
  descriptor := by
    intro shut
    rcases descriptor shut with before | stopped
    · exact stop (tidy.descriptor before)
    · exact stopped

/-- The writer takes what it has in hand no further: it had nothing left, or was told to stop. -/
theorem Tidy.finishPacket {sink : Sink} (tidy : Tidy sink)
    (done : sink.writer.unsent = [] ∨ sink.writerStop = true) :
    Tidy (sink.finishPacket bufferCapacity) where
  gate := by simp [Sink.finishPacket, Sink.sends]
  held := tidy.held
  flow := by
    rcases tidy.flow with whole | ⟨stopped, _, part⟩
    · rcases done with nothing | stopped
      · rw [nothing] at whole
        exact .inl whole
      · exact .inr ⟨stopped, .inl rfl, ⟨_, whole.symm⟩⟩
    · exact .inr ⟨stopped, .inl rfl, part⟩
  descriptor := tidy.descriptor

/-- What is enqueued is queued. -/
theorem Tidy.enqueue {sink : Sink} (tidy : Tidy sink) (data : Bytes) : Tidy (sink.enqueue data) where
  gate := tidy.gate
  held := tidy.held
  flow := by
    simp only [Sink.enqueue, List.flatten_append, List.flatten_singleton]
    rcases tidy.flow with whole | ⟨stopped, leaving, part⟩
    · left
      rw [whole]
      simp
    · exact .inr ⟨stopped, leaving, part.trans (List.prefix_append _ _)⟩
  descriptor := tidy.descriptor

theorem Tidy.tryEnqueue {sink : Sink} (tidy : Tidy sink) (data : Bytes) :
    Tidy (sink.tryEnqueue bufferCapacity data) := by
  unfold Sink.tryEnqueue
  split
  · split
    · exact tidy.congr rfl id rfl rfl rfl rfl id .inl
    · exact tidy
  · have raised : Tidy { sink with
        throttling := sink.throttling ||
          decide (highWater bufferCapacity ≤ sink.currentBufferSize + data.length) } :=
      tidy.congr rfl id rfl rfl rfl rfl id .inl
    exact raised.enqueue data

theorem Tidy.waitEnqueue {sink : Sink} (tidy : Tidy sink) (place : ℕ) (call : Call) :
    Tidy (sink.waitEnqueue bufferCapacity place call) := by
  unfold Sink.waitEnqueue
  split
  · split <;> exact tidy.congr rfl id rfl rfl rfl rfl id .inl
  · exact (tidy.enqueue call.data).congr rfl id rfl rfl rfl rfl id .inl

/-- **The writer leaves its wait** with a packet only when the gate is open. -/
theorem Tidy.wake {sink : Sink} (tidy : Tidy sink) (waiting : sink.writer = .waiting)
    (orderly : sink.emissionGateOpen = true ∨ sink.packetQueue = [] ∨ sink.writerStop = true) :
    Tidy sink.wake := by
  have flow : sink.enqueued = sink.delivered ++ sink.packetQueue.flatten := by
    rcases tidy.flow with whole | ⟨_, leaving, _⟩
    · rw [waiting] at whole
      exact whole
    · rw [waiting] at leaving
      simp at leaving
  unfold Sink.wake
  split
  · exact ⟨by simp [Sink.sends], tidy.held, .inl flow, tidy.descriptor⟩
  · rename_i running
    split
    · rename_i queued
      refine ⟨by simp [Sink.sends], tidy.held, .inl ?_, tidy.descriptor⟩
      rw [queued] at flow
      simpa [Writer.unsent, queued] using flow
    · rename_i packet rest queued
      have isOpen : sink.emissionGateOpen = true := by
        rcases orderly with isOpen | empty | stopped
        · exact isOpen
        · rw [queued] at empty
          cases empty
        · exact absurd stopped running
      refine ⟨fun _ => isOpen, tidy.held, .inl ?_, tidy.descriptor⟩
      rw [flow, queued]
      rfl

/-- **A poll** gives a packet up only when nothing of it is left, or the writer was told to stop. -/
theorem Tidy.poll {sink : Sink} (tidy : Tidy sink) {rest : Bytes}
    (sending : sink.writer = .sending rest) {outcome : PollOutcome}
    (orderly : Orderly sink (.writerPoll outcome)) :
    Tidy (sink.poll bufferCapacity rest outcome) := by
  have inHand : sink.writer.unsent = rest := by rw [sending]; rfl
  unfold Sink.poll
  split
  · rename_i ends
    apply tidy.finishPacket
    rw [inHand]
    rcases ends with nothing | stopped | shut
    · exact .inl nothing
    · exact .inr stopped
    · exact .inr (tidy.descriptor shut)
  · rename_i goesOn
    rw [not_or, not_or] at goesOn
    have sends : sink.sends = true := by
      simp [Sink.sends, sending, goesOn.1, Bool.eq_false_iff.mpr goesOn.2.1]
    cases outcome with
    | writable =>
      refine ⟨fun _ => tidy.gate sends, tidy.held, ?_, tidy.descriptor⟩
      rcases tidy.flow with whole | ⟨_, leaving, _⟩
      · rw [inHand] at whole
        exact .inl whole
      · rw [sending] at leaving
        simp at leaving
    | timedOut => exact tidy
    | interrupted => exact tidy
    | failed => exact tidy.finishPacket (orderly (by decide))
    | hungUp => exact tidy.finishPacket (orderly (by decide))

/-- **A send** happens with the gate open, and hands over the next bytes of the packet. -/
theorem Tidy.send {sink next : Sink} (tidy : Tidy sink) {rest : Bytes}
    (ready : sink.writer = .ready rest) {outcome : SendOutcome}
    (orderly : Orderly sink (.writerSend outcome))
    (sent : sink.send bufferCapacity rest outcome = some next) : Tidy next := by
  have isOpen : sink.emissionGateOpen = true := tidy.gate (by simp [Sink.sends, ready])
  have flow : sink.enqueued = sink.delivered ++ (rest ++ sink.packetQueue.flatten) := by
    rcases tidy.flow with whole | ⟨_, leaving, _⟩
    · rw [ready] at whole
      exact whole
    · rw [ready] at leaving
      simp at leaving
  have handed : Tidy { sink with
      handedWhileHeld := sink.handedWhileHeld || !sink.emissionGateOpen } :=
    tidy.congr rfl id (by simp [isOpen]) rfl rfl rfl id .inl
  unfold Sink.send at sent
  cases outcome with
  | accepted count =>
    obtain ⟨_, same⟩ := Option.ite_none_right_eq_some.mp sent
    cases same
    refine ⟨fun _ => isOpen, handed.held, .inl ?_, tidy.descriptor⟩
    simp only [Writer.unsent]
    rw [flow, List.append_assoc, ← List.append_assoc (rest.take count), List.take_append_drop]
  | retry =>
    cases sent
    exact ⟨fun _ => isOpen, handed.held, .inl flow, tidy.descriptor⟩
  | brokenPipe =>
    dsimp only at sent
    split at sent
    · rename_i begun
      cases sent
      exact handed.finishPacket (.inr (orderly (.inr ⟨rfl, begun⟩)))
    · cases sent
      have stopped : Tidy ({ sink with
          handedWhileHeld := sink.handedWhileHeld || !sink.emissionGateOpen }.detach.stop) :=
        handed.congr rfl id rfl rfl rfl rfl (fun _ => rfl) fun _ => .inr rfl
      exact stopped.finishPacket (.inr rfl)
  | failed =>
    cases sent
    exact handed.finishPacket (.inr (orderly (.inl rfl)))

/-- **The step lemma.** -/
theorem Tidy.step {sink next : Sink} (action : Action) (tidy : Tidy sink)
    (orderly : Orderly sink action) (taken : step bufferCapacity sink action = some next) :
    Tidy next := by
  cases action with
  | setDetachOnOverflow detach =>
    cases taken
    exact tidy.congr rfl id rfl rfl rfl rfl id .inl
  | consume data blocking =>
    simp only [Output.step] at taken
    split at taken <;> cases taken
    · exact tidy
    · exact tidy.congr rfl id rfl rfl rfl rfl id .inl
  | locked place =>
    obtain ⟨call, _, same⟩ := Option.map_eq_some_iff.mp taken
    split at same <;> cases same
    · exact tidy.waitEnqueue place call
    · exact (tidy.tryEnqueue call.data).congr rfl id rfl rfl rfl rfl id .inl
  | callTimedOut place =>
    obtain ⟨call, _, ended⟩ := Option.bind_eq_some_iff.mp taken
    split at ended <;> cases ended
    exact tidy.congr rfl id rfl rfl rfl rfl id .inl
  | finishDetach =>
    simp only [Output.step] at taken
    split at taken <;> cases taken
    exact tidy.congr rfl id rfl rfl rfl rfl (fun _ => rfl) .inl
  | holdEmission =>
    cases taken
    have quiet : sink.sends = false := orderly
    refine ⟨?_, tidy.held, tidy.flow, tidy.descriptor⟩
    intro sends
    have before : sink.sends = true := sends_of_stop rfl id sends
    rw [quiet] at before
    cases before
  | openEmissionGate =>
    cases taken
    exact tidy.congr rfl (fun _ => rfl) rfl rfl rfl rfl id .inl
  | close =>
    cases taken
    exact tidy.congr rfl id rfl rfl rfl rfl (fun _ => rfl) .inl
  | forceDetachAndClose =>
    simp only [Output.step] at taken
    split at taken <;> cases taken
    · exact tidy
    · exact tidy.congr rfl id rfl rfl rfl rfl (fun _ => rfl) .inl
  | closeFd =>
    simp only [Output.step] at taken
    split at taken
    · rename_i stopped
      cases taken
      rw [Bool.and_eq_true] at stopped
      exact tidy.congr rfl id rfl rfl rfl rfl id fun _ => .inr stopped.1
    · cases taken
  | writerTop =>
    simp only [Output.step] at taken
    split at taken
    · rename_i atTop
      cases taken
      refine ⟨?_, tidy.held, ?_, tidy.descriptor⟩
      · by_cases stopped : sink.writerStop = true <;> simp [Sink.sends, stopped]
      · rcases tidy.flow with whole | ⟨stopped, _, part⟩
        · rw [atTop] at whole
          left
          by_cases stopped : sink.writerStop = true <;> simpa [Writer.unsent, stopped] using whole
        · exact .inr ⟨stopped, .inr (if_pos stopped), part⟩
    · cases taken
  | writerWake timedOut =>
    simp only [Output.step] at taken
    split at taken
    · rename_i waiting
      split at taken <;> cases taken
      exact tidy.wake waiting orderly
    · cases taken
  | writerPoll outcome =>
    simp only [Output.step] at taken
    split at taken
    · rename_i sending
      cases taken
      exact tidy.poll sending orderly
    · cases taken
  | writerSend outcome =>
    simp only [Output.step] at taken
    split at taken
    · rename_i ready
      exact tidy.send ready orderly taken
    · cases taken

end Stream

/-! ### Runs -/

section Runs

/-- **The sink emits a clean stream**: on every run the buffer is bounded, and on every orderly run
nothing is sent while the gate is held and the kernel accepts a prefix of what was enqueued. -/
theorem emission_clean (bufferCapacity : ℕ) (actions : List Action) (final : Sink)
    (ran : runActions (step bufferCapacity) Sink.initial actions = some final) :
    Bounded bufferCapacity final ∧
      (Along (step bufferCapacity) Orderly Sink.initial actions → Clean final) := by
  constructor
  · exact invariant_along (step bufferCapacity) (Bounded bufferCapacity) (fun _ _ => True)
      (fun _ action _ bounded _ taken => bounded.step action taken) actions ⟨rfl, Nat.zero_le _⟩
      (along_of_forall _ (fun _ _ => trivial) actions _) ran
  · intro orderly
    exact (invariant_along (step bufferCapacity) Tidy Orderly
      (fun _ action _ tidy allowed taken => tidy.step action allowed taken) actions Tidy.initial
      orderly ran).clean

/-- A packet enqueued behind the gate, sent in two parts once it opens. -/
def gatedRun : List Action :=
  [.holdEmission, .consume [1, 2] true, .locked 0, .writerTop, .openEmissionGate, .writerWake false,
    .writerPoll .writable, .writerSend (.accepted 1), .writerPoll .writable, .writerSend .retry,
    .writerPoll .writable, .writerSend (.accepted 1), .writerPoll .timedOut, .close, .writerTop]

theorem emission_clean_gated : ∃ final, runActions (step 524288) Sink.initial gatedRun = some final ∧
    Bounded 524288 final ∧ Clean final := by
  obtain ⟨final, ran, _⟩ := exists_run (step 524288) Sink.initial gatedRun (fun _ => True) (by decide)
  obtain ⟨bounded, clean⟩ := emission_clean 524288 gatedRun final ran
  exact ⟨final, ran, bounded, clean (by decide)⟩

/-- A timeout lets the writer past the gate; an error of `send` lets the next packet follow a half of
the one before. -/
theorem emission_unclean :
    (∃ final, runActions (step 524288) Sink.initial
        [.holdEmission, .consume [1] true, .locked 0, .writerTop, .writerWake true,
          .writerPoll .writable, .writerSend (.accepted 1)] = some final ∧
      final.handedWhileHeld = true ∧ final.delivered = [1]) ∧
    ∃ final, runActions (step 524288) Sink.initial
        [.consume [1, 2] true, .locked 0, .consume [3] true, .locked 0, .writerTop,
          .writerWake false, .writerPoll .writable, .writerSend (.accepted 1),
          .writerPoll .writable, .writerSend .failed, .writerTop, .writerWake false,
          .writerPoll .writable, .writerSend (.accepted 1)] = some final ∧
      ¬ final.delivered <+: final.enqueued := by
  exact ⟨exists_run _ _ _ _ (by decide), exists_run _ _ _ _ (by decide)⟩

end Runs

end Retrovue.Air.Output
