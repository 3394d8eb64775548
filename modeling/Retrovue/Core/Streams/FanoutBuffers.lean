/-
**The channel streams that the director keeps** (`runtime/program_director.py`), in the embedded mode.

* `ChannelFanouts`: the streams of a channel, the registered one, its producers and its viewers;
* `Getting`: where the holder of `_fanout_lock` stands in `_get_or_create_fanout_buffer`;
* `Teardown`: where a thread stands in `_stop_channel_internal`, which takes another lock;
* `Director.step`: a viewer asks, subscribes or leaves, a producer comes or goes, or a thread goes on;
* `ChannelFanouts.OneFanout`: one stream runs at most, it is the registered one, and it is the viewers'.
-/

import Mathlib
import Retrovue.Core.Streams.ChannelStream

namespace Retrovue.Core.Streams

/-! ### The channels -/

section Channels

variable (Channel Session : Type)

/-- A channel stream; its source comes from the reader queue of a producer. -/
structure FanoutBuffer where
  producer : ℕ
  stream : ChannelStream Session

/-- How far a viewer has come, and the producer that was active when it subscribed. -/
inductive Viewer where
  | away
  | asking
  | waiting
  | holding (buffer : ℕ)
  | subscribed (buffer : ℕ) (under : Option ℕ)
  deriving DecidableEq

/-- What the holder of the lock does next; it has read the active producer. -/
inductive Getting where
  | entered
  | producerRead (producer : Option ℕ)
  | listed (producer : Option ℕ)
  | fetched (producer : Option ℕ) (buffer : ℕ)
  | removing (producer : Option ℕ)
  | creating (producer : Option ℕ)
  deriving DecidableEq

/-- What a thread does next in `_stop_channel_internal`. -/
inductive Teardown where
  | entered
  | producerStopped
  | done
  deriving DecidableEq

/-- What the director and the manager know of a channel. Producers and streams are numbered as they come;
the reader queue of a producer gets one socket, when AIR connects, and one stream takes it. -/
structure ChannelFanouts where
  buffers : List (FanoutBuffer Session) := []
  registered : Option ℕ := none
  activeProducer : Option ℕ := none
  producers : ℕ := 0
  accepted : ℕ → Bool := fun _ => false
  readerQueue : ℕ → Bool := fun _ => false
  takenBy : ℕ → Option ℕ := fun _ => none
  viewers : Session → Viewer := fun _ => .away
  teardowns : List Teardown := []

/-- `ProgramDirector`. -/
structure Director where
  ringBufferMaxBytes : ℕ
  clientBufferMaxBytes : ℕ
  fanoutLock : Option (Channel × Session × Getting) := none
  channels : Channel → ChannelFanouts Session := fun _ => {}

/-- What happens on a channel: a viewer asks for the stream, subscribes or leaves; the holder of the lock
goes on; a producer comes, is connected to or goes; a stop begins or goes on; or a thread of a stream goes
on. -/
inductive FanoutAction where
  | ask (session : Session)
  | get
  | subscribe (session : Session)
  | leave (session : Session) (hls : Bool)
  | producerStarts
  | airConnects
  | producerStops
  | stopChannel
  | teardown (thread : ℕ) (raises : Bool)
  | thread (buffer : ℕ) (action : StreamAction Session)

end Channels

/-! ### Their steps -/

section Steps

variable {Channel Session : Type}

/-- `is_running`. -/
def ChannelStream.isRunning (s : ChannelStream Session) : Bool := s.readerAlive && !s.stopped

/-- The steps of a stream that its own threads and its clients take. -/
def StreamAction.ofThread : StreamAction Session → Bool
  | .subscribe _ | .unsubscribe _ | .start | .stop => false
  | _ => true

namespace ChannelFanouts

/-- A stream changes. -/
def onStream (buffer : ℕ) (change : ChannelStream Session → ChannelStream Session)
    (c : ChannelFanouts Session) : ChannelFanouts Session :=
  { c with buffers := c.buffers.modify buffer fun b => { b with stream := change b.stream } }

/-- A viewer goes on. -/
def setViewer [DecidableEq Session] (session : Session) (viewer : Viewer)
    (c : ChannelFanouts Session) : ChannelFanouts Session :=
  { c with viewers := fun other => if other = session then viewer else c.viewers other }

/-- The producer goes: the sockets in its queue are closed. -/
def stopProducer (c : ChannelFanouts Session) : ChannelFanouts Session :=
  { c with
    activeProducer := none
    readerQueue := fun p => if c.activeProducer = some p then false else c.readerQueue p }

/-- A new stream is registered. -/
def register (b : FanoutBuffer Session) (c : ChannelFanouts Session) : ChannelFanouts Session :=
  { c with
    buffers := c.buffers ++ [b]
    registered := some c.buffers.length }

/-- The next step of `_get_or_create_fanout_buffer`, and what it does then, if it has not returned. -/
def getStep [DecidableEq Session] (ringBufferMaxBytes clientBufferMaxBytes : ℕ) (session : Session)
    (c : ChannelFanouts Session) : Getting → Option Getting × ChannelFanouts Session
  | .entered => (some (.producerRead c.activeProducer), c)
  | .producerRead producer =>
    (some (if c.registered.isSome then .listed producer else .creating producer), c)
  | .listed producer =>
    match c.registered with
    -- it was removed since it was found, under another lock: a `KeyError`
    | none => (none, c.setViewer session .away)
    | some buffer => (some (.fetched producer buffer), c)
  | .fetched producer buffer =>
    if (c.buffers[buffer]?).any (fun b => b.stream.isRunning) && producer.isSome then
      (none, c.setViewer session (.holding buffer))
    else (some (.removing producer), c)
  | .removing producer => (some (.creating producer), { c with registered := none })
  | .creating none => (none, c.setViewer session .waiting)
  | .creating (some producer) =>
    (none,
      (c.register ⟨producer, .init ringBufferMaxBytes clientBufferMaxBytes⟩).setViewer session
        (.holding c.buffers.length))

/-- A step of a thread of a stream. A reader connects with the socket from its producer's queue. -/
def threadStep [DecidableEq Session] (buffer : ℕ) (action : StreamAction Session)
    (c : ChannelFanouts Session) : Option (ChannelFanouts Session) :=
  if action.ofThread then
    (c.buffers[buffer]?).bind fun b => (b.stream.step action).bind fun next =>
      match action with
      | .reader thread .connected =>
        if b.stream.readers[thread]? = some .connecting then
          if c.readerQueue b.producer then
            some { c.onStream buffer fun _ => next with
              readerQueue := fun p => if p = b.producer then false else c.readerQueue p
              takenBy := fun p => if p = b.producer then some buffer else c.takenBy p }
          else none
        else some (c.onStream buffer fun _ => next)
      | _ => some (c.onStream buffer fun _ => next)
  else none

/-- A step on a channel, other than one of `_get_or_create_fanout_buffer`. A raw-TS viewer leaves under
the lock. -/
def step [DecidableEq Session] (lockFree : Bool) (c : ChannelFanouts Session) :
    FanoutAction Session → Option (ChannelFanouts Session)
  | .ask _ | .get => none
  | .subscribe session =>
    match c.viewers session with
    | .holding buffer =>
      some ((c.onStream buffer fun s => s.register session).setViewer session
        (.subscribed buffer c.activeProducer))
    | _ => none
  | .leave session hls =>
    match c.viewers session with
    | .subscribed buffer _ =>
      if hls || lockFree then
        some ((c.onStream buffer fun s => s.unsubscribe session).setViewer session .away)
      else none
    | .waiting => some (c.setViewer session .away)
    | .holding _ => some (c.setViewer session .away)
    | _ => none
  | .producerStarts =>
    some { c.stopProducer with
      activeProducer := some c.producers
      producers := c.producers + 1 }
  | .airConnects =>
    c.activeProducer.bind fun producer =>
      if c.accepted producer then none
      else
        some { c with
          accepted := fun p => if p = producer then true else c.accepted p
          readerQueue := fun p => if p = producer then true else c.readerQueue p }
  | .producerStops => some c.stopProducer
  | .stopChannel => some { c with teardowns := c.teardowns ++ [.entered] }
  | .teardown thread raises =>
    (c.teardowns[thread]?).bind fun
    -- a producer whose stop raises stays
    | .entered =>
      some { (if raises then c else c.stopProducer) with
        teardowns := c.teardowns.set thread .producerStopped }
    | .producerStopped =>
      -- the stream is stopped by another thread
      some { (c.registered.elim c fun buffer =>
          c.onStream buffer fun s => { s with stoppers := s.stoppers ++ [.asking] }) with
        registered := none
        teardowns := c.teardowns.set thread .done }
    | .done => none
  | .thread buffer action => c.threadStep buffer action

end ChannelFanouts

namespace Director

variable [DecidableEq Channel] [DecidableEq Session]

/-- A channel changes. -/
def withChannel (channel : Channel) (c : ChannelFanouts Session) (d : Director Channel Session) :
    Director Channel Session :=
  { d with channels := fun other => if other = channel then c else d.channels other }

/-- A step. -/
def step (d : Director Channel Session) (action : Channel × FanoutAction Session) :
    Option (Director Channel Session) :=
  match action.2 with
  | .ask session =>
    match d.fanoutLock, (d.channels action.1).viewers session with
    | none, .away | none, .waiting =>
      some { d.withChannel action.1 ((d.channels action.1).setViewer session .asking) with
        fanoutLock := some (action.1, session, .entered) }
    | _, _ => none
  | .get =>
    d.fanoutLock.bind fun held =>
      if held.1 = action.1 then
        let after := (d.channels held.1).getStep d.ringBufferMaxBytes d.clientBufferMaxBytes held.2.1
          held.2.2
        some { d.withChannel held.1 after.2 with
          fanoutLock := after.1.map fun getting => (held.1, held.2.1, getting) }
      else none
  | other =>
    ((d.channels action.1).step d.fanoutLock.isNone other).map fun c => d.withChannel action.1 c

end Director

end Steps

/-! ### What they are for -/

section Purpose

variable {Channel Session : Type}

namespace ChannelStream

/-- A reader thread is alive. -/
def anyAlive (s : ChannelStream Session) : Bool := s.readers.any Reader.alive

/-- A start is in progress. -/
def anyStarting (s : ChannelStream Session) : Bool := s.starters.any fun starter => starter ≠ .done

/-- The threads are told to stop, or are about to be. -/
def toldToStop (s : ChannelStream Session) : Bool :=
  s.stopEvent || s.stoppers.any fun stopper => stopper = .asking || stopper = .setting

/-- The threads are told to stop, or a stop is in progress. -/
def beingStopped (s : ChannelStream Session) : Bool :=
  s.stopEvent || s.stoppers.any fun stopper => stopper ≠ .done

/-- A stream that runs and is not being stopped. -/
def Live (s : ChannelStream Session) : Prop := s.anyAlive = true ∧ s.beingStopped = false

end ChannelStream

/-- **One fan-out for a channel**: one stream is live at most, and it is the registered one; and whoever
subscribed under the active producer is subscribed to a stream of that producer, whose socket no other
stream took. -/
structure ChannelFanouts.OneFanout (c : ChannelFanouts Session) : Prop where
  one : ∀ (i j : ℕ) (first second : FanoutBuffer Session), c.buffers[i]? = some first → c.buffers[j]? = some second →
    first.stream.Live → second.stream.Live → i = j
  registered : ∀ (i : ℕ) (b : FanoutBuffer Session), c.buffers[i]? = some b → b.stream.Live → c.registered = some i
  viewers : ∀ session i producer, c.viewers session = .subscribed i (some producer) →
    c.activeProducer = some producer → ∃ b, c.buffers[i]? = some b ∧
      session ∈ b.stream.subscribers.map Prod.fst ∧ b.producer = producer ∧
        ∀ j, c.takenBy producer = some j → j = i

/-- The stream that a viewer has and has not subscribed to. -/
def Viewer.held : Viewer → Option ℕ
  | .holding buffer => some buffer
  | _ => none

/-- The registered stream is removed next. -/
def Getting.removes : Getting → Bool
  | .removing _ => true
  | _ => false

/-- The stop of a stream that goes on. -/
def StreamAction.stopThread : StreamAction Session → Option ℕ
  | .stopper thread => some thread
  | _ => none

/-- What the law needs of a step on a channel: a viewer subscribes to the registered stream, which is of
the active producer, if there is one, and no other stream took its socket; a stream that is removed is
neither running nor being started, nor has it subscribers if its producer is active; one that is stopped
is not being started, nor is its producer active; and a stop that finds the stream stopped already finds
no reader alive. -/
def ChannelFanouts.Orderly (getting : Option Getting) (c : ChannelFanouts Session) :
    FanoutAction Session → Prop
  | .subscribe session =>
    ∀ i ∈ (c.viewers session).held, c.registered = some i ∧ ∀ producer ∈ c.activeProducer,
      (c.buffers[i]?).map FanoutBuffer.producer = some producer ∧
        (c.takenBy producer = none ∨ c.takenBy producer = some i)
  | .get =>
    getting.any Getting.removes = true → ∀ i ∈ c.registered, ∀ b ∈ c.buffers[i]?,
      b.stream.anyAlive = false ∧ b.stream.anyStarting = false ∧
        (c.activeProducer = some b.producer → b.stream.subscribers = [])
  | .teardown thread _ =>
    c.teardowns[thread]? = some .producerStopped → ∀ i ∈ c.registered, ∀ b ∈ c.buffers[i]?,
      b.stream.anyStarting = false ∧ c.activeProducer ≠ some b.producer
  | .thread i action =>
    ∀ thread ∈ action.stopThread, ∀ b ∈ c.buffers[i]?,
      b.stream.stoppers[thread]? = some .asking → b.stream.stopped = true →
        b.stream.anyAlive = false
  | _ => True

/-- What the law needs of a step. -/
def Orderly [DecidableEq Channel] (d : Director Channel Session)
    (action : Channel × FanoutAction Session) : Prop :=
  (d.channels action.1).Orderly
    (d.fanoutLock.bind fun held => if held.1 = action.1 then some held.2.2 else none) action.2

section Evaluation

variable [DecidableEq Channel] [DecidableEq Session]

instance (getting : Option Getting) (c : ChannelFanouts Session) (action : FanoutAction Session) :
    Decidable (c.Orderly getting action) :=
  FanoutAction.casesOn (motive := fun action => Decidable (c.Orderly getting action)) action
    (fun _ => inferInstanceAs (Decidable True))
    -- `get`
    (inferInstanceAs (Decidable (getting.any Getting.removes = true → ∀ i ∈ c.registered,
      ∀ b ∈ c.buffers[i]?, b.stream.anyAlive = false ∧ b.stream.anyStarting = false ∧
        (c.activeProducer = some b.producer → b.stream.subscribers = []))))
    -- `subscribe`
    (fun session => inferInstanceAs (Decidable (∀ i ∈ (c.viewers session).held,
      c.registered = some i ∧ ∀ producer ∈ c.activeProducer,
        (c.buffers[i]?).map FanoutBuffer.producer = some producer ∧
          (c.takenBy producer = none ∨ c.takenBy producer = some i))))
    (fun _ _ => inferInstanceAs (Decidable True)) (inferInstanceAs (Decidable True))
    (inferInstanceAs (Decidable True)) (inferInstanceAs (Decidable True))
    (inferInstanceAs (Decidable True))
    -- `teardown`
    (fun thread _ => inferInstanceAs (Decidable (c.teardowns[thread]? = some .producerStopped →
      ∀ i ∈ c.registered, ∀ b ∈ c.buffers[i]?,
        b.stream.anyStarting = false ∧ c.activeProducer ≠ some b.producer)))
    -- `thread`
    (fun i action => inferInstanceAs (Decidable (∀ thread ∈ action.stopThread,
      ∀ b ∈ c.buffers[i]?, b.stream.stoppers[thread]? = some .asking →
        b.stream.stopped = true → b.stream.anyAlive = false)))

instance (d : Director Channel Session) (action : Channel × FanoutAction Session) :
    Decidable (Orderly d action) :=
  inferInstanceAs (Decidable ((d.channels action.1).Orderly
    (d.fanoutLock.bind fun held => if held.1 = action.1 then some held.2.2 else none) action.2))

end Evaluation

end Purpose

end Retrovue.Core.Streams
