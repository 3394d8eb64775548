/-
**A channel's stream and its clients** (`runtime/channel_stream.py`), with its threads at single steps.

* `Reader`, `Fanout`, `Starter`, `Stopper`: where a thread stands in `_upstream_reader_loop`,
  `_fanout_loop`, `subscribe` and `start`, `stop`; there may be several of each;
* `ChannelStream.step`: a client comes, reads or goes, or a thread takes its next step;
* `Served`: a subscriber has, or is about to get, what was read since it subscribed, in order, but for
  the dropped bytes that were counted;
* `ChannelStream.FannedOut`: all subscribers are served, what is read goes on to them, and the upstream
  was closed for good reason.
-/

import Mathlib
import Retrovue.Foundation.Transition
import Retrovue.Core.Streams.Buffers

namespace Retrovue.Core.Streams

/-! ### The threads -/

section Threads

/-- Why a reader closes the upstream. -/
inductive Cause where
  | stop
  | eof
  | error
  | wouldBlock
  deriving DecidableEq

/-- What a reader does next. A thread that was created is not alive before it is started. -/
inductive Reader where
  | created
  | top
  | connecting
  | polling
  | holding (chunk : Chunk)
  | ending (cause : Cause)
  | closing (cause : Cause)
  | finishing
  | dead
  deriving DecidableEq

/-- What a reader meets: a connection or none, an exception that it does not catch, nothing to read before
the poll times out, or what `recv` does. -/
inductive Seen where
  | connected
  | refused
  | raises
  | quiet
  | data (chunk : Chunk)
  | wouldBlock
  | error
  deriving DecidableEq

/-- What a fan-out thread does next; the queues that it still has to serve are those of its snapshot. -/
inductive Fanout where
  | top
  | getting
  | got (chunk : Chunk)
  | delivering (chunk : Chunk) (remaining : List ℕ)
  | dead
  deriving DecidableEq

/-- What a thread does next in `subscribe`, after it has registered, and in `start`. -/
inductive Starter where
  | asking
  | starting
  | clearing
  | assigning
  | launching
  | fanning
  | done
  deriving DecidableEq

/-- What a thread does next in `stop`; its joins end, or time out, before `clearing`. -/
inductive Stopper where
  | asking
  | setting
  | closingRing
  | closingSource
  | clearing
  | finishing
  | done
  deriving DecidableEq

/-- `Thread.is_alive`. -/
def Reader.alive : Reader → Bool
  | .created | .dead => false
  | _ => true

/-- The start has passed its check of the reader. -/
def Starter.underWay : Starter → Bool
  | .asking | .starting | .done => false
  | _ => true

/-- A client's queue, and what has been seen: what it took, the bytes that its queue dropped, what was
read upstream since it subscribed, and the bytes that the ring had dropped before. -/
structure Client where
  queue : BytesBoundedQueue
  received : List Chunk := []
  evicted : ℕ := 0
  share : List Chunk := []
  droppedBefore : ℕ := 0

end Threads

/-! ### The stream -/

section Stream

variable (Id : Type)

/-- `ChannelStream`, and the causes for which its source was closed. -/
structure ChannelStream where
  clientBufferMaxBytes : ℕ
  ringBuffer : TsRingBuffer
  subscribers : List (Id × ℕ) := []
  clients : ℕ → Client := fun _ => ⟨.init clientBufferMaxBytes, [], 0, [], 0⟩
  nextQueue : ℕ := 0
  readers : List Reader := []
  readerThread : Option ℕ := none
  fanouts : List Fanout := []
  starters : List Starter := []
  stoppers : List Stopper := []
  stopEvent : Bool := false
  stopped : Bool := false
  tsSource : Bool := false
  closedBy : List Cause := []

/-- A client comes, goes or takes a chunk; `start` or `stop` is called; or a thread takes its next
step. -/
inductive StreamAction where
  | subscribe (clientId : Id)
  | unsubscribe (clientId : Id)
  | clientGet (queue : ℕ)
  | start
  | stop
  | reader (thread : ℕ) (seen : Seen)
  | fanout (thread : ℕ)
  | starter (thread : ℕ)
  | stopper (thread : ℕ)

variable {Id}

namespace ChannelStream

/-- `__init__`. -/
def init (ringBufferMaxBytes clientBufferMaxBytes : ℕ) : ChannelStream Id where
  clientBufferMaxBytes := clientBufferMaxBytes
  ringBuffer := .init ringBufferMaxBytes

/-- The reader thread is there and alive. -/
def readerAlive (s : ChannelStream Id) : Bool :=
  (s.readerThread.bind fun thread => s.readers[thread]?).any Reader.alive

/-- A client changes. -/
def withClient (queue : ℕ) (change : Client → Client) (s : ChannelStream Id) : ChannelStream Id :=
  { s with clients := fun q => if q = queue then change (s.clients q) else s.clients q }

/-- A chunk was read, while the present subscribers were there. -/
def noteRead (chunk : Chunk) (s : ChannelStream Id) : ChannelStream Id :=
  { s with
    clients := fun q =>
      if q ∈ s.subscribers.map Prod.snd then
        { s.clients q with share := (s.clients q).share ++ [chunk] }
      else s.clients q }

/-- The source is closed, if there is one. -/
def closeSource (cause : Cause) (s : ChannelStream Id) : ChannelStream Id :=
  if s.tsSource then { s with tsSource := false, closedBy := cause :: s.closedBy } else s

/-- A step of `_upstream_reader_loop`. A read that would block answers no bytes, as the end does. -/
def readerStep (seen : Seen) (s : ChannelStream Id) : Reader → Option (Reader × ChannelStream Id)
  | .created | .dead => none
  | .top =>
    if s.stopEvent then some (.ending .stop, s)
    else some (if s.tsSource then .polling else .connecting, s)
  | .connecting =>
    match seen with
    | .connected => some (.polling, { s with tsSource := true })
    | .refused => some (.ending .error, s)
    | .raises => some (.dead, s)
    | _ => none
  | .polling =>
    -- `stop` may have dropped the source since, before the loop checks it or just after
    if s.tsSource = false then some (if seen = .raises then .dead else .ending .stop, s)
    else
      match seen with
      | .quiet => some (.top, s)
      | .data [] => some (.ending .eof, s)
      | .data (byte :: rest) => some (.holding (byte :: rest), s.noteRead (byte :: rest))
      | .wouldBlock => some (.ending .wouldBlock, s)
      | .error => some (.ending .error, s)
      | _ => none
  | .holding chunk => some (.top, { s with ringBuffer := s.ringBuffer.put chunk })
  | .ending cause => some (.closing cause, { s with ringBuffer := s.ringBuffer.close })
  | .closing cause => some (.finishing, s.closeSource cause)
  | .finishing => some (.dead, { s with stopped := true })

/-- A chunk is put into a client's queue. -/
def deliver (chunk : Chunk) (queue : ℕ) (s : ChannelStream Id) : ChannelStream Id :=
  s.withClient queue fun client =>
    { client with
      queue := (client.queue.putNowait chunk).1
      evicted := client.evicted + bytes (client.queue.putNowait chunk).2 }

/-- A step of `_fanout_loop`, under the policy `drop_oldest`. -/
def fanoutStep (s : ChannelStream Id) : Fanout → Option (Fanout × ChannelStream Id)
  | .top => some (if s.stopEvent then .dead else .getting, s)
  | .getting =>
    match s.ringBuffer.get with
    | none => some (.top, s)
    | some (chunk, rest) => some (.got chunk, { s with ringBuffer := rest })
  | .got chunk => some (.delivering chunk (s.subscribers.map Prod.snd), s)
  | .delivering _ [] => some (.top, s)
  | .delivering chunk (queue :: remaining) =>
    some (.delivering chunk remaining, s.deliver chunk queue)
  | .dead => none

/-- A step of `subscribe` and `start`. -/
def starterStep (s : ChannelStream Id) : Starter → Option (Starter × ChannelStream Id)
  | .asking => some (if s.readerAlive then .done else .starting, s)
  | .starting => some (if s.readerAlive then .done else .clearing, s)
  | .clearing => some (.assigning, { s with stopEvent := false, stopped := false })
  | .assigning =>
    some (.launching,
      { s with
        readers := s.readers ++ [.created]
        readerThread := some s.readers.length })
  | .launching =>
    match s.readerThread with
    | none => none
    | some thread =>
      -- a thread can be started once only
      if s.readers[thread]? = some .created then
        some (.fanning, { s with readers := s.readers.set thread .top })
      else some (.done, s)
  | .fanning => some (.done, { s with fanouts := s.fanouts ++ [.top] })
  | .done => none

/-- The subscribers are told the end, and dropped. -/
def clearSubscribers (s : ChannelStream Id) : ChannelStream Id :=
  { s with
    subscribers := []
    clients := fun q =>
      if q ∈ s.subscribers.map Prod.snd then
        { s.clients q with queue := ((s.clients q).queue.putNowait []).1 }
      else s.clients q }

/-- A step of `stop`. -/
def stopperStep (s : ChannelStream Id) : Stopper → Option (Stopper × ChannelStream Id)
  | .asking => some (if s.stopped then .done else .setting, s)
  | .setting => some (.closingRing, { s with stopEvent := true })
  | .closingRing => some (.closingSource, { s with ringBuffer := s.ringBuffer.close })
  | .closingSource => some (.clearing, s.closeSource .stop)
  | .clearing => some (.finishing, s.clearSubscribers)
  | .finishing => some (.done, { s with stopped := true })
  | .done => none

variable [DecidableEq Id]

/-- `subscribers[client_id] = queue`: a client that is registered already keeps its place. -/
def setQueue (clientId : Id) (queue : ℕ) : List (Id × ℕ) → List (Id × ℕ)
  | [] => [(clientId, queue)]
  | subscriber :: rest =>
    if subscriber.1 = clientId then (clientId, queue) :: rest
    else subscriber :: setQueue clientId queue rest

/-- The registration in `subscribe`, with a new queue. -/
def register (clientId : Id) (s : ChannelStream Id) : ChannelStream Id :=
  { s with
    subscribers := setQueue clientId s.nextQueue s.subscribers
    clients := fun q =>
      if q = s.nextQueue then
        { queue := .init s.clientBufferMaxBytes, droppedBefore := s.ringBuffer.droppedBytes }
      else s.clients q
    nextQueue := s.nextQueue + 1
    starters := s.starters ++ [.asking] }

/-- `unsubscribe`. -/
def unsubscribe (clientId : Id) (s : ChannelStream Id) : ChannelStream Id :=
  { s with subscribers := s.subscribers.filter fun subscriber => subscriber.1 ≠ clientId }

/-- `BytesBoundedQueue.get`, by the client. -/
def clientGet (queue : ℕ) (s : ChannelStream Id) : Option (ChannelStream Id) :=
  (s.clients queue).queue.get.map fun taken =>
    s.withClient queue fun client =>
      { client with queue := taken.2, received := client.received ++ [taken.1] }

/-- A step. -/
def step (s : ChannelStream Id) : StreamAction Id → Option (ChannelStream Id)
  | .subscribe clientId => some (s.register clientId)
  | .unsubscribe clientId => some (s.unsubscribe clientId)
  | .clientGet queue => s.clientGet queue
  | .start => some { s with starters := s.starters ++ [.starting] }
  | .stop => some { s with stoppers := s.stoppers ++ [.asking] }
  | .reader thread seen =>
    (s.readers[thread]?).bind fun reader => (s.readerStep seen reader).map fun after =>
      { after.2 with readers := after.2.readers.set thread after.1 }
  | .fanout thread =>
    (s.fanouts[thread]?).bind fun fanout => (s.fanoutStep fanout).map fun after =>
      { after.2 with fanouts := after.2.fanouts.set thread after.1 }
  | .starter thread =>
    (s.starters[thread]?).bind fun starter => (s.starterStep starter).map fun after =>
      { after.2 with starters := after.2.starters.set thread after.1 }
  | .stopper thread =>
    (s.stoppers[thread]?).bind fun stopper => (s.stopperStep stopper).map fun after =>
      { after.2 with stoppers := after.2.stoppers.set thread after.1 }

end ChannelStream

end Stream

/-! ### What the stream is for -/

section Purpose

variable {Id : Type}

/-- The chunk that a reader has read and not yet put. -/
def Reader.hand : Reader → List Chunk
  | .holding chunk => [chunk]
  | _ => []

/-- The chunk that a fan-out thread has taken and not yet given to a queue. -/
def Fanout.handFor (queue : ℕ) : Fanout → List Chunk
  | .got chunk => [chunk]
  | .delivering chunk remaining => if queue ∈ remaining then [chunk] else []
  | _ => []

/-- The chunk that a fan-out thread will give to whoever is subscribed then. -/
def Fanout.undelivered : Fanout → List Chunk
  | .got chunk => [chunk]
  | _ => []

namespace ChannelStream

/-- What is between the upstream and the fan-out threads. A closed ring lets nothing through. -/
def transit (s : ChannelStream Id) : List Chunk :=
  if s.ringBuffer.closed then [] else s.ringBuffer.chunks ++ s.readers.flatMap Reader.hand

/-- What is on the way to a queue. -/
def onTheWay (queue : ℕ) (s : ChannelStream Id) : List Chunk :=
  s.fanouts.flatMap (Fanout.handFor queue) ++ s.transit

/-- **A subscriber is served**: what it has received, has in its queue and is about to get are the
chunks read since it subscribed, in order, without some; and the bytes of these are those that its
queue dropped and those that the ring counted as dropped since. -/
def Served (queue : ℕ) (s : ChannelStream Id) : Prop :=
  ((s.clients queue).received ++ (s.clients queue).queue.chunks ++ s.onTheWay queue).Sublist
      (s.clients queue).share ∧
    bytes (s.clients queue).share + (s.clients queue).droppedBefore =
      bytes ((s.clients queue).received ++ (s.clients queue).queue.chunks ++ s.onTheWay queue) +
        (s.clients queue).evicted + s.ringBuffer.droppedBytes

/-- What was read goes on to the subscribers: a fan-out thread is there to take it, or about to be
started, unless the stream is told to stop. -/
def Flowing (s : ChannelStream Id) : Prop :=
  s.transit ≠ [] → s.stopEvent = false →
    (∃ fanout ∈ s.fanouts, fanout ≠ .dead) ∨ Starter.fanning ∈ s.starters

/-- **The stream is fanned out**: every subscriber is served, what is read goes on to them, and the
upstream was never closed because a read would have blocked. -/
def FannedOut (s : ChannelStream Id) : Prop :=
  (∀ subscriber ∈ s.subscribers, s.Served subscriber.2) ∧ s.Flowing ∧
    Cause.wouldBlock ∉ s.closedBy

/-- Closing the ring loses nothing. -/
def Drained (s : ChannelStream Id) : Prop := s.subscribers = [] ∨ s.transit = []

end ChannelStream

/-- `recv` answers some bytes. -/
def Seen.hasData : Seen → Bool
  | .data (_ :: _) => true
  | _ => false

/-- A reader that closes the ring next. -/
def Reader.closesRing : Reader → Bool
  | .ending _ => true
  | _ => false

/-- What the law needs of a step: a client subscribes when nothing is on the way to the subscribers; no
read would block, and none has data once the ring is closed, while there are subscribers; the ring is
closed when nothing is in it; and a start is begun when no other is under way, nor was a fan-out thread
started. -/
def Steady (s : ChannelStream Id) : StreamAction Id → Prop
  | .subscribe _ => s.fanouts.flatMap Fanout.undelivered ++ s.transit = []
  | .reader thread seen =>
    (s.readers[thread]? = some .polling → seen ≠ .wouldBlock ∧
      (seen.hasData = true → s.ringBuffer.closed = false ∨ s.subscribers = [])) ∧
      ((s.readers[thread]?).any Reader.closesRing = true → s.Drained)
  | .stopper thread => s.stoppers[thread]? = some .closingRing → s.Drained
  | .starter thread =>
    s.starters[thread]? = some .starting → s.readerAlive = false →
      s.ringBuffer.closed = true ∨
        s.starters.filter Starter.underWay = [] ∧ s.fanouts = []
  | _ => True

section Evaluation

variable [DecidableEq Id]

instance : DecidablePred (ChannelStream.Drained : ChannelStream Id → Prop) := fun s =>
  inferInstanceAs (Decidable (s.subscribers = [] ∨ s.transit = []))

instance (s : ChannelStream Id) (action : StreamAction Id) : Decidable (Steady s action) :=
  StreamAction.casesOn (motive := fun action => Decidable (Steady s action)) action
    -- `subscribe`
    (fun _ => inferInstanceAs (Decidable (s.fanouts.flatMap Fanout.undelivered ++ s.transit = [])))
    (fun _ => inferInstanceAs (Decidable True)) (fun _ => inferInstanceAs (Decidable True))
    (inferInstanceAs (Decidable True)) (inferInstanceAs (Decidable True))
    -- `reader`
    (fun thread seen => inferInstanceAs (Decidable ((s.readers[thread]? = some .polling →
      seen ≠ .wouldBlock ∧
        (seen.hasData = true → s.ringBuffer.closed = false ∨ s.subscribers = [])) ∧
      ((s.readers[thread]?).any Reader.closesRing = true → s.Drained))))
    (fun _ => inferInstanceAs (Decidable True))
    -- `starter`
    (fun thread => inferInstanceAs (Decidable (s.starters[thread]? = some .starting →
      s.readerAlive = false → s.ringBuffer.closed = true ∨
        s.starters.filter Starter.underWay = [] ∧ s.fanouts = [])))
    -- `stopper`
    (fun thread => inferInstanceAs (Decidable (s.stoppers[thread]? = some .closingRing → s.Drained)))

end Evaluation

end Purpose

end Retrovue.Core.Streams
