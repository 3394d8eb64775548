/-
**What the clients of a channel stream receive**, over every interleaving of its threads.

* `Launch`: how far the only start has come, while the ring is open;
* `Sound`: the invariant, in which every subscriber is served;
* `Sound.step`: every steady step keeps it, by the thread that takes it;
* `stream_fanned_out`: in every run of steady steps every state reached is fanned out;
* `stream_starved`: a reader that is started again reads for nobody, since the ring stays closed.
-/

import Mathlib
import Retrovue.Foundation.Threads
import Retrovue.Core.Streams.ChannelStream

namespace Retrovue.Core.Streams

open Retrovue.Foundation.Transition Retrovue.Foundation.Threads

/-! ### The invariant -/

section Invariant

variable {Id : Type}

/-- A reader that has not closed the ring. -/
def Reader.Working : Reader → Prop
  | .created | .closing _ | .finishing => False
  | _ => True

/-- Why a reader is about to close the upstream. -/
def Reader.cause : Reader → Option Cause
  | .ending cause | .closing cause => some cause
  | _ => none

/-- The queues that a fan-out thread still has to serve. -/
def Fanout.remaining : Fanout → List ℕ
  | .delivering _ remaining => remaining
  | _ => []

/-- How far the only start has come: the starts under way, the readers and the fan-out threads. -/
inductive Launch : List Starter → List Reader → Option ℕ → List Fanout → Prop
  | idle : Launch [] [] none []
  | clearing : Launch [.clearing] [] none []
  | assigning : Launch [.assigning] [] none []
  | launching : Launch [.launching] [.created] (some 0) []
  | fanning {reader : Reader} (working : reader.Working) : Launch [.fanning] [reader] (some 0) []
  | running {reader : Reader} (working : reader.Working) (fanout : Fanout) :
      Launch [] [reader] (some 0) [fanout]

namespace ChannelStream

/-- The invariant of a stream: while the ring is open it was started once at most, and its fan-out thread
ends only when it is told to stop; one fan-out thread at most has a chunk; the subscribers have queues of
their own, and are served. -/
structure Sound (s : ChannelStream Id) : Prop where
  launch : s.ringBuffer.closed = false →
    Launch (s.starters.filter Starter.underWay) s.readers s.readerThread s.fanouts
  late : ∀ fanout ∈ s.fanouts.tail, ∀ queue, fanout.handFor queue = []
  distinct : (s.subscribers.map Prod.snd).Nodup
  known : ∀ queue ∈ s.subscribers.map Prod.snd, queue < s.nextQueue
  remaining : ∀ fanout ∈ s.fanouts, fanout.remaining.Nodup ∧
    ∀ queue ∈ fanout.remaining, queue < s.nextQueue
  queuesOpen : ∀ queue, (s.clients queue).queue.closed = false
  served : ∀ subscriber ∈ s.subscribers, s.Served subscriber.2
  closedBy : Cause.wouldBlock ∉ s.closedBy
  causes : ∀ reader ∈ s.readers, reader.cause ≠ some .wouldBlock
  held : ∀ reader ∈ s.readers, reader.hand ≠ [[]]
  stocked : s.ringBuffer.closed = false → s.ringBuffer.chunks ≠ [] →
    ∃ reader ∈ s.readers, reader.Working
  alive : s.ringBuffer.closed = false → Fanout.dead ∈ s.fanouts → s.stopEvent = true

theorem sound_init (ringBufferMaxBytes clientBufferMaxBytes : ℕ) :
    Sound (init ringBufferMaxBytes clientBufferMaxBytes : ChannelStream Id) where
  launch := fun _ => .idle
  late := by simp [init]
  distinct := List.nodup_nil
  known := by simp [init]
  remaining := by simp [init]
  queuesOpen := fun _ => rfl
  served := by simp [init]
  closedBy := by simp [init]
  causes := by simp [init]
  held := by simp [init]
  stocked := by simp [init, TsRingBuffer.init]
  alive := by simp [init]

/-- Service depends on the client, what is on the way to it, and the bytes the ring dropped. -/
theorem Served.congr {s next : ChannelStream Id} {queue : ℕ} (served : s.Served queue)
    (client : next.clients queue = s.clients queue)
    (way : next.onTheWay queue = s.onTheWay queue)
    (dropped : next.ringBuffer.droppedBytes = s.ringBuffer.droppedBytes) : next.Served queue := by
  unfold Served
  rw [client, way, dropped]
  exact served

/-- While the ring is open, a reader that has not closed it is the only one, at the first place. -/
theorem Sound.reader_of_open {s : ChannelStream Id} (sound : s.Sound)
    (isOpen : s.ringBuffer.closed = false) {thread : ℕ} {reader : Reader}
    (here : s.readers[thread]? = some reader) (isNew : reader ≠ .created) :
    s.readers = [reader] ∧ thread = 0 ∧ reader.Working ∧ ∀ moved : Reader, moved.Working →
      Launch (s.starters.filter Starter.underWay) [moved] s.readerThread s.fanouts := by
  have launch := sound.launch isOpen
  generalize s.starters.filter Starter.underWay = starters at launch
  generalize s.readers = readers at launch here
  generalize s.readerThread = current at launch
  generalize s.fanouts = fanouts at launch
  cases launch with
  | idle => cases here
  | clearing => cases here
  | assigning => cases here
  | launching =>
    cases thread with
    | zero =>
      cases here
      exact absurd rfl isNew
    | succ thread => cases here
  | fanning working =>
    cases thread with
    | zero =>
      cases here
      exact ⟨rfl, rfl, working, fun moved ok => .fanning ok⟩
    | succ thread => cases here
  | running working fanout =>
    cases thread with
    | zero =>
      cases here
      exact ⟨rfl, rfl, working, fun moved ok => .running ok fanout⟩
    | succ thread => cases here

/-- What the fan-out threads have for a queue is what the first one has. -/
theorem Sound.handFor_eq {s : ChannelStream Id} (sound : s.Sound) {thread : ℕ} {fanout : Fanout}
    (here : s.fanouts[thread]? = some fanout) (queue : ℕ) (busy : ∃ q, fanout.handFor q ≠ []) :
    s.fanouts.flatMap (Fanout.handFor queue) = fanout.handFor queue ∧ ∀ moved : Fanout,
      (s.fanouts.set thread moved).flatMap (Fanout.handFor queue) = moved.handFor queue := by
  have late := sound.late
  generalize s.fanouts = fanouts at here late
  cases fanouts with
  | nil => cases here
  | cons first rest =>
    have noneLater : rest.flatMap (Fanout.handFor queue) = [] :=
      List.flatMap_eq_nil_iff.mpr fun other mem => late other mem queue
    cases thread with
    | zero =>
      cases here
      refine ⟨by rw [List.flatMap_cons, noneLater, List.append_nil], fun moved => ?_⟩
      rw [List.set_cons_zero, List.flatMap_cons, noneLater, List.append_nil]
    | succ thread =>
      obtain ⟨q, has⟩ := busy
      exact absurd (late fanout (List.mem_of_getElem? here) q) has

end ChannelStream

end Invariant

/-! ### Clients -/

section Clients

variable {Id : Type}

namespace ChannelStream

/-- A client takes a chunk from its queue. -/
theorem Sound.clientGet {s next : ChannelStream Id} (sound : s.Sound) {queue : ℕ}
    (taken : s.clientGet queue = some next) : next.Sound := by
  unfold ChannelStream.clientGet BytesBoundedQueue.get at taken
  rw [if_neg (by simp [sound.queuesOpen queue])] at taken
  cases inQueue : (s.clients queue).queue.chunks with
  | nil =>
    rw [inQueue] at taken
    cases taken
  | cons chunk rest =>
    rw [inQueue] at taken
    cases taken
    refine { sound with queuesOpen := ?_, served := ?_ }
    · intro q
      unfold withClient
      dsimp only
      split_ifs
      · exact sound.queuesOpen queue
      · exact sound.queuesOpen q
    · intro subscriber mem
      have served := sound.served subscriber mem
      by_cases same : subscriber.2 = queue
      · unfold Served withClient onTheWay transit
        dsimp only
        rw [if_pos same, ← same]
        unfold Served onTheWay transit at served
        rw [same, inQueue] at served
        rw [same]
        simpa using served
      · exact served.congr (if_neg same) rfl rfl

variable [DecidableEq Id]

theorem mem_setQueue {clientId : Id} {queue : ℕ} {subscribers : List (Id × ℕ)} {subscriber : Id × ℕ}
    (mem : subscriber ∈ setQueue clientId queue subscribers) :
    subscriber = (clientId, queue) ∨ subscriber ∈ subscribers := by
  induction subscribers with
  | nil => exact .inl (List.mem_singleton.mp mem)
  | cons first rest ih =>
    rw [setQueue] at mem
    split_ifs at mem
    · rcases List.mem_cons.mp mem with isNew | later
      · exact .inl isNew
      · exact .inr (List.mem_cons_of_mem _ later)
    · rcases List.mem_cons.mp mem with rfl | later
      · exact .inr List.mem_cons_self
      · exact (ih later).imp_right (List.mem_cons_of_mem _)

/-- A new queue leaves the queues of the subscribers distinct. -/
theorem nodup_setQueue (clientId : Id) {queue : ℕ} {subscribers : List (Id × ℕ)}
    (distinct : (subscribers.map Prod.snd).Nodup) (isNew : queue ∉ subscribers.map Prod.snd) :
    ((setQueue clientId queue subscribers).map Prod.snd).Nodup := by
  induction subscribers with
  | nil => exact List.nodup_singleton queue
  | cons first rest ih =>
    rw [List.map_cons, List.nodup_cons] at distinct
    rw [List.map_cons, List.mem_cons, not_or] at isNew
    rw [setQueue]
    split_ifs
    · exact List.nodup_cons.mpr ⟨isNew.2, distinct.2⟩
    · refine List.nodup_cons.mpr ⟨fun mem => ?_, ih distinct.2 isNew.2⟩
      obtain ⟨other, memOther, same⟩ := List.mem_map.mp mem
      rcases mem_setQueue memOther with rfl | later
      · exact isNew.1 same
      · exact distinct.1 (same ▸ List.mem_map_of_mem later)

/-- **A client subscribes** when nothing is on the way to the subscribers. -/
theorem Sound.register {s : ChannelStream Id} (sound : s.Sound) (clientId : Id)
    (steady : s.fanouts.flatMap Fanout.undelivered ++ s.transit = []) :
    (s.register clientId).Sound := by
  obtain ⟨noneTaken, noneBelow⟩ := List.append_eq_nil_iff.mp steady
  have isNew : s.nextQueue ∉ s.subscribers.map Prod.snd :=
    fun mem => lt_irrefl _ (sound.known _ mem)
  have noneFor : s.fanouts.flatMap (Fanout.handFor s.nextQueue) = [] := by
    refine List.flatMap_eq_nil_iff.mpr fun fanout mem => ?_
    have untaken := List.flatMap_eq_nil_iff.mp noneTaken fanout mem
    have below := (sound.remaining fanout mem).2 s.nextQueue
    cases fanout with
    | got chunk => cases untaken
    | delivering chunk remaining => exact if_neg fun listed => lt_irrefl _ (below listed)
    | top => rfl
    | getting => rfl
    | dead => rfl
  refine { sound with
    launch := ?_
    distinct := nodup_setQueue clientId sound.distinct isNew
    known := ?_
    remaining := ?_
    queuesOpen := ?_
    served := ?_ }
  · intro isOpen
    unfold ChannelStream.register
    dsimp only
    rw [List.filter_append]
    exact (List.append_nil _).symm ▸ sound.launch isOpen
  · intro queue mem
    obtain ⟨subscriber, memSet, rfl⟩ := List.mem_map.mp mem
    rcases mem_setQueue memSet with rfl | old
    · exact Nat.lt_succ_self _
    · exact Nat.lt_succ_of_lt (sound.known _ (List.mem_map_of_mem old))
  · intro fanout mem
    obtain ⟨nodup, below⟩ := sound.remaining fanout mem
    exact ⟨nodup, fun queue listed => Nat.lt_succ_of_lt (below queue listed)⟩
  · intro queue
    unfold ChannelStream.register
    dsimp only
    split_ifs
    · rfl
    · exact sound.queuesOpen queue
  · intro subscriber mem
    rcases mem_setQueue mem with rfl | old
    · have client : (s.register clientId).clients s.nextQueue =
          { queue := .init s.clientBufferMaxBytes, droppedBefore := s.ringBuffer.droppedBytes } :=
        if_pos rfl
      have way : (s.register clientId).onTheWay s.nextQueue = [] := by
        rw [onTheWay]
        exact List.append_eq_nil_iff.mpr ⟨noneFor, noneBelow⟩
      unfold Served
      rw [client, way]
      exact ⟨List.Sublist.refl _, rfl⟩
    · have other : subscriber.2 ≠ s.nextQueue :=
        (sound.known _ (List.mem_map_of_mem old)).ne
      exact (sound.served _ old).congr (if_neg other) rfl rfl

/-- A client unsubscribes. -/
theorem Sound.unsubscribe {s : ChannelStream Id} (sound : s.Sound) (clientId : Id) :
    (s.unsubscribe clientId).Sound := by
  have fewer : (s.subscribers.filter fun subscriber => decide (subscriber.1 ≠ clientId)).Sublist
      s.subscribers := List.filter_sublist
  exact { sound with
    distinct := sound.distinct.sublist (fewer.map _)
    known := fun queue mem => sound.known queue ((fewer.map _).mem mem)
    served := fun subscriber mem => sound.served subscriber (fewer.mem mem) }

end ChannelStream

end Clients

/-! ### The upstream reader -/

section UpstreamReader

variable {Id : Type}

namespace ChannelStream

/-- The source is closed for another reason than a read that would block. -/
theorem Sound.closeSource {s : ChannelStream Id} (sound : s.Sound) {cause : Cause}
    (other : cause ≠ .wouldBlock) : (s.closeSource cause).Sound := by
  unfold ChannelStream.closeSource
  split_ifs
  · refine { sound with closedBy := ?_ }
    intro mem
    rcases List.mem_cons.mp mem with same | before
    · exact other same.symm
    · exact sound.closedBy before
  · exact sound

/-- **The ring is closed** when it is drained. -/
theorem Sound.closeRing {s : ChannelStream Id} (sound : s.Sound) (drained : s.Drained) :
    Sound { s with ringBuffer := s.ringBuffer.close } := by
  refine { sound with
    launch := ?_
    served := ?_
    stocked := ?_
    alive := ?_ }
  · intro isOpen
    cases isOpen
  · intro subscriber mem
    rcases drained with noneThere | empty
    · have mem' : subscriber ∈ s.subscribers := mem
      rw [noneThere] at mem'
      cases mem'
    · refine (sound.served subscriber mem).congr rfl ?_ rfl
      unfold onTheWay
      rw [empty]
      rfl
  · intro isOpen
    cases isOpen
  · intro isOpen
    cases isOpen

/-- A reader moves, with what it has in its hand. -/
theorem Sound.moveReader {s : ChannelStream Id} (sound : s.Sound) {thread : ℕ} {reader moved : Reader}
    (here : s.readers[thread]? = some reader) (isNew : reader ≠ .created)
    (hand : moved.hand = reader.hand)
    (works : s.ringBuffer.closed = false → reader.Working → moved.Working)
    (cause : moved.cause ≠ some .wouldBlock) :
    Sound { s with readers := s.readers.set thread moved } := by
  refine { sound with
    launch := ?_
    served := ?_
    causes := ?_
    held := ?_
    stocked := ?_ }
  · intro isOpen
    obtain ⟨alone, first, working, launch⟩ := sound.reader_of_open isOpen here isNew
    have moves : s.readers.set thread moved = [moved] := by rw [alone, first]; rfl
    dsimp only
    rw [moves]
    exact launch moved (works isOpen working)
  · intro subscriber mem
    refine (sound.served subscriber mem).congr rfl ?_ rfl
    unfold onTheWay transit
    dsimp only
    rw [flatMap_set_of_eq here hand]
  · intro other mem
    rcases List.mem_or_eq_of_mem_set mem with before | rfl
    · exact sound.causes other before
    · exact cause
  · intro other mem
    rcases List.mem_or_eq_of_mem_set mem with before | rfl
    · exact sound.held other before
    · rw [hand]
      exact sound.held reader (List.mem_of_getElem? here)
  · intro isOpen _
    obtain ⟨_, _, working, _⟩ := sound.reader_of_open isOpen here isNew
    exact ⟨moved, mem_set_self here moved, works isOpen working⟩

/-- **A chunk was read**, with the ring open or nobody there. -/
theorem Sound.noteRead {s : ChannelStream Id} (sound : s.Sound) {thread : ℕ} (chunk : Chunk)
    (here : s.readers[thread]? = some .polling) (full : chunk ≠ [])
    (steady : s.ringBuffer.closed = false ∨ s.subscribers = []) :
    Sound { s.noteRead chunk with readers := s.readers.set thread (.holding chunk) } := by
  refine { sound with
    launch := ?_
    queuesOpen := ?_
    served := ?_
    causes := ?_
    held := ?_
    stocked := fun _ _ => ⟨.holding chunk, mem_set_self here _, trivial⟩ }
  · intro isOpen
    obtain ⟨alone, first, _, launch⟩ := sound.reader_of_open isOpen here (by simp)
    have moves : s.readers.set thread (.holding chunk) = [.holding chunk] := by rw [alone, first]; rfl
    dsimp only
    rw [moves]
    exact launch _ trivial
  · intro queue
    unfold ChannelStream.noteRead
    dsimp only
    split_ifs <;> exact sound.queuesOpen queue
  · intro subscriber mem
    have mem' : subscriber ∈ s.subscribers := mem
    rcases steady with isOpen | noneThere
    · obtain ⟨alone, first, _, _⟩ := sound.reader_of_open isOpen here (by simp)
      obtain ⟨sublist, counted⟩ := sound.served subscriber mem'
      have way : s.onTheWay subscriber.2 =
          s.fanouts.flatMap (Fanout.handFor subscriber.2) ++ s.ringBuffer.chunks := by
        unfold onTheWay transit
        rw [if_neg (by simp [isOpen]), alone]
        exact congrArg _ (List.append_nil _)
      have moves : s.readers.set thread (.holding chunk) = [.holding chunk] := by
        rw [alone, first]
        rfl
      rw [way] at sublist counted
      unfold Served onTheWay transit ChannelStream.noteRead
      dsimp only
      rw [if_pos (List.mem_map_of_mem mem'), if_neg (by simp [isOpen]), moves]
      simp only [List.flatMap_cons, List.flatMap_nil, Reader.hand, List.append_nil,
        ← List.append_assoc]
      rw [← List.append_assoc] at sublist counted
      refine ⟨sublist.append_right [chunk], ?_⟩
      rw [bytes_append, bytes_append _ [chunk]]
      omega
    · rw [noneThere] at mem'
      cases mem'
  · intro other mem
    rcases List.mem_or_eq_of_mem_set mem with before | rfl
    · exact sound.causes other before
    · simp [Reader.cause]
  · intro other mem
    rcases List.mem_or_eq_of_mem_set mem with before | rfl
    · exact sound.held other before
    · simpa [Reader.hand] using full

/-- **A chunk is put** into the ring, which counts what it drops. -/
theorem Sound.put {s : ChannelStream Id} (sound : s.Sound) {thread : ℕ} {chunk : Chunk}
    (here : s.readers[thread]? = some (.holding chunk)) :
    Sound { s with
      ringBuffer := s.ringBuffer.put chunk
      readers := s.readers.set thread .top } := by
  have full : chunk ≠ [] := by
    rintro rfl
    exact sound.held _ (List.mem_of_getElem? here) rfl
  by_cases isClosed : s.ringBuffer.closed = true
  · -- a closed ring takes nothing, and nothing of the reader was on the way
    have same : s.ringBuffer.put chunk = s.ringBuffer := by
      unfold TsRingBuffer.put
      rw [if_pos (.inr isClosed)]
    rw [same]
    refine { sound with
      launch := fun isOpen => ?_
      served := ?_
      causes := ?_
      held := ?_
      stocked := fun _ _ => ⟨.top, mem_set_self here _, trivial⟩ }
    · dsimp only at isOpen
      rw [isClosed] at isOpen
      cases isOpen
    · intro subscriber mem
      refine (sound.served subscriber mem).congr rfl ?_ rfl
      unfold onTheWay transit
      dsimp only
      rw [if_pos isClosed, if_pos isClosed]
    · intro other mem
      rcases List.mem_or_eq_of_mem_set mem with before | rfl
      · exact sound.causes other before
      · simp [Reader.cause]
    · intro other mem
      rcases List.mem_or_eq_of_mem_set mem with before | rfl
      · exact sound.held other before
      · simp [Reader.hand]
  · have isOpen : s.ringBuffer.closed = false := by simpa using isClosed
    obtain ⟨dropped, split, counts, stillOpen⟩ := TsRingBuffer.put_spec isOpen full
    obtain ⟨alone, first, _, launch⟩ := sound.reader_of_open isOpen here (by simp)
    have moves : s.readers.set thread .top = [.top] := by rw [alone, first]; rfl
    refine { sound with
      launch := fun _ => ?_
      served := ?_
      causes := ?_
      held := ?_
      stocked := fun _ _ => ⟨.top, mem_set_self here _, trivial⟩
      alive := fun _ => sound.alive isOpen }
    · dsimp only
      rw [moves]
      exact launch _ trivial
    · intro subscriber mem
      obtain ⟨sublist, counted⟩ := sound.served subscriber mem
      have way : s.onTheWay subscriber.2 = s.fanouts.flatMap (Fanout.handFor subscriber.2) ++
          (dropped ++ (s.ringBuffer.put chunk).chunks) := by
        unfold onTheWay transit
        rw [if_neg (by simp [isOpen]), alone, ← split]
        rfl
      rw [way] at sublist counted
      unfold Served onTheWay transit
      dsimp only
      rw [if_neg (by simp [stillOpen]), moves, counts]
      simp only [List.flatMap_cons, List.flatMap_nil, Reader.hand, List.append_nil]
      refine ⟨List.Sublist.trans ?_ sublist, ?_⟩
      · refine List.Sublist.append_left ?_ _
        exact List.Sublist.append_left (List.sublist_append_right _ _) _
      · simp only [bytes_append] at counted ⊢
        omega
    · intro other mem
      rw [moves, List.mem_singleton] at mem
      rw [mem]
      simp [Reader.cause]
    · intro other mem
      rw [moves, List.mem_singleton] at mem
      rw [mem]
      simp [Reader.hand]

/-- **A step of a reader.** -/
theorem Sound.reader [DecidableEq Id] {s next : ChannelStream Id} (sound : s.Sound) {thread : ℕ}
    {seen : Seen} (steady : Steady s (.reader thread seen))
    (taken : s.step (.reader thread seen) = some next) : next.Sound := by
  obtain ⟨reader, here, moves⟩ := Option.bind_eq_some_iff.mp taken
  obtain ⟨after, stepped, rfl⟩ := Option.map_eq_some_iff.mp moves
  cases reader with
  | created => cases stepped
  | dead => cases stepped
  | top =>
    unfold readerStep at stepped
    dsimp only at stepped
    by_cases told : s.stopEvent = true
    · rw [if_pos told] at stepped
      cases stepped
      exact sound.moveReader here (by simp) rfl (fun _ => id) (by simp [Reader.cause])
    rw [if_neg told] at stepped
    by_cases there : s.tsSource = true
    · rw [if_pos there] at stepped
      cases stepped
      exact sound.moveReader here (by simp) rfl (fun _ => id) (by simp [Reader.cause])
    · rw [if_neg there] at stepped
      cases stepped
      exact sound.moveReader here (by simp) rfl (fun _ => id) (by simp [Reader.cause])
  | connecting =>
    cases seen with
    | connected =>
      cases stepped
      have connected : Sound { s with tsSource := true } := { sound with }
      exact connected.moveReader here (by simp) rfl (fun _ => id) (by simp [Reader.cause])
    | refused =>
      cases stepped
      exact sound.moveReader here (by simp) rfl (fun _ => id) (by simp [Reader.cause])
    | raises =>
      cases stepped
      exact sound.moveReader here (by simp) rfl (fun _ => id) (by simp [Reader.cause])
    | quiet => cases stepped
    | data chunk => cases stepped
    | wouldBlock => cases stepped
    | error => cases stepped
  | polling =>
    obtain ⟨notBlocking, withRing⟩ := steady.1 here
    unfold readerStep at stepped
    dsimp only at stepped
    by_cases gone : s.tsSource = false
    · rw [if_pos gone] at stepped
      cases stepped
      by_cases raises : seen = .raises
      · rw [if_pos raises]
        exact sound.moveReader here (by simp) rfl (fun _ => id) (by simp [Reader.cause])
      · rw [if_neg raises]
        exact sound.moveReader here (by simp) rfl (fun _ => id) (by simp [Reader.cause])
    rw [if_neg gone] at stepped
    cases seen with
    | connected => cases stepped
    | refused => cases stepped
    | raises => cases stepped
    | quiet =>
      cases stepped
      exact sound.moveReader here (by simp) rfl (fun _ => id) (by simp [Reader.cause])
    | data chunk =>
      cases chunk with
      | nil =>
        cases stepped
        exact sound.moveReader here (by simp) rfl (fun _ => id) (by simp [Reader.cause])
      | cons byte rest =>
        cases stepped
        exact sound.noteRead _ here (List.cons_ne_nil _ _) (withRing rfl)
    | wouldBlock => exact absurd rfl notBlocking
    | error =>
      cases stepped
      exact sound.moveReader here (by simp) rfl (fun _ => id) (by simp [Reader.cause])
  | holding chunk =>
    cases stepped
    exact sound.put here
  | ending cause =>
    cases stepped
    have closed := sound.closeRing (steady.2 (by rw [here]; rfl))
    have other : (Reader.closing cause).cause ≠ some .wouldBlock :=
      sound.causes (.ending cause) (List.mem_of_getElem? here)
    exact closed.moveReader here (by simp) rfl (fun isOpen => by cases isOpen) other
  | closing cause =>
    cases stepped
    have other : cause ≠ .wouldBlock := fun same =>
      sound.causes _ (List.mem_of_getElem? here) (congrArg some same)
    have readers : (s.closeSource cause).readers = s.readers := by
      unfold ChannelStream.closeSource
      split_ifs <;> rfl
    have stillHere : (s.closeSource cause).readers[thread]? = some (.closing cause) := by
      rw [readers]
      exact here
    exact (sound.closeSource other).moveReader stillHere (by simp) rfl (fun _ => id)
      (by simp [Reader.cause])
  | finishing =>
    cases stepped
    have stopped : Sound { s with stopped := true } := { sound with }
    exact stopped.moveReader here (by simp) rfl (fun _ _ => trivial) (by simp [Reader.cause])

end ChannelStream

end UpstreamReader

/-! ### The fan-out -/

section FanoutThread

variable {Id : Type}

namespace ChannelStream

/-- A fan-out thread that moves is still the only one, while the ring is open. -/
theorem Sound.launch_moveFanout {s : ChannelStream Id} (sound : s.Sound) {thread : ℕ}
    {fanout : Fanout} (here : s.fanouts[thread]? = some fanout) (isOpen : s.ringBuffer.closed = false) :
    s.fanouts = [fanout] ∧ thread = 0 ∧ ∀ moved : Fanout,
      Launch (s.starters.filter Starter.underWay) s.readers s.readerThread [moved] := by
  have launch := sound.launch isOpen
  generalize s.fanouts = fanouts at launch here
  generalize s.starters.filter Starter.underWay = starters at launch
  generalize s.readers = readers at launch
  generalize s.readerThread = current at launch
  cases launch with
  | idle => cases here
  | clearing => cases here
  | assigning => cases here
  | launching => cases here
  | fanning working => cases here
  | running working only =>
    cases thread with
    | zero =>
      cases here
      exact ⟨rfl, rfl, fun moved => .running working moved⟩
    | succ thread => cases here

/-- The later fan-out threads have nothing, when one moves that gets nothing. -/
theorem Sound.late_moveFanout {s : ChannelStream Id} (sound : s.Sound) {thread : ℕ}
    {fanout moved : Fanout} (here : s.fanouts[thread]? = some fanout)
    (late : (∀ queue, fanout.handFor queue = []) → ∀ queue, moved.handFor queue = []) :
    ∀ other ∈ (s.fanouts.set thread moved).tail, ∀ queue, other.handFor queue = [] := by
  intro other mem queue
  have lateBefore := sound.late
  generalize s.fanouts = fanouts at here mem lateBefore
  cases fanouts with
  | nil => cases here
  | cons first rest =>
    cases thread with
    | zero => exact lateBefore other mem queue
    | succ thread =>
      rcases List.mem_or_eq_of_mem_set mem with before | rfl
      · exact lateBefore other before queue
      · exact late (lateBefore fanout (List.mem_of_getElem? here)) queue

/-- A fan-out thread moves, with what it has for the subscribers. -/
theorem Sound.moveFanout {s : ChannelStream Id} (sound : s.Sound) {thread : ℕ}
    {fanout moved : Fanout} (here : s.fanouts[thread]? = some fanout)
    (hands : ∀ subscriber ∈ s.subscribers, moved.handFor subscriber.2 = fanout.handFor subscriber.2)
    (late : (∀ queue, fanout.handFor queue = []) → ∀ queue, moved.handFor queue = [])
    (remaining : moved.remaining.Nodup ∧ ∀ queue ∈ moved.remaining, queue < s.nextQueue)
    (ends : moved = .dead → s.stopEvent = true) :
    Sound { s with fanouts := s.fanouts.set thread moved } := by
  refine { sound with
    launch := ?_
    late := sound.late_moveFanout here late
    remaining := ?_
    served := ?_
    alive := ?_ }
  · intro isOpen
    obtain ⟨alone, first, launch⟩ := sound.launch_moveFanout here isOpen
    have moves : s.fanouts.set thread moved = [moved] := by rw [alone, first]; rfl
    dsimp only
    rw [moves]
    exact launch moved
  · intro other mem
    rcases List.mem_or_eq_of_mem_set mem with before | rfl
    · exact sound.remaining other before
    · exact remaining
  · intro subscriber mem
    refine (sound.served subscriber mem).congr rfl ?_ rfl
    unfold onTheWay
    dsimp only
    rw [flatMap_set_of_eq here (hands subscriber mem)]
    rfl
  · intro isOpen mem
    rcases List.mem_or_eq_of_mem_set mem with before | isMoved
    · exact sound.alive isOpen before
    · exact ends isMoved.symm

/-- **A chunk is taken** from the ring, for whoever is subscribed when it is given out. -/
theorem Sound.take {s : ChannelStream Id} (sound : s.Sound) {thread : ℕ}
    (here : s.fanouts[thread]? = some .getting) {chunk : Chunk} {rest : TsRingBuffer}
    (taken : s.ringBuffer.get = some (chunk, rest)) :
    Sound { s with
      ringBuffer := rest
      fanouts := s.fanouts.set thread (.got chunk) } := by
  unfold TsRingBuffer.get at taken
  split_ifs at taken with isClosed
  have isOpen : s.ringBuffer.closed = false := by simpa using isClosed
  cases inRing : s.ringBuffer.chunks with
  | nil =>
    rw [inRing] at taken
    cases taken
  | cons first later =>
    rw [inRing] at taken
    cases taken
    obtain ⟨alone, isFirst, launch⟩ := sound.launch_moveFanout here isOpen
    have moves : s.fanouts.set thread (.got chunk) = [.got chunk] := by rw [alone, isFirst]; rfl
    refine { sound with
      launch := fun _ => ?_
      late := ?_
      remaining := ?_
      served := ?_
      stocked := fun _ _ => sound.stocked isOpen (by rw [inRing]; exact List.cons_ne_nil _ _)
      alive := ?_ }
    · dsimp only
      rw [moves]
      exact launch _
    · dsimp only
      rw [moves]
      intro other mem
      cases mem
    · dsimp only
      rw [moves]
      intro other mem
      rw [List.mem_singleton.mp mem]
      exact ⟨List.nodup_nil, fun queue listed => by cases listed⟩
    · intro subscriber mem
      refine (sound.served subscriber mem).congr rfl ?_ rfl
      unfold onTheWay transit
      dsimp only
      rw [moves, alone, inRing, if_neg (by simp [isOpen]), if_neg (by simp [isOpen])]
      rfl
    · intro _ mem
      dsimp only at mem
      rw [moves] at mem
      cases List.mem_singleton.mp mem

/-- **A chunk is given** to a queue of the snapshot, which may drop others for it. -/
theorem Sound.deliver {s : ChannelStream Id} (sound : s.Sound) {thread : ℕ} {chunk : Chunk}
    {queue : ℕ} {remaining : List ℕ}
    (here : s.fanouts[thread]? = some (.delivering chunk (queue :: remaining))) :
    Sound { s.deliver chunk queue with
      fanouts := s.fanouts.set thread (.delivering chunk remaining) } := by
  obtain ⟨nodup, below⟩ := sound.remaining _ (List.mem_of_getElem? here)
  obtain ⟨given, apart⟩ := List.nodup_cons.mp nodup
  have busy : ∃ q, (Fanout.delivering chunk (queue :: remaining)).handFor q ≠ [] :=
    ⟨queue, by simp [Fanout.handFor]⟩
  obtain ⟨split, stillOpen⟩ := BytesBoundedQueue.putNowait_spec (sound.queuesOpen queue) chunk
  refine { sound with
    launch := ?_
    late := sound.late_moveFanout here ?_
    remaining := ?_
    queuesOpen := ?_
    served := ?_
    alive := ?_ }
  · intro isOpen
    obtain ⟨alone, first, launch⟩ := sound.launch_moveFanout here isOpen
    have moves : s.fanouts.set thread (.delivering chunk remaining) =
        [.delivering chunk remaining] := by rw [alone, first]; rfl
    dsimp only
    rw [moves]
    exact launch _
  · intro nothing
    exact absurd (nothing queue) (by simp [Fanout.handFor])
  · intro other mem
    rcases List.mem_or_eq_of_mem_set mem with before | rfl
    · exact sound.remaining other before
    · exact ⟨apart, fun q listed => below q (List.mem_cons_of_mem _ listed)⟩
  · intro q
    unfold ChannelStream.deliver withClient
    dsimp only
    split_ifs with same
    · rw [same]
      exact stillOpen
    · exact sound.queuesOpen q
  · intro subscriber mem
    have served := sound.served subscriber mem
    obtain ⟨before, after⟩ := sound.handFor_eq here subscriber.2 busy
    by_cases same : subscriber.2 = queue
    · obtain ⟨sublist, counted⟩ := served
      have had : (Fanout.delivering chunk (queue :: remaining)).handFor queue = [chunk] := by
        simp [Fanout.handFor]
      have has : (Fanout.delivering chunk remaining).handFor queue = [] := if_neg given
      rw [same] at before after sublist counted
      unfold onTheWay at sublist counted
      rw [before, had] at sublist counted
      have joined : ∀ way : List Chunk, (s.clients queue).received ++
          (s.clients queue).queue.chunks ++ ([chunk] ++ way) = (s.clients queue).received ++
            (((s.clients queue).queue.putNowait chunk).2 ++
              ((s.clients queue).queue.putNowait chunk).1.chunks) ++ way := by
        intro way
        rw [← split]
        simp only [List.append_assoc]
      rw [joined] at sublist counted
      unfold Served onTheWay
      rw [same]
      have client : (s.deliver chunk queue).clients queue = { s.clients queue with
          queue := ((s.clients queue).queue.putNowait chunk).1
          evicted := (s.clients queue).evicted +
            bytes ((s.clients queue).queue.putNowait chunk).2 } := if_pos rfl
      dsimp only
      rw [client, after, has]
      refine ⟨List.Sublist.trans ?_ sublist, ?_⟩
      · refine List.Sublist.append_right ?_ _
        exact List.Sublist.append_left (List.sublist_append_right _ _) _
      · have transits : ({ s.deliver chunk queue with
            fanouts := s.fanouts.set thread (.delivering chunk remaining) } :
              ChannelStream Id).transit = s.transit := rfl
        rw [transits]
        have dropped : (s.deliver chunk queue).ringBuffer = s.ringBuffer := rfl
        rw [dropped]
        simp only [bytes_append, List.nil_append] at counted ⊢
        omega
    · refine served.congr (if_neg same) ?_ rfl
      unfold onTheWay
      dsimp only
      rw [before, after]
      have others : (Fanout.delivering chunk remaining).handFor subscriber.2 =
          (Fanout.delivering chunk (queue :: remaining)).handFor subscriber.2 := by
        simp [Fanout.handFor, same]
      rw [others]
      rfl
  · intro isOpen mem
    rcases List.mem_or_eq_of_mem_set mem with before | isMoved
    · exact sound.alive isOpen before
    · cases isMoved

/-- **A step of a fan-out thread.** -/
theorem Sound.fanout [DecidableEq Id] {s next : ChannelStream Id} (sound : s.Sound) {thread : ℕ}
    (taken : s.step (.fanout thread) = some next) : next.Sound := by
  obtain ⟨fanout, here, moves⟩ := Option.bind_eq_some_iff.mp taken
  obtain ⟨after, stepped, rfl⟩ := Option.map_eq_some_iff.mp moves
  have nothing : ∀ {bound : ℕ}, ([] : List ℕ).Nodup ∧ ∀ queue ∈ ([] : List ℕ), queue < bound :=
    ⟨List.nodup_nil, fun queue listed => by cases listed⟩
  cases fanout with
  | top =>
    cases stepped
    by_cases told : s.stopEvent = true
    · rw [if_pos told]
      exact sound.moveFanout here (fun _ _ => rfl) (fun _ _ => rfl) nothing fun _ => told
    · rw [if_neg told]
      exact sound.moveFanout here (fun _ _ => rfl) (fun _ _ => rfl) nothing fun isDead => by
        cases isDead
  | getting =>
    rw [fanoutStep] at stepped
    cases taken' : s.ringBuffer.get with
    | none =>
      rw [taken'] at stepped
      cases stepped
      exact sound.moveFanout here (fun _ _ => rfl) (fun _ _ => rfl) nothing fun isDead => by
        cases isDead
    | some result =>
      rw [taken'] at stepped
      cases stepped
      exact sound.take here taken'
  | got chunk =>
    cases stepped
    refine sound.moveFanout here ?_ ?_ ⟨sound.distinct, sound.known⟩ fun isDead => by cases isDead
    · intro subscriber mem
      exact if_pos (List.mem_map_of_mem mem)
    · intro noneAt
      exact absurd (noneAt 0) (List.cons_ne_nil _ _)
  | delivering chunk remaining =>
    cases remaining with
    | nil =>
      cases stepped
      exact sound.moveFanout here (fun _ _ => rfl) (fun _ _ => rfl) nothing fun isDead => by
        cases isDead
    | cons queue rest =>
      cases stepped
      exact sound.deliver here
  | dead => cases stepped

end ChannelStream

end FanoutThread

/-! ### Starts -/

section Starts

variable {Id : Type}

/-- One start is under way at most. -/
theorem Launch.starters_short {starters : List Starter} {readers : List Reader} {current : Option ℕ}
    {fanouts : List Fanout} (launch : Launch starters readers current fanouts) :
    starters = [] ∨ ∃ only, starters = [only] := by
  cases launch with
  | idle => exact .inl rfl
  | clearing => exact .inr ⟨_, rfl⟩
  | assigning => exact .inr ⟨_, rfl⟩
  | launching => exact .inr ⟨_, rfl⟩
  | fanning working => exact .inr ⟨_, rfl⟩
  | running working fanout => exact .inl rfl

namespace ChannelStream

/-- While the ring is open, a start under way is the only one. -/
theorem Sound.starter_of_open {s : ChannelStream Id} (sound : s.Sound)
    (isOpen : s.ringBuffer.closed = false) {thread : ℕ} {starter : Starter}
    (here : s.starters[thread]? = some starter) (underWay : starter.underWay = true) :
    Launch [starter] s.readers s.readerThread s.fanouts ∧ ∀ moved : Starter,
      (s.starters.set thread moved).filter Starter.underWay = [moved].filter Starter.underWay := by
  have launch := sound.launch isOpen
  rcases launch.starters_short with none | ⟨only, alone⟩
  · have mem : starter ∈ s.starters.filter Starter.underWay :=
      List.mem_filter.mpr ⟨List.mem_of_getElem? here, underWay⟩
    rw [none] at mem
    cases mem
  · have isOnly := (filter_set_of_singleton here underWay alone starter).1
    rw [alone, isOnly] at launch
    exact ⟨launch, fun moved => (filter_set_of_singleton here underWay alone moved).2⟩

/-- With no start under way and no fan-out thread, an open stream was never started. -/
theorem Sound.idle_of_open {s : ChannelStream Id} (sound : s.Sound)
    (isOpen : s.ringBuffer.closed = false) (none : s.starters.filter Starter.underWay = [])
    (noFanouts : s.fanouts = []) : s.readers = [] ∧ s.readerThread = Option.none := by
  have launch := sound.launch isOpen
  rw [none, noFanouts] at launch
  generalize s.readers = readers at launch
  generalize s.readerThread = current at launch
  cases launch with
  | idle => exact ⟨rfl, rfl⟩

/-- A start moves, and nothing else. -/
theorem Sound.moveStarter {s : ChannelStream Id} (sound : s.Sound) {thread : ℕ}
    {moved : Starter} (launch : s.ringBuffer.closed = false →
      Launch ((s.starters.set thread moved).filter Starter.underWay) s.readers s.readerThread
        s.fanouts) :
    Sound { s with starters := s.starters.set thread moved } :=
  { sound with launch := launch }

/-- **The flags are cleared**; while the ring is open no thread has ended. -/
theorem Sound.clear {s : ChannelStream Id} (sound : s.Sound) {thread : ℕ}
    (here : s.starters[thread]? = some .clearing) :
    Sound { s with
      stopEvent := false
      stopped := false
      starters := s.starters.set thread .assigning } := by
  refine { sound with
    launch := ?_
    alive := ?_ }
  · intro isOpen
    obtain ⟨launch, sets⟩ := sound.starter_of_open isOpen here rfl
    dsimp only
    rw [sets]
    generalize s.readers = readers at launch
    generalize s.readerThread = current at launch
    generalize s.fanouts = fanouts at launch
    cases launch
    exact .assigning
  · intro isOpen mem
    obtain ⟨launch, _⟩ := sound.starter_of_open isOpen here rfl
    dsimp only at mem
    generalize s.fanouts = fanouts at launch mem
    generalize s.readers = readers at launch
    generalize s.readerThread = current at launch
    cases launch
    cases mem

/-- **A reader is created**; it has read nothing. -/
theorem Sound.assign {s : ChannelStream Id} (sound : s.Sound) {thread : ℕ}
    (here : s.starters[thread]? = some .assigning) :
    Sound { s with
      readers := s.readers ++ [.created]
      readerThread := some s.readers.length
      starters := s.starters.set thread .launching } := by
  refine { sound with
    launch := ?_
    served := ?_
    causes := ?_
    held := ?_
    stocked := ?_ }
  · intro isOpen
    obtain ⟨launch, sets⟩ := sound.starter_of_open isOpen here rfl
    dsimp only
    rw [sets]
    generalize s.readers = readers at launch
    generalize s.readerThread = current at launch
    generalize s.fanouts = fanouts at launch
    cases launch
    exact .launching
  · intro subscriber mem
    refine (sound.served subscriber mem).congr rfl ?_ rfl
    unfold onTheWay transit
    simp [Reader.hand]
  · intro other mem
    rcases List.mem_append.mp mem with before | isNew
    · exact sound.causes other before
    · rw [List.mem_singleton.mp isNew]
      simp [Reader.cause]
  · intro other mem
    rcases List.mem_append.mp mem with before | isNew
    · exact sound.held other before
    · rw [List.mem_singleton.mp isNew]
      simp [Reader.hand]
  · intro isOpen stocked
    obtain ⟨reader, mem, working⟩ := sound.stocked isOpen stocked
    exact ⟨reader, List.mem_append_left _ mem, working⟩

/-- **The reader is started.** -/
theorem Sound.launchReader {s : ChannelStream Id} (sound : s.Sound) {thread place : ℕ}
    (here : s.starters[thread]? = some .launching) (current : s.readerThread = some place)
    (isCreated : s.readers[place]? = some .created) :
    Sound { s with
      readers := s.readers.set place .top
      starters := s.starters.set thread .fanning } := by
  refine { sound with
    launch := ?_
    served := ?_
    causes := ?_
    held := ?_
    stocked := fun _ _ => ⟨.top, mem_set_self isCreated _, trivial⟩ }
  · intro isOpen
    obtain ⟨launch, sets⟩ := sound.starter_of_open isOpen here rfl
    dsimp only
    rw [sets, current]
    rw [current] at launch
    generalize s.readers = readers at launch
    generalize s.fanouts = fanouts at launch
    cases launch
    exact .fanning trivial
  · intro subscriber mem
    refine (sound.served subscriber mem).congr rfl ?_ rfl
    have same : Reader.top.hand = Reader.created.hand := rfl
    unfold onTheWay transit
    dsimp only
    rw [flatMap_set_of_eq isCreated same]
  · intro other mem
    rcases List.mem_or_eq_of_mem_set mem with before | rfl
    · exact sound.causes other before
    · simp [Reader.cause]
  · intro other mem
    rcases List.mem_or_eq_of_mem_set mem with before | rfl
    · exact sound.held other before
    · simp [Reader.hand]

/-- **A fan-out thread is started**; it has no chunk. -/
theorem Sound.fanOut {s : ChannelStream Id} (sound : s.Sound) {thread : ℕ}
    (here : s.starters[thread]? = some .fanning) :
    Sound { s with
      fanouts := s.fanouts ++ [.top]
      starters := s.starters.set thread .done } := by
  refine { sound with
    launch := ?_
    late := ?_
    remaining := ?_
    served := ?_
    alive := ?_ }
  · intro isOpen
    obtain ⟨launch, sets⟩ := sound.starter_of_open isOpen here rfl
    dsimp only
    rw [sets]
    generalize s.readers = readers at launch
    generalize s.readerThread = current at launch
    generalize s.fanouts = fanouts at launch
    cases launch with
    | fanning working => exact .running working .top
  · intro fanout mem queue
    have late := sound.late
    dsimp only at mem
    generalize s.fanouts = fanouts at mem late
    cases fanouts with
    | nil => cases mem
    | cons first rest =>
      rcases List.mem_append.mp mem with before | isNew
      · exact late fanout before queue
      · rw [List.mem_singleton.mp isNew]
        rfl
  · intro fanout mem
    rcases List.mem_append.mp mem with before | isNew
    · exact sound.remaining fanout before
    · rw [List.mem_singleton.mp isNew]
      exact ⟨List.nodup_nil, fun queue listed => by cases listed⟩
  · intro subscriber mem
    refine (sound.served subscriber mem).congr rfl ?_ rfl
    unfold onTheWay
    dsimp only
    rw [List.flatMap_append]
    exact congrArg (· ++ s.transit) (List.append_nil _)
  · intro isOpen mem
    rcases List.mem_append.mp mem with before | isNew
    · exact sound.alive isOpen before
    · cases List.mem_singleton.mp isNew

/-- **A step of a start.** -/
theorem Sound.starter [DecidableEq Id] {s next : ChannelStream Id} (sound : s.Sound) {thread : ℕ}
    (steady : Steady s (.starter thread)) (taken : s.step (.starter thread) = some next) :
    next.Sound := by
  obtain ⟨starter, here, moves⟩ := Option.bind_eq_some_iff.mp taken
  obtain ⟨after, stepped, rfl⟩ := Option.map_eq_some_iff.mp moves
  cases starter with
  | asking =>
    cases stepped
    refine sound.moveStarter fun isOpen => ?_
    rw [filter_set_of_neg here rfl (by split_ifs <;> rfl)]
    exact sound.launch isOpen
  | starting =>
    cases stepped
    by_cases already : s.readerAlive = true
    · rw [if_pos already]
      refine sound.moveStarter fun isOpen => ?_
      rw [filter_set_of_neg here rfl rfl]
      exact sound.launch isOpen
    · have noReader : s.readerAlive = false := by simpa using already
      rw [if_neg already]
      refine sound.moveStarter fun isOpen => ?_
      rcases steady here noReader with isClosed | ⟨none, noFanouts⟩
      · rw [isClosed] at isOpen
        cases isOpen
      · obtain ⟨noReaders, noCurrent⟩ := sound.idle_of_open isOpen none noFanouts
        rw [filter_set_of_nil here none, noReaders, noCurrent, noFanouts]
        exact .clearing
  | clearing =>
    cases stepped
    exact sound.clear here
  | assigning =>
    cases stepped
    exact sound.assign here
  | launching =>
    unfold starterStep at stepped
    dsimp only at stepped
    cases current : s.readerThread with
    | none =>
      rw [current] at stepped
      cases stepped
    | some place =>
      rw [current] at stepped
      dsimp only at stepped
      by_cases isCreated : s.readers[place]? = some .created
      · rw [if_pos isCreated] at stepped
        cases stepped
        have launched := sound.launchReader here current isCreated
        rw [current] at launched
        exact launched
      · -- the thread is being started by another start already
        rw [if_neg isCreated] at stepped
        cases stepped
        refine sound.moveStarter fun isOpen => ?_
        obtain ⟨launch, _⟩ := sound.starter_of_open isOpen here rfl
        rw [current] at launch
        generalize s.readers = readers at launch isCreated
        generalize s.fanouts = fanouts at launch
        cases launch
        exact absurd rfl isCreated
  | fanning =>
    cases stepped
    exact sound.fanOut here
  | done => cases stepped

end ChannelStream

end Starts

/-! ### Stops -/

section Stops

variable {Id : Type}

namespace ChannelStream

/-- The subscribers are told, and dropped. -/
theorem Sound.clearSubscribers {s : ChannelStream Id} (sound : s.Sound) :
    s.clearSubscribers.Sound := by
  refine { sound with
    distinct := List.nodup_nil
    known := ?_
    queuesOpen := ?_
    served := ?_ }
  · intro queue mem
    cases mem
  · intro queue
    unfold ChannelStream.clearSubscribers
    dsimp only
    split_ifs
    · exact (BytesBoundedQueue.putNowait_spec (sound.queuesOpen queue) []).2
    · exact sound.queuesOpen queue
  · intro subscriber mem
    cases mem

/-- **A step of a stop.** -/
theorem Sound.stopper [DecidableEq Id] {s next : ChannelStream Id} (sound : s.Sound) {thread : ℕ}
    (steady : Steady s (.stopper thread)) (taken : s.step (.stopper thread) = some next) :
    next.Sound := by
  obtain ⟨stopper, here, moves⟩ := Option.bind_eq_some_iff.mp taken
  obtain ⟨after, stepped, rfl⟩ := Option.map_eq_some_iff.mp moves
  have moved : after.2.Sound := by
    cases stopper with
    | asking =>
      cases stepped
      exact sound
    | setting =>
      cases stepped
      exact { sound with alive := fun _ _ => rfl }
    | closingRing =>
      cases stepped
      exact sound.closeRing (steady here)
    | closingSource =>
      cases stepped
      exact sound.closeSource (by simp)
    | clearing =>
      cases stepped
      exact sound.clearSubscribers
    | finishing =>
      cases stepped
      exact { sound with }
    | done => cases stepped
  exact { moved with }

end ChannelStream

end Stops

/-! ### Runs -/

section Runs

variable {Id : Type}

namespace ChannelStream

/-- **What is read goes on**: while the ring is open, who fills it has a fan-out thread. -/
theorem Sound.flowing {s : ChannelStream Id} (sound : s.Sound) : s.Flowing := by
  intro onTheWay running
  have isOpen : s.ringBuffer.closed = false := by
    by_contra isClosed
    exact onTheWay (if_pos (by simpa using isClosed))
  have worker : ∃ reader ∈ s.readers, reader.Working := by
    by_cases empty : s.ringBuffer.chunks = []
    · unfold transit at onTheWay
      rw [if_neg (by simp [isOpen]), empty, List.nil_append, Ne, List.flatMap_eq_nil_iff] at onTheWay
      push Not at onTheWay
      obtain ⟨reader, mem, busy⟩ := onTheWay
      refine ⟨reader, mem, ?_⟩
      cases reader with
      | holding chunk => trivial
      | _ => exact absurd rfl busy
    · exact sound.stocked isOpen empty
  obtain ⟨reader, mem, working⟩ := worker
  have launch := sound.launch isOpen
  have alive := sound.alive isOpen
  rw [running] at alive
  cases starting : s.starters.filter Starter.underWay with
  | nil =>
    left
    rw [starting] at launch
    generalize s.readers = readers at launch mem
    generalize s.readerThread = current at launch
    generalize s.fanouts = fanouts at launch alive
    cases launch with
    | idle => cases mem
    | running _ fanout =>
      refine ⟨fanout, List.mem_singleton_self _, ?_⟩
      rintro rfl
      exact absurd (alive (List.mem_singleton_self _)) Bool.false_ne_true
  | cons first rest =>
    right
    have isFirst : first ∈ s.starters :=
      List.mem_of_mem_filter (starting ▸ List.mem_cons_self : first ∈ s.starters.filter _)
    rw [starting] at launch
    generalize s.readers = readers at launch mem
    generalize s.readerThread = current at launch
    generalize s.fanouts = fanouts at launch
    cases launch with
    | clearing => cases mem
    | assigning => cases mem
    | launching =>
      rw [List.mem_singleton.mp mem] at working
      cases working
    | fanning _ => exact isFirst

variable [DecidableEq Id]

/-- **Every steady step keeps the invariant.** -/
theorem Sound.step {s next : ChannelStream Id} (sound : s.Sound) (action : StreamAction Id)
    (steady : Steady s action) (taken : s.step action = some next) : next.Sound := by
  cases action with
  | subscribe clientId =>
    cases taken
    exact sound.register clientId steady
  | unsubscribe clientId =>
    cases taken
    exact sound.unsubscribe clientId
  | clientGet queue => exact sound.clientGet taken
  | start =>
    cases taken
    refine { sound with launch := fun isOpen => ?_ }
    dsimp only
    rw [List.filter_append]
    exact (List.append_nil _).symm ▸ sound.launch isOpen
  | stop =>
    cases taken
    exact { sound with }
  | reader thread seen => exact sound.reader steady taken
  | fanout thread => exact sound.fanout taken
  | starter thread => exact sound.starter steady taken
  | stopper thread => exact sound.stopper steady taken

end ChannelStream

variable [DecidableEq Id]

/-- **In every run of steady steps the stream is fanned out**: through starts and stops, and clients that
come, go and are slow. -/
theorem stream_fanned_out (ringBufferMaxBytes clientBufferMaxBytes : ℕ)
    (actions : List (StreamAction Id)) {final : ChannelStream Id}
    (steady : Along ChannelStream.step Steady (.init ringBufferMaxBytes clientBufferMaxBytes) actions)
    (ran : runActions ChannelStream.step (.init ringBufferMaxBytes clientBufferMaxBytes) actions =
      some final) :
    final.FannedOut := by
  have sound : final.Sound := invariant_along ChannelStream.step ChannelStream.Sound Steady
    (fun _ action _ here steady taken => here.step action steady taken) actions
    (ChannelStream.sound_init _ _) steady ran
  exact ⟨sound.served, sound.flowing, sound.closedBy⟩

/-- A client comes and starts the stream; a chunk is read and reaches it. -/
def oneChunk : List (StreamAction ℕ) :=
  [.subscribe 1, .starter 0, .starter 0, .starter 0, .starter 0, .starter 0, .starter 0,
    .reader 0 .quiet, .reader 0 .connected, .reader 0 (.data [7]), .reader 0 .quiet,
    .fanout 0, .fanout 0, .fanout 0, .fanout 0, .clientGet 0]

/-- A chunk reaches a client. -/
theorem stream_fanned_out_chunk :
    ∃ final, runActions ChannelStream.step (.init 100 100) oneChunk = some final ∧
      (final.clients 0).received = [[7]] ∧ final.FannedOut := by
  obtain ⟨final, ran, received⟩ := exists_run ChannelStream.step (.init 100 100) oneChunk
    (fun final => (final.clients 0).received = [[7]]) (by decide)
  exact ⟨final, ran, received, stream_fanned_out 100 100 oneChunk (by decide) ran⟩

/-- The stream ends, and its ring is closed. A second client comes and starts it again. -/
def afterTheEnd : List (StreamAction ℕ) :=
  [.subscribe 1, .starter 0, .starter 0, .starter 0, .starter 0, .starter 0, .starter 0,
    .reader 0 .quiet, .reader 0 .connected, .reader 0 (.data []), .reader 0 .quiet, .reader 0 .quiet,
    .reader 0 .quiet, .fanout 0,
    .subscribe 2, .starter 1, .starter 1, .starter 1, .starter 1, .starter 1, .starter 1,
    .reader 1 .quiet, .reader 1 .connected, .reader 1 (.data [7]), .reader 1 .quiet]

/-- What is read for the second client is lost, and counted nowhere. -/
theorem stream_starved :
    ∃ final, runActions ChannelStream.step (.init 100 100) afterTheEnd = some final ∧
      ¬ final.FannedOut := by
  obtain ⟨final, ran, subscribed, client, evicted, before, nothing, dropped⟩ :=
    exists_run ChannelStream.step (.init 100 100) afterTheEnd
      (fun final => (2, 1) ∈ final.subscribers ∧ (final.clients 1).share = [[7]] ∧
        (final.clients 1).evicted = 0 ∧ (final.clients 1).droppedBefore = 0 ∧
        (final.clients 1).received ++ (final.clients 1).queue.chunks ++ final.onTheWay 1 = [] ∧
        final.ringBuffer.droppedBytes = 0) (by decide)
  refine ⟨final, ran, fun fannedOut => ?_⟩
  have counted := (fannedOut.1 _ subscribed).2
  rw [client, evicted, before, nothing, dropped] at counted
  exact absurd counted (by decide)

end Runs

end Retrovue.Core.Streams
