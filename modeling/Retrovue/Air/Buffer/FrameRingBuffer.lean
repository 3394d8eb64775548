/-
**The ring of frames between decoder and renderer** (`buffer/FrameRingBuffer.cpp`).

* `Queue`: one queue of the buffer, an array and two atomic indices; every value that an index was given,
  in order, and how far each thread has seen the other's;
* `Act`, `Queue.step`: the calls, cut at every load and store that the other thread can come between; a
  load of the other thread's index may return an old value, never one older than it has seen;
* `Queue.Sound`, `sound_step`: what holds between the steps;
* `Queue.Delivers`: first in, first out, nothing lost or doubled, and the two threads never at one slot;
* `fifo_of_run`: so in every run of the two queues of a buffer;
* `size_seen_of_run`: what `Size` can return: to the producer never less than there is, to the consumer
  never more.
-/

import Mathlib
import Retrovue.Foundation.Rings
import Retrovue.Foundation.Transition

namespace Retrovue.Air.Buffer

open Retrovue.Foundation.Rings Retrovue.Foundation.Transition

/-! ### A queue -/

section Queue

variable {Frame : Type}

/-- Where the producer is in `Push`. -/
inductive Pushing (Frame : Type)
  | idle
  | loaded (frame : Frame) (currentWrite nextWrite : ℕ)
  | roomy (frame : Frame) (currentWrite nextWrite : ℕ)
  | copied (frame : Frame) (nextWrite : ℕ)
  deriving DecidableEq, Repr

/-- Where the consumer is in `Pop` or `Peek`. -/
inductive Popping (Frame : Type)
  | idle
  | loaded (currentRead : ℕ)
  | filled (currentRead : ℕ)
  | taken (frame : Frame) (currentRead : ℕ)
  | peeking (currentRead : ℕ)
  deriving DecidableEq, Repr

/-- One queue of the buffer. `writeStores` and `readStores` are the values that its indices were given,
the current one last; `seenRead` and `seenWrite` the places of those that the other thread has seen;
`peeked` is where the pointer of the last `Peek` points. `accepted` and `delivered` are the frames that
went in and out. -/
structure Queue (Frame : Type) where
  capacity : ℕ
  slots : List Frame
  writeStores : List ℕ
  readStores : List ℕ
  seenRead : ℕ
  seenWrite : ℕ
  pushing : Pushing Frame
  popping : Popping Frame
  peeked : Option ℕ
  accepted : List Frame
  delivered : List Frame
  deriving DecidableEq, Repr

/-- The next index, as `uint32_t` holds it; the modulus is taken in `size_t`. -/
def nextIndex (capacity current : ℕ) : ℕ := (current + 1) % 2 ^ 32 % capacity % 2 ^ 32

/-- What the threads do. A load of the other thread's index carries the place of the store that it
reads. -/
inductive Act (Frame : Type)
  | push (frame : Frame)
  | checkFull (place : ℕ)
  | copyIn
  | publish
  | pop
  | peek
  | checkEmpty (place : ℕ)
  | copyOut
  | release
  deriving DecidableEq, Repr

namespace Queue

/-- A queue as it is constructed, with `capacity` slots. -/
def create (capacity : ℕ) (blank : Frame) : Queue Frame :=
  ⟨capacity, List.replicate capacity blank, [0], [0], 0, 0, .idle, .idle, none, [], []⟩

/-- The steps of `Push`. -/
def pushStep (queue : Queue Frame) : Act Frame → Option (Queue Frame)
  | .push frame =>
    match queue.pushing, queue.writeStores.getLast? with
    | .idle, some currentWrite =>
      some { queue with
        pushing := .loaded frame currentWrite (nextIndex queue.capacity currentWrite) }
    | _, _ => none
  | .checkFull place =>
    match queue.pushing, queue.readStores[place]? with
    | .loaded frame currentWrite nextWrite, some readIndex =>
      if place < queue.seenRead then none
      else if nextWrite = readIndex then
        some { queue with pushing := .idle, seenRead := place }
      else
        some { queue with pushing := .roomy frame currentWrite nextWrite, seenRead := place }
    | _, _ => none
  | .copyIn =>
    match queue.pushing with
    | .roomy frame currentWrite nextWrite =>
      some { queue with
        slots := queue.slots.set currentWrite frame
        pushing := .copied frame nextWrite }
    | _ => none
  | .publish =>
    match queue.pushing with
    | .copied frame nextWrite =>
      some { queue with
        writeStores := queue.writeStores ++ [nextWrite]
        accepted := queue.accepted ++ [frame]
        pushing := .idle }
    | _ => none
  | _ => none

/-- The steps of `Pop` and `Peek`. -/
def popStep (queue : Queue Frame) : Act Frame → Option (Queue Frame)
  | .pop =>
    match queue.popping, queue.readStores.getLast? with
    | .idle, some currentRead => some { queue with popping := .loaded currentRead }
    | _, _ => none
  | .peek =>
    match queue.popping, queue.readStores.getLast? with
    | .idle, some currentRead => some { queue with popping := .peeking currentRead }
    | _, _ => none
  | .checkEmpty place =>
    match queue.popping, queue.writeStores[place]? with
    | .loaded currentRead, some writeIndex =>
      if place < queue.seenWrite then none
      else if currentRead = writeIndex then some { queue with popping := .idle, seenWrite := place }
      else some { queue with popping := .filled currentRead, seenWrite := place }
    | .peeking currentRead, some writeIndex =>
      if place < queue.seenWrite then none
      else if currentRead = writeIndex then
        some { queue with popping := .idle, seenWrite := place, peeked := none }
      else
        some { queue with popping := .idle, seenWrite := place, peeked := some currentRead }
    | _, _ => none
  | .copyOut =>
    match queue.popping with
    | .filled currentRead =>
      queue.slots[currentRead]?.map fun frame =>
        { queue with popping := .taken frame currentRead }
    | _ => none
  | .release =>
    match queue.popping with
    | .taken frame currentRead =>
      some { queue with
        readStores := queue.readStores ++ [nextIndex queue.capacity currentRead]
        delivered := queue.delivered ++ [frame]
        popping := .idle
        peeked := none }
    | _ => none
  | _ => none

/-- A step of one of the threads. -/
def step (queue : Queue Frame) (act : Act Frame) : Option (Queue Frame) :=
  queue.pushStep act <|> queue.popStep act

/-- `Clear`, for one queue: no call is under way, and what follows sees its stores. -/
def clear (queue : Queue Frame) : Option (Queue Frame) :=
  match queue.pushing, queue.popping with
  | .idle, .idle =>
    some { queue with
      writeStores := [0], readStores := [0], seenRead := 0, seenWrite := 0, peeked := none
      accepted := [], delivered := [] }
  | _, _ => none

/-- `Size`, of the values that its two loads returned. -/
def size (queue : Queue Frame) (write read : ℕ) : ℕ := distance queue.capacity write read

/-- `IsEmpty`, of the values that its two loads returned. -/
def isEmpty (write read : ℕ) : Bool := decide (read = write)

/-- `IsFull`, of the values that its two loads returned. -/
def isFull (queue : Queue Frame) (write read : ℕ) : Bool :=
  decide (nextIndex queue.capacity write = read)

end Queue

/-- `FrameRingBuffer`. -/
structure FrameRingBuffer (Frame AudioFrame : Type) where
  video : Queue Frame
  audio : Queue AudioFrame
  deriving DecidableEq, Repr

/-- What happens to a buffer. -/
inductive Action (Frame AudioFrame : Type)
  | video (act : Act Frame)
  | audio (act : Act AudioFrame)
  | clear
  deriving DecidableEq, Repr

namespace FrameRingBuffer

variable {AudioFrame : Type}

/-- The constructor: a slot more than frames, to tell full from empty; three times the audio. -/
def create (capacity : ℕ) (blank : Frame) (blankAudio : AudioFrame) :
    FrameRingBuffer Frame AudioFrame :=
  ⟨Queue.create (capacity + 1) blank, Queue.create (capacity * 3 + 1) blankAudio⟩

/-- A step of a thread at one of the queues (`Push`, `Pop`, `Peek`; `PushAudioFrame`, `PopAudioFrame`,
`PeekAudioFrame`), or `Clear`. -/
def step (buffer : FrameRingBuffer Frame AudioFrame) :
    Action Frame AudioFrame → Option (FrameRingBuffer Frame AudioFrame)
  | .video act => (buffer.video.step act).map fun video => { buffer with video := video }
  | .audio act => (buffer.audio.step act).map fun audio => { buffer with audio := audio }
  | .clear =>
    buffer.video.clear.bind fun video => buffer.audio.clear.map fun audio => ⟨video, audio⟩

end FrameRingBuffer

end Queue

/-! ### Between the steps -/

section Between

variable {Frame : Type}

/-- The values of an index that has moved `count` times. -/
def indexStores (capacity count : ℕ) : List ℕ := (List.range (count + 1)).map (· % capacity)

/-- The next index is that of the next position. -/
theorem nextIndex_mod {capacity : ℕ} (positive : 0 < capacity) (fits : capacity ≤ 2 ^ 32)
    (count : ℕ) : nextIndex capacity (count % capacity) = (count + 1) % capacity := by
  have inside : count % capacity < capacity := Nat.mod_lt count positive
  have small : ∀ {index : ℕ}, index < capacity → index % 2 ^ 32 = index := fun below =>
    Nat.mod_eq_of_lt (lt_of_lt_of_le below fits)
  unfold nextIndex
  rw [small (Nat.mod_lt _ positive), ← succ_mod_mod capacity count]
  rcases Nat.lt_or_ge (count % capacity + 1) (2 ^ 32) with below | wraps
  · rw [Nat.mod_eq_of_lt below]
  · -- the index wraps only where the ring has as many slots as there are indices
    have all : capacity = 2 ^ 32 := by omega
    rw [all, Nat.mod_mod]

theorem getLast?_indexStores (capacity count : ℕ) :
    (indexStores capacity count).getLast? = some (count % capacity) := by
  rw [indexStores, List.range_succ, List.map_append, List.map_singleton, List.getLast?_concat]

theorem getElem?_indexStores {capacity count place index : ℕ}
    (stored : (indexStores capacity count)[place]? = some index) :
    place ≤ count ∧ index = place % capacity := by
  rw [indexStores, List.getElem?_map, Option.map_eq_some_iff] at stored
  obtain ⟨position, at_place, rfl⟩ := stored
  rw [List.getElem?_eq_some_iff] at at_place
  obtain ⟨inside, rfl⟩ := at_place
  rw [List.length_range] at inside
  rw [List.getElem_range]
  exact ⟨by omega, rfl⟩

theorem indexStores_succ (capacity count : ℕ) :
    indexStores capacity (count + 1) = indexStores capacity count ++ [(count + 1) % capacity] := by
  rw [indexStores, List.range_succ, List.map_append, List.map_singleton]
  rfl

/-- What the producer knows where it is in `Push`, after `position` frames: its place, and that it has
seen a slot free. -/
def Pushing.Knows (capacity position seenRead : ℕ) (slots : List Frame) : Pushing Frame → Prop
  | .idle => True
  | .loaded _ currentWrite nextWrite =>
    currentWrite = position % capacity ∧ nextWrite = (position + 1) % capacity
  | .roomy _ currentWrite nextWrite =>
    currentWrite = position % capacity ∧ nextWrite = (position + 1) % capacity ∧
      position + 1 < seenRead + capacity
  | .copied frame nextWrite =>
    nextWrite = (position + 1) % capacity ∧ position + 1 < seenRead + capacity ∧
      slots[position % capacity]? = some frame

/-- What the consumer knows where it is in `Pop` or `Peek`, after `position` frames. -/
def Popping.Knows (capacity position seenWrite : ℕ) (accepted : List Frame) : Popping Frame → Prop
  | .idle => True
  | .loaded currentRead => currentRead = position % capacity
  | .peeking currentRead => currentRead = position % capacity
  | .filled currentRead => currentRead = position % capacity ∧ position < seenWrite
  | .taken frame currentRead =>
    currentRead = position % capacity ∧ position < seenWrite ∧ accepted[position]? = some frame

/-- What the consumer knows stays true when a frame comes in. -/
theorem Popping.Knows.append {capacity position seenWrite : ℕ} {accepted : List Frame}
    {popping : Popping Frame} (knows : popping.Knows capacity position seenWrite accepted)
    (inside : seenWrite ≤ accepted.length) (frame : Frame) :
    popping.Knows capacity position seenWrite (accepted ++ [frame]) := by
  cases popping with
  | taken front currentRead =>
    obtain ⟨isPlace, below, isFront⟩ := knows
    exact ⟨isPlace, below, by rw [List.getElem?_append_left (by omega), isFront]⟩
  | idle | loaded | filled | peeking => exact knows

namespace Queue

/-- **What holds between the steps.** -/
structure Sound (queue : Queue Frame) : Prop where
  positive : 0 < queue.capacity
  fits : queue.capacity ≤ 2 ^ 32
  slots : queue.slots.length = queue.capacity
  writes : queue.writeStores = indexStores queue.capacity queue.accepted.length
  reads : queue.readStores = indexStores queue.capacity queue.delivered.length
  inOrder : queue.delivered <+: queue.accepted
  holds : Holds queue.slots queue.accepted queue.delivered.length
  seenRead_le : queue.seenRead ≤ queue.delivered.length
  seenWrite_le : queue.seenWrite ≤ queue.accepted.length
  behind : queue.delivered.length ≤ queue.seenWrite
  ahead : queue.accepted.length < queue.seenRead + queue.capacity
  pushing : queue.pushing.Knows queue.capacity queue.accepted.length queue.seenRead queue.slots
  popping : queue.popping.Knows queue.capacity queue.delivered.length queue.seenWrite queue.accepted
  peeked : ∀ index ∈ queue.peeked,
    index = queue.delivered.length % queue.capacity ∧ queue.delivered.length < queue.seenWrite

theorem sound_create {capacity : ℕ} (positive : 0 < capacity) (fits : capacity ≤ 2 ^ 32)
    (blank : Frame) : (create capacity blank).Sound where
  positive := positive
  fits := fits
  slots := List.length_replicate
  writes := by simp [create, indexStores]
  reads := by simp [create, indexStores]
  inOrder := List.prefix_rfl
  holds := holds_nil _ _
  seenRead_le := le_rfl
  seenWrite_le := le_rfl
  behind := le_rfl
  ahead := by simpa [create] using positive
  pushing := trivial
  popping := trivial
  peeked := fun _ member => absurd member (Option.not_mem_none _)

variable {queue next : Queue Frame}

theorem sound_clear (sound : queue.Sound) (cleared : queue.clear = some next) : next.Sound := by
  unfold clear at cleared
  split at cleared
  case h_2 => cases cleared
  case h_1 pushing popping =>
    cases cleared
    exact
      { positive := sound.positive
        fits := sound.fits
        slots := sound.slots
        writes := by simp [indexStores]
        reads := by simp [indexStores]
        inOrder := List.prefix_rfl
        holds := holds_nil _ _
        seenRead_le := le_rfl
        seenWrite_le := le_rfl
        behind := le_rfl
        ahead := by simpa using sound.positive
        pushing := by rw [pushing]; trivial
        popping := by rw [popping]; trivial
        peeked := fun _ member => absurd member (Option.not_mem_none _) }

/-- A step of `Push` keeps it. -/
theorem sound_pushStep {act : Act Frame} (sound : queue.Sound)
    (taken : queue.pushStep act = some next) : next.Sound := by
  cases act with
  | push frame =>
    simp only [pushStep] at taken
    split at taken
    case h_2 => cases taken
    case h_1 currentWrite idle last =>
      cases taken
      rw [sound.writes, getLast?_indexStores] at last
      cases last
      exact { sound with
        pushing := ⟨rfl, nextIndex_mod sound.positive sound.fits _⟩ }
  | checkFull place =>
    simp only [pushStep] at taken
    split at taken
    case h_2 => cases taken
    case h_1 frame currentWrite nextWrite readIndex loaded stored =>
      have here := sound.pushing
      rw [loaded] at here
      rw [sound.reads] at stored
      obtain ⟨past, rfl⟩ := getElem?_indexStores stored
      split_ifs at taken with older full
      · cases taken
        exact { sound with
          seenRead_le := past
          ahead := by
            have ahead := sound.ahead
            show queue.accepted.length < place + queue.capacity
            omega
          pushing := trivial }
      · cases taken
        have ahead := sound.ahead
        have order := sound.inOrder.length_le
        have seen : queue.accepted.length < place + queue.capacity := by omega
        refine { sound with seenRead_le := past, ahead := seen, pushing := ⟨here.1, here.2, ?_⟩ }
        -- one more would be a whole turn past what was read, so the indices would meet
        show queue.accepted.length + 1 < place + queue.capacity
        rcases Nat.lt_or_ge (queue.accepted.length + 1) (place + queue.capacity) with room | turn
        · exact room
        · refine absurd ?_ full
          rw [here.2, show queue.accepted.length + 1 = place + queue.capacity by omega,
            Nat.add_mod_right]
  | copyIn =>
    simp only [pushStep] at taken
    split at taken
    case h_2 => cases taken
    case h_1 frame currentWrite nextWrite roomy =>
      cases taken
      have here := sound.pushing
      rw [roomy] at here
      obtain ⟨rfl, isNext, room⟩ := here
      have slots := sound.slots
      have seen := sound.seenRead_le
      refine { sound with slots := by rw [List.length_set, slots], holds := ?_, pushing := ?_ }
      · show Holds (queue.slots.set (queue.accepted.length % queue.capacity) frame) _ _
        rw [← slots]
        exact sound.holds.set (by omega) frame
      · refine ⟨isNext, room, ?_⟩
        show (queue.slots.set (queue.accepted.length % queue.capacity) frame)[
          queue.accepted.length % queue.capacity]? = some frame
        rw [← slots]
        exact getElem?_set_next (by rw [slots]; exact sound.positive) frame
  | publish =>
    simp only [pushStep] at taken
    split at taken
    case h_2 => cases taken
    case h_1 frame nextWrite copied =>
      cases taken
      have here := sound.pushing
      rw [copied] at here
      obtain ⟨rfl, room, there⟩ := here
      have length : (queue.accepted ++ [frame]).length = queue.accepted.length + 1 :=
        List.length_append
      refine { sound with
        writes := ?_
        inOrder := sound.inOrder.trans (List.prefix_append _ _)
        holds := sound.holds.append (by rw [sound.slots]; exact there)
        seenWrite_le := sound.seenWrite_le.trans (by rw [length]; omega)
        ahead := by rw [length]; exact room
        pushing := trivial
        popping := sound.popping.append sound.seenWrite_le frame }
      show queue.writeStores ++ _ = indexStores queue.capacity (queue.accepted ++ [frame]).length
      rw [length, indexStores_succ, sound.writes]
  | pop | peek | checkEmpty | copyOut | release => cases taken

/-- What the consumer has seen at a store of the write index that is not its own. -/
theorem Sound.below_of_ne {place : ℕ} (sound : queue.Sound) (older : ¬ place < queue.seenWrite)
    (filled : queue.delivered.length % queue.capacity ≠ place % queue.capacity) :
    queue.delivered.length < place := by
  have behind := sound.behind
  rcases Nat.lt_or_eq_of_le (show queue.delivered.length ≤ place by omega) with before | same
  · exact before
  · exact absurd (congrArg (· % queue.capacity) same) filled

/-- A step of `Pop` or `Peek` keeps it. -/
theorem sound_popStep {act : Act Frame} (sound : queue.Sound)
    (taken : queue.popStep act = some next) : next.Sound := by
  have behind := sound.behind
  cases act with
  | pop | peek =>
    simp only [popStep] at taken
    split at taken
    case h_2 => cases taken
    case h_1 currentRead idle last =>
      cases taken
      rw [sound.reads, getLast?_indexStores] at last
      cases last
      exact { sound with popping := rfl }
  | checkEmpty place =>
    simp only [popStep] at taken
    split at taken
    case h_3 => cases taken
    all_goals
      rename_i currentRead writeIndex loading stored
      have here := sound.popping
      rw [loading] at here
      obtain rfl : currentRead = queue.delivered.length % queue.capacity := here
      rw [sound.writes] at stored
      obtain ⟨past, rfl⟩ := getElem?_indexStores stored
      split_ifs at taken with older same
    · cases taken
      exact { sound with
        seenWrite_le := past
        behind := by show queue.delivered.length ≤ place; omega
        popping := trivial
        peeked := fun index member =>
          ⟨(sound.peeked index member).1, lt_of_lt_of_le (sound.peeked index member).2 (by
            show queue.seenWrite ≤ place; omega)⟩ }
    · cases taken
      have below := sound.below_of_ne older same
      exact { sound with
        seenWrite_le := past
        behind := below.le
        popping := ⟨rfl, below⟩
        peeked := fun index member => ⟨(sound.peeked index member).1, below⟩ }
    · cases taken
      exact { sound with
        seenWrite_le := past
        behind := by show queue.delivered.length ≤ place; omega
        popping := trivial
        peeked := fun _ member => absurd member (Option.not_mem_none _) }
    · cases taken
      have below := sound.below_of_ne older same
      exact { sound with
        seenWrite_le := past
        behind := below.le
        popping := trivial
        peeked := fun index member => by
          cases member
          exact ⟨rfl, below⟩ }
  | copyOut =>
    simp only [popStep] at taken
    split at taken
    case h_2 => cases taken
    case h_1 currentRead filled =>
      obtain ⟨frame, there, rfl⟩ := Option.map_eq_some_iff.mp taken
      have here := sound.popping
      rw [filled] at here
      obtain ⟨rfl, below⟩ := here
      have seen := sound.seenWrite_le
      rw [← sound.slots, sound.holds _ le_rfl (by omega)] at there
      exact { sound with popping := ⟨rfl, below, there⟩ }
  | release =>
    simp only [popStep] at taken
    split at taken
    case h_2 => cases taken
    case h_1 frame currentRead out =>
      cases taken
      have here := sound.popping
      rw [out] at here
      obtain ⟨rfl, below, isFront⟩ := here
      have length : (queue.delivered ++ [frame]).length = queue.delivered.length + 1 :=
        List.length_append
      refine { sound with
        reads := ?_
        inOrder := ?_
        holds := by rw [length]; exact sound.holds.advance
        seenRead_le := sound.seenRead_le.trans (by rw [length]; omega)
        behind := by rw [length]; exact below
        popping := trivial
        peeked := fun _ member => absurd member (Option.not_mem_none _) }
      · show queue.readStores ++ _ = indexStores queue.capacity (queue.delivered ++ [frame]).length
        rw [length, indexStores_succ, sound.reads, nextIndex_mod sound.positive sound.fits]
      · obtain ⟨rest, split⟩ := sound.inOrder
        rw [← split, List.getElem?_append_right le_rfl, Nat.sub_self] at isFront
        obtain ⟨rest, rfl⟩ : ∃ later, rest = frame :: later := by
          cases rest with
          | nil => cases isFront
          | cons front later =>
            cases isFront
            exact ⟨later, rfl⟩
        rw [← split]
        exact ⟨rest, List.append_assoc _ _ _⟩
  | push | checkFull | copyIn | publish => cases taken

/-- **A step of either thread keeps it.** -/
theorem sound_step {act : Act Frame} (sound : queue.Sound) (taken : queue.step act = some next) :
    next.Sound := by
  unfold step at taken
  cases pushed : queue.pushStep act with
  | some moved =>
    rw [pushed] at taken
    cases taken
    exact sound_pushStep sound pushed
  | none =>
    rw [pushed] at taken
    exact sound_popStep sound taken

end Queue

end Between

/-! ### What the buffer delivers -/

section Delivery

variable {Frame AudioFrame : Type}

namespace Queue

/-- The slot that the producer is writing. -/
def writing (queue : Queue Frame) : Option ℕ :=
  match queue.pushing with
  | .roomy _ currentWrite _ => some currentWrite
  | _ => none

/-- The slots that the consumer is reading, or may read through the pointer of a `Peek`. -/
def reading (queue : Queue Frame) : List ℕ :=
  queue.peeked.toList ++
    match queue.popping with
    | .filled currentRead => [currentRead]
    | _ => []

/-- The current values of the indices. -/
def writeIndex (queue : Queue Frame) : ℕ := queue.writeStores.getLast?.getD 0

def readIndex (queue : Queue Frame) : ℕ := queue.readStores.getLast?.getD 0

/-- What stands in the slots between the two indices. -/
def contents (queue : Queue Frame) : List (Option Frame) :=
  (List.range (queue.size queue.writeIndex queue.readIndex)).map fun offset =>
    queue.slots[(queue.readIndex + offset) % queue.capacity]?

/-- **A bounded queue**: the frames that went in are those that came out and then those that are
between the indices, one slot stays free; the threads use slots of the array, never the same, and
where a `Peek` points stands the front. -/
structure Delivers (queue : Queue Frame) : Prop where
  firstIn : queue.accepted.map some = queue.delivered.map some ++ queue.contents
  bounded : queue.contents.length < queue.capacity
  inArray : ∀ slot ∈ queue.writing.toList ++ queue.reading, slot < queue.slots.length
  apart : ∀ slot ∈ queue.writing, slot ∉ queue.reading
  front : ∀ slot ∈ queue.reading, queue.contents.head? = some queue.slots[slot]?

variable {queue : Queue Frame}

theorem Sound.writeIndex_eq (sound : queue.Sound) :
    queue.writeIndex = queue.accepted.length % queue.capacity := by
  rw [writeIndex, sound.writes, getLast?_indexStores, Option.getD_some]

theorem Sound.readIndex_eq (sound : queue.Sound) :
    queue.readIndex = queue.delivered.length % queue.capacity := by
  rw [readIndex, sound.reads, getLast?_indexStores, Option.getD_some]

theorem Sound.size_eq (sound : queue.Sound) :
    queue.size queue.writeIndex queue.readIndex =
      queue.accepted.length - queue.delivered.length := by
  have ahead := sound.ahead
  have seen := sound.seenRead_le
  rw [sound.writeIndex_eq, sound.readIndex_eq]
  exact distance_mod sound.inOrder.length_le (by omega)

/-- **What is between the indices** is what came in and has not gone out. -/
theorem Sound.contents_eq (sound : queue.Sound) :
    queue.contents = (queue.accepted.drop queue.delivered.length).map some := by
  have read := sound.holds.contents sound.inOrder.length_le
  rw [contents, sound.size_eq, sound.readIndex_eq, ← read, sound.slots]

theorem Sound.contents_length (sound : queue.Sound) :
    queue.contents.length = queue.accepted.length - queue.delivered.length := by
  rw [sound.contents_eq, List.length_map, List.length_drop]

/-- The consumer reads at its own place, and has seen a frame there. -/
theorem Sound.reading_spec (sound : queue.Sound) {slot : ℕ} (here : slot ∈ queue.reading) :
    slot = queue.delivered.length % queue.capacity ∧ queue.delivered.length < queue.seenWrite := by
  rcases List.mem_append.mp here with pointed | copying
  · exact sound.peeked slot (Option.mem_toList.mp pointed)
  · have known := sound.popping
    cases phase : queue.popping with
    | filled currentRead =>
      rw [phase] at copying known
      rw [List.mem_singleton.mp copying]
      exact known
    | idle | loaded | taken | peeking =>
      rw [phase] at copying
      exact absurd copying List.not_mem_nil

/-- The producer writes at its own place, and has seen a slot free. -/
theorem Sound.writing_spec (sound : queue.Sound) {slot : ℕ} (here : slot ∈ queue.writing) :
    slot = queue.accepted.length % queue.capacity ∧
      queue.accepted.length + 1 < queue.seenRead + queue.capacity := by
  have known := sound.pushing
  unfold writing at here
  cases phase : queue.pushing with
  | roomy frame currentWrite nextWrite =>
    rw [phase] at here known
    cases here
    exact ⟨known.1, known.2.2⟩
  | idle | loaded | copied =>
    rw [phase] at here
    exact absurd here (Option.not_mem_none _)

/-- **What holds between the steps makes it a bounded queue.** -/
theorem Sound.delivers (sound : queue.Sound) : queue.Delivers := by
  have ahead := sound.ahead
  have order := sound.inOrder.length_le
  have seenRead := sound.seenRead_le
  have seenWrite := sound.seenWrite_le
  have inside : ∀ position, position % queue.capacity < queue.slots.length := fun position => by
    rw [sound.slots]
    exact Nat.mod_lt position sound.positive
  refine ⟨?_, ?_, ?_, ?_, ?_⟩
  · obtain ⟨rest, split⟩ := sound.inOrder
    rw [sound.contents_eq, ← split, List.drop_left, List.map_append]
  · rw [sound.contents_length]
    omega
  · intro slot member
    rcases List.mem_append.mp member with written | read
    · rw [(sound.writing_spec (Option.mem_toList.mp written)).1]
      exact inside _
    · rw [(sound.reading_spec read).1]
      exact inside _
  · intro slot written read
    obtain ⟨isWrite, room⟩ := sound.writing_spec written
    obtain ⟨isRead, below⟩ := sound.reading_spec read
    exact mod_ne_mod (show queue.delivered.length < queue.accepted.length by omega) (by omega)
      (isRead.symm.trans isWrite)
  · intro slot read
    obtain ⟨rfl, below⟩ := sound.reading_spec read
    have within : queue.delivered.length < queue.accepted.length := by omega
    have there := sound.holds _ le_rfl within
    rw [sound.slots] at there
    rw [sound.contents_eq, List.head?_map, List.head?_drop, there,
      List.getElem?_eq_getElem within, Option.map_some]

end Queue

namespace FrameRingBuffer

/-- Both queues are sound. -/
def Sound (buffer : FrameRingBuffer Frame AudioFrame) : Prop :=
  buffer.video.Sound ∧ buffer.audio.Sound

/-- A step at one queue leaves the other alone; `Clear` empties both. -/
theorem sound_step {buffer next : FrameRingBuffer Frame AudioFrame}
    {action : Action Frame AudioFrame} (sound : buffer.Sound)
    (taken : buffer.step action = some next) : next.Sound := by
  cases action with
  | video act =>
    obtain ⟨video, moved, rfl⟩ := Option.map_eq_some_iff.mp taken
    exact ⟨Queue.sound_step sound.1 moved, sound.2⟩
  | audio act =>
    obtain ⟨audio, moved, rfl⟩ := Option.map_eq_some_iff.mp taken
    exact ⟨sound.1, Queue.sound_step sound.2 moved⟩
  | clear =>
    obtain ⟨video, clearedVideo, rest⟩ := Option.bind_eq_some_iff.mp taken
    obtain ⟨audio, clearedAudio, rfl⟩ := Option.map_eq_some_iff.mp rest
    exact ⟨Queue.sound_clear sound.1 clearedVideo, Queue.sound_clear sound.2 clearedAudio⟩

theorem sound_create {capacity : ℕ} (fits : capacity * 3 + 1 ≤ 2 ^ 32) (blank : Frame)
    (blankAudio : AudioFrame) : (create capacity blank blankAudio).Sound :=
  ⟨Queue.sound_create (Nat.succ_pos _) (by omega) blank,
    Queue.sound_create (Nat.succ_pos _) fits blankAudio⟩

/-- What holds between the steps of every run. -/
theorem sound_run {capacity : ℕ} (fits : capacity * 3 + 1 ≤ 2 ^ 32) (blank : Frame)
    (blankAudio : AudioFrame) {actions : List (Action Frame AudioFrame)}
    {final : FrameRingBuffer Frame AudioFrame}
    (ran : runActions step (create capacity blank blankAudio) actions = some final) : final.Sound :=
  invariant_along step Sound (fun _ _ => True) (fun _ _ _ sound _ => sound_step sound) actions
    (sound_create fits blank blankAudio) (along_of_forall step (fun _ _ => trivial) actions _) ran

end FrameRingBuffer

/-- **First in, first out**: in every run of the decoder's and the renderer's steps, however they come
between each other and however old the indices are that they read, both queues of the buffer deliver
what went in, in order, each frame once. -/
theorem fifo_of_run {capacity : ℕ} (fits : capacity * 3 + 1 ≤ 2 ^ 32) (blank : Frame)
    (blankAudio : AudioFrame) {actions : List (Action Frame AudioFrame)}
    {final : FrameRingBuffer Frame AudioFrame}
    (ran : runActions FrameRingBuffer.step (.create capacity blank blankAudio) actions =
      some final) : final.video.Delivers ∧ final.audio.Delivers :=
  have sound := FrameRingBuffer.sound_run fits blank blankAudio ran
  ⟨sound.1.delivers, sound.2.delivers⟩

/-- Four frames of room, a frame through the video queue while the producer has another one under way. -/
theorem fifo_of_one_frame :
    ∃ final : FrameRingBuffer ℕ ℕ,
      runActions FrameRingBuffer.step (.create 4 0 0)
          [.video (.push 7), .video (.checkFull 0), .video .copyIn, .video .publish, .video .pop,
            .video (.push 8), .video (.checkEmpty 1), .video (.checkFull 0), .video .copyOut,
            .video .release] = some final ∧
        final.video.delivered = [7] ∧ final.video.Delivers ∧ final.audio.Delivers := by
  obtain ⟨final, ran, out⟩ := exists_run FrameRingBuffer.step (.create 4 0 0)
    [.video (.push 7), .video (.checkFull 0), .video .copyIn, .video .publish, .video .pop,
      .video (.push 8), .video (.checkEmpty 1), .video (.checkFull 0), .video .copyOut,
      .video .release] (fun final => final.video.delivered = [7]) (by decide)
  exact ⟨final, ran, out, fifo_of_run (by decide) 0 0 ran⟩

end Delivery

/-! ### What the size can be seen as -/

section Sizes

variable {Frame AudioFrame : Type}

namespace Queue

/-- **What `Size` can return.** The producer knows its own index and reads one that may be old, so it
sees no less than there is; the consumer no more. `IsFull` and `IsEmpty` say of their thread's size what
they are named for. -/
structure SizesSeen (queue : Queue Frame) : Prop where
  byProducer : ∀ place read, queue.seenRead ≤ place → queue.readStores[place]? = some read →
    queue.contents.length ≤ queue.size queue.writeIndex read ∧
      (queue.isFull queue.writeIndex read = true ↔
        queue.size queue.writeIndex read = queue.capacity - 1)
  byConsumer : ∀ place write, queue.seenWrite ≤ place → queue.writeStores[place]? = some write →
    queue.size write queue.readIndex ≤ queue.contents.length ∧
      (isEmpty write queue.readIndex = true ↔ queue.size write queue.readIndex = 0)
  byAnyone : ∀ write ∈ queue.writeStores, ∀ read ∈ queue.readStores,
    queue.size write read < queue.capacity

variable {queue : Queue Frame}

theorem Sound.sizesSeen (sound : queue.Sound) : queue.SizesSeen := by
  have ahead := sound.ahead
  have behind := sound.behind
  have seenRead := sound.seenRead_le
  refine ⟨?_, ?_, ?_⟩
  · intro place read newer stored
    rw [sound.reads] at stored
    obtain ⟨past, rfl⟩ := getElem?_indexStores stored
    have order := sound.inOrder.length_le
    have seen : queue.size queue.writeIndex (place % queue.capacity) =
        queue.accepted.length - place := by
      rw [sound.writeIndex_eq]
      exact distance_mod (by omega) (by omega)
    rw [seen, sound.contents_length, isFull, decide_eq_true_iff, sound.writeIndex_eq,
      nextIndex_mod sound.positive sound.fits]
    refine ⟨by omega, ?_⟩
    constructor
    · intro meets
      rcases Nat.lt_or_ge (queue.accepted.length + 1) (place + queue.capacity) with room | turn
      · exact absurd meets.symm (mod_ne_mod (by omega) room)
      · omega
    · intro full
      rw [show queue.accepted.length + 1 = place + queue.capacity by omega, Nat.add_mod_right]
  · intro place write newer stored
    rw [sound.writes] at stored
    obtain ⟨past, rfl⟩ := getElem?_indexStores stored
    have seen : queue.size (place % queue.capacity) queue.readIndex =
        place - queue.delivered.length := by
      rw [sound.readIndex_eq]
      exact distance_mod (by omega) (by omega)
    rw [seen, sound.contents_length, isEmpty, decide_eq_true_iff, sound.readIndex_eq]
    refine ⟨by omega, ?_⟩
    constructor
    · intro meets
      rcases Nat.lt_or_ge queue.delivered.length place with before | after
      · exact absurd meets (mod_ne_mod before (by omega))
      · omega
    · intro none
      rw [show place = queue.delivered.length by omega]
  · intro write stored read _
    rw [sound.writes] at stored
    obtain ⟨place, _, rfl⟩ := List.mem_map.mp stored
    exact distance_lt (Nat.mod_lt place sound.positive)

end Queue

/-- **The size as each thread sees it**, in every run of the two threads. -/
theorem size_seen_of_run {capacity : ℕ} (fits : capacity * 3 + 1 ≤ 2 ^ 32) (blank : Frame)
    (blankAudio : AudioFrame) {actions : List (Action Frame AudioFrame)}
    {final : FrameRingBuffer Frame AudioFrame}
    (ran : runActions FrameRingBuffer.step (.create capacity blank blankAudio) actions =
      some final) : final.video.SizesSeen ∧ final.audio.SizesSeen :=
  have sound := FrameRingBuffer.sound_run fits blank blankAudio ran
  ⟨sound.1.sizesSeen, sound.2.sizesSeen⟩

/-- A frame that is in, seen by a producer that has not seen anything leave. -/
theorem size_seen_of_one_frame :
    ∃ final : FrameRingBuffer ℕ ℕ,
      runActions FrameRingBuffer.step (.create 4 0 0)
          [.audio (.push 7), .audio (.checkFull 0), .audio .copyIn, .audio .publish] =
        some final ∧ final.video.SizesSeen ∧ final.audio.SizesSeen := by
  obtain ⟨final, ran, -⟩ := exists_run FrameRingBuffer.step (.create 4 0 0)
    [.audio (.push 7), .audio (.checkFull 0), .audio .copyIn, .audio .publish]
    (fun final : FrameRingBuffer ℕ ℕ => final.audio.accepted = [7]) (by decide)
  exact ⟨final, ran, size_seen_of_run (by decide) 0 0 ran⟩

/-- A third thread has no such bound: the write index as it was after one frame, the read index after
two, and an empty ring for two frames looks full. -/
example : ((runActions Queue.step (Queue.create 3 0)
    [.push 7, .checkFull 0, .copyIn, .publish, .push 8, .checkFull 0, .copyIn, .publish,
      .pop, .checkEmpty 2, .copyOut, .release, .pop, .checkEmpty 2, .copyOut, .release]).map
      fun queue => (queue.size queue.writeStores[1]! queue.readStores[2]!, queue.contents)) =
    some (2, []) := by decide

end Sizes

end Retrovue.Air.Buffer
