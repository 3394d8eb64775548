/-
**The two bounded buffers of a channel stream** (`runtime/ts_ring_buffer.py`, `BytesBoundedQueue` of
`runtime/channel_stream.py`). Both drop their oldest chunks.

* `TsRingBuffer`: between the upstream reader and the fan-out thread, with a count of dropped bytes;
* `BytesBoundedQueue`: one for each client;
* `TsRingBuffer.put_spec`, `BytesBoundedQueue.putNowait_spec`: what was in, and comes in, is what was
  dropped and what is in afterwards, and the dropped bytes are the counted ones;
* `TsRingBuffer.put_bounded`, `BytesBoundedQueue.putNowait_bounded`: the caps hold.
-/

import Mathlib

namespace Retrovue.Core.Streams

/-- A chunk of the transport stream. -/
abbrev Chunk := List UInt8

/-- The bytes of some chunks. -/
def bytes (chunks : List Chunk) : ℕ := (chunks.map List.length).sum

@[simp] theorem bytes_nil : bytes [] = 0 := rfl

@[simp] theorem bytes_cons (chunk : Chunk) (chunks : List Chunk) :
    bytes (chunk :: chunks) = chunk.length + bytes chunks := by
  rw [bytes, List.map_cons, List.sum_cons, bytes]

@[simp] theorem bytes_append (first second : List Chunk) :
    bytes (first ++ second) = bytes first + bytes second := by
  rw [bytes, List.map_append, List.sum_append, bytes, bytes]

/-! ### The ring buffer -/

section Ring

/-- `TsRingBuffer`; its counter is the bytes it holds. -/
structure TsRingBuffer where
  maxBytes : ℕ
  chunks : List Chunk := []
  currentBytes : ℕ := 0
  droppedBytes : ℕ := 0
  highWaterMark : ℕ := 0
  closed : Bool := false
  counted : currentBytes = bytes chunks := by rfl

/-- The oldest chunks that go while the buffer is over its cap, but for the last chunk; and what is
left. -/
def dropOldest (maxBytes : ℕ) : List Chunk → List Chunk × List Chunk
  | old :: next :: rest =>
    if maxBytes < bytes (old :: next :: rest) then
      (old :: (dropOldest maxBytes (next :: rest)).1, (dropOldest maxBytes (next :: rest)).2)
    else ([], old :: next :: rest)
  | chunks => ([], chunks)

namespace TsRingBuffer

/-- `__init__`: the cap is at least 64 KB. -/
def init (maxBytes : ℕ) : TsRingBuffer := { maxBytes := max (64 * 1024) maxBytes }

/-- `put`. -/
def put (data : Chunk) (ring : TsRingBuffer) : TsRingBuffer :=
  if data = [] ∨ ring.closed = true then ring
  else
    let split := dropOldest ring.maxBytes (ring.chunks ++ [data])
    { maxBytes := ring.maxBytes
      chunks := split.2
      currentBytes := bytes split.2
      droppedBytes := ring.droppedBytes + bytes split.1
      highWaterMark := max ring.highWaterMark (bytes split.2)
      closed := ring.closed }

/-- `get`, as it returns: `None` for a closed buffer and for a timeout. -/
def get (ring : TsRingBuffer) : Option (Chunk × TsRingBuffer) :=
  if ring.closed then none
  else
    match ring.chunks with
    | [] => none
    | chunk :: rest =>
      some (chunk, { ring with chunks := rest, currentBytes := bytes rest, counted := rfl })

/-- `close`. -/
def close (ring : TsRingBuffer) : TsRingBuffer := { ring with closed := true }

end TsRingBuffer

/-- Dropping takes chunks from the front. -/
theorem dropOldest_append (maxBytes : ℕ) (chunks : List Chunk) :
    (dropOldest maxBytes chunks).1 ++ (dropOldest maxBytes chunks).2 = chunks := by
  induction chunks using dropOldest.induct maxBytes with
  | case1 old next rest full ih =>
    rw [dropOldest, if_pos full]
    dsimp only
    rw [List.cons_append, ih]
  | case2 old next rest fits =>
    rw [dropOldest, if_neg fits]
    rfl
  | case3 chunks short =>
    rw [dropOldest]
    · rfl
    · exact short

/-- What is left fits, or is one chunk. -/
theorem dropOldest_fits (maxBytes : ℕ) (chunks : List Chunk) :
    bytes (dropOldest maxBytes chunks).2 ≤ maxBytes ∨ (dropOldest maxBytes chunks).2.length ≤ 1 := by
  induction chunks using dropOldest.induct maxBytes with
  | case1 old next rest full ih =>
    rw [dropOldest, if_pos full]
    exact ih
  | case2 old next rest fits =>
    rw [dropOldest, if_neg fits]
    exact .inl (not_lt.mp fits)
  | case3 chunks short =>
    rw [dropOldest]
    · right
      match chunks with
      | [] => exact Nat.zero_le 1
      | [_] => exact le_refl 1
      | old :: next :: rest => exact absurd rfl (short old next rest)
    · exact short

/-- The cap holds, but for a single chunk above it. -/
theorem TsRingBuffer.put_bounded (data : Chunk) (ring : TsRingBuffer) :
    (ring.put data).currentBytes ≤ max ring.maxBytes ring.currentBytes ∨
      (ring.put data).chunks.length ≤ 1 := by
  unfold TsRingBuffer.put
  split_ifs
  · exact .inl (le_max_right _ _)
  · rcases dropOldest_fits ring.maxBytes (ring.chunks ++ [data]) with fits | one
    · exact .inl (fits.trans (le_max_left _ _))
    · exact .inr one

/-- **What is put into an open buffer**: what was in, and the data, are what was dropped, and counted,
and what is in afterwards. -/
theorem TsRingBuffer.put_spec {ring : TsRingBuffer} (isOpen : ring.closed = false) {data : Chunk}
    (some' : data ≠ []) :
    ∃ dropped, ring.chunks ++ [data] = dropped ++ (ring.put data).chunks ∧
      (ring.put data).droppedBytes = ring.droppedBytes + bytes dropped ∧
      (ring.put data).closed = false := by
  unfold TsRingBuffer.put
  rw [if_neg (by simp [some', isOpen])]
  exact ⟨_, (dropOldest_append _ _).symm, rfl, isOpen⟩

end Ring

/-! ### The queues of the clients -/

section ClientQueue

/-- `BytesBoundedQueue`; its counter is the bytes it holds. -/
structure BytesBoundedQueue where
  maxBytes : ℕ
  chunks : List Chunk := []
  currentBytes : ℕ := 0
  closed : Bool := false
  counted : currentBytes = bytes chunks := by rfl

/-- The oldest chunks that go to make room for some bytes, and what is left. -/
def makeRoom (maxBytes room : ℕ) : List Chunk → List Chunk × List Chunk
  | [] => ([], [])
  | old :: rest =>
    if maxBytes < bytes (old :: rest) + room then
      (old :: (makeRoom maxBytes room rest).1, (makeRoom maxBytes room rest).2)
    else ([], old :: rest)

namespace BytesBoundedQueue

/-- `__init__`: the cap is at least 64 KB. -/
def init (maxBytes : ℕ) : BytesBoundedQueue := { maxBytes := max (64 * 1024) maxBytes }

/-- `put_nowait`, and the chunks that it dropped; the source answers whether there are any. -/
def putNowait (chunk : Chunk) (queue : BytesBoundedQueue) : BytesBoundedQueue × List Chunk :=
  if queue.closed then (queue, [])
  else
    let split := makeRoom queue.maxBytes chunk.length queue.chunks
    ({ maxBytes := queue.maxBytes
       chunks := split.2 ++ [chunk]
       currentBytes := bytes (split.2 ++ [chunk])
       closed := queue.closed }, split.1)

/-- `get`, of a chunk that is there. -/
def get (queue : BytesBoundedQueue) : Option (Chunk × BytesBoundedQueue) :=
  if queue.closed then none
  else
    match queue.chunks with
    | [] => none
    | chunk :: rest =>
      some (chunk, { queue with chunks := rest, currentBytes := bytes rest, counted := rfl })

end BytesBoundedQueue

theorem makeRoom_append (maxBytes room : ℕ) (chunks : List Chunk) :
    (makeRoom maxBytes room chunks).1 ++ (makeRoom maxBytes room chunks).2 = chunks := by
  induction chunks with
  | nil => rfl
  | cons old rest ih =>
    rw [makeRoom]
    split_ifs
    · dsimp only
      rw [List.cons_append, ih]
    · rfl

theorem makeRoom_fits (maxBytes room : ℕ) (chunks : List Chunk) :
    (makeRoom maxBytes room chunks).2 = [] ∨
      bytes (makeRoom maxBytes room chunks).2 + room ≤ maxBytes := by
  induction chunks with
  | nil => exact .inl rfl
  | cons old rest ih =>
    rw [makeRoom]
    split_ifs with full
    · exact ih
    · exact .inr (not_lt.mp full)

/-- The cap holds, but for a single chunk above it. -/
theorem BytesBoundedQueue.putNowait_bounded (chunk : Chunk) (queue : BytesBoundedQueue) :
    (queue.putNowait chunk).1.currentBytes ≤ max queue.maxBytes queue.currentBytes ∨
      (queue.putNowait chunk).1.chunks = [chunk] := by
  unfold BytesBoundedQueue.putNowait
  split_ifs
  · exact .inl (le_max_right _ _)
  · dsimp only
    rcases makeRoom_fits queue.maxBytes chunk.length queue.chunks with none | fits
    · exact .inr (by rw [none]; rfl)
    · left
      rw [bytes_append, bytes_cons, bytes_nil, Nat.add_zero]
      exact fits.trans (le_max_left _ _)

/-- **What is put into an open queue**: what was in, and the chunk, are what was dropped and what is in
afterwards. -/
theorem BytesBoundedQueue.putNowait_spec {queue : BytesBoundedQueue} (isOpen : queue.closed = false)
    (chunk : Chunk) :
    queue.chunks ++ [chunk] = (queue.putNowait chunk).2 ++ (queue.putNowait chunk).1.chunks ∧
      (queue.putNowait chunk).1.closed = false := by
  unfold BytesBoundedQueue.putNowait
  rw [if_neg (by simp [isOpen])]
  refine ⟨?_, isOpen⟩
  dsimp only
  rw [← List.append_assoc, makeRoom_append]

end ClientQueue

end Retrovue.Core.Streams
