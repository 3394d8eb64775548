/-
**The accounting of the ring buffer** (`runtime/ts_ring_buffer.py`).

* `CountedRing`: the buffer with its counters, each moved where the source moves it;
* `dropLoop_eq`: the loop of `put` drops what `dropOldest` drops, and its counters follow;
  `put_shows`, `get_shows`, `close_shows`: the buffer is a `TsRingBuffer`;
* `RingRun`: a buffer with the chunks that were offered to it, that it took and that have left it;
* `RingRun.Accounted`: order, bytes held, bytes lost, the cap;
* `ring_accounted`: so after every sequence of calls; `late_put_is_lost`: a chunk that is put into a
  closed buffer is in none of the counts.
-/

import Retrovue.Core.Streams.Buffers

namespace Retrovue.Core.Streams

/-! ### The counters -/

section Counters

/-- `TsRingBuffer`, its counters as they are. -/
structure CountedRing where
  maxBytes : ℤ
  deque : List Chunk
  currentBytes : ℤ
  droppedBytes : ℤ
  highWaterMark : ℤ
  closed : Bool
  deriving DecidableEq, Repr

/-- The loop of `put`: the deque, the bytes held and the bytes dropped. -/
def dropLoop (maxBytes : ℤ) : List Chunk → ℤ → ℤ → List Chunk × ℤ × ℤ
  | old :: next :: rest, current, dropped =>
    if current > maxBytes then
      dropLoop maxBytes (next :: rest) (current - old.length) (dropped + old.length)
    else (old :: next :: rest, current, dropped)
  | deque, current, dropped => (deque, current, dropped)

namespace CountedRing

/-- `__init__`: the cap is at least 64 KB. -/
def create (maxBytes : ℤ) : CountedRing := ⟨max (64 * 1024) maxBytes, [], 0, 0, 0, false⟩

/-- `put`; what `on_drop` raises is swallowed. -/
def put (data : Chunk) (ring : CountedRing) : CountedRing :=
  if data = [] ∨ ring.closed = true then ring
  else
    let kept := dropLoop ring.maxBytes (ring.deque ++ [data]) (ring.currentBytes + data.length)
      ring.droppedBytes
    { ring with
      deque := kept.1
      currentBytes := kept.2.1
      droppedBytes := kept.2.2
      highWaterMark :=
        if kept.2.1 > ring.highWaterMark then kept.2.1 else ring.highWaterMark }

/-- `get`, as it returns: `None` for a closed buffer and for a timeout. -/
def get (ring : CountedRing) : Option (Chunk × CountedRing) :=
  if ring.closed then none
  else
    match ring.deque with
    | [] => none
    | chunk :: rest =>
      some (chunk, { ring with deque := rest, currentBytes := ring.currentBytes - chunk.length })

/-- `close`. -/
def close (ring : CountedRing) : CountedRing := { ring with closed := true }

/-- The counters are those of the buffer that counts its bytes. -/
structure Shows (ring : CountedRing) (buffer : TsRingBuffer) : Prop where
  maxBytes : ring.maxBytes = buffer.maxBytes
  deque : ring.deque = buffer.chunks
  currentBytes : ring.currentBytes = buffer.currentBytes
  droppedBytes : ring.droppedBytes = buffer.droppedBytes
  highWaterMark : ring.highWaterMark = buffer.highWaterMark
  closed : ring.closed = buffer.closed

end CountedRing

/-- **The loop of `put`**: with the right bytes it drops what is over the cap, and keeps the bytes
right. -/
theorem dropLoop_eq (maxBytes : ℕ) (deque : List Chunk) (dropped : ℤ) :
    dropLoop maxBytes deque (bytes deque) dropped =
      ((dropOldest maxBytes deque).2, ((bytes (dropOldest maxBytes deque).2 : ℕ) : ℤ),
        dropped + (bytes (dropOldest maxBytes deque).1 : ℕ)) := by
  induction deque using dropOldest.induct maxBytes generalizing dropped with
  | case1 old next rest full ih =>
    have above : ((bytes (old :: next :: rest) : ℕ) : ℤ) > maxBytes := by exact_mod_cast full
    have less : ((bytes (old :: next :: rest) : ℕ) : ℤ) - old.length = (bytes (next :: rest) : ℕ) := by
      rw [bytes_cons]
      push_cast
      ring
    rw [dropLoop, if_pos above, less, ih, dropOldest, if_pos full]
    dsimp only
    rw [bytes_cons]
    push_cast
    ring_nf
  | case2 old next rest fits =>
    have under : ¬ ((bytes (old :: next :: rest) : ℕ) : ℤ) > maxBytes := by exact_mod_cast fits
    rw [dropLoop, if_neg under, dropOldest, if_neg fits]
    simp
  | case3 deque short =>
    rcases deque with _ | ⟨old, _ | ⟨next, rest⟩⟩
    · simp [dropLoop, dropOldest]
    · simp [dropLoop, dropOldest]
    · exact absurd rfl (short old next rest)

namespace CountedRing

variable {ring : CountedRing} {buffer : TsRingBuffer}

theorem create_shows (maxBytes : ℤ) : (create maxBytes).Shows (.init maxBytes.toNat) where
  maxBytes := by
    unfold create TsRingBuffer.init
    dsimp only
    push_cast
    omega
  deque := rfl
  currentBytes := rfl
  droppedBytes := rfl
  highWaterMark := rfl
  closed := rfl

theorem put_shows (shows_ : ring.Shows buffer) (data : Chunk) :
    (ring.put data).Shows (buffer.put data) := by
  unfold put TsRingBuffer.put
  rw [shows_.closed]
  split_ifs
  · exact shows_
  · have held : ring.currentBytes + data.length = (bytes (buffer.chunks ++ [data]) : ℕ) := by
      rw [shows_.currentBytes, buffer.counted, bytes_append, bytes_cons, bytes_nil]
      push_cast
      ring
    rw [shows_.maxBytes, shows_.deque, held, dropLoop_eq]
    refine ⟨rfl, rfl, rfl, ?_, ?_, rfl⟩
    · dsimp only
      rw [shows_.droppedBytes]
      push_cast
      ring
    · dsimp only
      rw [shows_.highWaterMark]
      push_cast
      split_ifs <;> omega

theorem get_shows (shows_ : ring.Shows buffer) :
    (ring.get = none ∧ buffer.get = none) ∨
      ∃ chunk ringAfter bufferAfter, ring.get = some (chunk, ringAfter) ∧
        buffer.get = some (chunk, bufferAfter) ∧ ringAfter.Shows bufferAfter := by
  unfold get TsRingBuffer.get
  rw [shows_.closed, shows_.deque]
  split_ifs
  · exact .inl ⟨rfl, rfl⟩
  · rcases held : buffer.chunks with _ | ⟨chunk, rest⟩
    · exact .inl ⟨rfl, rfl⟩
    · refine .inr ⟨chunk, _, _, rfl, rfl, shows_.maxBytes, rfl, ?_, shows_.droppedBytes,
        shows_.highWaterMark, rfl⟩
      have counted := buffer.counted
      rw [held, bytes_cons] at counted
      dsimp only
      rw [shows_.currentBytes, counted]
      push_cast
      ring

theorem close_shows (shows_ : ring.Shows buffer) : ring.close.Shows buffer.close :=
  ⟨shows_.maxBytes, shows_.deque, shows_.currentBytes, shows_.droppedBytes, shows_.highWaterMark,
    rfl⟩

end CountedRing

end Counters

/-! ### Runs -/

section Runs

/-- A call of the buffer. -/
inductive RingCall
  | put (data : Chunk)
  | get
  | close
  deriving DecidableEq, Repr

/-- A buffer, with every chunk that `put` was called with, those it took, and those that left it from
the front, each with whether `get` returned it. -/
structure RingRun where
  ring : CountedRing
  offered : List Chunk
  taken : List Chunk
  left : List (Chunk × Bool)
  deriving DecidableEq, Repr

namespace RingRun

/-- A new buffer. -/
def start (maxBytes : ℤ) : RingRun := ⟨.create maxBytes, [], [], []⟩

/-- `put` appends the data, or returns at once. -/
def takes (run : RingRun) (data : Chunk) : Bool := data ≠ [] && !run.ring.closed

/-- The chunks that `put` drops from the front. -/
def drops (run : RingRun) (data : Chunk) : List Chunk :=
  (run.ring.deque ++ [data]).take
    ((run.ring.deque ++ [data]).length - (run.ring.put data).deque.length)

/-- **One call.** -/
def step (run : RingRun) : RingCall → RingRun
  | .put data =>
    { ring := run.ring.put data
      offered := run.offered ++ [data]
      taken := if run.takes data then run.taken ++ [data] else run.taken
      left := if run.takes data then run.left ++ (run.drops data).map fun chunk => (chunk, false)
        else run.left }
  | .get =>
    match run.ring.get with
    | none => run
    | some (chunk, ring) => { run with ring := ring, left := run.left ++ [(chunk, true)] }
  | .close => { run with ring := run.ring.close }

/-- The buffer after a sequence of calls. -/
def after (maxBytes : ℤ) (calls : List RingCall) : RingRun := calls.foldl step (start maxBytes)

/-- The chunks that `get` returned, in order. -/
def got (run : RingRun) : List Chunk :=
  (run.left.filter fun leaver => leaver.2).map Prod.fst

/-- The length of the chunk that was taken last. -/
def newestBytes (run : RingRun) : ℕ := (run.taken.getLast?.map List.length).getD 0

/-- **The accounts of a buffer.** -/
structure Accounted (run : RingRun) : Prop where
  /-- What was taken has left, from the front, or is held. -/
  inOrder : run.left.map Prod.fst ++ run.ring.deque = run.taken
  held : run.ring.currentBytes = bytes run.ring.deque
  conserved : (bytes run.taken : ℤ) =
    bytes run.got + run.ring.droppedBytes + run.ring.currentBytes
  capped : run.ring.currentBytes ≤ max run.ring.maxBytes run.newestBytes

end RingRun

/-- Of some chunks put last into a buffer, one chunk that is left is the last. -/
theorem bytes_dropOldest_le (maxBytes : ℕ) (chunks : List Chunk) (data : Chunk) :
    bytes (dropOldest maxBytes (chunks ++ [data])).2 ≤ max maxBytes data.length := by
  rcases dropOldest_fits maxBytes (chunks ++ [data]) with fits | short
  · exact fits.trans (le_max_left _ _)
  · have split := dropOldest_append maxBytes (chunks ++ [data])
    rcases kept : (dropOldest maxBytes (chunks ++ [data])).2 with _ | ⟨chunk, rest⟩
    · exact Nat.zero_le _
    · rw [kept] at split short
      obtain rfl : rest = [] := List.length_eq_zero_iff.mp (by simpa using short)
      obtain ⟨-, last⟩ := List.append_inj' split rfl
      obtain rfl : chunk = data := List.head_eq_of_cons_eq last
      rw [bytes_cons, bytes_nil, Nat.add_zero]
      exact le_max_right _ _

namespace RingRun

variable {run : RingRun} {buffer : TsRingBuffer}

/-- Chunks that are dropped are not got. -/
theorem got_append_dropped (left : List (Chunk × Bool)) (dropped : List Chunk) :
    ((left ++ dropped.map fun chunk => (chunk, false)).filter fun leaver => leaver.2).map Prod.fst =
      (left.filter fun leaver => leaver.2).map Prod.fst := by
  rw [List.filter_append, List.map_append]
  simp

/-- **A chunk that is taken** is held, and what it pushes out is dropped. -/
theorem Accounted.put (accounted : run.Accounted) (shows_ : run.ring.Shows buffer) (data : Chunk) :
    (run.step (.put data)).Accounted := by
  have after := CountedRing.put_shows shows_ data
  by_cases takes : run.takes data = true
  · obtain ⟨some', isOpen⟩ : data ≠ [] ∧ run.ring.closed = false := by
      simpa [RingRun.takes] using takes
    have put : buffer.put data =
        { maxBytes := buffer.maxBytes
          chunks := (dropOldest buffer.maxBytes (buffer.chunks ++ [data])).2
          currentBytes := bytes (dropOldest buffer.maxBytes (buffer.chunks ++ [data])).2
          droppedBytes := buffer.droppedBytes +
            bytes (dropOldest buffer.maxBytes (buffer.chunks ++ [data])).1
          highWaterMark := max buffer.highWaterMark
            (bytes (dropOldest buffer.maxBytes (buffer.chunks ++ [data])).2)
          closed := buffer.closed } := by
      rw [TsRingBuffer.put, if_neg (by simp [some', ← shows_.closed, isOpen])]
    have split := dropOldest_append buffer.maxBytes (buffer.chunks ++ [data])
    have capped := bytes_dropOldest_le buffer.maxBytes buffer.chunks data
    rw [put] at after
    generalize dropOldest buffer.maxBytes (buffer.chunks ++ [data]) = parts at split capped after
    have drops : run.drops data = parts.1 := by
      rw [drops, after.deque, shows_.deque, ← split, List.length_append, Nat.add_sub_cancel,
        List.take_left]
    have newest : (run.step (.put data)).newestBytes = data.length := by
      simp [newestBytes, step, takes]
    have taken : (run.step (.put data)).taken = run.taken ++ [data] := if_pos takes
    have left : (run.step (.put data)).left =
        run.left ++ parts.1.map fun chunk => (chunk, false) := by
      rw [← drops]
      exact if_pos takes
    constructor
    · rw [left, taken, ← accounted.inOrder, List.map_append, List.map_map, List.append_assoc,
        List.append_assoc, shows_.deque, ← split]
      congr 1
      rw [show (run.step (.put data)).ring.deque = parts.2 from after.deque]
      congr 1
      exact List.map_id parts.1
    · rw [show (run.step (.put data)).ring.currentBytes = _ from after.currentBytes,
        show (run.step (.put data)).ring.deque = _ from after.deque]
    · have whole : (bytes parts.1 : ℤ) + bytes parts.2 = bytes run.ring.deque + data.length := by
        rw [shows_.deque, ← Nat.cast_add, ← bytes_append, split, bytes_append, bytes_cons, bytes_nil]
        push_cast
        ring
      have before := accounted.conserved
      rw [got, left, got_append_dropped, taken, bytes_append, bytes_cons, bytes_nil,
        show (run.step (.put data)).ring.currentBytes = _ from after.currentBytes,
        show (run.step (.put data)).ring.droppedBytes = _ from after.droppedBytes]
      rw [accounted.held, shows_.droppedBytes] at before
      dsimp only
      push_cast
      unfold got at before
      omega
    · rw [newest, show (run.step (.put data)).ring.currentBytes = _ from after.currentBytes,
        show (run.step (.put data)).ring.maxBytes = _ from after.maxBytes]
      dsimp only
      exact_mod_cast capped
  · -- the chunk is refused: nothing changes but what was offered
    have refused : data = [] ∨ run.ring.closed = true := by
      simpa [RingRun.takes, or_iff_not_imp_left] using takes
    have same : run.step (.put data) = { run with offered := run.offered ++ [data] } := by
      rw [step, if_neg takes, if_neg takes, CountedRing.put, if_pos refused]
    rw [same]
    exact ⟨accounted.inOrder, accounted.held, accounted.conserved, accounted.capped⟩

/-- A chunk that is got was held first. -/
theorem Accounted.get (accounted : run.Accounted) : (run.step .get).Accounted := by
  rw [step, CountedRing.get]
  split_ifs
  · exact accounted
  · rcases held : run.ring.deque with _ | ⟨chunk, rest⟩
    · exact accounted
    · have order := accounted.inOrder
      have bytesHeld := accounted.held
      have conserved := accounted.conserved
      have capped := accounted.capped
      rw [held] at order bytesHeld
      rw [bytes_cons] at bytesHeld
      push_cast at bytesHeld
      constructor
      · rw [← order, List.map_append, List.append_assoc]
        rfl
      · dsimp only
        omega
      · have got_ : (({ run with
            ring := { run.ring with
              deque := rest, currentBytes := run.ring.currentBytes - chunk.length }
            left := run.left ++ [(chunk, true)] } : RingRun).got) = run.got ++ [chunk] := by
          rw [got, got, List.filter_append, List.map_append]
          rfl
        dsimp only at got_ ⊢
        rw [got_, bytes_append, bytes_cons, bytes_nil]
        push_cast
        omega
      · refine le_trans ?_ capped
        dsimp only
        omega

/-- The chunks that were got are some of those taken, in the order in which they were. -/
theorem Accounted.got_sublist (accounted : run.Accounted) : run.got.Sublist run.taken := by
  rw [← accounted.inOrder]
  exact (List.Sublist.map Prod.fst List.filter_sublist).trans (List.sublist_append_left _ _)

/-- A buffer with its counters is accounted for. -/
def Counted (run : RingRun) : Prop :=
  (∃ buffer, run.ring.Shows buffer) ∧ run.Accounted

theorem start_counted (maxBytes : ℤ) : (start maxBytes).Counted := by
  refine ⟨⟨_, CountedRing.create_shows maxBytes⟩, rfl, rfl, rfl, ?_⟩
  exact le_trans (by decide : (0 : ℤ) ≤ 64 * 1024) ((le_max_left _ _).trans (le_max_left _ _))

theorem Counted.step (counted : run.Counted) (call : RingCall) : (run.step call).Counted := by
  obtain ⟨⟨buffer, shows_⟩, accounted⟩ := counted
  cases call with
  | put data => exact ⟨⟨_, CountedRing.put_shows shows_ data⟩, accounted.put shows_ data⟩
  | get =>
    refine ⟨?_, accounted.get⟩
    rcases CountedRing.get_shows shows_ with ⟨none_, -⟩ | ⟨chunk, ring, buffer, some_, -, shows_⟩
    · rw [RingRun.step, none_]
      exact ⟨buffer, shows_⟩
    · rw [RingRun.step, some_]
      exact ⟨buffer, shows_⟩
  | close =>
    exact ⟨⟨_, CountedRing.close_shows shows_⟩, accounted.inOrder, accounted.held,
      accounted.conserved, accounted.capped⟩

theorem foldl_counted (calls : List RingCall) :
    ∀ {run : RingRun}, run.Counted → (calls.foldl RingRun.step run).Counted := by
  induction calls with
  | nil => exact id
  | cons call rest ih => exact fun counted => ih (counted.step call)

end RingRun

/-- No call changes the cap. -/
theorem foldl_maxBytes (calls : List RingCall) (run : RingRun) :
    (calls.foldl RingRun.step run).ring.maxBytes = run.ring.maxBytes := by
  induction calls generalizing run with
  | nil => rfl
  | cons call rest ih =>
    rw [List.foldl_cons, ih]
    cases call with
    | put data =>
      show (run.ring.put data).maxBytes = _
      unfold CountedRing.put
      split_ifs <;> rfl
    | get =>
      unfold RingRun.step CountedRing.get
      dsimp only
      split_ifs
      · rfl
      · cases run.ring.deque <;> rfl
    | close => rfl

/-- **The ring buffer accounts for its bytes.** After every sequence of calls the chunks came out in
the order in which they were put, the counter is the length of the chunks held, the bytes that were
put while the buffer was open are those got, dropped and held, and no more than the cap is held, which
is 64 KB at least, or the newest chunk alone. -/
theorem ring_accounted (maxBytes : ℤ) (calls : List RingCall) :
    let run := RingRun.after maxBytes calls
    run.got.Sublist run.taken ∧
    run.left.map Prod.fst ++ run.ring.deque = run.taken ∧
    run.ring.currentBytes = bytes run.ring.deque ∧
    (bytes run.taken : ℤ) = bytes run.got + run.ring.droppedBytes + run.ring.currentBytes ∧
    run.ring.currentBytes ≤ max (max (64 * 1024) maxBytes) run.newestBytes := by
  obtain ⟨-, accounted⟩ := RingRun.foldl_counted calls (RingRun.start_counted maxBytes)
  have cap := foldl_maxBytes calls (RingRun.start maxBytes)
  refine ⟨accounted.got_sublist, accounted.inOrder, accounted.held, accounted.conserved, ?_⟩
  have capped := accounted.capped
  rwa [cap] at capped

/-- **A chunk that comes late is in no count**: the buffer is closed, and it is not got, not dropped
and not held. And a cap below 64 KB is no cap: two chunks can be held that it has no room for. -/
theorem late_put_is_lost :
    (¬ ∀ (maxBytes : ℤ) (calls : List RingCall),
      (bytes (RingRun.after maxBytes calls).offered : ℤ) =
        bytes (RingRun.after maxBytes calls).got + (RingRun.after maxBytes calls).ring.droppedBytes +
          (RingRun.after maxBytes calls).ring.currentBytes) ∧
    ¬ ∀ (maxBytes : ℤ) (calls : List RingCall),
      (RingRun.after maxBytes calls).ring.currentBytes ≤
        max maxBytes (RingRun.after maxBytes calls).newestBytes := by
  constructor
  · intro all
    exact absurd (all 65536 [.close, .put [0]]) (by decide)
  · intro all
    exact absurd (all 1 [.put [0], .put [0]]) (by decide)

end Runs

end Retrovue.Core.Streams
