/-
**The evidence spool and the emitter over it** (`evidence/EvidenceSpool.cpp`,
`evidence/EvidenceEmitter.cpp`).

* `EvidenceSpool`: the byte accounts, the writer's queue, the spool file and the ack file, with
  `Append`, `UpdateAck`, `flush` (one turn of the writer thread) and `PendingBytes`;
* `Emitter.Emit`: an envelope is made, appended, and sent when it was accepted;
* `Session.step`: the calls of the tick thread and of the ack reader, and the writer's turns, in any
  order;
* `SpoolInv`, and `step_spoolInv`: what the calls keep while no record is emitted after a refused one.
-/

import Retrovue.Air.Evidence.Envelope
import Retrovue.Foundation.Transition

namespace Retrovue.Air.Evidence

open Retrovue.Foundation.FlatJson Retrovue.Foundation.Transition

/-! ### The spool -/

section Spool

/-- `AppendStatus`. -/
inductive AppendStatus where
  | kOk
  | kSpoolFull
  deriving DecidableEq

/-- What writing the ack file came to: the new content, the old one, or an emptied file. -/
inductive AckWrite where
  | saved
  | kept
  | emptied
  deriving DecidableEq

/-- `EvidenceSpool`, with the records of its file and the sequence its ack file tells. -/
structure EvidenceSpool where
  max_spool_bytes : Nat
  estimated_spool_bytes : Nat := 0
  acked_byte_offset : Nat := 0
  record_byte_sizes : List Nat := []
  ack_cursor : Nat := 0
  last_appended_sequence : Nat := 0
  write_queue : List EvidenceFromAir := []
  file : List EvidenceFromAir := []
  ackFile : Nat := 0

/-- The bytes of a record: its line and the line break. -/
def EvidenceFromAir.recordBytes (m : EvidenceFromAir) : Nat := m.ToJsonLine.length + 1

/-- `PendingBytes`. -/
def EvidenceSpool.PendingBytes (s : EvidenceSpool) : Nat :=
  s.estimated_spool_bytes - s.acked_byte_offset

/-- The text of the exception for a gap. -/
def gapDetected (expected got : Nat) : String :=
  "EvidenceSpool: sequence gap detected (expected " ++ toString expected ++ ", got " ++
    toString got ++ ")"

/-- The record is accounted for and queued. -/
def EvidenceSpool.enqueue (s : EvidenceSpool) (msg : EvidenceFromAir) : EvidenceSpool :=
  { s with
    estimated_spool_bytes := s.estimated_spool_bytes + msg.recordBytes
    record_byte_sizes := s.record_byte_sizes ++ [msg.recordBytes]
    last_appended_sequence := msg.sequence
    write_queue := s.write_queue ++ [msg] }

/-- **`Append`**: a gap throws, a record above the cap is refused. -/
def EvidenceSpool.Append (s : EvidenceSpool) (msg : EvidenceFromAir) :
    Except String (EvidenceSpool × AppendStatus) :=
  if s.last_appended_sequence ≠ 0 ∧ msg.sequence ≠ s.last_appended_sequence + 1 then
    .error (gapDetected (s.last_appended_sequence + 1) msg.sequence)
  else if 0 < s.max_spool_bytes ∧ s.max_spool_bytes < s.PendingBytes + msg.recordBytes then
    .ok (s, .kSpoolFull)
  else .ok (s.enqueue msg, .kOk)

/-- The loop of `UpdateAck` over the sizes from the cursor on. -/
def advanceAck (seq : Nat) : List Nat → Nat → Nat → Nat × Nat
  | [], cursor, offset => (cursor, offset)
  | size :: rest, cursor, offset =>
    if cursor < seq then advanceAck seq rest (cursor + 1) (offset + size) else (cursor, offset)

/-- What the ack file tells after the write. -/
def AckWrite.tells (old seq : Nat) : AckWrite → Nat
  | .saved => seq
  | .kept => old
  | .emptied => 0

/-- The cursor is advanced and the ack file written. -/
def EvidenceSpool.advance (s : EvidenceSpool) (seq : Nat) (write : AckWrite) : EvidenceSpool :=
  let advanced := advanceAck seq (s.record_byte_sizes.drop s.ack_cursor) s.ack_cursor
    s.acked_byte_offset
  { s with
    ack_cursor := advanced.1
    acked_byte_offset := advanced.2
    ackFile := write.tells s.ackFile seq }

/-- **`UpdateAck`**: an ack that the file already tells changes nothing. -/
def EvidenceSpool.UpdateAck (s : EvidenceSpool) (seq : Nat) (write : AckWrite) : EvidenceSpool :=
  if seq ≤ s.ackFile then s else s.advance seq write

/-- One turn of `WriterLoop`: the queue goes to the file. -/
def EvidenceSpool.flush (s : EvidenceSpool) : EvidenceSpool :=
  { s with write_queue := [], file := s.file ++ s.write_queue }

/-- The records accepted so far. -/
def EvidenceSpool.accepted (s : EvidenceSpool) : List EvidenceFromAir := s.file ++ s.write_queue

end Spool

/-! ### The emitter -/

section Emit

/-- The emitter, its spool, what was handed to the client, and the highest sequence acked. -/
structure Session where
  emitter : Emitter
  spool : EvidenceSpool
  sent : List EvidenceFromAir := []
  lastAck : Nat := 0

/-- How a call of the emitter ends. -/
inductive Outcome where
  | sent
  | refused
  | threw (text : String)
  deriving DecidableEq

/-- **The common body of the `Emit` functions.** A refused record has taken its sequence number. -/
def Session.Emit (e : Session) (p : Payload) (event_uuid emitted_utc : Text) :
    Session × Outcome :=
  let msg := e.emitter.envelope p event_uuid emitted_utc
  let numbered := { e.emitter with sequence := e.emitter.sequence + 1 }
  match e.spool.Append msg with
  | .error text => ({ e with emitter := numbered }, .threw text)
  | .ok (spool, .kSpoolFull) =>
    ({ e with emitter := { numbered with degraded := true }, spool := spool }, .refused)
  | .ok (spool, .kOk) =>
    ({ e with
      emitter := { numbered with degraded := false }
      spool := spool
      sent := e.sent ++ [msg] }, .sent)

/-- What the threads do, one at a time. -/
inductive SpoolAction where
  | emit (p : Payload) (event_uuid emitted_utc : Text)
  | updateAck (seq : Nat) (write : AckWrite)
  | flush

/-- **One call.** -/
def Session.step (e : Session) : SpoolAction → Option Session
  | .emit p event_uuid emitted_utc => some (e.Emit p event_uuid emitted_utc).1
  | .updateAck seq write =>
    some { e with spool := e.spool.UpdateAck seq write, lastAck := max e.lastAck seq }
  | .flush => some { e with spool := e.spool.flush }

/-- A new session. -/
def Session.start (channel_id playout_session_id : Text) (max_spool_bytes : Nat) : Session where
  emitter := { channel_id := channel_id, playout_session_id := playout_session_id }
  spool := { max_spool_bytes := max_spool_bytes }

end Emit

/-! ### What the spool owes -/

section Owed

/-- The total size of records. -/
def totalBytes (records : List EvidenceFromAir) : Nat :=
  (records.map EvidenceFromAir.recordBytes).sum

/-- **The accepted records above the last ack.** -/
def Session.unacked (e : Session) : List EvidenceFromAir :=
  e.spool.accepted.filter fun m => e.lastAck < m.sequence

/-- `PendingBytes` is the size of the unacked records. -/
def Session.PendingExact (e : Session) : Prop := e.spool.PendingBytes = totalBytes e.unacked

/-- The record fits under the cap with the unacked ones. -/
def Session.HasRoom (e : Session) (p : Payload) (event_uuid emitted_utc : Text) : Prop :=
  e.spool.max_spool_bytes = 0 ∨
    totalBytes e.unacked + (e.emitter.envelope p event_uuid emitted_utc).recordBytes ≤
      e.spool.max_spool_bytes

/-- **What a call owes**: the pending bytes are exact before and after it; an emitted record is
accepted when it has room, with the degraded mode left, and refused otherwise. -/
def Session.Recovers (e : Session) (action : SpoolAction) : Prop :=
  e.PendingExact ∧ (∀ next, e.step action = some next → next.PendingExact) ∧
    match action with
    | .emit p event_uuid emitted_utc =>
      (e.HasRoom p event_uuid emitted_utc → (e.Emit p event_uuid emitted_utc).2 = .sent ∧
        (e.Emit p event_uuid emitted_utc).1.emitter.degraded = false) ∧
      (¬ e.HasRoom p event_uuid emitted_utc → (e.Emit p event_uuid emitted_utc).2 = .refused)
    | _ => True

/-- **No record is emitted after one was refused behind an accepted one, and acks are of accepted
records, all of them when refused ones came before them.** -/
def Session.Orderly (e : Session) : SpoolAction → Prop
  | .emit _ _ _ =>
    e.spool.last_appended_sequence = 0 ∨ e.emitter.sequence = e.spool.last_appended_sequence
  | .updateAck seq _ =>
    seq ≤ e.spool.ackFile ∨ seq = e.spool.last_appended_sequence ∨
      (seq < e.spool.last_appended_sequence ∧
        e.spool.record_byte_sizes.length = e.spool.last_appended_sequence)
  | .flush => True

instance (e : Session) (action : SpoolAction) : Decidable (e.Orderly action) := by
  cases action with
  | emit p event_uuid emitted_utc =>
    exact inferInstanceAs (Decidable (e.spool.last_appended_sequence = 0 ∨
      e.emitter.sequence = e.spool.last_appended_sequence))
  | updateAck seq write =>
    exact inferInstanceAs (Decidable (seq ≤ e.spool.ackFile ∨
      seq = e.spool.last_appended_sequence ∨ (seq < e.spool.last_appended_sequence ∧
        e.spool.record_byte_sizes.length = e.spool.last_appended_sequence)))
  | flush => exact inferInstanceAs (Decidable True)

end Owed

/-! ### The loop of the acks -/

section Advance

/-- **What the loop of `UpdateAck` comes to.** -/
theorem advanceAck_eq (seq : Nat) : ∀ (sizes : List Nat) (cursor offset : Nat),
    advanceAck seq sizes cursor offset =
      (cursor + min (seq - cursor) sizes.length, offset + (sizes.take (seq - cursor)).sum)
  | [], cursor, offset => by simp [advanceAck]
  | size :: rest, cursor, offset => by
    rw [advanceAck]
    split
    · rename_i below
      obtain ⟨left, here⟩ : ∃ left, seq - cursor = left + 1 := ⟨seq - cursor - 1, by omega⟩
      rw [advanceAck_eq seq rest, here, List.take_succ_cons, List.sum_cons, List.length_cons,
        show seq - (cursor + 1) = left by omega]
      refine Prod.ext ?_ ?_
      · show cursor + 1 + min left rest.length = cursor + min (left + 1) (rest.length + 1)
        omega
      · show offset + size + _ = offset + (size + _)
        omega
    · rename_i past
      simp [show seq - cursor = 0 by omega]

end Advance

/-! ### The invariant -/

section Invariant

/-- **What the calls keep**: the accepted records are numbered in a row up to the last one, the sizes
are theirs, and the cursor stands behind the acked ones. -/
structure SpoolInv (e : Session) : Prop where
  sizes : e.spool.record_byte_sizes = e.spool.accepted.map EvidenceFromAir.recordBytes
  numbered : e.spool.accepted.map EvidenceFromAir.sequence =
    List.range' (e.spool.last_appended_sequence + 1 - e.spool.accepted.length)
      e.spool.accepted.length
  last : e.spool.accepted.length ≤ e.spool.last_appended_sequence
  none_ : e.spool.accepted = [] → e.spool.last_appended_sequence = 0
  emitted : e.spool.last_appended_sequence ≤ e.emitter.sequence
  estimated : e.spool.estimated_spool_bytes = e.spool.record_byte_sizes.sum
  cursor : e.spool.ack_cursor =
    e.lastAck - (e.spool.last_appended_sequence - e.spool.accepted.length)
  offset : e.spool.acked_byte_offset = (e.spool.record_byte_sizes.take e.spool.ack_cursor).sum
  acked : e.lastAck ≤ e.spool.last_appended_sequence
  onFile : e.spool.ackFile ≤ e.lastAck

/-- The records above a number, when they are numbered in a row. -/
theorem filter_above (low : Nat) : ∀ (records : List EvidenceFromAir) (first : Nat),
    records.map EvidenceFromAir.sequence = List.range' first records.length →
      records.filter (fun m => low < m.sequence) = records.drop (low + 1 - first)
  | [], _, _ => by simp
  | m :: rest, first, numbered => by
    rw [List.map_cons, List.length_cons, List.range'_succ, List.cons_eq_cons] at numbered
    obtain ⟨here, later⟩ := numbered
    have rests := filter_above low rest (first + 1) later
    by_cases above : low < m.sequence
    · rw [List.filter_cons_of_pos (by simpa using above), rests,
        show low + 1 - (first + 1) = 0 by omega, show low + 1 - first = 0 by omega]
      rfl
    · rw [List.filter_cons_of_neg (by simpa using above), rests,
        show low + 1 - first = (low + 1 - (first + 1)) + 1 by omega, List.drop_succ_cons]

/-- **The pending bytes are exact.** -/
theorem SpoolInv.pendingExact {e : Session} (inv : SpoolInv e) : e.PendingExact := by
  have last := inv.last
  have above := filter_above e.lastAck e.spool.accepted _ inv.numbered
  have split := List.sum_take_add_sum_drop e.spool.record_byte_sizes e.spool.ack_cursor
  have here : e.lastAck + 1 - (e.spool.last_appended_sequence + 1 - e.spool.accepted.length) =
      e.spool.ack_cursor := by
    have cursor := inv.cursor
    omega
  have rest : totalBytes e.unacked = (e.spool.record_byte_sizes.drop e.spool.ack_cursor).sum := by
    rw [totalBytes, Session.unacked, above, here, inv.sizes, List.map_drop]
  rw [Session.PendingExact, EvidenceSpool.PendingBytes, inv.estimated, inv.offset, rest]
  omega

theorem spoolInv_start (channel_id playout_session_id : Text) (max_spool_bytes : Nat) :
    SpoolInv (Session.start channel_id playout_session_id max_spool_bytes) where
  sizes := rfl
  numbered := rfl
  last := Nat.le_refl _
  none_ := fun _ => rfl
  emitted := Nat.le_refl _
  estimated := rfl
  cursor := rfl
  offset := rfl
  acked := Nat.le_refl _
  onFile := Nat.le_refl _

/-- No accepted record is the same as no number. -/
theorem SpoolInv.accepted_eq_nil {e : Session} (inv : SpoolInv e) :
    e.spool.last_appended_sequence = 0 ↔ e.spool.accepted = [] := by
  constructor
  · intro zero
    have last := inv.last
    rw [zero] at last
    exact List.eq_nil_of_length_eq_zero (Nat.le_zero.mp last)
  · exact inv.none_

end Invariant

/-! ### One call -/

section OneCall

variable {e : Session}

@[simp] theorem accepted_enqueue (s : EvidenceSpool) (msg : EvidenceFromAir) :
    (s.enqueue msg).accepted = s.accepted ++ [msg] :=
  (List.append_assoc s.file s.write_queue [msg]).symm

@[simp] theorem accepted_flush (s : EvidenceSpool) : s.flush.accepted = s.accepted :=
  List.append_nil _

theorem tells_le (write : AckWrite) (old seq : Nat) : write.tells old seq ≤ max old seq := by
  cases write with
  | saved => exact Nat.le_max_right _ _
  | kept => exact Nat.le_max_left _ _
  | emptied => exact Nat.zero_le _

/-- `Append` in order, with room. -/
theorem Append_of_room {s : EvidenceSpool} {msg : EvidenceFromAir}
    (inOrder : s.last_appended_sequence = 0 ∨ msg.sequence = s.last_appended_sequence + 1)
    (room : s.max_spool_bytes = 0 ∨ s.PendingBytes + msg.recordBytes ≤ s.max_spool_bytes) :
    s.Append msg = .ok (s.enqueue msg, .kOk) := by
  rw [EvidenceSpool.Append, if_neg (by omega), if_neg (by omega)]

/-- `Append` in order, without room. -/
theorem Append_of_full {s : EvidenceSpool} {msg : EvidenceFromAir}
    (inOrder : s.last_appended_sequence = 0 ∨ msg.sequence = s.last_appended_sequence + 1)
    (full : ¬ (s.max_spool_bytes = 0 ∨ s.PendingBytes + msg.recordBytes ≤ s.max_spool_bytes)) :
    s.Append msg = .ok (s, .kSpoolFull) := by
  rw [EvidenceSpool.Append, if_neg (by omega), if_pos (by omega)]

/-- The cursor stands among the records. -/
theorem SpoolInv.cursor_le (inv : SpoolInv e) : e.spool.ack_cursor ≤ e.spool.accepted.length := by
  have last := inv.last
  have cursor := inv.cursor
  have acked := inv.acked
  omega

theorem SpoolInv.length_sizes (inv : SpoolInv e) :
    e.spool.record_byte_sizes.length = e.spool.accepted.length := by
  rw [inv.sizes, List.length_map]

/-- **An accepted record keeps the invariant**: it starts the row, or continues it. -/
theorem SpoolInv.accept (inv : SpoolInv e) {msg : EvidenceFromAir} {emitter : Emitter}
    {sent : List EvidenceFromAir} (numbered : msg.sequence = e.emitter.sequence + 1)
    (taken : emitter.sequence = e.emitter.sequence + 1)
    (orderly : e.spool.last_appended_sequence = 0 ∨
      e.emitter.sequence = e.spool.last_appended_sequence) :
    SpoolInv ⟨emitter, e.spool.enqueue msg, sent, e.lastAck⟩ := by
  have last := inv.last
  have cursor := inv.cursor
  have acked := inv.acked
  have emitted := inv.emitted
  have behind := inv.cursor_le
  have lengths := inv.length_sizes
  have row : e.spool.accepted.length = 0 ∨
      e.emitter.sequence = e.spool.last_appended_sequence := by
    rcases orderly with zero | next
    · left
      rw [inv.accepted_eq_nil.mp zero, List.length_nil]
    · exact .inr next
  have grown : (e.spool.enqueue msg).accepted.length = e.spool.accepted.length + 1 := by
    rw [accepted_enqueue, List.length_append, List.length_singleton]
  constructor
  · show e.spool.record_byte_sizes ++ [msg.recordBytes] = _
    rw [accepted_enqueue, List.map_append, inv.sizes]
    rfl
  · show _ = List.range' (msg.sequence + 1 - _) _
    rw [grown, accepted_enqueue, List.map_append, inv.numbered, List.range'_concat, numbered]
    congr 1
    · rcases row with empty | next
      · rw [empty]
        rfl
      · congr 1
        omega
    · rw [List.map_singleton, numbered]
      congr 1
      omega
  · show (e.spool.enqueue msg).accepted.length ≤ msg.sequence
    omega
  · intro empty
    rw [accepted_enqueue] at empty
    exact absurd empty (by simp)
  · show msg.sequence ≤ emitter.sequence
    omega
  · show e.spool.estimated_spool_bytes + msg.recordBytes =
      (e.spool.record_byte_sizes ++ [msg.recordBytes]).sum
    rw [inv.estimated, List.sum_append, List.sum_singleton]
  · show e.spool.ack_cursor = e.lastAck - (msg.sequence - (e.spool.enqueue msg).accepted.length)
    omega
  · show e.spool.acked_byte_offset =
      ((e.spool.record_byte_sizes ++ [msg.recordBytes]).take e.spool.ack_cursor).sum
    rw [List.take_append_of_le_length (by omega)]
    exact inv.offset
  · show e.lastAck ≤ msg.sequence
    omega
  · exact inv.onFile

/-- **An ack keeps the invariant.** -/
theorem SpoolInv.ack (inv : SpoolInv e) (seq : Nat) (write : AckWrite)
    (orderly : e.Orderly (.updateAck seq write)) :
    SpoolInv ⟨e.emitter, e.spool.UpdateAck seq write, e.sent, max e.lastAck seq⟩ := by
  have last := inv.last
  have cursor := inv.cursor
  have acked := inv.acked
  have onFile := inv.onFile
  have lengths := inv.length_sizes
  unfold EvidenceSpool.UpdateAck
  split
  · rename_i old
    rw [show max e.lastAck seq = e.lastAck by omega]
    exact inv
  · rename_i new
    have covers : seq = e.spool.last_appended_sequence ∨
        (seq < e.spool.last_appended_sequence ∧
          e.spool.record_byte_sizes.length = e.spool.last_appended_sequence) :=
      orderly.resolve_left new
    have advanced := advanceAck_eq seq (e.spool.record_byte_sizes.drop e.spool.ack_cursor)
      e.spool.ack_cursor e.spool.acked_byte_offset
    constructor
    · exact inv.sizes
    · exact inv.numbered
    · exact inv.last
    · exact inv.none_
    · exact inv.emitted
    · exact inv.estimated
    · show (advanceAck _ _ _ _).1 = max e.lastAck seq -
        (e.spool.last_appended_sequence - e.spool.accepted.length)
      rw [advanced, List.length_drop]
      show _ + _ = _
      omega
    · show (advanceAck _ _ _ _).2 = (e.spool.record_byte_sizes.take (advanceAck _ _ _ _).1).sum
      rw [advanced, inv.offset, List.take_add, List.sum_append, List.length_drop]
      show _ + _ = _ + _
      congr 2
      rw [List.take_eq_take_iff, List.length_drop]
      omega
    · show max e.lastAck seq ≤ e.spool.last_appended_sequence
      omega
    · show write.tells e.spool.ackFile seq ≤ max e.lastAck seq
      have := tells_le write e.spool.ackFile seq
      omega

/-- A turn of the writer keeps the invariant. -/
theorem SpoolInv.flush (inv : SpoolInv e) :
    SpoolInv ⟨e.emitter, e.spool.flush, e.sent, e.lastAck⟩ := by
  constructor
  · rw [accepted_flush]
    exact inv.sizes
  · rw [accepted_flush]
    exact inv.numbered
  · rw [accepted_flush]
    exact inv.last
  · rw [accepted_flush]
    exact inv.none_
  · exact inv.emitted
  · exact inv.estimated
  · rw [accepted_flush]
    exact inv.cursor
  · exact inv.offset
  · exact inv.acked
  · exact inv.onFile

/-- A refused record keeps the invariant: only its number is gone. -/
theorem SpoolInv.refuse (inv : SpoolInv e) {emitter : Emitter}
    (taken : emitter.sequence = e.emitter.sequence + 1) :
    SpoolInv ⟨emitter, e.spool, e.sent, e.lastAck⟩ := by
  have emitted := inv.emitted
  refine { inv with emitted := ?_ }
  show e.spool.last_appended_sequence ≤ emitter.sequence
  omega

variable {p : Payload} {event_uuid emitted_utc : Text}

/-- **`Emit` with room**: the record is accepted and sent. -/
theorem SpoolInv.emit_of_room (inv : SpoolInv e)
    (orderly : e.Orderly (.emit p event_uuid emitted_utc))
    (room : e.HasRoom p event_uuid emitted_utc) :
    e.Emit p event_uuid emitted_utc =
      (⟨{ e.emitter with sequence := e.emitter.sequence + 1, degraded := false },
        e.spool.enqueue (e.emitter.envelope p event_uuid emitted_utc),
        e.sent ++ [e.emitter.envelope p event_uuid emitted_utc], e.lastAck⟩, .sent) := by
  have exact_ := inv.pendingExact
  have inOrder : e.spool.last_appended_sequence = 0 ∨
      (e.emitter.envelope p event_uuid emitted_utc).sequence =
        e.spool.last_appended_sequence + 1 := by
    rw [Emitter.envelope_sequence]
    exact orderly.imp_right (congrArg (· + 1))
  rw [Session.HasRoom, ← exact_] at room
  rw [Session.Emit, Append_of_room inOrder room]

/-- **`Emit` without room**: the record is refused. -/
theorem SpoolInv.emit_of_full (inv : SpoolInv e)
    (orderly : e.Orderly (.emit p event_uuid emitted_utc))
    (full : ¬ e.HasRoom p event_uuid emitted_utc) :
    e.Emit p event_uuid emitted_utc =
      (⟨{ e.emitter with sequence := e.emitter.sequence + 1, degraded := true }, e.spool, e.sent,
        e.lastAck⟩, .refused) := by
  have exact_ := inv.pendingExact
  have inOrder : e.spool.last_appended_sequence = 0 ∨
      (e.emitter.envelope p event_uuid emitted_utc).sequence =
        e.spool.last_appended_sequence + 1 := by
    rw [Emitter.envelope_sequence]
    exact orderly.imp_right (congrArg (· + 1))
  rw [Session.HasRoom, ← exact_] at full
  rw [Session.Emit, Append_of_full inOrder full]

/-- **The step lemma**: an orderly call keeps the invariant. -/
theorem step_spoolInv (e : Session) (action : SpoolAction) (next : Session) (inv : SpoolInv e)
    (orderly : e.Orderly action) (taken : e.step action = some next) : SpoolInv next := by
  cases action with
  | emit p event_uuid emitted_utc =>
    cases taken
    by_cases room : e.HasRoom p event_uuid emitted_utc
    · rw [inv.emit_of_room orderly room]
      exact inv.accept rfl rfl orderly
    · rw [inv.emit_of_full orderly room]
      exact inv.refuse rfl
  | updateAck seq write =>
    cases taken
    exact inv.ack seq write orderly
  | flush =>
    cases taken
    exact inv.flush

/-- What the invariant shows of an orderly call. -/
theorem SpoolInv.recovers (inv : SpoolInv e) {action : SpoolAction} (orderly : e.Orderly action) :
    e.Recovers action := by
  refine ⟨inv.pendingExact, ?_, ?_⟩
  · intro next taken
    exact (step_spoolInv e action next inv orderly taken).pendingExact
  · cases action with
    | emit p event_uuid emitted_utc =>
      constructor
      · intro room
        rw [inv.emit_of_room orderly room]
        exact ⟨rfl, rfl⟩
      · intro full
        rw [inv.emit_of_full orderly full]
    | updateAck seq write => trivial
    | flush => trivial

/-- A call that meets what it owes has not thrown. -/
theorem not_threw (owed : e.Recovers (.emit p event_uuid emitted_utc)) (text : String) :
    (e.Emit p event_uuid emitted_utc).2 ≠ .threw text := by
  obtain ⟨-, -, accepted, refused⟩ := owed
  by_cases room : e.HasRoom p event_uuid emitted_utc
  · rw [(accepted room).1]
    exact Outcome.noConfusion
  · rw [refused room]
    exact Outcome.noConfusion

/-- **The spool recovers**: along every run of orderly calls, nothing throws, a record is refused
exactly when it has no room, and the pending bytes are those of the unacked records. -/
theorem spool_recovers (channel_id playout_session_id : Text) (max_spool_bytes : Nat)
    (actions : List SpoolAction)
    (orderly : Along Session.step Session.Orderly
      (Session.start channel_id playout_session_id max_spool_bytes) actions) :
    Along Session.step Session.Recovers
      (Session.start channel_id playout_session_id max_spool_bytes) actions :=
  along_of_invariant Session.step SpoolInv Session.Orderly Session.Recovers step_spoolInv
    (fun _ _ inv allowed => inv.recovers allowed) actions (spoolInv_start _ _ _) orderly

end OneCall

/-! ### Runs -/

section Runs

/-- An event of the tick thread. -/
def started (swap_tick : UInt64) : SpoolAction :=
  .emit (.blockStart { block_id := "b".toList, swap_tick := swap_tick }) [] []

/-- A session with a small cap. -/
def small : Session := Session.start "ch".toList "ps".toList 300

/-- Emit, ack and emit again is orderly. -/
theorem spool_recovers_small :
    Along Session.step Session.Recovers small [started 1, .flush, .updateAck 1 .saved, started 2] :=
  spool_recovers _ _ _ _ (by decide +kernel)

/-- **The spool does not recover**: after a refused record the next one throws, although every
accepted record is acked and there is room. -/
theorem spool_never_recovers :
    ¬ Along Session.step Session.Recovers small
      [started 1, started 2, .updateAck 1 .saved, started 3] := by
  rintro ⟨-, second⟩
  obtain ⟨-, third⟩ := second _ rfl
  obtain ⟨-, fourth⟩ := third _ rfl
  obtain ⟨owed, -⟩ := fourth _ rfl
  exact not_threw owed (gapDetected 2 3) (by decide +kernel)

end Runs

end Retrovue.Air.Evidence
