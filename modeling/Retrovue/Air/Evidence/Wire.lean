/-
**Evidence on the wire** (`evidence/GrpcEvidenceClient.cpp`, `execution_evidence_v1.proto`).

* `ExtractString`, `ExtractInt64`, …: the substring readers of `ToProto`;
* `ToProto`: the protobuf message built from an envelope;
* `Payload.CarriedBy`: the message has the value of the struct in every field they share;
* `Payload.Survives`: no shared text has a carriage return or a tab, no signed 64-bit field is the
  least one, and the identity fields that are never read are empty;
* `carried_iff`: the message carries the struct exactly when it survives.
-/

import Retrovue.Air.Evidence.Envelope

namespace Retrovue.Air.Evidence

open Retrovue.Foundation.FlatJson

/-! ### The readers -/

section Readers

/-- The letters that `ExtractString` decodes. -/
def wireLetter : Char → Option Char
  | '"' => some '"'
  | '\\' => some '\\'
  | 'n' => some '\n'
  | _ => none

/-- `ExtractString`. -/
def ExtractString (json : Text) (key : String) : Option Text :=
  (after (sought key ['"']) json).bind (readQuoted wireLetter)

/-- The digits a number begins with. -/
def digitsOf (text : Text) : Text := text.takeWhile Char.isDigit

/-- **`ExtractInt64`**: digits out of the range of `stoll` are not read, also after a minus sign. -/
def ExtractInt64 (json : Text) (key : String) : Option Int64 :=
  (after (sought key []) json).bind fun found =>
    let text := found.dropWhile (· = ' ')
    let neg : Bool := text.head? = some '-'
    let digits := digitsOf (if neg then text.tail else text)
    let v := Nat.ofDigitChars 10 digits 0
    if digits = [] then none
    else if v < 2 ^ 63 then some (if neg then -Int64.ofNat v else Int64.ofNat v)
    else none

/-- `ExtractUint64`. -/
def ExtractUint64 (json : Text) (key : String) : Option UInt64 :=
  (after (sought key []) json).bind fun found =>
    let digits := digitsOf (found.dropWhile (· = ' '))
    let v := Nat.ofDigitChars 10 digits 0
    if digits = [] then none
    else if v < 2 ^ 64 then some (UInt64.ofNat v)
    else none

/-- `ExtractInt32`. -/
def ExtractInt32 (json : Text) (key : String) : Option Int32 :=
  (ExtractInt64 json key).map Int64.toInt32

/-- `ExtractBool`. -/
def ExtractBool (json : Text) (key : String) : Option Bool :=
  (after (sought key []) json).bind fun found =>
    let text := found.dropWhile (· = ' ')
    if truth true <+: text then some true
    else if truth false <+: text then some false
    else none

end Readers

/-! ### The messages -/

section Messages

namespace Proto

/-- `Hello`. -/
structure Hello where
  first_sequence_available : Nat := 0
  last_sequence_emitted : Nat := 0
  deriving DecidableEq

/-- `BlockStart`. -/
structure BlockStart where
  block_id : Text := []
  swap_tick : UInt64 := 0
  fence_tick : UInt64 := 0
  actual_start_utc_ms : Int64 := 0
  primed_success : Bool := false
  deriving DecidableEq

/-- `SegmentStart`. -/
structure SegmentStart where
  block_id : Text := []
  event_id : Text := []
  segment_index : Int32 := 0
  actual_start_utc_ms : Int64 := 0
  asset_start_frame : Int64 := 0
  scheduled_duration_ms : Int64 := 0
  join_in_progress : Option Bool := none
  segment_type_name : Text := []
  asset_uri : Text := []
  segment_title : Text := []
  segment_uuid : Text := []
  asset_uuid : Text := []
  deriving DecidableEq

/-- `SegmentEnd`. -/
structure SegmentEnd where
  block_id : Text := []
  event_id_ref : Text := []
  actual_start_utc_ms : Int64 := 0
  actual_end_utc_ms : Int64 := 0
  asset_start_frame : Int64 := 0
  asset_end_frame : Int64 := 0
  computed_duration_ms : Int64 := 0
  computed_duration_frames : Int64 := 0
  status : Text := []
  reason : Text := []
  fallback_frames_used : UInt64 := 0
  segment_uuid : Text := []
  segment_type_name : Text := []
  asset_uuid : Text := []
  deriving DecidableEq

/-- `BlockFence`. -/
structure BlockFence where
  block_id : Text := []
  swap_tick : UInt64 := 0
  fence_tick : UInt64 := 0
  actual_end_utc_ms : Int64 := 0
  ct_at_fence_ms : UInt64 := 0
  total_frames_emitted : UInt64 := 0
  truncated_by_fence : Bool := false
  early_exhaustion : Bool := false
  primed_success : Bool := false
  deriving DecidableEq

/-- `ChannelTerminated`. -/
structure ChannelTerminated where
  termination_utc_ms : Int64 := 0
  reason : Text := []
  detail : Text := []
  deriving DecidableEq

/-- The payload of a message. -/
inductive Payload where
  | hello (m : Hello)
  | block_start (m : BlockStart)
  | segment_end (m : SegmentEnd)
  | block_fence (m : BlockFence)
  | channel_terminated (m : ChannelTerminated)
  | segment_start (m : SegmentStart)
  deriving DecidableEq

/-- `EvidenceFromAir`, the message. -/
structure EvidenceFromAir where
  schema_version : Nat := 0
  channel_id : Text := []
  playout_session_id : Text := []
  sequence : Nat := 0
  event_uuid : Text := []
  emitted_utc : Text := []
  payload : Option Payload := none
  deriving DecidableEq

end Proto

/-- The `BLOCK_START` branch of `ToProto`. -/
def toBlockStart (j : Text) : Proto.BlockStart where
  block_id := (ExtractString j "block_id").getD []
  swap_tick := (ExtractUint64 j "swap_tick").getD 0
  fence_tick := (ExtractUint64 j "fence_tick").getD 0
  actual_start_utc_ms := (ExtractInt64 j "actual_start_utc_ms").getD 0
  primed_success := (ExtractBool j "primed_success").getD false

/-- The `SEGMENT_START` branch: the uuids and the type are not read. -/
def toSegmentStart (j : Text) : Proto.SegmentStart where
  block_id := (ExtractString j "block_id").getD []
  event_id := (ExtractString j "event_id").getD []
  segment_index := (ExtractInt32 j "segment_index").getD 0
  actual_start_utc_ms := (ExtractInt64 j "actual_start_utc_ms").getD 0
  asset_start_frame := (ExtractInt64 j "asset_start_frame").getD 0
  scheduled_duration_ms := (ExtractInt64 j "scheduled_duration_ms").getD 0
  join_in_progress := ExtractBool j "join_in_progress"

/-- The `SEGMENT_END` branch: the uuids and the type are not read. -/
def toSegmentEnd (j : Text) : Proto.SegmentEnd where
  block_id := (ExtractString j "block_id").getD []
  event_id_ref := (ExtractString j "event_id_ref").getD []
  actual_start_utc_ms := (ExtractInt64 j "actual_start_utc_ms").getD 0
  actual_end_utc_ms := (ExtractInt64 j "actual_end_utc_ms").getD 0
  asset_start_frame := (ExtractInt64 j "asset_start_frame").getD 0
  asset_end_frame := (ExtractInt64 j "asset_end_frame").getD 0
  computed_duration_ms := (ExtractInt64 j "computed_duration_ms").getD 0
  computed_duration_frames := (ExtractInt64 j "computed_duration_frames").getD 0
  status := (ExtractString j "status").getD []
  reason := (ExtractString j "reason").getD []
  fallback_frames_used := (ExtractUint64 j "fallback_frames_used").getD 0

/-- The `BLOCK_FENCE` branch. -/
def toBlockFence (j : Text) : Proto.BlockFence where
  block_id := (ExtractString j "block_id").getD []
  swap_tick := (ExtractUint64 j "swap_tick").getD 0
  fence_tick := (ExtractUint64 j "fence_tick").getD 0
  actual_end_utc_ms := (ExtractInt64 j "actual_end_utc_ms").getD 0
  ct_at_fence_ms := (ExtractUint64 j "ct_at_fence_ms").getD 0
  total_frames_emitted := (ExtractUint64 j "total_frames_emitted").getD 0
  truncated_by_fence := (ExtractBool j "truncated_by_fence").getD false
  early_exhaustion := (ExtractBool j "early_exhaustion").getD false
  primed_success := (ExtractBool j "primed_success").getD false

/-- The `CHANNEL_TERMINATED` branch. -/
def toChannelTerminated (j : Text) : Proto.ChannelTerminated where
  termination_utc_ms := (ExtractInt64 j "termination_utc_ms").getD 0
  reason := (ExtractString j "reason").getD []
  detail := (ExtractString j "detail").getD []

/-- **`ToProto`.** -/
def ToProto (m : EvidenceFromAir) : Proto.EvidenceFromAir where
  schema_version := m.schema_version
  channel_id := m.channel_id
  playout_session_id := m.playout_session_id
  sequence := m.sequence
  event_uuid := m.event_uuid
  emitted_utc := m.emitted_utc
  payload :=
    if m.payload_type = "BLOCK_START" then some (.block_start (toBlockStart m.payload))
    else if m.payload_type = "SEGMENT_START" then some (.segment_start (toSegmentStart m.payload))
    else if m.payload_type = "SEGMENT_END" then some (.segment_end (toSegmentEnd m.payload))
    else if m.payload_type = "BLOCK_FENCE" then some (.block_fence (toBlockFence m.payload))
    else if m.payload_type = "CHANNEL_TERMINATED" then
      some (.channel_terminated (toChannelTerminated m.payload))
    else none

end Messages

/-! ### What a message carries -/

section Carried

/-- The fields that `BlockStart` shares with the struct. -/
def BlockStartPayload.CarriedBy (p : BlockStartPayload) (m : Proto.BlockStart) : Prop :=
  m.block_id = p.block_id ∧ m.swap_tick = p.swap_tick ∧
    m.actual_start_utc_ms = p.actual_start_utc_ms ∧ m.primed_success = p.primed_success

/-- The fields that `SegmentStart` shares with the struct. -/
def SegmentStartPayload.CarriedBy (p : SegmentStartPayload) (m : Proto.SegmentStart) : Prop :=
  m.block_id = p.block_id ∧ m.event_id = p.event_id ∧ m.segment_index = p.segment_index ∧
    m.actual_start_utc_ms = p.actual_start_utc_ms ∧ m.asset_start_frame = p.asset_start_frame ∧
    m.scheduled_duration_ms = p.scheduled_duration_ms ∧
    m.join_in_progress = some p.join_in_progress ∧ m.segment_uuid = p.segment_uuid ∧
    m.asset_uuid = p.asset_uuid ∧ m.segment_type_name = p.segment_type

/-- The fields that `SegmentEnd` shares with the struct. -/
def SegmentEndPayload.CarriedBy (p : SegmentEndPayload) (m : Proto.SegmentEnd) : Prop :=
  m.block_id = p.block_id ∧ m.event_id_ref = p.event_id_ref ∧
    m.actual_start_utc_ms = p.actual_start_utc_ms ∧ m.actual_end_utc_ms = p.actual_end_utc_ms ∧
    m.asset_start_frame = p.asset_start_frame ∧ m.asset_end_frame = p.asset_end_frame ∧
    m.computed_duration_ms = p.computed_duration_ms ∧
    m.computed_duration_frames = p.computed_duration_frames ∧ m.status = p.status ∧
    m.reason = p.reason ∧ m.fallback_frames_used = p.fallback_frames_used ∧
    m.segment_uuid = p.segment_uuid ∧ m.segment_type_name = p.segment_type_name ∧
    m.asset_uuid = p.asset_uuid

/-- The fields that `BlockFence` shares with the struct. -/
def BlockFencePayload.CarriedBy (p : BlockFencePayload) (m : Proto.BlockFence) : Prop :=
  m.block_id = p.block_id ∧ m.swap_tick = p.swap_tick ∧ m.fence_tick = p.fence_tick ∧
    m.actual_end_utc_ms = p.actual_end_utc_ms ∧ m.ct_at_fence_ms = p.ct_at_fence_ms ∧
    m.total_frames_emitted = p.total_frames_emitted ∧
    m.truncated_by_fence = p.truncated_by_fence ∧ m.early_exhaustion = p.early_exhaustion ∧
    m.primed_success = p.primed_success

/-- The fields that `ChannelTerminated` shares with the struct. -/
def ChannelTerminatedPayload.CarriedBy (p : ChannelTerminatedPayload)
    (m : Proto.ChannelTerminated) : Prop :=
  m.termination_utc_ms = p.termination_utc_ms ∧ m.reason = p.reason ∧ m.detail = p.detail

/-- **The message is of the payload's kind and has its value in every shared field.** -/
def Payload.CarriedBy : Payload → Proto.EvidenceFromAir → Prop
  | .blockStart p, m => ∃ body, m.payload = some (.block_start body) ∧ p.CarriedBy body
  | .segmentStart p, m => ∃ body, m.payload = some (.segment_start body) ∧ p.CarriedBy body
  | .segmentEnd p, m => ∃ body, m.payload = some (.segment_end body) ∧ p.CarriedBy body
  | .blockFence p, m => ∃ body, m.payload = some (.block_fence body) ∧ p.CarriedBy body
  | .channelTerminated p, m =>
    ∃ body, m.payload = some (.channel_terminated body) ∧ p.CarriedBy body

/-- A text without the characters that the writer escapes and the reader does not know. -/
def Readable (s : Text) : Prop := '\r' ∉ s ∧ '\t' ∉ s

/-- A number whose digits `stoll` reads. -/
def InRange (i : Int64) : Prop := i ≠ Int64.minValue

/-- **What a payload must be to survive the wire.** -/
def Payload.Survives : Payload → Prop
  | .blockStart p => Readable p.block_id ∧ InRange p.actual_start_utc_ms
  | .segmentStart p =>
    (Readable p.block_id ∧ Readable p.event_id) ∧
      (InRange p.actual_start_utc_ms ∧ InRange p.asset_start_frame ∧
        InRange p.scheduled_duration_ms) ∧
      p.segment_uuid = [] ∧ p.asset_uuid = [] ∧ p.segment_type = []
  | .segmentEnd p =>
    (Readable p.block_id ∧ Readable p.event_id_ref ∧ Readable p.status ∧ Readable p.reason) ∧
      (InRange p.actual_start_utc_ms ∧ InRange p.actual_end_utc_ms ∧ InRange p.asset_start_frame ∧
        InRange p.asset_end_frame ∧ InRange p.computed_duration_ms ∧
        InRange p.computed_duration_frames) ∧
      p.segment_uuid = [] ∧ p.segment_type_name = [] ∧ p.asset_uuid = []
  | .blockFence p => Readable p.block_id ∧ InRange p.actual_end_utc_ms
  | .channelTerminated p =>
    InRange p.termination_utc_ms ∧ Readable p.reason ∧ Readable p.detail

end Carried

/-! ### Reading one field -/

section Fields

variable {fields : List (String × Value)} {key : String}

/-- **Fields that can be searched**: plain keys, and quotes in texts only. -/
structure Searchable (fields : List (String × Value)) : Prop where
  plain : ∀ field ∈ fields, plainKey field.1 = true
  clean : ∀ field ∈ fields, field.2.Clean

/-- What the readers find: the value, and a comma or the closing brace after it. -/
theorem Searchable.found {v : Value} (searchable : Searchable fields)
    (present : fields.lookup key = some v) :
    ∃ d tail, (d = ',' ∨ d = '}') ∧ ∀ value rest : Text,
      v.render jsonLetter ++ d :: tail = value ++ rest →
        after (sought key value) (renderObject jsonLetter fields) = some rest :=
  after_renderObject jsonLetter_hides searchable.plain searchable.clean present

/-- The reader's table against the writer's. -/
theorem wireLetter_known (c : Char) :
    Agrees jsonLetter wireLetter c ∨ Unknown jsonLetter wireLetter c := by
  by_cases carriage : c = '\r'
  · subst carriage
    exact .inr ⟨'r', rfl, rfl, by decide, by decide⟩
  by_cases tab : c = '\t'
  · subst tab
    exact .inr ⟨'t', rfl, rfl, by decide, by decide⟩
  left
  intro letter found
  unfold jsonLetter at found
  split at found <;> cases found
  · rfl
  · rfl
  · rfl
  · exact absurd rfl carriage
  · exact absurd rfl tab

theorem unknown_iff (c : Char) : Unknown jsonLetter wireLetter c ↔ c = '\r' ∨ c = '\t' := by
  constructor
  · rintro ⟨letter, found, unknown, -⟩
    unfold jsonLetter at found
    split at found <;> cases found
    · cases unknown
    · cases unknown
    · cases unknown
    · exact .inl rfl
    · exact .inr rfl
  · rintro (rfl | rfl)
    · exact ⟨'r', rfl, rfl, by decide, by decide⟩
    · exact ⟨'t', rfl, rfl, by decide, by decide⟩

/-- **A text field is read back exactly when it is readable.** -/
theorem extractString_iff (searchable : Searchable fields) {s : Text}
    (present : fields.lookup key = some (.text s)) :
    (ExtractString (renderObject jsonLetter fields) key).getD [] = s ↔ Readable s := by
  obtain ⟨d, tail, -, finds⟩ := searchable.found present
  have read : ExtractString (renderObject jsonLetter fields) key =
      some (s.flatMap (reread jsonLetter wireLetter)) := by
    rw [ExtractString, finds ['"'] (escape jsonLetter s ++ '"' :: d :: tail)
      (by simp [Value.render]), Option.bind_some]
    exact readQuoted_escape jsonLetter_hides wireLetter_known s _
  rw [read, Option.getD_some, flatMap_reread_eq_iff wireLetter_known]
  constructor
  · intro known
    exact ⟨fun member => known '\r' member ((unknown_iff _).mpr (.inl rfl)),
      fun member => known '\t' member ((unknown_iff _).mpr (.inr rfl))⟩
  · rintro ⟨noCarriage, noTab⟩ c member unknown
    rcases (unknown_iff c).mp unknown with rfl | rfl
    · exact noCarriage member
    · exact noTab member

/-- The digits before a comma or a brace are those of the number. -/
theorem digitsOf_decimal (n : Nat) {d : Char} (ending : d = ',' ∨ d = '}') (tail : Text) :
    digitsOf (decimal n ++ d :: tail) = decimal n := by
  have stop : d.isDigit = false := by
    rcases ending with rfl | rfl <;> decide
  rw [digitsOf, List.takeWhile_append_of_pos (fun c member => digits_of_decimal member),
    List.takeWhile_cons_of_neg (by simp [stop]), List.append_nil]

theorem decimal_ne_nil (n : Nat) : decimal n ≠ [] := Nat.toDigits_ne_nil

theorem ofDigits_decimal (n : Nat) : Nat.ofDigitChars 10 (decimal n) 0 = n :=
  Nat.ofDigitChars_ten_toDigits

/-- No blank stands before a number. -/
theorem dropWhile_decimal (n : Nat) (rest : Text) :
    (decimal n ++ rest).dropWhile (· = ' ') = decimal n ++ rest := by
  cases digits : decimal n with
  | nil => exact absurd digits (decimal_ne_nil n)
  | cons c cs =>
    have digit : c.isDigit = true := digits_of_decimal (by rw [digits]; exact List.mem_cons_self)
    rw [List.cons_append, List.dropWhile_cons_of_neg]
    simp only [decide_eq_true_eq]
    rintro rfl
    exact absurd digit (by decide)

theorem head_decimal (n : Nat) (rest : Text) : (decimal n ++ rest).head? ≠ some '-' := by
  cases digits : decimal n with
  | nil => exact absurd digits (decimal_ne_nil n)
  | cons c cs =>
    have digit : c.isDigit = true := digits_of_decimal (by rw [digits]; exact List.mem_cons_self)
    rw [List.cons_append, List.head?_cons, ne_eq, Option.some_inj]
    rintro rfl
    exact absurd digit (by decide)

/-- **What is read of a signed number**: the number, unless its digits are out of range. -/
theorem extractInt64_signed (searchable : Searchable fields) {i : Int}
    (present : fields.lookup key = some (.bare (signed i))) :
    ExtractInt64 (renderObject jsonLetter fields) key =
      if i.natAbs < 2 ^ 63 then some (Int64.ofInt i) else none := by
  obtain ⟨d, tail, ending, finds⟩ := searchable.found present
  rw [ExtractInt64, finds [] (signed i ++ d :: tail) rfl, Option.bind_some]
  unfold signed
  split
  · rename_i negative
    have value : -Int64.ofNat i.natAbs = Int64.ofInt i := by
      rw [← Int64.ofInt_eq_ofNat, ← Int64.ofInt_neg]
      congr 1
      omega
    rw [List.cons_append, List.dropWhile_cons_of_neg (by decide)]
    simp only [List.head?_cons, decide_true, if_true, List.tail_cons,
      digitsOf_decimal _ ending, ofDigits_decimal, decimal_ne_nil, if_false, value]
  · rename_i notNegative
    have value : Int64.ofNat i.natAbs = Int64.ofInt i := by
      rw [← Int64.ofInt_eq_ofNat]
      congr 1
      omega
    rw [dropWhile_decimal]
    simp only [head_decimal, decide_false, Bool.false_eq_true, if_false,
      digitsOf_decimal _ ending, ofDigits_decimal, decimal_ne_nil, value]

/-- **A signed field is read back exactly when it is not the least one.** -/
theorem extractInt64_iff (searchable : Searchable fields) {i : Int64}
    (present : fields.lookup key = some (.bare (signed i.toInt))) :
    (ExtractInt64 (renderObject jsonLetter fields) key).getD 0 = i ↔ InRange i := by
  rw [extractInt64_signed searchable present, Int64.ofInt_toInt]
  have low := Int64.le_toInt i
  have high := Int64.toInt_lt i
  by_cases least : i = Int64.minValue
  · subst least
    have big : ¬ Int64.minValue.toInt.natAbs < 2 ^ 63 := by decide
    rw [if_neg big]
    exact iff_of_false (by decide) (fun inRange => inRange rfl)
  · have above : i.toInt ≠ -2 ^ 63 := by
      intro same
      exact least (Int64.toInt_inj.mp (by rw [same]; decide))
    rw [if_pos (by omega)]
    exact iff_of_true rfl least

/-- **A 32-bit field is read back.** -/
theorem extractInt32_eq (searchable : Searchable fields) {i : Int32}
    (present : fields.lookup key = some (.bare (signed i.toInt))) :
    (ExtractInt32 (renderObject jsonLetter fields) key).getD 0 = i := by
  have low := Int32.le_toInt i
  have high := Int32.toInt_lt i
  rw [ExtractInt32, extractInt64_signed searchable present, if_pos (by omega)]
  show (Int64.ofInt i.toInt).toInt32 = i
  rw [Int64.toInt32_ofInt, Int32.ofInt_toInt]

/-- **An unsigned field is read back.** -/
theorem extractUint64_eq (searchable : Searchable fields) {n : UInt64}
    (present : fields.lookup key = some (.bare (decimal n.toNat))) :
    (ExtractUint64 (renderObject jsonLetter fields) key).getD 0 = n := by
  obtain ⟨d, tail, ending, finds⟩ := searchable.found present
  rw [ExtractUint64, finds [] (decimal n.toNat ++ d :: tail) rfl, Option.bind_some,
    dropWhile_decimal]
  simp only [digitsOf_decimal _ ending, ofDigits_decimal, decimal_ne_nil, if_false]
  rw [if_pos n.toNat_lt, Option.getD_some, UInt64.ofNat_toNat]

/-- **A truth value is read back.** -/
theorem extractBool_eq (searchable : Searchable fields) {b : Bool}
    (present : fields.lookup key = some (.bare (truth b))) :
    ExtractBool (renderObject jsonLetter fields) key = some b := by
  obtain ⟨d, tail, -, finds⟩ := searchable.found present
  rw [ExtractBool, finds [] (truth b ++ d :: tail) rfl, Option.bind_some]
  cases b with
  | true => simp [truth]
  | false => simp [truth]

end Fields

/-! ### The payloads -/

section Payloads

/-- **Every payload can be searched.** -/
theorem Payload.searchable (p : Payload) : Searchable p.fields := by
  have decimals := fun n => notMem_decimal (by decide : '"'.isDigit = false) n
  constructor
  · have keys : (p.fields.map Prod.fst).all plainKey = true := by
      cases p <;>
        simp +decide [Payload.fields, BlockStartPayload.fields, SegmentStartPayload.fields,
          SegmentEndPayload.fields, BlockFencePayload.fields, ChannelTerminatedPayload.fields]
    intro field member
    exact List.all_eq_true.mp keys field.1 (List.mem_map_of_mem member)
  · cases p <;>
      simp [Payload.fields, BlockStartPayload.fields, SegmentStartPayload.fields,
        SegmentEndPayload.fields, BlockFencePayload.fields, ChannelTerminatedPayload.fields,
        Value.Clean, quote_notMem_signed, quote_notMem_truth, decimals]

/-- `BLOCK_START`. -/
theorem blockStart_carried (p : BlockStartPayload) :
    p.CarriedBy (toBlockStart (Payload.blockStart p).json) ↔ (Payload.blockStart p).Survives := by
  have searchable := (Payload.blockStart p).searchable
  unfold BlockStartPayload.CarriedBy toBlockStart Payload.json Payload.Survives
  simp only
  rw [extractString_iff searchable rfl, extractUint64_eq searchable rfl,
    extractInt64_iff searchable rfl, extractBool_eq searchable rfl]
  simp

/-- `SEGMENT_START`. -/
theorem segmentStart_carried (p : SegmentStartPayload) :
    p.CarriedBy (toSegmentStart (Payload.segmentStart p).json) ↔
      (Payload.segmentStart p).Survives := by
  have searchable := (Payload.segmentStart p).searchable
  have block := @extractString_iff _ "block_id" searchable _ rfl
  have event := @extractString_iff _ "event_id" searchable _ rfl
  have start := @extractInt64_iff _ "actual_start_utc_ms" searchable _ rfl
  have frame := @extractInt64_iff _ "asset_start_frame" searchable _ rfl
  have scheduled := @extractInt64_iff _ "scheduled_duration_ms" searchable _ rfl
  have index := @extractInt32_eq _ "segment_index" searchable _ rfl
  have joined := @extractBool_eq _ "join_in_progress" searchable _ rfl
  unfold SegmentStartPayload.CarriedBy toSegmentStart Payload.json Payload.Survives
  simp only [block, event, start, frame, scheduled, index, joined, true_and, and_assoc,
    @eq_comm Text []]

/-- `SEGMENT_END`. -/
theorem segmentEnd_carried (p : SegmentEndPayload) :
    p.CarriedBy (toSegmentEnd (Payload.segmentEnd p).json) ↔ (Payload.segmentEnd p).Survives := by
  have searchable := (Payload.segmentEnd p).searchable
  have block := @extractString_iff _ "block_id" searchable _ rfl
  have event := @extractString_iff _ "event_id_ref" searchable _ rfl
  have start := @extractInt64_iff _ "actual_start_utc_ms" searchable _ rfl
  have end_ := @extractInt64_iff _ "actual_end_utc_ms" searchable _ rfl
  have first := @extractInt64_iff _ "asset_start_frame" searchable _ rfl
  have last := @extractInt64_iff _ "asset_end_frame" searchable _ rfl
  have duration := @extractInt64_iff _ "computed_duration_ms" searchable _ rfl
  have frames := @extractInt64_iff _ "computed_duration_frames" searchable _ rfl
  have status := @extractString_iff _ "status" searchable _ rfl
  have reason := @extractString_iff _ "reason" searchable _ rfl
  have fallback := @extractUint64_eq _ "fallback_frames_used" searchable _ rfl
  unfold SegmentEndPayload.CarriedBy toSegmentEnd Payload.json Payload.Survives
  simp only [block, event, start, end_, first, last, duration, frames, status, reason, fallback,
    @eq_comm Text [], true_and]
  constructor
  · rintro ⟨b, e, t1, t2, f1, f2, d1, d2, st, re, u, ty, au⟩
    exact ⟨⟨b, e, st, re⟩, ⟨t1, t2, f1, f2, d1, d2⟩, u, ty, au⟩
  · rintro ⟨⟨b, e, st, re⟩, ⟨t1, t2, f1, f2, d1, d2⟩, u, ty, au⟩
    exact ⟨b, e, t1, t2, f1, f2, d1, d2, st, re, u, ty, au⟩

/-- `BLOCK_FENCE`. -/
theorem blockFence_carried (p : BlockFencePayload) :
    p.CarriedBy (toBlockFence (Payload.blockFence p).json) ↔ (Payload.blockFence p).Survives := by
  have searchable := (Payload.blockFence p).searchable
  have block := @extractString_iff _ "block_id" searchable _ rfl
  have swap := @extractUint64_eq _ "swap_tick" searchable _ rfl
  have fence := @extractUint64_eq _ "fence_tick" searchable _ rfl
  have end_ := @extractInt64_iff _ "actual_end_utc_ms" searchable _ rfl
  have content := @extractUint64_eq _ "ct_at_fence_ms" searchable _ rfl
  have frames := @extractUint64_eq _ "total_frames_emitted" searchable _ rfl
  have truncated := @extractBool_eq _ "truncated_by_fence" searchable _ rfl
  have exhausted := @extractBool_eq _ "early_exhaustion" searchable _ rfl
  have primed := @extractBool_eq _ "primed_success" searchable _ rfl
  unfold BlockFencePayload.CarriedBy toBlockFence Payload.json Payload.Survives
  simp only [block, swap, fence, end_, content, frames, truncated, exhausted, primed,
    Option.getD_some, true_and, and_true]

/-- `CHANNEL_TERMINATED`. -/
theorem channelTerminated_carried (p : ChannelTerminatedPayload) :
    p.CarriedBy (toChannelTerminated (Payload.channelTerminated p).json) ↔
      (Payload.channelTerminated p).Survives := by
  have searchable := (Payload.channelTerminated p).searchable
  have time := @extractInt64_iff _ "termination_utc_ms" searchable _ rfl
  have reason := @extractString_iff _ "reason" searchable _ rfl
  have detail := @extractString_iff _ "detail" searchable _ rfl
  unfold ChannelTerminatedPayload.CarriedBy toChannelTerminated Payload.json Payload.Survives
  simp only [time, reason, detail]

/-- **What the wire keeps**: the message built from the emitted envelope carries the payload exactly
when it survives. -/
theorem carried_iff (e : Emitter) (p : Payload) (event_uuid emitted_utc : Text) :
    p.CarriedBy (ToProto (e.envelope p event_uuid emitted_utc)) ↔ p.Survives := by
  cases p with
  | blockStart p =>
    rw [← blockStart_carried]
    simp [Payload.CarriedBy, ToProto, Payload.kind]
  | segmentStart p =>
    rw [← segmentStart_carried]
    simp [Payload.CarriedBy, ToProto, Payload.kind]
  | segmentEnd p =>
    rw [← segmentEnd_carried]
    simp [Payload.CarriedBy, ToProto, Payload.kind]
  | blockFence p =>
    rw [← blockFence_carried]
    simp [Payload.CarriedBy, ToProto, Payload.kind]
  | channelTerminated p =>
    rw [← channelTerminated_carried]
    simp [Payload.CarriedBy, ToProto, Payload.kind]

/-- **The identity of a segment is lost**: its uuid is written, and never read. -/
theorem segment_uuid_lost :
    ¬ (Payload.segmentStart
        { block_id := "b-1".toList, event_id := "e-1".toList,
          segment_uuid := "s-1".toList }).CarriedBy
      (ToProto
        (Emitter.envelope { channel_id := "ch".toList, playout_session_id := "ps".toList }
          (.segmentStart
            { block_id := "b-1".toList, event_id := "e-1".toList, segment_uuid := "s-1".toList })
          "u".toList "2026-01-01T00:00:00.000Z".toList)) := by
  rintro ⟨body, same, carried⟩
  cases same
  have lost : ([] : Text) = "s-1".toList := carried.2.2.2.2.2.2.2.1
  exact absurd lost (by decide)

end Payloads

end Retrovue.Air.Evidence
