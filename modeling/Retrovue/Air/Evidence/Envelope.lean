/-
**Evidence envelopes** (`evidence/EvidenceEmitter.cpp`, `evidence/EvidenceSpool.cpp`).

A `std::string` is its list of characters, one for each byte; the integer fields have the widths of
the source.

* the payload structs, and the JSON text the emitter writes for each (`Payload.json`);
* `EvidenceFromAir` with `ToJsonLine`, the line of the spool file;
* `Emitter.MakeEnvelope`, which takes the next sequence number.
-/

import Retrovue.Foundation.FlatJson

namespace Retrovue.Air.Evidence

open Retrovue.Foundation.FlatJson

/-! ### Values as text -/

section Values

/-- The letters of `JsonEscape`. -/
def jsonLetter : Char → Option Char
  | '"' => some '"'
  | '\\' => some '\\'
  | '\n' => some 'n'
  | '\r' => some 'r'
  | '\t' => some 't'
  | _ => none

/-- `JsonEscape`. -/
def JsonEscape (s : Text) : Text := escape jsonLetter s

/-- An unsigned integer, printed. -/
def decimal (n : Nat) : Text := Nat.toDigits 10 n

/-- A signed integer, printed. -/
def signed (i : Int) : Text := if i < 0 then '-' :: decimal i.natAbs else decimal i.natAbs

/-- A truth value, printed. -/
def truth (b : Bool) : Text := if b then ['t', 'r', 'u', 'e'] else ['f', 'a', 'l', 's', 'e']

end Values

/-! ### Payloads -/

section Payloads

/-- `BlockStartPayload`. -/
structure BlockStartPayload where
  block_id : Text := []
  swap_tick : UInt64 := 0
  actual_start_utc_ms : Int64 := 0
  primed_success : Bool := false
  deriving DecidableEq

/-- `SegmentStartPayload`. -/
structure SegmentStartPayload where
  block_id : Text := []
  event_id : Text := []
  segment_index : Int32 := 0
  actual_start_utc_ms : Int64 := 0
  asset_start_frame : Int64 := 0
  scheduled_duration_ms : Int64 := 0
  join_in_progress : Bool := false
  segment_uuid : Text := []
  asset_uuid : Text := []
  segment_type : Text := []
  deriving DecidableEq

/-- `SegmentEndPayload`. -/
structure SegmentEndPayload where
  block_id : Text := []
  event_id_ref : Text := []
  segment_uuid : Text := []
  segment_type_name : Text := []
  asset_uuid : Text := []
  actual_start_utc_ms : Int64 := 0
  actual_end_utc_ms : Int64 := 0
  asset_start_frame : Int64 := 0
  asset_end_frame : Int64 := 0
  computed_duration_ms : Int64 := 0
  computed_duration_frames : Int64 := 0
  status : Text := []
  reason : Text := []
  fallback_frames_used : UInt64 := 0
  deriving DecidableEq

/-- `BlockFencePayload`. -/
structure BlockFencePayload where
  block_id : Text := []
  swap_tick : UInt64 := 0
  fence_tick : UInt64 := 0
  actual_end_utc_ms : Int64 := 0
  ct_at_fence_ms : UInt64 := 0
  total_frames_emitted : UInt64 := 0
  truncated_by_fence : Bool := false
  early_exhaustion : Bool := false
  primed_success : Bool := false
  deriving DecidableEq

/-- `ChannelTerminatedPayload`. -/
structure ChannelTerminatedPayload where
  termination_utc_ms : Int64 := 0
  reason : Text := []
  detail : Text := []
  deriving DecidableEq

/-- What the emitter is called with: one function of the source for each kind. -/
inductive Payload where
  | blockStart (p : BlockStartPayload)
  | segmentStart (p : SegmentStartPayload)
  | segmentEnd (p : SegmentEndPayload)
  | blockFence (p : BlockFencePayload)
  | channelTerminated (p : ChannelTerminatedPayload)
  deriving DecidableEq

/-- The fields `EmitBlockStart` writes. -/
def BlockStartPayload.fields (p : BlockStartPayload) : List (String × Value) :=
  [("block_id", .text p.block_id),
   ("swap_tick", .bare (decimal p.swap_tick.toNat)),
   ("actual_start_utc_ms", .bare (signed p.actual_start_utc_ms.toInt)),
   ("primed_success", .bare (truth p.primed_success))]

/-- The fields `EmitSegmentStart` writes. -/
def SegmentStartPayload.fields (p : SegmentStartPayload) : List (String × Value) :=
  [("block_id", .text p.block_id),
   ("event_id", .text p.event_id),
   ("segment_index", .bare (signed p.segment_index.toInt)),
   ("actual_start_utc_ms", .bare (signed p.actual_start_utc_ms.toInt)),
   ("asset_start_frame", .bare (signed p.asset_start_frame.toInt)),
   ("scheduled_duration_ms", .bare (signed p.scheduled_duration_ms.toInt)),
   ("join_in_progress", .bare (truth p.join_in_progress)),
   ("segment_uuid", .text p.segment_uuid),
   ("asset_uuid", .text p.asset_uuid),
   ("segment_type", .text p.segment_type)]

/-- The fields `EmitSegmentEnd` writes. -/
def SegmentEndPayload.fields (p : SegmentEndPayload) : List (String × Value) :=
  [("block_id", .text p.block_id),
   ("event_id_ref", .text p.event_id_ref),
   ("actual_start_utc_ms", .bare (signed p.actual_start_utc_ms.toInt)),
   ("actual_end_utc_ms", .bare (signed p.actual_end_utc_ms.toInt)),
   ("asset_start_frame", .bare (signed p.asset_start_frame.toInt)),
   ("asset_end_frame", .bare (signed p.asset_end_frame.toInt)),
   ("computed_duration_ms", .bare (signed p.computed_duration_ms.toInt)),
   ("computed_duration_frames", .bare (signed p.computed_duration_frames.toInt)),
   ("status", .text p.status),
   ("reason", .text p.reason),
   ("fallback_frames_used", .bare (decimal p.fallback_frames_used.toNat)),
   ("segment_uuid", .text p.segment_uuid),
   ("segment_type_name", .text p.segment_type_name),
   ("asset_uuid", .text p.asset_uuid)]

/-- The fields `EmitBlockFence` writes. -/
def BlockFencePayload.fields (p : BlockFencePayload) : List (String × Value) :=
  [("block_id", .text p.block_id),
   ("swap_tick", .bare (decimal p.swap_tick.toNat)),
   ("fence_tick", .bare (decimal p.fence_tick.toNat)),
   ("actual_end_utc_ms", .bare (signed p.actual_end_utc_ms.toInt)),
   ("ct_at_fence_ms", .bare (decimal p.ct_at_fence_ms.toNat)),
   ("total_frames_emitted", .bare (decimal p.total_frames_emitted.toNat)),
   ("truncated_by_fence", .bare (truth p.truncated_by_fence)),
   ("early_exhaustion", .bare (truth p.early_exhaustion)),
   ("primed_success", .bare (truth p.primed_success))]

/-- The fields `EmitChannelTerminated` writes. -/
def ChannelTerminatedPayload.fields (p : ChannelTerminatedPayload) : List (String × Value) :=
  [("termination_utc_ms", .bare (signed p.termination_utc_ms.toInt)),
   ("reason", .text p.reason),
   ("detail", .text p.detail)]

/-- The fields of a payload. -/
def Payload.fields : Payload → List (String × Value)
  | .blockStart p => p.fields
  | .segmentStart p => p.fields
  | .segmentEnd p => p.fields
  | .blockFence p => p.fields
  | .channelTerminated p => p.fields

/-- The payload type each `Emit` names. -/
def Payload.kind : Payload → String
  | .blockStart _ => "BLOCK_START"
  | .segmentStart _ => "SEGMENT_START"
  | .segmentEnd _ => "SEGMENT_END"
  | .blockFence _ => "BLOCK_FENCE"
  | .channelTerminated _ => "CHANNEL_TERMINATED"

/-- **The payload text.** -/
def Payload.json (p : Payload) : Text := renderObject jsonLetter p.fields

end Payloads

/-! ### Envelopes -/

section Envelopes

/-- `EvidenceFromAir`. -/
structure EvidenceFromAir where
  schema_version : Nat := 1
  channel_id : Text
  playout_session_id : Text
  sequence : Nat
  event_uuid : Text
  emitted_utc : Text
  payload_type : String
  payload : Text
  deriving DecidableEq

/-- **`ToJsonLine`**: a payload that is no object is written as an empty one. -/
def EvidenceFromAir.ToJsonLine (m : EvidenceFromAir) : Text :=
  renderObject jsonLetter
    [("schema_version", .bare (decimal m.schema_version)),
     ("channel_id", .text m.channel_id),
     ("playout_session_id", .text m.playout_session_id),
     ("sequence", .bare (decimal m.sequence)),
     ("event_uuid", .text m.event_uuid),
     ("emitted_utc", .text m.emitted_utc),
     ("payload_type", .text m.payload_type.toList),
     ("payload", .bare (if m.payload.head? = some '{' then m.payload else ['{', '}']))]

/-- The emitter: the identity it stamps, its sequence counter, and whether it is degraded. -/
structure Emitter where
  channel_id : Text
  playout_session_id : Text
  sequence : Nat := 0
  degraded : Bool := false
  deriving DecidableEq

/-- **`MakeEnvelope`**: the next sequence number is taken. -/
def Emitter.MakeEnvelope (e : Emitter) (payload_type : String) (payload_json event_uuid
    emitted_utc : Text) : Emitter × EvidenceFromAir :=
  ({ e with sequence := e.sequence + 1 },
   { channel_id := e.channel_id
     playout_session_id := e.playout_session_id
     sequence := e.sequence + 1
     event_uuid := event_uuid
     emitted_utc := emitted_utc
     payload_type := payload_type
     payload := if payload_json = [] then ['{', '}'] else payload_json })

/-- The envelope of a payload. -/
def Emitter.envelope (e : Emitter) (p : Payload) (event_uuid emitted_utc : Text) :
    EvidenceFromAir :=
  (e.MakeEnvelope p.kind p.json event_uuid emitted_utc).2

@[simp] theorem Emitter.MakeEnvelope_sequence (e : Emitter) (payload_type : String)
    (payload_json event_uuid emitted_utc : Text) :
    (e.MakeEnvelope payload_type payload_json event_uuid emitted_utc).1.sequence =
      e.sequence + 1 := rfl

@[simp] theorem Emitter.envelope_sequence (e : Emitter) (p : Payload)
    (event_uuid emitted_utc : Text) :
    (e.envelope p event_uuid emitted_utc).sequence = e.sequence + 1 := rfl

@[simp] theorem Emitter.envelope_payload_type (e : Emitter) (p : Payload)
    (event_uuid emitted_utc : Text) :
    (e.envelope p event_uuid emitted_utc).payload_type = p.kind := rfl

/-- The envelope carries the payload text. -/
@[simp] theorem Emitter.envelope_payload (e : Emitter) (p : Payload)
    (event_uuid emitted_utc : Text) : (e.envelope p event_uuid emitted_utc).payload = p.json := rfl

end Envelopes

/-! ### The writer's facts -/

section Facts

/-- The table of the writer hides quotes. -/
theorem jsonLetter_hides : Hides jsonLetter where
  quote := rfl
  backslash := rfl
  letter := by
    intro c letter found quote
    subst quote
    unfold jsonLetter at found
    split at found <;> simp_all

/-- The digits of a number are digits. -/
theorem digits_of_decimal {n : Nat} {c : Char} (member : c ∈ decimal n) : c.isDigit = true :=
  Nat.isDigit_of_mem_toDigits (by decide) (by decide) member

theorem notMem_decimal {c : Char} (foreign : c.isDigit = false) (n : Nat) : c ∉ decimal n := by
  intro member
  rw [digits_of_decimal member] at foreign
  cases foreign

theorem quote_notMem_signed (i : Int) : '"' ∉ signed i := by
  have absent := notMem_decimal (by decide : '"'.isDigit = false) i.natAbs
  unfold signed
  split
  · simpa using absent
  · exact absent

theorem quote_notMem_truth (b : Bool) : '"' ∉ truth b := by
  cases b <;> decide

end Facts

end Retrovue.Air.Evidence
