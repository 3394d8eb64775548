/-
**Block plans, from Core to AIR** (`runtime/channel_manager.py`, `runtime/playout_session.py`).

* `PlanSegment`, `BlockPlan`: the segment dicts of a plan, with keys that may be missing;
* `generateNextBlock`: a scheduled block as a plan, `applyJipToSegments`: joined in progress;
* `BlockPlan.toProto`: the plan as AIR receives it;
* `segmentsValid_toProto`: which plans AIR's checks on the segments accept.

Gains are read exactly, not as 32-bit floats.
-/

import Mathlib
import Retrovue.Foundation.Offsets
import Retrovue.Core.Playlog.Blocks
import Retrovue.Air.Blockplan.Join

namespace Retrovue.Core.Handoff

open Retrovue.Foundation.Sorting Retrovue.Foundation.Offsets Retrovue.Foundation.Fallible
open Retrovue.Core.Playlog
open Retrovue.Air.Blockplan (SegmentType TransitionType InIndexOrder segmentLength)

/-! ### Plans -/

section Plans

/-- A segment dict of a plan; `none` is a missing key. -/
structure PlanSegment where
  segmentIndex : Option Int
  segmentType : Option String
  assetUri : Option String
  assetStartOffsetMs : Option Int
  segmentDurationMs : Int
  transitionIn : Option String
  transitionInDurationMs : Option Int
  transitionOut : Option String
  transitionOutDurationMs : Option Int
  gainDb : Option ℚ
  deriving DecidableEq

/-- `BlockPlan`. -/
structure BlockPlan where
  blockId : String
  channelId : Int
  startUtcMs : Int
  endUtcMs : Int
  segments : List PlanSegment
  deriving DecidableEq

/-- The duration of a segment dict. -/
abbrev planLength : PlanSegment → Int := PlanSegment.segmentDurationMs

/-- The dict of segment `i` of a scheduled block; cuts and unity gain are left out. -/
def segmentDict (i : Nat) (seg : ScheduledSegment) : PlanSegment where
  segmentIndex := some i
  segmentType := some seg.segmentType
  assetUri := some seg.assetUri
  assetStartOffsetMs := some seg.assetStartOffsetMs
  segmentDurationMs := seg.segmentDurationMs
  transitionIn := if seg.transitionIn ≠ "TRANSITION_NONE" then some seg.transitionIn else none
  transitionInDurationMs :=
    if seg.transitionIn ≠ "TRANSITION_NONE" then some seg.transitionInDurationMs else none
  transitionOut := if seg.transitionOut ≠ "TRANSITION_NONE" then some seg.transitionOut else none
  transitionOutDurationMs :=
    if seg.transitionOut ≠ "TRANSITION_NONE" then some seg.transitionOutDurationMs else none
  gainDb := if seg.gainDb ≠ 0 then some seg.gainDb else none

end Plans

/-! ### Joining in progress -/

section Joining

/-- The dict of a pad at the end. -/
def gapPad (gapMs : Int) : PlanSegment where
  segmentIndex := none
  segmentType := some "pad"
  assetUri := none
  assetStartOffsetMs := none
  segmentDurationMs := gapMs
  transitionIn := none
  transitionInDurationMs := none
  transitionOut := none
  transitionOutDurationMs := none
  gainDb := none

/-- `seg.get("asset_uri")`: present and not empty. -/
def PlanSegment.hasAsset (seg : PlanSegment) : Bool := seg.assetUri.getD "" != ""

/-- A segment without its first `elapsedMs`; only an asset has an offset to advance. -/
def PlanSegment.trim (seg : PlanSegment) (elapsedMs : Int) : PlanSegment :=
  { seg with
    assetStartOffsetMs :=
      if seg.hasAsset then some (seg.assetStartOffsetMs.getD 0 + elapsedMs)
      else seg.assetStartOffsetMs
    segmentDurationMs := seg.segmentDurationMs - elapsedMs }

/-- The walk of `_apply_jip_to_segments`: elapsed segments are skipped, the one under way is
trimmed. -/
def skipElapsed : Int → List PlanSegment → List PlanSegment
  | _, [] => []
  | remaining, seg :: rest =>
    if remaining ≥ seg.segmentDurationMs then skipElapsed (remaining - seg.segmentDurationMs) rest
    else if remaining > 0 then seg.trim remaining :: skipElapsed 0 rest
    else seg :: skipElapsed remaining rest

/-- The end of `_apply_jip_to_segments`: a trailing pad takes up what is missing. -/
def extendPad (blockDurMs : Int) (result : List PlanSegment) : List PlanSegment :=
  let gap := blockDurMs - total planLength result
  if gap > 0 then
    match result.getLast? with
    | none => [gapPad gap]
    | some last =>
      if last.segmentType = some "pad" then
        result.dropLast ++ [{ last with segmentDurationMs := last.segmentDurationMs + gap }]
      else result ++ [gapPad gap]
  else result

/-- `_apply_jip_to_segments`. -/
def applyJipToSegments (segments : List PlanSegment) (jipOffsetMs blockDurMs : Int) :
    List PlanSegment :=
  extendPad blockDurMs (skipElapsed jipOffsetMs segments)

/-- `seg["segment_index"] = i`. -/
def PlanSegment.setIndex (i : Nat) (seg : PlanSegment) : PlanSegment :=
  { seg with segmentIndex := some (i : Int) }

/-- A plan numbered anew. -/
def renumber (segments : List PlanSegment) : List PlanSegment :=
  segments.mapIdx PlanSegment.setIndex

/-- The assertions of `_generate_next_block`. -/
inductive GenerateError
  | endMoved
  | startMoved
  deriving DecidableEq, Repr

/-- `_generate_next_block`. -/
def generateNextBlock (channelIdInt : Int) (scheduled : ScheduledBlock)
    (jipOffsetMs nowUtcMs : Int) : Except GenerateError BlockPlan :=
  let adjusts : Bool := 0 < jipOffsetMs && 0 < nowUtcMs
  let jip :=
    if adjusts then max 0 (min (nowUtcMs - scheduled.startUtcMs) scheduled.durationMs)
    else jipOffsetMs
  let startMs := if adjusts then scheduled.startUtcMs + jip else scheduled.startUtcMs
  let effectiveDur := scheduled.endUtcMs - startMs
  let planSegments := scheduled.segments.mapIdx segmentDict
  let block : BlockPlan :=
    { blockId := scheduled.blockId
      channelId := channelIdInt
      startUtcMs := startMs
      endUtcMs := scheduled.endUtcMs
      segments :=
        if jip > 0 then renumber (applyJipToSegments planSegments jip effectiveDur)
        else planSegments }
  if block.endUtcMs ≠ scheduled.endUtcMs then .error .endMoved
  else if block.startUtcMs ≠
      (if jip > 0 then scheduled.startUtcMs + jip else scheduled.startUtcMs) then
    .error .startMoved
  else .ok block

end Joining

/-! ### The message -/

section Messages

/-- What `to_proto` raises: a missing key, or a number that its field cannot hold. -/
inductive ProtoError
  | keyError (key : String)
  | outOfRange (value : Int)
  deriving DecidableEq, Repr

/-- A number for a field that holds the values from `low` to below `high`. -/
def ranged (low high value : Int) : Except ProtoError Int :=
  if low ≤ value ∧ value < high then .ok value else .error (.outOfRange value)

/-- A number for an `int32` field. -/
def int32 : Int → Except ProtoError Int := ranged (-2 ^ 31) (2 ^ 31)

/-- A number for an `int64` field. -/
def int64 : Int → Except ProtoError Int := ranged (-2 ^ 63) (2 ^ 63)

/-- A number for a `uint32` field. -/
def uint32 (value : Int) : Except ProtoError Nat := (ranged 0 (2 ^ 32) value).map Int.toNat

/-- `seg[key]`. -/
def required {α : Type} (key : String) : Option α → Except ProtoError α
  | none => .error (.keyError key)
  | some value => .ok value

/-- A transition and its duration; any other than a fade is sent as a cut. -/
def transitionProto (transition : Option String) (durationMs : Option Int) :
    Except ProtoError (TransitionType × Nat) :=
  if transition.getD "TRANSITION_NONE" = "TRANSITION_FADE" then do
    let duration ← uint32 (durationMs.getD 0)
    .ok (.fade, duration)
  else .ok (.none, 0)

/-- The type, the asset and the offset that are sent; a pad has neither of the last two. -/
def assetProto (seg : PlanSegment) : Except ProtoError (SegmentType × String × Int) :=
  if seg.segmentType.getD "content" = "pad" then .ok (.pad, "", 0)
  else do
    let assetUri ← required "asset_uri" seg.assetUri
    let offset ← int64 (seg.assetStartOffsetMs.getD 0)
    .ok (if seg.segmentType.getD "content" = "filler" then .filler else .content, assetUri, offset)

/-- A segment of the message. -/
def PlanSegment.toProto (seg : PlanSegment) :
    Except ProtoError Retrovue.Air.Blockplan.PlanSegment := do
  let index ← required "segment_index" seg.segmentIndex
  let index ← int32 index
  let duration ← int64 seg.segmentDurationMs
  let asset ← assetProto seg
  let transitionIn ← transitionProto seg.transitionIn seg.transitionInDurationMs
  let transitionOut ← transitionProto seg.transitionOut seg.transitionOutDurationMs
  .ok
    { segmentIndex := index
      segmentDurationMs := duration
      segmentType := asset.1
      transitionIn := transitionIn.1
      transitionInDurationMs := transitionIn.2
      assetUri := asset.2.1
      assetStartOffsetMs := asset.2.2
      transitionOut := transitionOut.1
      transitionOutDurationMs := transitionOut.2
      gainDb := seg.gainDb.getD 0 }

/-- The segments of the message. -/
def segmentsProto :
    List PlanSegment → Except ProtoError (List Retrovue.Air.Blockplan.PlanSegment)
  | [] => .ok []
  | seg :: rest => do
    let sent ← seg.toProto
    let others ← segmentsProto rest
    .ok (sent :: others)

/-- `to_proto`. -/
def BlockPlan.toProto (plan : BlockPlan) :
    Except ProtoError Retrovue.Air.Blockplan.BlockPlan := do
  let channelId ← int32 plan.channelId
  let startUtcMs ← int64 plan.startUtcMs
  let endUtcMs ← int64 plan.endUtcMs
  let segments ← segmentsProto plan.segments
  .ok ⟨plan.blockId, channelId, startUtcMs, endUtcMs, segments⟩

end Messages

/-! ### What is sent -/

section Sent

theorem toOption_eq_some {ε α : Type} {result : Except ε α} {a : α}
    (done : result.toOption = some a) : result = .ok a := by
  cases result with
  | error error => cases done
  | ok b =>
    cases done
    rfl

/-- A number that its field holds is sent as it is. -/
theorem ranged_ok {low high value sent : Int} (done : ranged low high value = .ok sent) :
    sent = value := by
  unfold ranged at done
  split at done
  · cases done
    rfl
  · cases done

theorem required_ok {α : Type} {key : String} {value : Option α} {a : α}
    (done : required key value = .ok a) : value = some a := by
  cases value with
  | none => cases done
  | some b =>
    cases done
    rfl

/-- **A segment keeps its index and its duration** in the message. -/
theorem PlanSegment.toProto_ok {seg : PlanSegment} {sent : Retrovue.Air.Blockplan.PlanSegment}
    (done : seg.toProto = .ok sent) :
    seg.segmentIndex = some sent.segmentIndex ∧ planLength seg = segmentLength sent ∧
      assetProto seg = .ok (sent.segmentType, sent.assetUri, sent.assetStartOffsetMs) := by
  obtain ⟨index, present, done⟩ := bind_eq_ok.mp done
  obtain ⟨index', fits, done⟩ := bind_eq_ok.mp done
  obtain ⟨duration, long, done⟩ := bind_eq_ok.mp done
  obtain ⟨asset, located, done⟩ := bind_eq_ok.mp done
  obtain ⟨transitionIn, -, done⟩ := bind_eq_ok.mp done
  obtain ⟨transitionOut, -, done⟩ := bind_eq_ok.mp done
  cases done
  rw [required_ok present, ranged_ok fits]
  exact ⟨rfl, (ranged_ok long).symm, located⟩

theorem segmentsProto_ok :
    ∀ {segments : List PlanSegment} {sent : List Retrovue.Air.Blockplan.PlanSegment},
      segmentsProto segments = .ok sent →
      List.Forall₂ (fun seg other => seg.toProto = .ok other) segments sent
  | [], sent, done => by
    cases done
    exact List.Forall₂.nil
  | seg :: rest, sent, done => by
    obtain ⟨first, here, done⟩ := bind_eq_ok.mp done
    obtain ⟨others, later, done⟩ := bind_eq_ok.mp done
    cases done
    exact List.Forall₂.cons here (segmentsProto_ok later)

/-- **The message of a plan**: its span, and its segments one by one. -/
theorem BlockPlan.toProto_ok {plan : BlockPlan} {sent : Retrovue.Air.Blockplan.BlockPlan}
    (done : plan.toProto = .ok sent) :
    sent.startUtcMs = plan.startUtcMs ∧ sent.endUtcMs = plan.endUtcMs ∧
      List.Forall₂ (fun seg other => seg.toProto = .ok other) plan.segments sent.segments := by
  obtain ⟨channelId, -, done⟩ := bind_eq_ok.mp done
  obtain ⟨startUtcMs, starts, done⟩ := bind_eq_ok.mp done
  obtain ⟨endUtcMs, ends, done⟩ := bind_eq_ok.mp done
  obtain ⟨segments, listed, done⟩ := bind_eq_ok.mp done
  cases done
  exact ⟨ranged_ok starts, ranged_ok ends, segmentsProto_ok listed⟩

/-- What agrees pair by pair agrees over the lists. -/
theorem map_eq_of_forall₂ {α β γ : Type} {related : α → β → Prop} (f : α → γ) (g : β → γ)
    (agree : ∀ a b, related a b → f a = g b) {items : List α} {others : List β}
    (pairs : List.Forall₂ related items others) : items.map f = others.map g := by
  induction pairs with
  | nil => rfl
  | cons here _ ih => rw [List.map_cons, List.map_cons, agree _ _ here, ih]

/-- The dicts of a plan numbered as they are listed. -/
def Numbered (segments : List PlanSegment) : Prop :=
  segments.map PlanSegment.segmentIndex =
    (List.range segments.length).map fun i : Nat => some (i : Int)

instance (segments : List PlanSegment) : Decidable (Numbered segments) :=
  inferInstanceAs (Decidable (_ = _))

variable {plan : BlockPlan} {sent : Retrovue.Air.Blockplan.BlockPlan}

/-- The message of a numbered plan lists its segments in index order. -/
theorem inIndexOrder_of_numbered (done : plan.toProto = .ok sent)
    (numbered : Numbered plan.segments) : InIndexOrder sent.segments := by
  obtain ⟨-, -, pairs⟩ := BlockPlan.toProto_ok done
  have indices := map_eq_of_forall₂ PlanSegment.segmentIndex (fun other => some other.segmentIndex)
    (fun _ _ here => (PlanSegment.toProto_ok here).1) pairs
  have unwrapped := congrArg (List.map fun index => index.getD 0) (numbered.symm.trans indices)
  rw [List.map_map, List.map_map, pairs.length_eq] at unwrapped
  exact unwrapped.symm

/-- The lengths of a plan's segments in its message. -/
theorem lengths_toProto (done : plan.toProto = .ok sent) :
    plan.segments.map planLength = sent.segments.map segmentLength := by
  obtain ⟨-, -, pairs⟩ := BlockPlan.toProto_ok done
  exact map_eq_of_forall₂ planLength segmentLength
    (fun _ _ here => (PlanSegment.toProto_ok here).2.1) pairs

/-- Lists of the same lengths are positive together. -/
theorem positive_congr {α β : Type} {length : α → Int} {other : β → Int} {items : List α}
    {others : List β} (same : items.map length = others.map other) :
    Positive length items ↔ Positive other others := by
  have forall_map : ∀ {γ : Type} (measure : γ → Int) (list : List γ),
      Positive measure list ↔ ∀ n ∈ list.map measure, 0 < n := by
    intro γ measure list
    rw [List.forall_mem_map]
    rfl
  rw [forall_map, forall_map, same]

/-- **AIR accepts the segments of a numbered plan** when each is of positive length and together
they are as long as the block. -/
theorem segmentsValid_toProto (done : plan.toProto = .ok sent)
    (numbered : Numbered plan.segments) :
    sent.fed.segmentsValid = true ↔
      plan.segments ≠ [] ∧ Positive planLength plan.segments ∧
        total planLength plan.segments = plan.endUtcMs - plan.startUtcMs := by
  obtain ⟨starts, ends, pairs⟩ := BlockPlan.toProto_ok done
  have lengths := lengths_toProto done
  have listed : sent.segments ≠ [] ↔ plan.segments ≠ [] := by
    rw [← List.length_pos_iff, ← List.length_pos_iff, pairs.length_eq]
  have indices := Retrovue.Air.Blockplan.indices_of_inOrder (inIndexOrder_of_numbered done numbered)
  rw [Retrovue.Air.Blockplan.segmentsValid_iff, listed, ← positive_congr lengths, starts, ends,
    total, total, lengths]
  constructor
  · rintro ⟨some_, -, rest⟩
    exact ⟨some_, rest⟩
  · rintro ⟨some_, rest⟩
    exact ⟨some_, indices, rest⟩

end Sent

end Retrovue.Core.Handoff
