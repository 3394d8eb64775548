/-
**A block on the wire from Core to AIR** (`playout_session.py`, `playout.proto`,
`playout_service.cpp`).

* `BlockSegmentMessage`, `BlockPlanMessage`: the messages, with the numbers of their enumerations
  and gains as 32-bit floats; `BlockPlan.toMessage`: `to_proto`;
* `ReceivedBlock`, `protoToBlock`: what AIR makes of a message;
* `sendBlock`: a scheduled block planned without a join, sent and received;
* `survives_iff`: which segments arrive as they were scheduled;
* `block_survives_iff`: which blocks do;
* `padding_becomes_content`: a pad with the other of its two spellings does not.
-/

import Mathlib
import Retrovue.Core.Handoff.BlockPlan
import Retrovue.Core.Handoff.Joining

namespace Retrovue.Core.Handoff

open Retrovue.Core.Schedule (roundHalfEven)
open Retrovue.Foundation.Fallible Retrovue.Core.Playlog
open Retrovue.Air.Blockplan (SegmentType TransitionType)

/-! ### The messages -/

section Messages

/-- A double stored as a 32-bit float: the nearest of those in range, halves to even. -/
def binary32 (x : ℚ) : ℚ :=
  let exponent := max (Int.log 2 |x|) (-126)
  roundHalfEven (x / 2 ^ (exponent - 23)) * 2 ^ (exponent - 23)

/-- A segment dict, with the `event_id` that it may have. -/
structure SegmentDict extends PlanSegment where
  eventId : Option String

/-- A `BlockSegment` message; its enumerations are numbers. -/
structure BlockSegmentMessage where
  segmentIndex : Int
  assetUri : String
  assetStartOffsetMs : Int
  segmentDurationMs : Int
  segmentType : Int
  eventId : String
  transitionIn : Int
  transitionInDurationMs : ℕ
  transitionOut : Int
  transitionOutDurationMs : ℕ
  segmentUuid : String
  assetUuid : String
  gainDb : ℚ
  deriving DecidableEq

/-- A `BlockPlan` message. -/
structure BlockPlanMessage where
  blockId : String
  channelId : Int
  startUtcMs : Int
  endUtcMs : Int
  segments : List BlockSegmentMessage
  broadcastDate : String
  broadcastDayAnchorUtcMs : Int
  deriving DecidableEq

/-- `SEGMENT_TYPE_CONTENT`, `SEGMENT_TYPE_FILLER` and `SEGMENT_TYPE_PAD`. -/
def segmentTypeNumber : SegmentType → Int
  | .content => 0
  | .filler => 1
  | .pad => 2

/-- `TRANSITION_NONE` and `TRANSITION_FADE`. -/
def transitionNumber : TransitionType → Int
  | .none => 0
  | .fade => 1

/-- The message of a segment dict. No field is set for the segment's and the asset's UUID. -/
def SegmentDict.toMessage (dict : SegmentDict) : Except ProtoError BlockSegmentMessage := do
  let sent ← dict.toPlanSegment.toProto
  .ok
    { segmentIndex := sent.segmentIndex
      assetUri := sent.assetUri
      assetStartOffsetMs := sent.assetStartOffsetMs
      segmentDurationMs := sent.segmentDurationMs
      segmentType := segmentTypeNumber sent.segmentType
      eventId := dict.eventId.getD ""
      transitionIn := transitionNumber sent.transitionIn
      transitionInDurationMs := sent.transitionInDurationMs
      transitionOut := transitionNumber sent.transitionOut
      transitionOutDurationMs := sent.transitionOutDurationMs
      segmentUuid := ""
      assetUuid := ""
      gainDb := binary32 sent.gainDb }

/-- The messages of the segment dicts. -/
def segmentMessages : List SegmentDict → Except ProtoError (List BlockSegmentMessage)
  | [] => .ok []
  | dict :: rest => do
    let sent ← dict.toMessage
    let others ← segmentMessages rest
    .ok (sent :: others)

/-- `_generate_next_block` gives its dicts no `event_id`. -/
def PlanSegment.dict (seg : PlanSegment) : SegmentDict := { seg with eventId := none }

/-- `to_proto`, of a generated plan. -/
def BlockPlan.toMessage (plan : BlockPlan) : Except ProtoError BlockPlanMessage := do
  let channelId ← int32 plan.channelId
  let startUtcMs ← int64 plan.startUtcMs
  let endUtcMs ← int64 plan.endUtcMs
  let segments ← segmentMessages (plan.segments.map PlanSegment.dict)
  .ok ⟨plan.blockId, channelId, startUtcMs, endUtcMs, segments, "", 0⟩

end Messages

/-! ### AIR's side -/

section Received

/-- `FedBlock::Segment`. -/
structure ReceivedSegment where
  segmentIndex : Int
  assetUri : String
  assetStartOffsetMs : Int
  segmentDurationMs : Int
  segmentType : SegmentType
  eventId : String
  segmentUuid : String
  assetUuid : String
  transitionIn : TransitionType
  transitionInDurationMs : ℕ
  transitionOut : TransitionType
  transitionOutDurationMs : ℕ
  gainDb : ℚ
  deriving DecidableEq

/-- `FedBlock`. -/
structure ReceivedBlock where
  blockId : String
  channelId : Int
  startUtcMs : Int
  endUtcMs : Int
  broadcastDate : String
  broadcastDayAnchorUtcMs : Int
  segments : List ReceivedSegment
  deriving DecidableEq

/-- `static_cast<blockplan::SegmentType>`, of the numbers that are sent. -/
def castSegmentType (number : Int) : SegmentType :=
  if number = 1 then .filler else if number = 2 then .pad else .content

/-- `static_cast<blockplan::TransitionType>`. -/
def castTransition (number : Int) : TransitionType := if number = 1 then .fade else .none

/-- The loop body of `ProtoToBlock`. -/
def protoToSegment (seg : BlockSegmentMessage) : ReceivedSegment where
  segmentIndex := seg.segmentIndex
  assetUri := seg.assetUri
  assetStartOffsetMs := seg.assetStartOffsetMs
  segmentDurationMs := seg.segmentDurationMs
  segmentType := castSegmentType seg.segmentType
  eventId := seg.eventId
  segmentUuid := seg.segmentUuid
  assetUuid := seg.assetUuid
  transitionIn := castTransition seg.transitionIn
  transitionInDurationMs := seg.transitionInDurationMs
  transitionOut := castTransition seg.transitionOut
  transitionOutDurationMs := seg.transitionOutDurationMs
  gainDb := seg.gainDb

/-- `ProtoToBlock`. -/
def protoToBlock (proto : BlockPlanMessage) : ReceivedBlock where
  blockId := proto.blockId
  channelId := proto.channelId
  startUtcMs := proto.startUtcMs
  endUtcMs := proto.endUtcMs
  broadcastDate := proto.broadcastDate
  broadcastDayAnchorUtcMs := proto.broadcastDayAnchorUtcMs
  segments := proto.segments.map protoToSegment

@[simp] theorem castSegmentType_number (type : SegmentType) :
    castSegmentType (segmentTypeNumber type) = type := by
  cases type <;> rfl

@[simp] theorem castTransition_number (type : TransitionType) :
    castTransition (transitionNumber type) = type := by
  cases type <;> rfl

/-- A scheduled block, planned without a join, sent and received. -/
def sendBlock (channelIdInt : Int) (scheduled : ScheduledBlock) : Option ReceivedBlock :=
  (generateNextBlock channelIdInt scheduled 0 0).toOption.bind fun plan =>
    plan.toMessage.toOption.map protoToBlock

end Received

/-! ### What arrives -/

section Survival

/-- A pad, of either spelling. -/
def IsPad (seg : ScheduledSegment) : Prop := seg.segmentType = "pad" ∨ seg.segmentType = "padding"

/-- The fade of a scheduled transition; there is none but `TRANSITION_FADE`. -/
def scheduledFade (transition : String) (durationMs : Int) : TransitionType × Int :=
  if transition = "TRANSITION_FADE" then (.fade, durationMs) else (.none, 0)

/-- A segment arrives as it was scheduled. A scheduled segment has no identity, so none arrives. -/
structure SegmentSurvives (seg : ScheduledSegment) (fed : ReceivedSegment) : Prop where
  asset : fed.assetUri = seg.assetUri
  offset : fed.assetStartOffsetMs = seg.assetStartOffsetMs
  duration : fed.segmentDurationMs = seg.segmentDurationMs
  gain : fed.gainDb = binary32 seg.gainDb
  fadeIn : (fed.transitionIn, (fed.transitionInDurationMs : Int)) =
    scheduledFade seg.transitionIn seg.transitionInDurationMs
  fadeOut : (fed.transitionOut, (fed.transitionOutDurationMs : Int)) =
    scheduledFade seg.transitionOut seg.transitionOutDurationMs
  pad : fed.segmentType = .pad ↔ IsPad seg
  identity : fed.eventId = "" ∧ fed.segmentUuid = "" ∧ fed.assetUuid = ""

/-- A block arrives as it was scheduled. -/
structure BlockSurvives (scheduled : ScheduledBlock) (fed : ReceivedBlock) : Prop where
  blockId : fed.blockId = scheduled.blockId
  starts : fed.startUtcMs = scheduled.startUtcMs
  ends : fed.endUtcMs = scheduled.endUtcMs
  segments : List.Forall₂ SegmentSurvives scheduled.segments fed.segments

/-- A number that a field of the message holds. -/
def Fits (low high value : Int) : Prop := low ≤ value ∧ value < high

/-- The fade's duration fits its field. -/
def FadeFits (transition : String) (durationMs : Int) : Prop :=
  transition = "TRANSITION_FADE" → Fits 0 (2 ^ 32) durationMs

/-- A segment that can be sent: its numbers fit their fields, a pad is spelled `pad`, and it has no
asset. -/
structure SegmentSendable (seg : ScheduledSegment) : Prop where
  duration : Fits (-2 ^ 63) (2 ^ 63) seg.segmentDurationMs
  offset : Fits (-2 ^ 63) (2 ^ 63) seg.assetStartOffsetMs
  fadeIn : FadeFits seg.transitionIn seg.transitionInDurationMs
  fadeOut : FadeFits seg.transitionOut seg.transitionOutDurationMs
  spelling : seg.segmentType ≠ "padding"
  pad : seg.segmentType = "pad" → seg.assetUri = "" ∧ seg.assetStartOffsetMs = 0

/-- A block that can be sent. -/
structure BlockSendable (channelIdInt : Int) (scheduled : ScheduledBlock) : Prop where
  channel : Fits (-2 ^ 31) (2 ^ 31) channelIdInt
  starts : Fits (-2 ^ 63) (2 ^ 63) scheduled.startUtcMs
  ends : Fits (-2 ^ 63) (2 ^ 63) scheduled.endUtcMs
  count : scheduled.segments.length ≤ 2 ^ 31
  segments : ∀ seg ∈ scheduled.segments, SegmentSendable seg

end Survival

/-! ### Segments -/

section Segments

/-- A number is sent exactly when its field holds it, and as it is. -/
theorem ranged_iff {low high value sent : Int} :
    ranged low high value = .ok sent ↔ Fits low high value ∧ sent = value := by
  unfold ranged Fits
  by_cases fits : low ≤ value ∧ value < high
  · rw [if_pos fits]
    constructor
    · intro done
      cases done
      exact ⟨fits, rfl⟩
    · rintro ⟨-, rfl⟩
      rfl
  · rw [if_neg fits]
    constructor
    · intro done
      cases done
    · rintro ⟨fits', -⟩
      exact absurd fits' fits

theorem uint32_iff {value : Int} {sent : ℕ} :
    uint32 value = .ok sent ↔ Fits 0 (2 ^ 32) value ∧ (sent : Int) = value := by
  unfold uint32
  constructor
  · intro done
    cases checked : ranged 0 (2 ^ 32) value with
    | error raised => rw [checked] at done; cases done
    | ok kept =>
      obtain ⟨fits, rfl⟩ := ranged_iff.mp checked
      rw [checked] at done
      cases done
      exact ⟨fits, Int.toNat_of_nonneg fits.1⟩
  · rintro ⟨fits, rfl⟩
    rw [ranged_iff.mpr ⟨fits, rfl⟩]
    rfl

/-- What `to_proto` makes of the transition keys of a scheduled segment's dict. -/
theorem transitionProto_iff {transition : String} {durationMs : Int} {sent : TransitionType × ℕ} :
    transitionProto (if transition ≠ "TRANSITION_NONE" then some transition else none)
        (if transition ≠ "TRANSITION_NONE" then some durationMs else none) = .ok sent ↔
      FadeFits transition durationMs ∧
        (sent.1, (sent.2 : Int)) = scheduledFade transition durationMs := by
  obtain ⟨type, sentMs⟩ := sent
  unfold transitionProto FadeFits scheduledFade
  by_cases fades : transition = "TRANSITION_FADE"
  · subst fades
    have differs : "TRANSITION_FADE" ≠ "TRANSITION_NONE" := by decide
    simp only [if_pos differs, Option.getD_some, if_true, true_implies, bind_eq_ok, uint32_iff,
      Prod.mk.injEq]
    constructor
    · rintro ⟨kept, ⟨fits, held⟩, done⟩
      cases done
      exact ⟨fits, rfl, held⟩
    · rintro ⟨fits, rfl, held⟩
      exact ⟨sentMs, ⟨fits, held⟩, rfl⟩
  · have cut : (if transition ≠ "TRANSITION_NONE" then some transition else none).getD
        "TRANSITION_NONE" ≠ "TRANSITION_FADE" := by
      by_cases none_ : transition = "TRANSITION_NONE"
      · rw [if_neg (not_not.mpr none_)]
        decide
      · rw [if_pos none_]
        exact fades
    rw [if_neg cut, if_neg fades]
    constructor
    · intro done
      cases done
      exact ⟨fun fade => absurd fade fades, rfl⟩
    · rintro ⟨-, same⟩
      simp only [Prod.mk.injEq, Nat.cast_eq_zero] at same
      rw [same.1, same.2]

/-- The number that is sent for a spelling. -/
def sentType (spelling : String) : SegmentType :=
  if spelling = "pad" then .pad else if spelling = "filler" then .filler else .content

/-- What `to_proto` makes of the asset of a scheduled segment's dict. -/
theorem assetProto_iff (i : ℕ) (seg : ScheduledSegment) {sent : SegmentType × String × Int} :
    assetProto (segmentDict i seg) = .ok sent ↔
      (seg.segmentType ≠ "pad" → Fits (-2 ^ 63) (2 ^ 63) seg.assetStartOffsetMs) ∧
        sent = (sentType seg.segmentType,
          if seg.segmentType = "pad" then ("", 0) else (seg.assetUri, seg.assetStartOffsetMs)) := by
  unfold assetProto segmentDict sentType
  by_cases pad : seg.segmentType = "pad"
  · simp only [Option.getD_some, if_pos pad]
    constructor
    · intro done
      cases done
      exact ⟨fun notPad => absurd pad notPad, rfl⟩
    · rintro ⟨-, rfl⟩
      rfl
  · simp only [Option.getD_some, if_neg pad, required, bind_eq_ok, int64, ranged_iff]
    constructor
    · rintro ⟨uri, located, offset, ⟨fits, rfl⟩, done⟩
      cases located
      cases done
      exact ⟨fun _ => fits, rfl⟩
    · rintro ⟨fits, rfl⟩
      exact ⟨_, rfl, _, ⟨fits pad, rfl⟩, rfl⟩

/-- A fade that fits is sent. -/
theorem transitionProto_sends {transition : String} {durationMs : Int}
    (fits : FadeFits transition durationMs) :
    ∃ sent : TransitionType × ℕ,
      transitionProto (if transition ≠ "TRANSITION_NONE" then some transition else none)
          (if transition ≠ "TRANSITION_NONE" then some durationMs else none) = .ok sent ∧
        (sent.1, (sent.2 : Int)) = scheduledFade transition durationMs := by
  have nonneg : 0 ≤ (scheduledFade transition durationMs).2 := by
    unfold scheduledFade
    by_cases fades : transition = "TRANSITION_FADE"
    · rw [if_pos fades]
      exact (fits fades).1
    · rw [if_neg fades]
  have same : ((scheduledFade transition durationMs).1,
      ((scheduledFade transition durationMs).2.toNat : Int)) =
        scheduledFade transition durationMs := by
    rw [Int.toNat_of_nonneg nonneg]
  exact ⟨((scheduledFade transition durationMs).1, (scheduledFade transition durationMs).2.toNat),
    transitionProto_iff.mpr ⟨fits, same⟩, same⟩

/-- **Which segments arrive as they were scheduled**: exactly those that can be sent. -/
theorem survives_iff (i : ℕ) (seg : ScheduledSegment) :
    (∃ sent, (segmentDict i seg).dict.toMessage = .ok sent ∧
        SegmentSurvives seg (protoToSegment sent)) ↔
      Fits (-2 ^ 31) (2 ^ 31) i ∧ SegmentSendable seg := by
  constructor
  · rintro ⟨sent, done, survives⟩
    obtain ⟨kept, made, done⟩ := bind_eq_ok.mp done
    cases done
    obtain ⟨index, present, made⟩ := bind_eq_ok.mp made
    obtain ⟨index', indexed, made⟩ := bind_eq_ok.mp made
    obtain ⟨duration, lasts, made⟩ := bind_eq_ok.mp made
    obtain ⟨asset, located, made⟩ := bind_eq_ok.mp made
    obtain ⟨transitionIn, enters, made⟩ := bind_eq_ok.mp made
    obtain ⟨transitionOut, leaves, made⟩ := bind_eq_ok.mp made
    cases made
    cases required_ok present
    obtain ⟨offset, rfl⟩ := (assetProto_iff i seg).mp located
    have typed := survives.pad
    simp only [protoToSegment, castSegmentType_number, sentType, IsPad] at typed
    refine ⟨(ranged_iff.mp indexed).1, (ranged_iff.mp lasts).1, ?_,
      (transitionProto_iff.mp enters).1, (transitionProto_iff.mp leaves).1, ?_, ?_⟩
    · by_cases pad : seg.segmentType = "pad"
      · have zero := survives.offset
        simp only [protoToSegment, if_pos pad] at zero
        rw [← zero]
        exact ⟨by decide, by decide⟩
      · exact offset pad
    · intro padding
      rw [padding] at typed
      exact absurd (typed.mpr (.inr rfl)) (by decide)
    · intro pad
      have empty := survives.asset
      have zero := survives.offset
      simp only [protoToSegment, if_pos pad] at empty zero
      exact ⟨empty.symm, zero.symm⟩
  · rintro ⟨index, sendable⟩
    obtain ⟨transitionIn, enters, fadeIn⟩ := transitionProto_sends sendable.fadeIn
    obtain ⟨transitionOut, leaves, fadeOut⟩ := transitionProto_sends sendable.fadeOut
    have located := (assetProto_iff i seg).mpr ⟨fun _ => sendable.offset, rfl⟩
    refine ⟨_, bind_eq_ok.mpr ⟨_, bind_eq_ok.mpr ⟨_, rfl, bind_eq_ok.mpr ⟨_,
      ranged_iff.mpr ⟨index, rfl⟩, bind_eq_ok.mpr ⟨_, ranged_iff.mpr ⟨sendable.duration, rfl⟩,
      bind_eq_ok.mpr ⟨_, located, bind_eq_ok.mpr ⟨_, enters, bind_eq_ok.mpr ⟨_, leaves, rfl⟩⟩⟩⟩⟩⟩,
      rfl⟩, ?_⟩
    have typed : sentType seg.segmentType = .pad ↔ IsPad seg := by
      unfold sentType IsPad
      by_cases pad : seg.segmentType = "pad"
      · rw [if_pos pad]
        exact ⟨fun _ => .inl pad, fun _ => rfl⟩
      · rw [if_neg pad]
        constructor
        · intro same
          split at same <;> cases same
        · rintro (spelled | spelled)
          · exact absurd spelled pad
          · exact absurd spelled sendable.spelling
    have gain : (if seg.gainDb ≠ 0 then some seg.gainDb else none).getD 0 = seg.gainDb := by
      by_cases unity : seg.gainDb = 0
      · rw [if_neg (not_not.mpr unity), unity]
        rfl
      · rw [if_pos unity]
        rfl
    refine ⟨?_, ?_, rfl, ?_, ?_, ?_, ?_, rfl, rfl, rfl⟩
    · by_cases pad : seg.segmentType = "pad"
      · simp [protoToSegment, pad, (sendable.pad pad).1]
      · simp [protoToSegment, pad]
    · by_cases pad : seg.segmentType = "pad"
      · simp [protoToSegment, pad, (sendable.pad pad).2]
      · simp [protoToSegment, pad]
    · show binary32 ((segmentDict i seg).gainDb.getD 0) = binary32 seg.gainDb
      rw [segmentDict, gain]
    · simpa [protoToSegment] using fadeIn
    · simpa [protoToSegment] using fadeOut
    · simpa [protoToSegment] using typed

end Segments

/-! ### Blocks -/

section Blocks

/-- The messages are made one by one. -/
theorem segmentMessages_iff {dicts : List SegmentDict} {sent : List BlockSegmentMessage} :
    segmentMessages dicts = .ok sent ↔
      List.Forall₂ (fun dict message => dict.toMessage = .ok message) dicts sent := by
  induction dicts generalizing sent with
  | nil =>
    rw [List.forall₂_nil_left_iff, segmentMessages, Except.ok.injEq]
    exact eq_comm
  | cons dict rest ih =>
    simp only [segmentMessages, bind_eq_ok, ih, List.forall₂_cons_left_iff, Except.ok.injEq]
    constructor
    · rintro ⟨message, made, others, later, rfl⟩
      exact ⟨message, others, made, later, rfl⟩
    · rintro ⟨message, others, made, later, rfl⟩
      exact ⟨message, made, others, later, rfl⟩

/-- Results found for each item, by its position, are a list of results. -/
theorem exists_pairs_iff {α β γ : Type} (made : β → γ → Prop) (wanted : α → γ → Prop)
    (build : ℕ → α → β) (items : List α) :
    (∃ results, List.Forall₂ made (items.mapIdx build) results ∧
        List.Forall₂ wanted items results) ↔
      ∀ i (inside : i < items.length), ∃ result, made (build i items[i]) result ∧
        wanted items[i] result := by
  induction items generalizing build with
  | nil =>
    constructor
    · intro _ i inside
      exact absurd inside (Nat.not_lt_zero i)
    · intro _
      exact ⟨[], .nil, .nil⟩
  | cons item rest ih =>
    rw [List.mapIdx_cons]
    constructor
    · rintro ⟨results, pairs, others⟩
      cases pairs with
      | cons here later =>
        cases others with
        | cons wants wanted =>
          intro i inside
          cases i with
          | zero => exact ⟨_, here, wants⟩
          | succ i =>
            exact (ih fun k => build (k + 1)).mp ⟨_, later, wanted⟩ i
              (Nat.lt_of_succ_lt_succ inside)
    · intro each
      obtain ⟨first, here, wants⟩ := each 0 (Nat.succ_pos _)
      obtain ⟨results, later, wanted⟩ := (ih fun k => build (k + 1)).mpr
        fun i inside => each (i + 1) (Nat.succ_lt_succ inside)
      exact ⟨first :: results, .cons here later, .cons wants wanted⟩

/-- Without a join a block is planned whole. -/
theorem generateNextBlock_whole (channelIdInt : Int) (scheduled : ScheduledBlock) :
    generateNextBlock channelIdInt scheduled 0 0 =
      .ok ⟨scheduled.blockId, channelIdInt, scheduled.startUtcMs, scheduled.endUtcMs,
        scheduled.segments.mapIdx segmentDict⟩ := by
  simp [generateNextBlock]

/-- The message of a plan: its numbers fit, and its segments are made one by one. -/
theorem toMessage_iff (plan : BlockPlan) {message : BlockPlanMessage} :
    plan.toMessage = .ok message ↔
      Fits (-2 ^ 31) (2 ^ 31) plan.channelId ∧ Fits (-2 ^ 63) (2 ^ 63) plan.startUtcMs ∧
        Fits (-2 ^ 63) (2 ^ 63) plan.endUtcMs ∧
        ∃ segments, segmentMessages (plan.segments.map PlanSegment.dict) = .ok segments ∧
          message = ⟨plan.blockId, plan.channelId, plan.startUtcMs, plan.endUtcMs, segments, "", 0⟩ := by
  unfold BlockPlan.toMessage
  simp only [bind_eq_ok, int32, int64, ranged_iff, Except.ok.injEq]
  constructor
  · rintro ⟨_, ⟨channel, rfl⟩, _, ⟨starts, rfl⟩, _, ⟨ends, rfl⟩, segments, made, rfl⟩
    exact ⟨channel, starts, ends, segments, made, rfl⟩
  · rintro ⟨channel, starts, ends, segments, made, rfl⟩
    exact ⟨_, ⟨channel, rfl⟩, _, ⟨starts, rfl⟩, _, ⟨ends, rfl⟩, segments, made, rfl⟩

/-- The dicts of a scheduled block, by position. -/
theorem dicts_eq (segments : List ScheduledSegment) :
    (segments.mapIdx segmentDict).map PlanSegment.dict =
      segments.mapIdx fun i seg => (segmentDict i seg).dict := by
  apply List.ext_getElem
  · simp
  · intro i here there
    simp

/-- The segments of a block arrive as they were scheduled when each of them can be sent. -/
theorem segments_survive_iff (segments : List ScheduledSegment) :
    (∃ messages, segmentMessages ((segments.mapIdx segmentDict).map PlanSegment.dict) =
          .ok messages ∧
        List.Forall₂ SegmentSurvives segments (messages.map protoToSegment)) ↔
      segments.length ≤ 2 ^ 31 ∧ ∀ seg ∈ segments, SegmentSendable seg := by
  have pairs := exists_pairs_iff (fun dict message => SegmentDict.toMessage dict = .ok message)
    (fun seg message => SegmentSurvives seg (protoToSegment message))
    (fun i seg => (segmentDict i seg).dict) segments
  simp only [dicts_eq, segmentMessages_iff, List.forall₂_map_right_iff, pairs, survives_iff]
  constructor
  · intro each
    refine ⟨?_, ?_⟩
    · -- the last index fits
      by_contra many
      have last := (each (2 ^ 31) (not_le.mp many)).1.2
      norm_num at last
    · intro seg member
      obtain ⟨i, inside, rfl⟩ := List.getElem_of_mem member
      exact (each i inside).2
  · rintro ⟨count, sendable⟩ i inside
    refine ⟨⟨?_, ?_⟩, sendable _ (List.getElem_mem inside)⟩
    · omega
    · omega

/-- **Which blocks arrive as they were scheduled**: those whose numbers fit the fields of the message,
and whose pads are spelled `pad` and have no asset. -/
theorem block_survives_iff (channelIdInt : Int) (scheduled : ScheduledBlock) :
    (∃ fed, sendBlock channelIdInt scheduled = some fed ∧ BlockSurvives scheduled fed) ↔
      BlockSendable channelIdInt scheduled := by
  have segments := segments_survive_iff scheduled.segments
  unfold sendBlock
  rw [generateNextBlock_whole]
  simp only [Except.toOption, Option.bind_some, Option.map_eq_some_iff]
  constructor
  · rintro ⟨fed, ⟨message, sent, rfl⟩, survives⟩
    obtain ⟨channel, starts, ends, messages, made, rfl⟩ := (toMessage_iff _).mp (toOption_eq_some sent)
    obtain ⟨count, sendable⟩ := segments.mp ⟨messages, made, survives.segments⟩
    exact ⟨channel, starts, ends, count, sendable⟩
  · intro sendable
    obtain ⟨messages, made, survive⟩ := segments.mpr ⟨sendable.count, sendable.segments⟩
    have sent := (toMessage_iff ⟨scheduled.blockId, channelIdInt, scheduled.startUtcMs,
      scheduled.endUtcMs, scheduled.segments.mapIdx segmentDict⟩).mpr
        ⟨sendable.channel, sendable.starts, sendable.ends, messages, made, rfl⟩
    rw [sent]
    exact ⟨_, ⟨_, rfl, rfl⟩, rfl, rfl, rfl, survive⟩

/-- A block that ends with half a minute of padding. -/
def paddedBlock : ScheduledBlock where
  blockId := "block"
  startUtcMs := 0
  endUtcMs := 30000
  segments := [plainSegment "padding" "" 30000]

/-- The padding arrives as content without an asset. -/
theorem padding_becomes_content :
    (sendBlock 1 paddedBlock).map (fun fed => fed.segments.map ReceivedSegment.segmentType) =
        some [.content] ∧
      ¬ ∃ fed, sendBlock 1 paddedBlock = some fed ∧ BlockSurvives paddedBlock fed := by
  have types : (sendBlock 1 paddedBlock).map
      (fun fed => fed.segments.map ReceivedSegment.segmentType) = some [.content] := by
    decide +kernel
  refine ⟨types, ?_⟩
  rintro ⟨fed, arrived, survives⟩
  rw [arrived, Option.map_some, Option.some.injEq] at types
  obtain ⟨first, rest, here, _, listed⟩ := List.forall₂_cons_left_iff.mp survives.segments
  have padded := here.pad.mpr (.inr rfl)
  rw [listed, List.map_cons, padded] at types
  exact absurd types (by simp)

end Blocks

end Retrovue.Core.Handoff
