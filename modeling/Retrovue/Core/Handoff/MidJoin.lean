/-
**Joining a block in progress, on both sides.**

* `Relisted`: a plan with its segments in another order;
* `sentOffset`, `sentOffset_remainder_iff`: the offset of the first segment of a joined plan as AIR
  receives it, and when it is the effective offset that AIR computes itself;
* `mid_join_agrees`: Core leaves the suffix of the block from the join on, and AIR starts the whole
  block in the same segment.
-/

import Mathlib
import Retrovue.Core.Handoff.Joining

namespace Retrovue.Core.Handoff

open Retrovue.Foundation.Sorting Retrovue.Foundation.Offsets Retrovue.Foundation.Fallible
open Retrovue.Core.Playlog
open Retrovue.Air.Blockplan (ValidatedBlockPlan InIndexOrder segmentLength computeJoinParameters
  computeJoinParameters_mid computeJoinParameters_early segmentsValid_iff)

/-! ### The same plan on both sides -/

section Pairs

/-- A plan with the same segments, listed in any order. -/
structure Relisted (plan other : Retrovue.Air.Blockplan.BlockPlan) : Prop where
  starts : plan.startUtcMs = other.startUtcMs
  ends : plan.endUtcMs = other.endUtcMs
  listed : plan.segments.Perm other.segments

/-- Lists paired item by item split at the same place. -/
theorem forall₂_split {α β : Type} {related : α → β → Prop} {a : α} {after : List α} :
    ∀ {before : List α} {others : List β}, List.Forall₂ related (before ++ a :: after) others →
      ∃ before' b after', others = before' ++ b :: after' ∧ List.Forall₂ related before before' ∧
        related a b
  | [], others, pairs => by
    cases pairs with
    | cons here later => exact ⟨[], _, _, rfl, List.Forall₂.nil, here⟩
  | first :: rest, others, pairs => by
    cases pairs with
    | cons here later =>
      obtain ⟨before', b, after', rfl, front, middle⟩ := forall₂_split later
      exact ⟨_ :: before', b, after', rfl, List.Forall₂.cons here front, middle⟩

variable {plan : BlockPlan} {sent : Retrovue.Air.Blockplan.BlockPlan}

/-- **An offset falls in the same segment of the message.** -/
theorem fallsIn_toProto (message : plan.toProto = .ok sent) {offset : Int}
    {before after : List PlanSegment} {seg : PlanSegment}
    (falls : FallsIn planLength plan.segments offset before seg after) :
    ∃ before' seg' after', FallsIn segmentLength sent.segments offset before' seg' after' ∧
      before'.length = before.length ∧
      total segmentLength before' = total planLength before ∧ seg.toProto = .ok seg' := by
  obtain ⟨-, -, pairs⟩ := BlockPlan.toProto_ok message
  rw [falls.split] at pairs
  obtain ⟨before', seg', after', split, front, here⟩ := forall₂_split pairs
  have length := (PlanSegment.toProto_ok here).2.1
  have totals : total segmentLength before' = total planLength before :=
    congrArg List.sum (map_eq_of_forall₂ planLength segmentLength
      (fun _ _ sent => (PlanSegment.toProto_ok sent).2.1) front).symm
  refine ⟨before', seg', after', ⟨split, ?_, ?_⟩, front.length_eq.symm, totals, here⟩
  · rw [totals]
    exact falls.passed
  · rw [totals, ← length]
    exact falls.inside

end Pairs

/-! ### The offset of the first segment -/

section Offset

/-- The offset that is sent for a segment. -/
def sentOffset (seg : PlanSegment) : Int :=
  if seg.segmentType.getD "content" = "pad" then 0 else seg.assetStartOffsetMs.getD 0

theorem assetProto_offset {seg : PlanSegment} {segmentType : Retrovue.Air.Blockplan.SegmentType}
    {assetUri : String} {offset : Int} (done : assetProto seg = .ok (segmentType, assetUri, offset)) :
    offset = sentOffset seg := by
  unfold assetProto at done
  rw [sentOffset]
  split_ifs at done ⊢ with pad
  · cases done
    rfl
  all_goals
    obtain ⟨uri, -, done⟩ := bind_eq_ok.mp done
    obtain ⟨value, fits, done⟩ := bind_eq_ok.mp done
    cases done
    exact ranged_ok fits

/-- **The offsets agree** when nothing of the segment has elapsed, or when it plays an asset. -/
theorem sentOffset_remainder_iff (seg : PlanSegment) {elapsedMs : Int} (started : 0 ≤ elapsedMs) :
    sentOffset seg + elapsedMs = sentOffset (seg.remainder elapsedMs) ↔
      elapsedMs = 0 ∨ (seg.hasAsset = true ∧ seg.segmentType.getD "content" ≠ "pad") := by
  by_cases under : 0 < elapsedMs
  · have some_ : elapsedMs ≠ 0 := under.ne'
    rw [PlanSegment.remainder, if_pos under, or_iff_right some_, PlanSegment.trim]
    by_cases pad : seg.segmentType.getD "content" = "pad"
    · simp [sentOffset, pad, some_]
    · by_cases asset : seg.hasAsset = true
      · simp [sentOffset, pad, asset]
      · simp [sentOffset, pad, asset, some_]
  · have none_ : elapsedMs = 0 := by omega
    simp [PlanSegment.remainder, none_]

end Offset

/-! ### The join -/

section Join

variable {plan : BlockPlan} {sent : Retrovue.Air.Blockplan.BlockPlan}
  {validated : ValidatedBlockPlan}

/-- The segments of a plan joined at `tJoinMs`. -/
def joinedSegments (plan : BlockPlan) (tJoinMs : Int) : List PlanSegment :=
  renumber (applyJipToSegments plan.segments (tJoinMs - plan.startUtcMs)
    (plan.endUtcMs - tJoinMs))

/-- A plan that AIR accepted lasts, and so does each of its segments. -/
theorem lengths_of_validated (message : plan.toProto = .ok sent)
    (relisted : Relisted validated.plan sent) :
    Positive planLength plan.segments ∧
      total planLength plan.segments = plan.endUtcMs - plan.startUtcMs := by
  obtain ⟨starts, ends, -⟩ := BlockPlan.toProto_ok message
  obtain ⟨-, -, positive, spans⟩ := (segmentsValid_iff validated.plan).mp validated.valid
  have lengths := lengths_toProto message
  constructor
  · rw [positive_congr lengths]
    exact fun seg member => positive seg (relisted.listed.mem_iff.mpr member)
  · rw [total, lengths, ← (relisted.listed.map segmentLength).sum_eq, ← ends, ← starts,
      ← relisted.ends, ← relisted.starts]
    exact spans

/-- What is left of a segment that the offset falls in lasts. -/
theorem remainder_lasts {seg : PlanSegment} {elapsedMs : Int} (started : 0 ≤ elapsedMs)
    (inside : elapsedMs < planLength seg) :
    planLength (seg.remainder elapsedMs) = planLength seg - elapsedMs ∧
      0 < planLength (seg.remainder elapsedMs) := by
  have left : planLength (seg.remainder elapsedMs) = planLength seg - elapsedMs := by
    rw [PlanSegment.remainder]
    split_ifs with under
    · exact planLength_trim seg elapsedMs
    · omega
  exact ⟨left, by omega⟩

/-- **Core's side**: the remainder of the segment under way and every segment after it, numbered
anew; they last, together to the end of the block. -/
theorem joinedSegments_fallsIn (positive : Positive planLength plan.segments)
    (spans : total planLength plan.segments = plan.endUtcMs - plan.startUtcMs) {tJoinMs : Int}
    {before after : List PlanSegment} {seg : PlanSegment}
    (falls : FallsIn planLength plan.segments (tJoinMs - plan.startUtcMs) before seg after) :
    joinedSegments plan tJoinMs =
        renumber (seg.remainder (tJoinMs - plan.startUtcMs - total planLength before) :: after) ∧
      Numbered (joinedSegments plan tJoinMs) ∧
      Positive planLength (joinedSegments plan tJoinMs) ∧
      total planLength (joinedSegments plan tJoinMs) = plan.endUtcMs - tJoinMs := by
  have passed := falls.passed
  have inside := falls.inside
  obtain ⟨length, lasts⟩ := remainder_lasts
    (show 0 ≤ tJoinMs - plan.startUtcMs - total planLength before by omega)
    (show tJoinMs - plan.startUtcMs - total planLength before < planLength seg by omega)
  have full : total planLength
      (seg.remainder (tJoinMs - plan.startUtcMs - total planLength before) :: after) =
        plan.endUtcMs - tJoinMs := by
    have left := falls.left
    rw [total_cons, length]
    omega
  have shape : joinedSegments plan tJoinMs =
      renumber (seg.remainder (tJoinMs - plan.startUtcMs - total planLength before) :: after) := by
    rw [joinedSegments, applyJipToSegments, skipElapsed_fallsIn positive falls, extendPad_full full]
  have lengths := map_renumber_length
    (seg.remainder (tJoinMs - plan.startUtcMs - total planLength before) :: after)
  rw [shape]
  refine ⟨rfl, numbered_renumber _, ?_, ?_⟩
  · rw [positive_congr lengths]
    refine List.forall_mem_cons.mpr ⟨lasts, fun other member => positive other ?_⟩
    rw [falls.split]
    exact List.mem_append_right _ (List.mem_cons_of_mem seg member)
  · rw [total_renumber, full]

/-- **AIR's side**: the whole block starts in the same segment, its asset advanced by what has
elapsed of it. -/
theorem computeJoinParameters_fallsIn (message : plan.toProto = .ok sent)
    (relisted : Relisted validated.plan sent) (numbered : Numbered plan.segments) {tJoinMs : Int}
    (started : plan.startUtcMs ≤ tJoinMs) (runs : tJoinMs < plan.endUtcMs)
    {before after : List PlanSegment} {seg : PlanSegment}
    (falls : FallsIn planLength plan.segments (tJoinMs - plan.startUtcMs) before seg after) :
    computeJoinParameters validated tJoinMs =
      .ok ⟨.midBlock, 0, tJoinMs - plan.startUtcMs, before.length,
        sentOffset seg + (tJoinMs - plan.startUtcMs - total planLength before)⟩ := by
  obtain ⟨starts, ends, -⟩ := BlockPlan.toProto_ok message
  have inOrder := inIndexOrder_of_numbered message numbered
  have sameStart : validated.plan.startUtcMs = plan.startUtcMs := relisted.starts.trans starts
  have sameEnd : validated.plan.endUtcMs = plan.endUtcMs := relisted.ends.trans ends
  obtain ⟨before', seg', after', falls', places, totals, here⟩ := fallsIn_toProto message falls
  rw [← sameStart] at falls' started
  rw [← sameEnd] at runs
  rw [computeJoinParameters_mid relisted.listed inOrder started runs falls', places, totals,
    sameStart, assetProto_offset (PlanSegment.toProto_ok here).2.2]

/-- **A join in progress agrees on both sides.** Core leaves the suffix of the block from the join
on; for a plan numbered as it is listed AIR starts the whole block, however it lists the segments,
in the same segment, and at the same offset of the asset unless the segment has begun and plays
none. An early join of a block listed in order is the join at its start, after the wait. -/
theorem mid_join_agrees (message : plan.toProto = .ok sent)
    (relisted : Relisted validated.plan sent) {tJoinMs : Int}
    (started : plan.startUtcMs ≤ tJoinMs) (runs : tJoinMs < plan.endUtcMs) :
    ∃ before seg after,
      FallsIn planLength plan.segments (tJoinMs - plan.startUtcMs) before seg after ∧
      joinedSegments plan tJoinMs =
        renumber (seg.remainder (tJoinMs - plan.startUtcMs - total planLength before) :: after) ∧
      Numbered (joinedSegments plan tJoinMs) ∧
      Positive planLength (joinedSegments plan tJoinMs) ∧
      total planLength (joinedSegments plan tJoinMs) = plan.endUtcMs - tJoinMs ∧
      (Numbered plan.segments → ∃ params, computeJoinParameters validated tJoinMs = .ok params ∧
        params.startSegmentIndex = before.length ∧
        (params.effectiveAssetOffsetMs =
            sentOffset (seg.remainder (tJoinMs - plan.startUtcMs - total planLength before)) ↔
          tJoinMs - plan.startUtcMs = total planLength before ∨
            (seg.hasAsset = true ∧ seg.segmentType.getD "content" ≠ "pad")) ∧
        (validated.plan.segments = sent.segments → ∀ early < plan.startUtcMs,
          computeJoinParameters validated early =
            (computeJoinParameters validated plan.startUtcMs).map fun joined =>
              { joined with classification := .early, waitMs := plan.startUtcMs - early })) := by
  obtain ⟨positive, spans⟩ := lengths_of_validated message relisted
  obtain ⟨before, seg, after, falls⟩ := exists_fallsIn
    (show 0 ≤ tJoinMs - plan.startUtcMs by omega)
    (show tJoinMs - plan.startUtcMs < total planLength plan.segments by omega)
  have passed := falls.passed
  obtain ⟨shape, renumbered, lasting, fills⟩ := joinedSegments_fallsIn positive spans falls
  refine ⟨before, seg, after, falls, shape, renumbered, lasting, fills, fun numbered => ?_⟩
  refine ⟨_, computeJoinParameters_fallsIn message relisted numbered started runs falls, rfl, ?_,
    ?_⟩
  · rw [sentOffset_remainder_iff seg (by omega), sub_eq_zero]
  · intro listed early wait
    have sameStart := relisted.starts.trans (BlockPlan.toProto_ok message).1
    rw [← sameStart] at wait ⊢
    refine computeJoinParameters_early ?_ wait
    rw [listed]
    exact inIndexOrder_of_numbered message numbered

/-- A dict of a file. -/
def fileDict (index : Int) (assetUri : String) (offsetMs durationMs : Int) : PlanSegment :=
  { gapPad durationMs with
    segmentIndex := some index
    segmentType := some "content"
    assetUri := some assetUri
    assetStartOffsetMs := some offsetMs }

/-- A dict of a pad. -/
def padDict (index : Int) (durationMs : Int) : PlanSegment :=
  { gapPad durationMs with
    segmentIndex := some index, assetUri := some "", assetStartOffsetMs := some 0 }

/-- Segments of two seconds from the start of a minute. -/
def twoSeconds (segments : List PlanSegment) : BlockPlan where
  blockId := "blk-0"
  channelId := 1
  startUtcMs := 60000
  endUtcMs := 62000
  segments := segments

/-- What AIR computes for a plan joined at a time, if it accepts the plan. -/
def airJoin (plan : BlockPlan) (tJoinMs : Int) :
    Option Retrovue.Air.Blockplan.JoinParameters := do
  let sent ← plan.toProto.toOption
  if valid : sent.fed.segmentsValid = true then (computeJoinParameters ⟨sent, valid⟩ tJoinMs).toOption
  else none

/-- A second of an episode and a second of black, joined half a second in. -/
theorem joined_in_episode_agrees :
    ∃ (validated : ValidatedBlockPlan) (params : Retrovue.Air.Blockplan.JoinParameters),
      (twoSeconds [fileDict 0 "a.mkv" 7000 1000, padDict 1 1000]).toProto = .ok validated.plan ∧
        computeJoinParameters validated 60500 = .ok params ∧
        total planLength
          (joinedSegments (twoSeconds [fileDict 0 "a.mkv" 7000 1000, padDict 1 1000]) 60500) =
            1500 := by
  obtain ⟨sent, message, valid⟩ := Option.map_eq_some_iff.mp
    (show (twoSeconds [fileDict 0 "a.mkv" 7000 1000, padDict 1 1000]).toProto.toOption.map
      (fun sent => sent.fed.segmentsValid) = some true by decide +kernel)
  have message := toOption_eq_some message
  obtain ⟨before, seg, after, -, -, -, -, fills, agrees⟩ :=
    @mid_join_agrees _ sent ⟨sent, valid⟩ message ⟨rfl, rfl, List.Perm.refl _⟩ 60500 (by decide)
      (by decide)
  obtain ⟨params, joins, -⟩ := agrees (by decide)
  exact ⟨⟨sent, valid⟩, params, message, joins, fills⟩

/-- **Where they differ.** A pad under way: Core sends no offset for it, AIR counts what has elapsed
of it. Segments listed out of order: Core starts in the first one listed, AIR in the first one
numbered. -/
theorem pad_and_order_differ :
    (airJoin (twoSeconds [fileDict 0 "a.mkv" 7000 1000, padDict 1 1000]) 61500 =
        some ⟨.midBlock, 0, 1500, 1, 500⟩ ∧
      (joinedSegments (twoSeconds [fileDict 0 "a.mkv" 7000 1000, padDict 1 1000]) 61500).map
        sentOffset = [0]) ∧
    (airJoin (twoSeconds [fileDict 1 "b.mkv" 0 1000, fileDict 0 "a.mkv" 7000 1000]) 60500 =
        some ⟨.midBlock, 0, 500, 0, 7500⟩ ∧
      joinedSegments (twoSeconds [fileDict 1 "b.mkv" 0 1000, fileDict 0 "a.mkv" 7000 1000]) 60500 =
        [fileDict 0 "b.mkv" 500 500, fileDict 1 "a.mkv" 7000 1000]) := by
  decide +kernel

end Join

end Retrovue.Core.Handoff
