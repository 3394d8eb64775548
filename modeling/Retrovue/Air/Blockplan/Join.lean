/-
**Joining a block plan** (`BlockPlanTypes.hpp`, `BlockPlanValidator.cpp`).

* `BlockPlan`: a plan with the assets of its segments, `BlockPlan.fed` without them;
* `FedBlock.segmentsValid`: the validator's checks on the segments of a plan, `ValidatedBlockPlan`: a
  plan that passed them;
* `computeJoinParameters`: `JoinComputer`, where and how far into an asset playback starts;
* `computeJoinParameters_mid`: what it computes inside a block, however its segments are listed;
* `computeJoinParameters_early`: before the block, the same as at its start.

The checks that ask for an asset, and the plan's freshness when it is received, are left out.
-/

import Mathlib
import Retrovue.Foundation.Offsets
import Retrovue.Air.Blockplan.Types

namespace Retrovue.Air.Blockplan

open Retrovue.Foundation.Sorting Retrovue.Foundation.Offsets

/-! ### Plans -/

section Plans

/-- `Segment`, with its asset and how it ends. -/
structure PlanSegment extends Segment where
  assetUri : String
  assetStartOffsetMs : Int
  transitionOut : TransitionType
  transitionOutDurationMs : Nat
  gainDb : ℚ
  deriving DecidableEq

/-- `BlockPlan`. -/
structure BlockPlan where
  blockId : String
  channelId : Int
  startUtcMs : Int
  endUtcMs : Int
  segments : List PlanSegment
  deriving DecidableEq

/-- The plan without its assets. -/
def BlockPlan.fed (plan : BlockPlan) : FedBlock where
  blockId := plan.blockId
  startUtcMs := plan.startUtcMs
  endUtcMs := plan.endUtcMs
  segments := plan.segments.map PlanSegment.toSegment

/-- `ValidateSegmentIndices` and `ValidateDurationSum`. -/
def FedBlock.segmentsValid (block : FedBlock) : Bool :=
  block.indicesContiguous && block.segments.all (fun segment => 0 < segment.segmentDurationMs) &&
    ((block.segments.map Segment.segmentDurationMs).sum == block.endUtcMs - block.startUtcMs)

/-- A plan whose segments the validator accepts. -/
structure ValidatedBlockPlan where
  plan : BlockPlan
  valid : plan.fed.segmentsValid = true

/-- The boundaries computed at acceptance. -/
def ValidatedBlockPlan.boundaries (validated : ValidatedBlockPlan) : List SegmentBoundary :=
  validated.plan.fed.computeBoundaries

end Plans

/-! ### The join computer -/

section JoinComputer

/-- `JoinClassification`. -/
inductive JoinClassification
  | early
  | midBlock
  | stale
  deriving DecidableEq, Repr

/-- `JoinParameters`. -/
structure JoinParameters where
  classification : JoinClassification
  waitMs : Int
  ctStartMs : Int
  startSegmentIndex : Int
  effectiveAssetOffsetMs : Int
  deriving DecidableEq, Repr

/-- The errors of `ComputeJoinParameters`. -/
inductive JoinError
  | staleBlockFromCore
  | offsetExceedsAsset
  | invalidSegmentIndex
  deriving DecidableEq, Repr

/-- `Classify`. -/
def classify (tJoinMs startUtcMs endUtcMs : Int) : JoinClassification :=
  if tJoinMs < startUtcMs then .early else if tJoinMs ≥ endUtcMs then .stale else .midBlock

/-- `FindSegmentForCT`; `none` is -1. -/
def findSegmentForCT : List SegmentBoundary → Int → Option Int
  | [], _ => none
  | bound :: rest, ctMs =>
    if bound.startCtMs ≤ ctMs ∧ ctMs < bound.endCtMs then some bound.segmentIndex
    else findSegmentForCT rest ctMs

/-- `ComputeJoinParameters`. -/
def computeJoinParameters (validated : ValidatedBlockPlan) (tJoinMs : Int) :
    Except JoinError JoinParameters :=
  match classify tJoinMs validated.plan.startUtcMs validated.plan.endUtcMs with
  | .stale => .error .staleBlockFromCore
  | .early =>
    match validated.plan.segments with
    -- a validated plan has a segment
    | [] => .error .invalidSegmentIndex
    | first :: _ =>
      .ok ⟨.early, validated.plan.startUtcMs - tJoinMs, 0, 0, first.assetStartOffsetMs⟩
  | .midBlock =>
    let ctStartMs := tJoinMs - validated.plan.startUtcMs
    match findSegmentForCT validated.boundaries ctStartMs with
    | none => .error .offsetExceedsAsset
    | some index =>
      match validated.plan.segments.find? fun segment => segment.segmentIndex == index with
      | none => .error .invalidSegmentIndex
      | some segment =>
        let bound := validated.boundaries.getD index.toNat ⟨0, 0, 0⟩
        .ok ⟨.midBlock, 0, ctStartMs, index,
          segment.assetStartOffsetMs + (ctStartMs - bound.startCtMs)⟩

end JoinComputer

/-! ### What the validator's checks say -/

section Checks

/-- The content duration of a segment. -/
abbrev segmentLength : PlanSegment → Int := fun segment => segment.segmentDurationMs

/-- **The checks on the segments**: numbered from 0 in some order, each of positive length, and
together as long as the block. -/
theorem segmentsValid_iff (plan : BlockPlan) :
    plan.fed.segmentsValid = true ↔
      plan.segments ≠ [] ∧
        sortByKey id (plan.segments.map fun segment => segment.segmentIndex) =
          (List.range plan.segments.length).map Int.ofNat ∧
        Positive segmentLength plan.segments ∧
        total segmentLength plan.segments = plan.endUtcMs - plan.startUtcMs := by
  simp [FedBlock.segmentsValid, FedBlock.indicesContiguous, BlockPlan.fed, Positive, total,
    Function.comp_def, and_assoc]

/-- Segments listed in the order of their indices. -/
def InIndexOrder (segments : List PlanSegment) : Prop :=
  segments.map (fun segment => segment.segmentIndex) = (List.range segments.length).map Int.ofNat

variable {listed : List PlanSegment}

/-- A segment listed in index order is numbered by its place. -/
theorem segmentIndex_of_inOrder (inOrder : InIndexOrder listed) {before after : List PlanSegment}
    {segment : PlanSegment} (split : listed = before ++ segment :: after) :
    segment.segmentIndex = before.length := by
  have here := congrArg (fun indices => indices[before.length]?) inOrder
  simpa [split] using here

theorem growing_of_inOrder (inOrder : InIndexOrder listed) :
    listed.Pairwise fun a b => a.segmentIndex < b.segmentIndex := by
  have indices : (listed.map fun segment => segment.segmentIndex).Pairwise (· < ·) := by
    rw [inOrder, List.pairwise_map]
    exact List.pairwise_lt_range.imp fun earlier => Int.ofNat_lt.mpr earlier
  exact List.pairwise_map.mp indices

/-- Segments listed in index order are told apart by their indices. -/
theorem eq_of_inOrder (inOrder : InIndexOrder listed) {a b : PlanSegment} (here : a ∈ listed)
    (there : b ∈ listed) (same : a.segmentIndex = b.segmentIndex) : a = b :=
  eq_of_growing (fun segment : PlanSegment => segment.segmentIndex) (growing_of_inOrder inOrder)
    here there same

/-- Segments numbered as they are listed pass the check on their indices. -/
theorem indices_of_inOrder (inOrder : InIndexOrder listed) :
    sortByKey id (listed.map fun segment => segment.segmentIndex) =
      (List.range listed.length).map Int.ofNat := by
  rw [inOrder]
  apply sortByKey_of_ascending
  rw [Ascending, List.pairwise_map]
  exact List.pairwise_lt_range.imp fun earlier => Int.ofNat_le.mpr earlier.le

end Checks

/-! ### What the join computer computes -/

section Joins

/-- The boundaries of a plan are those of its segments in index order. -/
theorem computeBoundaries_of_perm {plan : BlockPlan} {listed : List PlanSegment}
    (perm : plan.segments.Perm listed) (inOrder : InIndexOrder listed) :
    plan.fed.computeBoundaries = boundariesFrom 0 (listed.map PlanSegment.toSegment) := by
  rw [FedBlock.computeBoundaries, BlockPlan.fed,
    sortByKey_of_perm _ (perm.map _) (List.pairwise_map.mpr (growing_of_inOrder inOrder))]

/-- The boundary at a place. -/
theorem boundariesFrom_getElem? (segment : Segment) (after : List Segment) :
    ∀ (before : List Segment) (ct : Int),
      (boundariesFrom ct (before ++ segment :: after))[before.length]? =
        some ⟨segment.segmentIndex, ct + total Segment.segmentDurationMs before,
          ct + total Segment.segmentDurationMs before + segment.segmentDurationMs⟩
  | [], ct => by simp [boundariesFrom]
  | first :: rest, ct => by
    rw [List.cons_append, boundariesFrom, List.length_cons, List.getElem?_cons_succ,
      boundariesFrom_getElem? segment after rest, total_cons, add_assoc]

/-- The search over boundaries is the search over segments. -/
theorem findSegmentForCT_boundariesFrom :
    ∀ (segments : List Segment) (start ctMs : Int),
      findSegmentForCT (boundariesFrom start segments) ctMs =
        (locate Segment.segmentDurationMs start segments ctMs).map fun found => found.2.segmentIndex
  | [], _, _ => rfl
  | segment :: rest, start, ctMs => by
    rw [boundariesFrom, findSegmentForCT, locate]
    split
    · rfl
    · exact findSegmentForCT_boundariesFrom rest _ ctMs

variable {validated : ValidatedBlockPlan} {listed : List PlanSegment}

/-- **A join inside the block**: the segment that the elapsed time falls in, by its place in index
order, and its asset advanced by what has elapsed of it. -/
theorem computeJoinParameters_mid (perm : validated.plan.segments.Perm listed)
    (inOrder : InIndexOrder listed) {tJoinMs : Int} {before after : List PlanSegment}
    {segment : PlanSegment} (started : validated.plan.startUtcMs ≤ tJoinMs)
    (open_ : tJoinMs < validated.plan.endUtcMs)
    (falls : FallsIn segmentLength listed (tJoinMs - validated.plan.startUtcMs) before segment
      after) :
    computeJoinParameters validated tJoinMs =
      .ok ⟨.midBlock, 0, tJoinMs - validated.plan.startUtcMs, before.length,
        segment.assetStartOffsetMs +
          (tJoinMs - validated.plan.startUtcMs - total segmentLength before)⟩ := by
  obtain ⟨-, -, positive, -⟩ := (segmentsValid_iff validated.plan).mp validated.valid
  have numbered : segment.segmentIndex = before.length :=
    segmentIndex_of_inOrder inOrder falls.split
  have among : segment ∈ listed := by simp [falls.split]
  have bounds : validated.boundaries = boundariesFrom 0 (listed.map PlanSegment.toSegment) :=
    computeBoundaries_of_perm perm inOrder
  have mid : classify tJoinMs validated.plan.startUtcMs validated.plan.endUtcMs = .midBlock := by
    rw [classify, if_neg (by omega), if_neg (by omega)]
  have found : findSegmentForCT validated.boundaries (tJoinMs - validated.plan.startUtcMs) =
      some (before.length : Int) := by
    have positiveListed : Positive Segment.segmentDurationMs
        (listed.map PlanSegment.toSegment) := by
      intro a member
      obtain ⟨b, here, rfl⟩ := List.mem_map.mp member
      exact positive b (perm.mem_iff.mpr here)
    have mapped : FallsIn Segment.segmentDurationMs (listed.map PlanSegment.toSegment)
        (tJoinMs - validated.plan.startUtcMs - 0) (before.map PlanSegment.toSegment)
        segment.toSegment (after.map PlanSegment.toSegment) := by
      rw [sub_zero]
      exact FallsIn.map PlanSegment.toSegment falls
    rw [bounds, findSegmentForCT_boundariesFrom, locate_fallsIn positiveListed mapped]
    exact congrArg some numbered
  have sameSegment : validated.plan.segments.find?
      (fun other => other.segmentIndex == (before.length : Int)) = some segment := by
    cases here : validated.plan.segments.find?
        (fun other => other.segmentIndex == (before.length : Int)) with
    | none =>
      have absent := List.find?_eq_none.mp here segment (perm.mem_iff.mpr among)
      exact absurd (beq_iff_eq.mpr numbered) absent
    | some other =>
      have otherAmong := perm.mem_iff.mp (List.mem_of_find?_eq_some here)
      have matched := List.find?_some here
      have otherNumbered : other.segmentIndex = (before.length : Int) := beq_iff_eq.mp matched
      exact congrArg some
        (eq_of_inOrder inOrder otherAmong among (otherNumbered.trans numbered.symm))
  have bound : validated.boundaries.getD (Int.toNat (before.length : Int)) ⟨0, 0, 0⟩ =
      ⟨segment.segmentIndex, total segmentLength before,
        total segmentLength before + segment.segmentDurationMs⟩ := by
    have there := boundariesFrom_getElem? segment.toSegment (after.map PlanSegment.toSegment)
      (before.map PlanSegment.toSegment) 0
    rw [List.length_map, total_map, zero_add] at there
    rw [bounds, falls.split, List.map_append, List.map_cons, Int.toNat_natCast,
      List.getD_eq_getElem?_getD, there]
    rfl
  simp only [computeJoinParameters, mid, found, sameSegment, bound]

/-- **An early join is the join at the start**, after the wait, for segments listed in index
order. -/
theorem computeJoinParameters_early (inOrder : InIndexOrder validated.plan.segments)
    {tJoinMs : Int} (early : tJoinMs < validated.plan.startUtcMs) :
    computeJoinParameters validated tJoinMs =
      (computeJoinParameters validated validated.plan.startUtcMs).map fun joined =>
        { joined with
          classification := .early, waitMs := validated.plan.startUtcMs - tJoinMs } := by
  obtain ⟨some_, -, positive, spans⟩ := (segmentsValid_iff validated.plan).mp validated.valid
  obtain ⟨first, rest, listed⟩ := List.exists_cons_of_ne_nil some_
  have firstPositive : 0 < segmentLength first := positive first (by simp [listed])
  have restNonneg : 0 ≤ total segmentLength rest := by
    refine total_nonneg _ fun a member => positive a ?_
    rw [listed]
    exact List.mem_cons_of_mem first member
  have notEmpty : validated.plan.startUtcMs < validated.plan.endUtcMs := by
    rw [listed, total_cons] at spans
    omega
  have falls : FallsIn segmentLength validated.plan.segments
      (validated.plan.startUtcMs - validated.plan.startUtcMs) [] first rest :=
    ⟨listed, by simp, by simpa using firstPositive⟩
  have waits : classify tJoinMs validated.plan.startUtcMs validated.plan.endUtcMs = .early :=
    if_pos early
  rw [computeJoinParameters_mid (List.Perm.refl _) inOrder le_rfl notEmpty falls]
  simp [computeJoinParameters, waits, listed, Except.map]

end Joins

end Retrovue.Air.Blockplan
