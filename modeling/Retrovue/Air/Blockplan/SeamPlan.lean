/-
**Segment seams against their plan** (`PipelineManager.cpp`).

A block's seams are planned once, at `A + ceil(boundary_k)`; each segment swap moves the next seam to
the swap tick plus the ceiling of one duration.

* `plannedFrames`, `heldFrames`: the frames from the activation to the end of a segment, as planned
  and as counted by the swaps;
* `Opens`: the seams of a block as it becomes live; `onTime`: after `k` swaps, each at its seam;
* `FollowsPlan`: every swap is at its planned frame and the last segment gets its planned frames;
* `followsPlan_iff`: exactly when the two counts agree at every seam and the fence leaves room;
* `OnSchedule`, `onSchedule_step`: in a run of the tick loop in which no segment TAKE is deferred, the
  seams are those of `onTime`.
-/

import Mathlib
import Retrovue.Foundation.Transition
import Retrovue.Foundation.Rounding
import Retrovue.Air.Blockplan.Join
import Retrovue.Air.Blockplan.Wallfence

namespace Retrovue.Air.Blockplan

open Retrovue.Foundation.Transition
open Retrovue.Foundation.Rounding
open Retrovue.Foundation.Sorting (sortByKey)
open Retrovue.Foundation.Offsets (total total_nil total_cons total_append)

variable (house : RationalFps)

/-! ### Two counts of frames -/

section Counts

/-- The content time at which the segment at `k` ends. -/
def FedBlock.boundaryMs (block : FedBlock) (k : ℕ) : Int :=
  ((block.computeBoundaries[k]?).map SegmentBoundary.endCtMs).getD 0

/-- The duration of the segment at `k`. -/
def FedBlock.durationMs (block : FedBlock) (k : ℕ) : Int :=
  ((block.segments[k]?).map Segment.segmentDurationMs).getD 0

/-- Frames to the end of the segment at `k`, as `ComputeSegmentSeamFrames` plans them. -/
def plannedFrames (block : FedBlock) (k : ℕ) : Int := plannedSeam house 0 (block.boundaryMs k)

/-- Frames to the end of the segment at `k`, as `PerformSegmentSwap` counts them: the first segment
is planned, and each swap adds the frames of one duration. -/
def heldFrames (block : FedBlock) : ℕ → Int
  | 0 => plannedFrames house block 0
  | k + 1 => heldFrames block k + house.framesFromDurationCeilMs (block.durationMs (k + 1))

theorem plannedSeam_eq (tick endCtMs : Int) :
    plannedSeam house tick endCtMs = tick + plannedSeam house 0 endCtMs := by
  unfold plannedSeam
  by_cases ends : 0 < endCtMs
  · rw [if_pos ends, if_pos ends, zero_add]
  · rw [if_neg ends, if_neg ends, add_zero]

variable {house}

/-- A valid rate is positive. -/
theorem positive_of_isValid (valid : house.isValid = true) : 0 < house.num ∧ 0 < house.den :=
  of_decide_eq_true valid

/-- The integer ceiling of the source. -/
theorem ceilFrames_eq (valid : house.isValid = true) {ms : Int} (nonneg : 0 ≤ ms) :
    ceilFrames house ms = ceilDiv (ms * house.num) (house.den * 1000) := by
  obtain ⟨num, den⟩ := positive_of_isValid valid
  have product : 0 ≤ ms * house.num := mul_nonneg nonneg num.le
  rw [ceilFrames, ceilDiv]
  exact Int.tdiv_eq_ediv_of_nonneg (by omega)

theorem frames_eq (valid : house.isValid = true) {ms : Int} (nonneg : 0 ≤ ms) :
    house.framesFromDurationCeilMs ms = ceilDiv (ms * house.num) (house.den * 1000) := by
  rw [RationalFps.framesFromDurationCeilMs, if_pos valid, ← ceilFrames_eq valid nonneg]
  rfl

theorem frames_pos (valid : house.isValid = true) {ms : Int} (positive : 0 < ms) :
    0 < house.framesFromDurationCeilMs ms := by
  obtain ⟨num, den⟩ := positive_of_isValid valid
  rw [frames_eq valid positive.le]
  exact ceilDiv_pos (by omega) (mul_pos positive num)

/-- An invalid rate plans no frames. -/
theorem isValid_of_plannedFrames {block : FedBlock} {k : ℕ}
    (planned : 0 < plannedFrames house block k) : house.isValid = true := by
  by_contra invalid
  have zero : house.num = 0 ∧ house.den = 1 := by
    rcases house.normal with ⟨num, den, -⟩ | zero
    · exact absurd (decide_eq_true ⟨num, den⟩) invalid
    · exact zero
  unfold plannedFrames plannedSeam ceilFrames at planned
  rw [zero.1, zero.2] at planned
  by_cases ends : 0 < block.boundaryMs k
  · rw [if_pos ends] at planned
    simp at planned
  · rw [if_neg ends] at planned
    exact lt_irrefl _ planned

end Counts

/-! ### A block as it becomes live -/

section Opening

/-- The seams of a block that has just become live at `tick`, with its boundaries. -/
structure Opens (s : Seams) (tick : Int) : Prop where
  activation : s.blockActivationFrame = tick
  index : s.currentSegmentIndex = 0
  planned : s.plannedSegmentSeamFrames =
    s.liveBoundaries.map fun boundary => plannedSeam house tick boundary.endCtMs
  settled : s = enforceNextSeamInvariant house (updateNextSeamFrame s) tick

@[simp] theorem update_boundaries (s : Seams) :
    (updateNextSeamFrame s).liveBoundaries = s.liveBoundaries := by
  unfold updateNextSeamFrame
  split <;> rfl

@[simp] theorem enforce_boundaries (s : Seams) (tick : Int) :
    (enforceNextSeamInvariant house s tick).liveBoundaries = s.liveBoundaries := by
  unfold enforceNextSeamInvariant
  split <;> rfl

/-- Settling the next seam reads everything but the next seam. -/
theorem settle_idem (s : Seams) (tick : Int) :
    enforceNextSeamInvariant house (updateNextSeamFrame
        (enforceNextSeamInvariant house (updateNextSeamFrame s) tick)) tick =
      enforceNextSeamInvariant house (updateNextSeamFrame s) tick := by
  have same : updateNextSeamFrame (enforceNextSeamInvariant house (updateNextSeamFrame s) tick) =
      updateNextSeamFrame s := by
    unfold enforceNextSeamInvariant updateNextSeamFrame Seams.plannedNext
    split_ifs <;> rfl
  rw [same]

theorem opens_activate (s : Seams) (tick : Int) (producer : TickProducer) :
    Opens house (activate house s tick producer) tick where
  activation := activate_activation house s tick producer
  index := activate_index house s tick producer
  planned := by simp [activate, computeSegmentSeamFrames]
  settled := (settle_idem house _ tick).symm

/-- The first block opens again when the fence epoch is re-anchored. -/
theorem opens_resync (s : Seams) (nowUtcMs : Int) (producer : TickProducer) :
    Opens house (resync house (activate house s 0 producer) nowUtcMs (some producer)) 0 := by
  have opened := opens_activate house s 0 producer
  refine ⟨?_, ?_, ?_, (settle_idem house _ 0).symm⟩
  · simp [resync]
  · simp [resync]
  · simpa [resync] using opened.planned

end Opening

/-! ### Swaps on time -/

section OnTime

/-- A segment swap at the tick of the next seam. -/
def Seams.swapOnTime (s : Seams) : Seams :=
  match s.nextSeamFrame with
  | some seam => rebase house s seam
  | none => s

/-- The seams after `k` swaps on time. -/
def onTime (s : Seams) (k : ℕ) : Seams := (Seams.swapOnTime house)^[k] s

theorem onTime_succ (s : Seams) (k : ℕ) : onTime house s (k + 1) = (onTime house s k).swapOnTime house :=
  Function.iterate_succ_apply' _ _ _

/-- Every swap but the end of the last segment is at its planned frame, and the last segment is not
over before its planned end. -/
structure FollowsPlan (s : Seams) : Prop where
  swaps : ∀ k, k + 1 < s.liveParentBlock.segments.length →
    (onTime house s k).nextSeamType = .segment ∧
      (onTime house s k).nextSeamFrame = s.plannedSegmentSeamFrames[k]?
  last : ∃ planned seam,
    s.plannedSegmentSeamFrames[s.liveParentBlock.segments.length - 1]? = some planned ∧
      (onTime house s (s.liveParentBlock.segments.length - 1)).nextSeamFrame = some seam ∧
      planned ≤ seam

/-- The two counts agree at every seam, the seam comes after the activation and before the fence,
and fence and count leave the last segment its planned frames. -/
structure PlanHolds (block : FedBlock) (tick fence : Int) : Prop where
  seams : ∀ k, k + 1 < block.segments.length →
    heldFrames house block k = plannedFrames house block k ∧
      0 < plannedFrames house block k ∧ tick + plannedFrames house block k < fence
  last : fence ≤ tick ∨
    (plannedFrames house block (block.segments.length - 1) ≤
        heldFrames house block (block.segments.length - 1) ∧
      tick + plannedFrames house block (block.segments.length - 1) ≤ fence)

variable {house} {s : Seams} {tick fence : Int}

/-- The planned frame of a seam. -/
theorem planned_getElem? (opened : Opens house s tick)
    (bounds : s.liveBoundaries = s.liveParentBlock.computeBoundaries) {k : ℕ}
    (inside : k < s.liveParentBlock.segments.length) :
    s.plannedSegmentSeamFrames[k]? = some (tick + plannedFrames house s.liveParentBlock k) := by
  have size : k < s.liveParentBlock.computeBoundaries.length := by
    rw [length_computeBoundaries]
    exact inside
  rw [opened.planned, bounds, List.getElem?_map, plannedFrames, FedBlock.boundaryMs,
    List.getElem?_eq_getElem size]
  exact congrArg some (plannedSeam_eq house tick _)

/-- **The first seam** of a block is its planned one when it lies between activation and fence. -/
theorem opening_iff (opened : Opens house s tick) (fenced : s.blockFenceFrame = some fence)
    {first : Int} (next : s.plannedNext = some first) :
    (s.nextSeamType = .segment ∧ s.nextSeamFrame = some first) ↔ tick < first ∧ first < fence := by
  have settled := opened.settled
  have frame := congrArg Seams.nextSeamFrame settled
  have type := congrArg Seams.nextSeamType settled
  rw [frame, type]
  unfold updateNextSeamFrame
  rw [next, fenced, before_some_some]
  by_cases early : first < fence
  · rw [if_pos (decide_eq_true early)]
    unfold enforceNextSeamInvariant
    dsimp only
    rw [reached_some]
    by_cases due : first ≤ tick
    · rw [if_pos (decide_eq_true due)]
      constructor
      · rintro ⟨-, same⟩
        have := Option.some.inj same
        omega
      · rintro ⟨later, -⟩
        omega
    · rw [if_neg (by simpa using due)]
      exact ⟨fun _ => ⟨not_le.mp due, early⟩, fun _ => ⟨rfl, rfl⟩⟩
  · rw [if_neg (by simpa using early)]
    unfold enforceNextSeamInvariant
    dsimp only
    rw [reached_some]
    constructor
    · rintro ⟨segment, -⟩
      by_cases due : fence ≤ tick
      · -- a corrected seam lies past the fence
        rw [if_pos (decide_eq_true due)] at segment
        dsimp only at segment
        rw [before_some_some, if_neg (by rw [decide_eq_true_eq]; omega)] at segment
        cases segment
      · rw [if_neg (by simpa using due)] at segment
        cases segment
    · rintro ⟨-, before⟩
      exact absurd before early

/-- The end of the segment that a swap enters. -/
theorem computedSeam_eq (house : RationalFps) {x : Seams} {k : ℕ} (inside : k < x.liveParentBlock.segments.length)
    (positive : 0 < house.framesFromDurationCeilMs (x.liveParentBlock.durationMs k)) (at_ : Int) :
    x.computedSeam house k at_ =
      some (at_ + house.framesFromDurationCeilMs (x.liveParentBlock.durationMs k)) := by
  unfold FedBlock.durationMs at positive ⊢
  rw [List.getElem?_eq_getElem inside] at positive ⊢
  rw [Seams.computedSeam, List.getElem?_eq_getElem inside]
  dsimp only [Option.map_some, Option.getD_some] at positive ⊢
  rw [segmentFrames, if_pos positive]

/-- **A swap into an inner segment** makes the end of that segment the next seam, if the fence is
later. -/
theorem rebase_inner_iff {x : Seams} {at_ frames : Int} (fenced : x.blockFenceFrame = some fence)
    (computed : x.computedSeam house (x.currentSegmentIndex + 1) at_ = some (at_ + frames))
    (positive : 0 < frames)
    (inner : x.currentSegmentIndex + 2 < x.liveParentBlock.segments.length) {seam : Int} :
    ((rebase house x at_).nextSeamType = .segment ∧
        (rebase house x at_).nextSeamFrame = some seam) ↔
      seam = at_ + frames ∧ seam < fence := by
  unfold rebase Seams.enterSegment
  rw [computed, fenced, before_some_some]
  by_cases early : at_ + frames < fence
  · rw [if_pos (decide_eq_true early), if_neg (by omega), enforce_of_future]
    · constructor
      · rintro ⟨-, same⟩
        have := Option.some.inj same
        omega
      · rintro ⟨rfl, -⟩
        exact ⟨rfl, rfl⟩
    · simpa using positive
  · rw [if_neg (by simpa using early)]
    unfold enforceNextSeamInvariant
    dsimp only
    rw [reached_some]
    constructor
    · rintro ⟨segment, -⟩
      by_cases due : fence ≤ at_
      · rw [if_pos (decide_eq_true due)] at segment
        dsimp only at segment
        rw [before_some_some, if_neg (by rw [decide_eq_true_eq]; omega)] at segment
        cases segment
      · rw [if_neg (by simpa using due)] at segment
        cases segment
    · rintro ⟨rfl, before⟩
      exact absurd before early

/-- **A swap into the last segment** makes its end or the fence the next seam. -/
theorem rebase_last {x : Seams} {at_ frames : Int} (fenced : x.blockFenceFrame = some fence)
    (computed : x.computedSeam house (x.currentSegmentIndex + 1) at_ = some (at_ + frames))
    (positive : 0 < frames) (ahead : at_ < fence) :
    (rebase house x at_).nextSeamFrame = some (min (at_ + frames) fence) := by
  unfold rebase Seams.enterSegment
  rw [computed, fenced, before_some_some]
  by_cases early : at_ + frames < fence
  · rw [if_pos (decide_eq_true early), enforce_of_future, min_eq_left early.le]
    simpa using positive
  · rw [if_neg (by simpa using early), enforce_of_future, min_eq_right (not_lt.mp early)]
    simpa using ahead

/-- Swaps stay in their block, under its fence. -/
theorem onTime_keeps (house : RationalFps) (s : Seams) (k : ℕ) :
    (onTime house s k).liveParentBlock = s.liveParentBlock ∧
      (onTime house s k).blockFenceFrame = s.blockFenceFrame := by
  induction k with
  | zero => exact ⟨rfl, rfl⟩
  | succ k ih =>
    rw [onTime_succ, Seams.swapOnTime]
    cases (onTime house s k).nextSeamFrame with
    | none => exact ih
    | some seam => exact ⟨(rebase_block house _ seam).trans ih.1, (rebase_fence house _ seam).trans ih.2⟩

/-- The seam after `k` swaps is a segment seam at its planned frame. -/
def SwapOn (house : RationalFps) (s : Seams) (k : ℕ) : Prop :=
  (onTime house s k).nextSeamType = .segment ∧
    (onTime house s k).nextSeamFrame = s.plannedSegmentSeamFrames[k]?

/-- The counts agree at a seam between activation and fence. -/
def SeamOn (house : RationalFps) (block : FedBlock) (tick fence : Int) (k : ℕ) : Prop :=
  heldFrames house block k = plannedFrames house block k ∧
    0 < plannedFrames house block k ∧ tick + plannedFrames house block k < fence

/-- A block with positive durations that has just become live under a fence. -/
structure Validated (house : RationalFps) (s : Seams) (tick fence : Int) : Prop where
  opened : Opens house s tick
  fenced : s.blockFenceFrame = some fence
  bounds : s.liveBoundaries = s.liveParentBlock.computeBoundaries
  nonempty : 0 < s.liveParentBlock.segments.length
  positive : ∀ segment ∈ s.liveParentBlock.segments, 0 < segment.segmentDurationMs

theorem Validated.durationMs_pos (block : Validated house s tick fence) {k : ℕ}
    (inside : k < s.liveParentBlock.segments.length) : 0 < s.liveParentBlock.durationMs k := by
  rw [FedBlock.durationMs, List.getElem?_eq_getElem inside]
  exact block.positive _ (List.getElem_mem inside)

theorem swapOn_zero (block : Validated house s tick fence)
    (more : 1 < s.liveParentBlock.segments.length) :
    SwapOn house s 0 ↔ SeamOn house s.liveParentBlock tick fence 0 := by
  have planned := planned_getElem? block.opened block.bounds block.nonempty
  have next : s.plannedNext = some (tick + plannedFrames house s.liveParentBlock 0) := by
    have size : s.plannedSegmentSeamFrames.length = s.liveParentBlock.segments.length := by
      rw [block.opened.planned, List.length_map, block.bounds, length_computeBoundaries]
    rw [Seams.plannedNext, block.opened.index, size, if_pos more, planned]
  unfold SwapOn SeamOn
  rw [planned]
  refine (opening_iff block.opened block.fenced next).trans ?_
  constructor
  · rintro ⟨later, before⟩
    exact ⟨rfl, by omega, before⟩
  · rintro ⟨-, later, before⟩
    exact ⟨by omega, before⟩

/-- The state after one more swap on time. -/
theorem onTime_swapped (block : Validated house s tick fence) {k : ℕ}
    (inside : k < s.liveParentBlock.segments.length) (swap : SwapOn house s k) :
    onTime house s (k + 1) =
      rebase house (onTime house s k) (tick + plannedFrames house s.liveParentBlock k) := by
  rw [onTime_succ, Seams.swapOnTime, swap.2, planned_getElem? block.opened block.bounds inside]

theorem swapOn_succ (block : Validated house s tick fence) {k : ℕ}
    (inner : k + 2 < s.liveParentBlock.segments.length)
    (index : (onTime house s k).currentSegmentIndex = k) (swap : SwapOn house s k)
    (seam : SeamOn house s.liveParentBlock tick fence k) :
    SwapOn house s (k + 1) ↔ SeamOn house s.liveParentBlock tick fence (k + 1) := by
  obtain ⟨agree, later, -⟩ := seam
  obtain ⟨parent, under⟩ := onTime_keeps house s k
  have positive := frames_pos (isValid_of_plannedFrames later)
    (block.durationMs_pos (k := k + 1) (by omega))
  have computed := computedSeam_eq house (x := onTime house s k) (k := k + 1)
    (by rw [parent]; omega) (by rw [parent]; exact positive)
    (tick + plannedFrames house s.liveParentBlock k)
  rw [parent] at computed
  unfold SwapOn SeamOn
  rw [onTime_swapped block (by omega) swap, planned_getElem? block.opened block.bounds (by omega),
    rebase_inner_iff (under.trans block.fenced) (by rw [index]; exact computed) positive
      (by rw [index, parent]; exact inner), heldFrames, agree]
  constructor
  · rintro ⟨same, before⟩
    exact ⟨by omega, by omega, before⟩
  · rintro ⟨same, -, before⟩
    exact ⟨by omega, before⟩

/-- Swaps at their planned frames are those of agreeing counts. -/
theorem swapsOn_iff (block : Validated house s tick fence) (k : ℕ) :
    k + 1 < s.liveParentBlock.segments.length →
      ((∀ j ≤ k, SwapOn house s j) ↔ ∀ j ≤ k, SeamOn house s.liveParentBlock tick fence j) ∧
        ((∀ j ≤ k, SwapOn house s j) → (onTime house s k).currentSegmentIndex = k) := by
  induction k with
  | zero =>
    intro more
    refine ⟨?_, fun _ => block.opened.index⟩
    simp only [Nat.le_zero, forall_eq]
    exact swapOn_zero block more
  | succ k ih =>
    intro inner
    obtain ⟨agree, index⟩ := ih (by omega)
    simp only [Nat.le_succ_iff, or_imp, forall_and, forall_eq]
    constructor
    · constructor
      · rintro ⟨earlier, here⟩
        have seams := agree.mp earlier
        exact ⟨seams, (swapOn_succ block inner (index earlier) (earlier k le_rfl)
          (seams k le_rfl)).mp here⟩
      · rintro ⟨seams, here⟩
        have earlier := agree.mpr seams
        exact ⟨earlier, (swapOn_succ block inner (index earlier) (earlier k le_rfl)
          (seams k le_rfl)).mpr here⟩
    · rintro ⟨earlier, -⟩
      rw [onTime_swapped block (by omega) (earlier k le_rfl), rebase_index, index earlier]

/-- The planned frames of a single segment are at most those it gets when the fence has passed. -/
theorem plannedFrames_single (house : RationalFps) {block : FedBlock} (single : block.segments.length = 1)
    (positive : ∀ segment ∈ block.segments, 0 < segment.segmentDurationMs) :
    plannedFrames house block 0 ≤ max 1 (overdueFrames house block 0) := by
  obtain ⟨segment, only⟩ := List.length_eq_one_iff.mp single
  have lasts : 0 < segment.segmentDurationMs :=
    positive segment (by rw [only]; exact List.mem_singleton_self segment)
  have boundary : block.boundaryMs 0 = segment.segmentDurationMs := by
    simp [FedBlock.boundaryMs, FedBlock.computeBoundaries, only, boundariesFrom, sortByKey]
  by_cases planned : 0 < plannedFrames house block 0
  · have valid := isValid_of_plannedFrames planned
    have same : plannedFrames house block 0 =
        house.framesFromDurationCeilMs segment.segmentDurationMs := by
      rw [plannedFrames, plannedSeam, boundary, if_pos lasts, zero_add,
        ceilFrames_eq valid lasts.le, frames_eq valid lasts.le]
    have overdue : overdueFrames house block 0 =
        house.framesFromDurationCeilMs segment.segmentDurationMs := by
      have first : block.segments[0]? = some segment := by rw [only]; rfl
      rw [overdueFrames, first]
      exact if_pos (frames_pos valid lasts)
    rw [same, overdue]
    exact le_max_right _ _
  · exact (not_lt.mp planned).trans ((zero_le_one).trans (le_max_left _ _))

/-- The end of a block with a single segment. -/
theorem last_single_iff (block : Validated house s tick fence)
    (single : s.liveParentBlock.segments.length = 1) :
    (∃ seam, s.nextSeamFrame = some seam ∧
        tick + plannedFrames house s.liveParentBlock 0 ≤ seam) ↔
      fence ≤ tick ∨ tick + plannedFrames house s.liveParentBlock 0 ≤ fence := by
  have size : s.plannedSegmentSeamFrames.length = 1 := by
    rw [block.opened.planned, List.length_map, block.bounds, length_computeBoundaries, single]
  have unplanned : s.plannedNext = none := by
    rw [Seams.plannedNext, block.opened.index, size]
    exact if_neg (lt_irrefl 1)
  have frame := congrArg Seams.nextSeamFrame block.opened.settled
  have updated : updateNextSeamFrame s =
      { s with nextSeamFrame := some fence, nextSeamType := .block } := by
    rw [updateNextSeamFrame, unplanned, block.fenced]
    rfl
  rw [updated] at frame
  by_cases overdue : fence ≤ tick
  · -- the fence has passed: the segment is put on air whole
    refine ⟨fun _ => .inl overdue, fun _ => ?_⟩
    have due : reached (some fence) tick = true := decide_eq_true overdue
    rw [enforceNextSeamInvariant] at frame
    dsimp only at frame
    rw [if_pos due] at frame
    refine ⟨_, frame, ?_⟩
    have under : ({ s with nextSeamFrame := some fence, nextSeamType := .block } :
        Seams).blockFenceFrame = some fence := block.fenced
    rw [safeSeam_overdue house under overdue]
    dsimp only
    rw [block.opened.index]
    have covered := plannedFrames_single house single block.positive
    omega
  · rw [enforce_of_future house (by simpa using overdue)] at frame
    dsimp only at frame
    rw [frame]
    constructor
    · rintro ⟨seam, same, covered⟩
      cases same
      exact .inr covered
    · exact fun room => ⟨fence, rfl, room.resolve_left overdue⟩

/-- The end of a block whose swaps were on time. -/
theorem last_inner_iff (block : Validated house s tick fence) {k : ℕ}
    (size : s.liveParentBlock.segments.length = k + 2)
    (index : (onTime house s k).currentSegmentIndex = k) (swap : SwapOn house s k)
    (seam : SeamOn house s.liveParentBlock tick fence k) :
    (∃ last, (onTime house s (k + 1)).nextSeamFrame = some last ∧
        tick + plannedFrames house s.liveParentBlock (k + 1) ≤ last) ↔
      plannedFrames house s.liveParentBlock (k + 1) ≤
          heldFrames house s.liveParentBlock (k + 1) ∧
        tick + plannedFrames house s.liveParentBlock (k + 1) ≤ fence := by
  obtain ⟨agree, later, before⟩ := seam
  obtain ⟨parent, under⟩ := onTime_keeps house s k
  have positive := frames_pos (isValid_of_plannedFrames later)
    (block.durationMs_pos (k := k + 1) (by omega))
  have computed := computedSeam_eq house (x := onTime house s k) (k := k + 1)
    (by rw [parent]; omega) (by rw [parent]; exact positive)
    (tick + plannedFrames house s.liveParentBlock k)
  rw [parent] at computed
  rw [onTime_swapped block (by omega) swap,
    rebase_last (under.trans block.fenced) (by rw [index]; exact computed) positive before,
    heldFrames, agree]
  constructor
  · rintro ⟨last, same, covered⟩
    cases same
    obtain ⟨count, room⟩ := le_min_iff.mp covered
    exact ⟨by omega, room⟩
  · rintro ⟨count, room⟩
    exact ⟨_, rfl, le_min (by omega) room⟩

/-- **On-time seams follow the plan exactly when the counts agree** at every seam between activation
and fence, and leave the last segment its planned frames. -/
theorem followsPlan_iff (block : Validated house s tick fence) :
    FollowsPlan house s ↔ PlanHolds house s.liveParentBlock tick fence := by
  have nonempty := block.nonempty
  obtain ⟨n, size⟩ : ∃ n, s.liveParentBlock.segments.length = n + 1 :=
    Nat.exists_eq_succ_of_ne_zero (by omega)
  have planned := planned_getElem? block.opened block.bounds (k := n) (by omega)
  -- the last segment ends at the planned frame or later
  have ends : FollowsPlan house s ↔ (∀ k, k + 1 < n + 1 → SwapOn house s k) ∧
      ∃ last, (onTime house s n).nextSeamFrame = some last ∧
        tick + plannedFrames house s.liveParentBlock n ≤ last := by
    constructor
    · rintro ⟨swaps, first, last, is_planned, next, covered⟩
      rw [size] at swaps is_planned next
      rw [Nat.add_sub_cancel] at is_planned next
      rw [planned] at is_planned
      cases is_planned
      exact ⟨swaps, last, next, covered⟩
    · rintro ⟨swaps, last, next, covered⟩
      refine ⟨by rw [size]; exact swaps, _, last, ?_, ?_, covered⟩
      · rw [size, Nat.add_sub_cancel]
        exact planned
      · rw [size, Nat.add_sub_cancel]
        exact next
  have holds : PlanHolds house s.liveParentBlock tick fence ↔
      (∀ k, k + 1 < n + 1 → SeamOn house s.liveParentBlock tick fence k) ∧
        (fence ≤ tick ∨
          (plannedFrames house s.liveParentBlock n ≤ heldFrames house s.liveParentBlock n ∧
            tick + plannedFrames house s.liveParentBlock n ≤ fence)) := by
    constructor
    · rintro ⟨seams, last⟩
      rw [size] at seams last
      exact ⟨seams, last⟩
    · rintro ⟨seams, last⟩
      exact ⟨by rw [size]; exact seams, by rw [size]; exact last⟩
  rw [ends, holds]
  cases n with
  | zero =>
    have none_ : ∀ k, ¬ k + 1 < 0 + 1 := by omega
    have whole : heldFrames house s.liveParentBlock 0 = plannedFrames house s.liveParentBlock 0 := rfl
    simp only [none_, IsEmpty.forall_iff, implies_true, true_and, whole, le_refl]
    exact last_single_iff block size
  | succ k =>
    have inner : ∀ P : ℕ → Prop, (∀ j, j + 1 < k + 1 + 1 → P j) ↔ ∀ j ≤ k, P j := by
      intro P
      constructor
      · exact fun all j le => all j (by omega)
      · exact fun all j lt => all j (by omega)
    obtain ⟨agree, index⟩ := swapsOn_iff block k (by omega)
    rw [inner, inner, ← agree]
    refine and_congr_right fun swaps => ?_
    have seam := agree.mp swaps k le_rfl
    rw [last_inner_iff block size (index swaps) (swaps k le_rfl) seam]
    have ahead : ¬ fence ≤ tick := by
      obtain ⟨-, later, before⟩ := seam
      omega
    exact ⟨.inr, fun room => room.resolve_left ahead⟩

end OnTime

/-! ### The drift -/

section Drift

variable {house}

end Drift

/-! ### The tick loop without deferrals -/

section Loop

/-- A segment TAKE swaps at once. -/
def NotDeferred (p : Pipeline) : Action → Prop
  | .segmentPostTake readings =>
    ∀ entry ∈ p.phase.postTaking, entry.1.takeSegment = true →
      p.commits entry.1 entry.2 readings = true
  | _ => True

/-- The seams are those of swaps on time since the block became live, and a segment seam has not been
passed. -/
structure OnSchedule (p : Pipeline) : Prop where
  poised : Poised p
  unstarted : p.phase.starts → p.tick = 0
  chain : p.seams.blockFenceFrame ≠ none → ∃ opening,
    Opens house opening opening.blockActivationFrame ∧
      p.seams = onTime house opening p.seams.currentSegmentIndex
  ahead : p.seams.nextSeamType = .segment → ∀ seam, p.seams.nextSeamFrame = some seam →
    p.nextExamined ≤ seam
  taking : ∀ selection, p.phase.selection = some selection → selection.takeSegment = true →
    p.seams.nextSeamFrame = some p.tick

theorem onSchedule_initial (sessionEpochUtcMs : Int) : OnSchedule house (.initial sessionEpochUtcMs) where
  poised := poised_initial sessionEpochUtcMs
  unstarted := fun _ => rfl
  chain := fun fenced => absurd rfl fenced
  ahead := by
    intro type
    cases type
  taking := by
    intro selection chosen
    cases chosen

variable {house} {p next : Pipeline}

/-- A settled seam lies after the tick. -/
theorem enforce_later {s : Seams} {tick seam : Int}
    (frame : (enforceNextSeamInvariant house s tick).nextSeamFrame = some seam) : tick < seam := by
  unfold enforceNextSeamInvariant at frame
  by_cases due : reached s.nextSeamFrame tick = true
  · rw [if_pos due] at frame
    have := Option.some.inj frame
    omega
  · rw [if_neg due] at frame
    rw [frame, reached_some, decide_eq_true_eq] at due
    omega

/-- A step that leaves the seams alone and passes no seam. -/
theorem OnSchedule.move (on : OnSchedule house p) (poised : Poised next)
    (seams : next.seams = p.seams) (unstarted : next.phase.starts → next.tick = 0)
    (examined : next.nextExamined ≤ p.nextExamined)
    (selecting : ∀ selection, next.phase.selection = some selection →
      p.phase.selection = some selection ∧ next.tick = p.tick) : OnSchedule house next where
  poised := poised
  unstarted := unstarted
  chain := by
    rw [seams]
    exact on.chain
  ahead := by
    rw [seams]
    exact fun type seam frame => examined.trans (on.ahead type seam frame)
  taking := by
    intro selection chosen taken
    obtain ⟨same, tick⟩ := selecting selection chosen
    rw [seams, tick]
    exact on.taking selection same taken

/-- A block that becomes live at the tick, with no segment TAKE in progress. -/
theorem onSchedule_of_opens (poised : Poised next) (tick : Int) (opened : Opens house next.seams tick)
    (looping : ¬ next.phase.starts) (examined : next.nextExamined ≤ tick + 1)
    (selecting : ∀ selection, next.phase.selection = some selection →
      selection.takeSegment = false) : OnSchedule house next where
  poised := poised
  unstarted := fun start => absurd start looping
  chain := by
    intro _
    refine ⟨next.seams, ?_, ?_⟩
    · rw [opened.activation]
      exact opened
    · rw [opened.index]
      rfl
  ahead := by
    intro _ seam frame
    rw [opened.settled] at frame
    have later := enforce_later frame
    omega
  taking := by
    intro selection chosen taken
    rw [selecting selection chosen] at taken
    cases taken

/-- Without a fence there is no seam. -/
theorem onSchedule_of_unfenced (poised : Poised next) (unfenced : next.seams.blockFenceFrame = none)
    (unstarted : next.phase.starts → next.tick = 0) : OnSchedule house next where
  poised := poised
  unstarted := unstarted
  chain := fun fenced => absurd unfenced fenced
  ahead := by
    intro type
    rw [poised.idle unfenced] at type
    cases type
  taking := by
    intro selection chosen taken
    exact absurd unfenced (poised.fenced_of_segment chosen taken)

theorem onSchedule_activateFirst (on : OnSchedule house p) (phase : p.phase = .startActivate)
    (nowUtcMs : Int) : OnSchedule house (activateFirst house p nowUtcMs) := by
  have poised := poised_activateFirst house on.poised nowUtcMs
  have starts : p.phase.starts := .inr (.inr phase)
  have looping : ¬ (activateFirst house p nowUtcMs).phase.starts := by
    rintro (start | start | start)
    · cases start
    · cases start
    · cases start
  cases loaded : p.blocks.live with
  | none =>
    refine onSchedule_of_unfenced poised ?_ fun start => absurd start looping
    simpa [activateFirst, Pipeline.activateLive, loaded, resync] using on.poised.starting starts
  | some producer =>
    have seams : (activateFirst house p nowUtcMs).seams =
        resync house (activate house p.seams 0 producer) nowUtcMs (some producer) := by
      simp [activateFirst, Pipeline.activateLive, loaded, Pipeline.activate, Pipeline.initCadence,
        on.unstarted starts]
    have tick : (activateFirst house p nowUtcMs).nextExamined = 0 := by
      show (activateFirst house p nowUtcMs).tick = 0
      simp [activateFirst, Pipeline.activateLive, loaded, Pipeline.activate, Pipeline.initCadence,
        on.unstarted starts]
    refine onSchedule_of_opens poised 0 ?_ looping (by omega) ?_
    · rw [seams]
      exact opens_resync house p.seams nowUtcMs producer
    · intro selection chosen
      cases chosen

theorem onSchedule_select (on : OnSchedule house p) {sampled : Sampled}
    (phase : p.phase = .select sampled) (pops : PopOutcome) :
    OnSchedule house (select house p sampled pops) := by
  have poised := poised_select house on.poised sampled pops
  have seams := select_seams house p sampled pops
  have tick := select_tick house p sampled pops
  have here : p.nextExamined = p.tick := by rw [Pipeline.nextExamined, phase]; rfl
  rcases select_phase house p sampled pops with stop | again | ⟨selection, taken, -, flag⟩
  · refine on.move poised seams (by simp [stop, Phase.starts]) ?_ (by simp [stop, Phase.selection])
    rw [Pipeline.nextExamined, stop, here]
    exact tick.le
  · refine on.move poised seams (by simp [again, Phase.starts]) ?_ (by simp [again, Phase.selection])
    rw [Pipeline.nextExamined, again, here]
    exact tick.le
  · refine ⟨poised, by simp [taken, Phase.starts], by rw [seams]; exact on.chain, ?_, ?_⟩
    · intro type seam frame
      rw [seams] at type frame
      have least := on.ahead type seam frame
      rw [here] at least
      rw [Pipeline.nextExamined, taken, tick, Phase.examined]
      by_cases segment : selection.takeSegment = true
      · rw [if_pos segment]
        exact least
      · -- the seam is not due, so it lies after this tick
        rw [if_neg segment]
        rw [flag, Seams.takeSegment_iff, frame, reached_some, decide_eq_true_eq] at segment
        by_contra due
        exact segment ⟨by omega, type⟩
    · intro chosen same segment
      rw [taken] at same
      cases same
      rw [flag, Seams.takeSegment_iff] at segment
      obtain ⟨due, type⟩ := segment
      rw [seams, tick]
      cases frame : p.seams.nextSeamFrame with
      | none =>
        rw [frame] at due
        cases due
      | some seam =>
        have least := on.ahead type seam frame
        rw [frame, reached_some, decide_eq_true_eq] at due
        rw [here] at least
        rw [le_antisymm due least]

theorem onSchedule_rotate (on : OnSchedule house p) {selection : Selection}
    (phase : p.phase = .rotate selection) (assets : AssetOutcome) :
    OnSchedule house (rotate house p selection assets) := by
  have poised := poised_rotate house on.poised phase assets
  cases due : p.rotates selection with
  | false =>
    rw [rotate_of_not_rotates house due] at poised ⊢
    refine on.move poised rfl (by simp [Phase.starts]) ?_ ?_
    · rw [Pipeline.nextExamined, Pipeline.nextExamined, phase]
      exact le_rfl
    · rw [phase]
      exact fun _ same => ⟨same, rfl⟩
  | true =>
    rw [rotate_of_rotates house due] at poised ⊢
    have taken : selection.takeB = true := by
      simp only [Pipeline.rotates, Bool.and_eq_true] at due
      exact due.1
    have exclusive := (on.poised.fenced_of_block phase taken).2
    have seams := rotated_seams house p selection assets
    have tick := rotated_tick house p selection assets
    have shape : ¬ (p.rotated house selection assets).phase.starts ∧
        (p.rotated house selection assets).nextExamined = p.tick + 1 ∧
        (p.rotated house selection assets).phase.selection = some selection := by
      rcases rotated_phase house p selection assets with next | next
      · simp [Pipeline.nextExamined, next, Phase.examined, Phase.starts, Phase.selection, exclusive,
          tick]
      · simp [Pipeline.nextExamined, next, Phase.examined, Phase.starts, Phase.selection, exclusive,
          tick]
    obtain ⟨looping, examined, selecting⟩ := shape
    cases found : p.rotatesTo assets with
    | some producer =>
      rw [found] at seams
      refine onSchedule_of_opens poised p.tick ?_ looping examined.le ?_
      · rw [seams]
        exact opens_activate house p.seams p.tick producer
      · intro chosen same
        rw [selecting] at same
        cases same
        exact exclusive
    | none =>
      rw [found] at seams
      refine onSchedule_of_unfenced poised ?_ fun start => absurd start looping
      rw [seams]
      rfl

/-- **A swap that is not deferred** is a swap on time. -/
theorem onSchedule_segmentPostTake (on : OnSchedule house p) {selection : Selection} {peeked : Bool}
    (phase : p.phase = .segmentPostTake selection peeked) {readings : PostTakeReadings}
    (prompt : NotDeferred p (.segmentPostTake readings)) :
    OnSchedule house (segmentPostTake house p selection peeked readings) := by
  have poised := poised_segmentPostTake house on.poised phase readings
  have seams := segmentPostTake_seams house p selection peeked readings
  have tick := segmentPostTake_tick house p selection peeked readings
  have examined : (segmentPostTake house p selection peeked readings).nextExamined = p.tick + 1 := by
    show (segmentPostTake house p selection peeked readings).tick + 1 = _
    rw [tick]
  have selecting : p.phase.selection = some selection := by rw [phase]; rfl
  cases segment : selection.takeSegment with
  | false =>
    rw [segment, Bool.false_and, if_neg Bool.false_ne_true] at seams
    refine on.move poised seams (by simp [segmentPostTake, Phase.starts]) ?_ ?_
    · rw [examined, Pipeline.nextExamined, phase, Phase.examined, segment]
      exact le_rfl
    · intro chosen same
      cases same
  | true =>
    have commits := prompt (selection, peeked) (by simp [phase, Phase.postTaking]) segment
    have due := on.taking selection selecting segment
    have fenced := on.poised.fenced_of_segment selecting segment
    rw [segment, commits, Bool.and_self, if_pos rfl] at seams
    refine ⟨poised, by simp [segmentPostTake, Phase.starts], ?_, ?_, ?_⟩
    · intro _
      obtain ⟨opening, opens, chain⟩ := on.chain fenced
      refine ⟨opening, opens, ?_⟩
      rw [seams, rebase_index, onTime_succ, ← chain, Seams.swapOnTime, due]
    · intro _ seam frame
      rw [seams] at frame
      have later := enforce_later frame
      omega
    · intro chosen same
      cases same

theorem onSchedule_loadNext (on : OnSchedule house p) (phase : p.phase = .loadNext)
    (assets : AssetOutcome) : OnSchedule house (loadNext house p assets) := by
  have poised := poised_loadNext house on.poised assets
  have seams := loadNext_seams house p assets
  have tick := loadNext_tick house p assets
  have shape : ¬ (loadNext house p assets).phase.starts ∧
      (loadNext house p assets).nextExamined = p.tick + 1 ∧
      (loadNext house p assets).phase.selection = none := by
    rcases loadNext_phase house p assets with next | next
    · simp [Pipeline.nextExamined, next, Phase.examined, Phase.starts, Phase.selection, tick]
    · simp [Pipeline.nextExamined, next, Phase.examined, Phase.starts, Phase.selection, tick]
  obtain ⟨looping, examined, selecting⟩ := shape
  cases loaded : p.loadsTo assets with
  | some producer =>
    rw [loaded] at seams
    refine onSchedule_of_opens poised p.tick ?_ looping examined.le ?_
    · rw [seams]
      exact opens_activate house p.seams p.tick producer
    · simp [selecting]
  | none =>
    rw [loaded] at seams
    refine on.move poised seams (fun start => absurd start looping) ?_ (by simp [selecting])
    rw [examined, Pipeline.nextExamined, phase]
    exact le_rfl

/-- **Every step without a deferral keeps the schedule.** -/
theorem onSchedule_step {action : Action} (on : OnSchedule house p) (prompt : NotDeferred p action)
    (taken : step house p action = some next) : OnSchedule house next := by
  have poised := poised_step house on.poised taken
  cases stepped_of_step house taken with
  | feed | workerStart | workerFinish =>
    exact on.move poised rfl on.unstarted le_rfl fun _ same => ⟨same, rfl⟩
  | loadFirst _ phase =>
    refine on.move poised rfl (fun _ => on.unstarted (.inl phase)) p.tick_le_nextExamined ?_
    intro selection chosen
    cases chosen
  | activateFirst nowUtcMs phase => exact onSchedule_activateFirst on phase nowUtcMs
  | preTake phase =>
    refine on.move poised (preTake_seams house p) (by simp [preTake, Phase.starts]) ?_ ?_
    · show (preTake house p).tick ≤ _
      rw [preTake_tick]
      exact p.tick_le_nextExamined
    · intro selection chosen
      cases chosen
  | sample readings phase =>
    refine on.move poised rfl (by simp [sample, Phase.starts]) p.tick_le_nextExamined ?_
    intro selection chosen
    cases chosen
  | select pops sampled phase => exact onSchedule_select on phase pops
  | rotate assets selection phase => exact onSchedule_rotate on phase assets
  | segmentPeek selection phase =>
    refine on.move poised rfl (by simp [segmentPeek, Phase.starts]) ?_ ?_
    · rw [Pipeline.nextExamined, Pipeline.nextExamined, phase]
      exact le_rfl
    · rw [phase]
      exact fun _ same => ⟨same, rfl⟩
  | segmentPostTake readings selection peeked phase => exact onSchedule_segmentPostTake on phase prompt
  | loadNext assets phase => exact onSchedule_loadNext on phase assets
  | startKickoff phase =>
    refine on.move poised rfl (fun _ => on.unstarted (.inr (.inl phase))) p.tick_le_nextExamined ?_
    intro selection chosen
    cases chosen
  | rotateKickoff selection phase =>
    refine on.move poised rfl (by simp [Phase.starts]) ?_ ?_
    · rw [Pipeline.nextExamined, Pipeline.nextExamined, phase]
      exact le_rfl
    · rw [phase]
      exact fun _ same => ⟨same, rfl⟩
  | loadKickoff phase =>
    refine on.move poised rfl (by simp [Phase.starts]) ?_ ?_
    · rw [Pipeline.nextExamined, Pipeline.nextExamined, phase]
      exact le_rfl
    · intro selection chosen
      cases chosen
  | endKickoff phase =>
    refine on.move poised rfl (by simp [Phase.starts]) ?_ ?_
    · rw [Pipeline.nextExamined, Pipeline.nextExamined, phase]
      exact le_rfl
    · intro selection chosen
      cases chosen

end Loop

/-! ### The plan -/

section Plan

/-- The seams of a block whose assets were accepted, as it becomes live at a tick: at a block TAKE or
LOAD NEXT, or as the first block with its fence epoch re-anchored. -/
inductive Activated (block : FedBlock) : Int → Seams → Prop
  | live (s : Seams) (tick : Int) (assets : AssetOutcome) (accepted : assets.accepted = true) :
    Activated block tick (activate house s tick (assignBlock block assets))
  | first (s : Seams) (nowUtcMs : Int) (assets : AssetOutcome) (accepted : assets.accepted = true) :
    Activated block 0 (resync house (activate house s 0 (assignBlock block assets)) nowUtcMs
      (some (assignBlock block assets)))

/-- At a segment swap, the seams are those of swaps on time since the block became live, and the seam
is this tick. -/
def SwapsOnTime (p : Pipeline) : Prop :=
  ∀ selection peeked, p.phase = .segmentPostTake selection peeked →
    selection.takeSegment = true → ∃ opening,
      Opens house opening opening.blockActivationFrame ∧ opening.liveParentBlock = p.block ∧
        p.seams = onTime house opening p.seams.currentSegmentIndex ∧
        p.seams.nextSeamFrame = some p.tick

/-- **The tick loop swaps on time** in every run in which no segment TAKE is deferred. -/
theorem swapsOnTime_run (sessionEpochUtcMs : Int) (actions : List Action) (final : Pipeline)
    (prompt : Along (step house) NotDeferred (.initial sessionEpochUtcMs) actions)
    (ran : runActions (step house) (.initial sessionEpochUtcMs) actions = some final) :
    SwapsOnTime house final := by
  have on := invariant_along (step house) (OnSchedule house) NotDeferred
    (fun _ _ _ on prompt taken => onSchedule_step on prompt taken) actions
    (onSchedule_initial house sessionEpochUtcMs) prompt ran
  intro selection peeked phase taken
  have selecting : final.phase.selection = some selection := by rw [phase]; rfl
  obtain ⟨opening, opens, chain⟩ :=
    on.chain (on.poised.fenced_of_segment selecting taken)
  refine ⟨opening, opens, ?_, chain, on.taking selection selecting taken⟩
  rw [Pipeline.block, chain, (onTime_keeps house opening _).1]

variable {house}

/-- The boundaries of an accepted block. -/
theorem assignBlock_boundaries {block : FedBlock} {assets : AssetOutcome}
    (accepted : assets.accepted = true) (valid : block.structurallyValid = true) :
    (assignBlock block assets).boundaries = block.computeBoundaries := by
  unfold assignBlock
  rw [accepted, valid, Bool.and_self, if_pos rfl]
  split <;> rfl

/-- A validated block that becomes live. -/
theorem Activated.validated {block : FedBlock} {tick fence : Int} {s : Seams}
    (activated : Activated house block tick s) (valid : block.structurallyValid = true)
    (fenced : s.blockFenceFrame = some fence) :
    s.liveParentBlock = block ∧ Validated house s tick fence := by
  have checked := valid
  simp only [FedBlock.structurallyValid, FedBlock.indicesContiguous, Bool.and_eq_true,
    List.all_eq_true, decide_eq_true_eq, Bool.not_eq_true', List.isEmpty_eq_false_iff] at checked
  obtain ⟨⟨⟨-, nonempty, -⟩, positive⟩, -⟩ := checked
  have opened : Opens house s tick ∧ s.liveParentBlock = block ∧
      s.liveBoundaries = block.computeBoundaries := by
    cases activated with
    | live s tick assets accepted =>
      refine ⟨opens_activate house s tick _, by simp, ?_⟩
      simp [activate, computeSegmentSeamFrames, assignBlock_boundaries accepted valid]
    | first s nowUtcMs assets accepted =>
      refine ⟨opens_resync house s nowUtcMs _, by simp [resync], ?_⟩
      simp [resync, activate, computeSegmentSeamFrames, assignBlock_boundaries accepted valid]
  obtain ⟨opens, parent, bounds⟩ := opened
  refine ⟨parent, opens, fenced, by rw [bounds, parent], ?_, ?_⟩
  · rw [parent]
    exact List.length_pos_iff.mpr nonempty
  · rw [parent]
    exact positive

/-- **On-time segment seams follow the plan** exactly when the counts of frames agree; and runs in
which no segment TAKE is deferred are on time. -/
theorem seams_follow_plan_iff {block : FedBlock} {tick fence : Int} {s : Seams}
    (valid : block.structurallyValid = true) (activated : Activated house block tick s)
    (fenced : s.blockFenceFrame = some fence) :
    (∀ sessionEpochUtcMs actions final,
        Along (step house) NotDeferred (.initial sessionEpochUtcMs) actions →
          runActions (step house) (.initial sessionEpochUtcMs) actions = some final →
            SwapsOnTime house final) ∧
      (FollowsPlan house s ↔ PlanHolds house block tick fence) := by
  refine ⟨swapsOnTime_run house, ?_⟩
  obtain ⟨parent, block'⟩ := activated.validated valid fenced
  rw [followsPlan_iff block', parent]

/-- A second of content in three segments of the given durations. -/
def threeSegments (first second third : Int) : FedBlock :=
  { blockId := "A"
    startUtcMs := 0
    endUtcMs := 1000
    segments := [⟨0, first, .content, .none, 0⟩, ⟨1, second, .content, .none, 0⟩,
      ⟨2, third, .content, .none, 0⟩] }

/-- The seams of such a block as it becomes live at tick 0. -/
def threeSeams (first second third : Int) : Seams :=
  activate palFps (.initial 0) 0 (assignBlock (threeSegments first second third) ⟨true, some palFps⟩)

/-- Segments of whole frames follow the plan. -/
theorem whole_frames_follow_plan :
    (∀ sessionEpochUtcMs actions final,
        Along (step palFps) NotDeferred (.initial sessionEpochUtcMs) actions →
          runActions (step palFps) (.initial sessionEpochUtcMs) actions = some final →
            SwapsOnTime palFps final) ∧
      (FollowsPlan palFps (threeSeams 80 120 800) ↔
        PlanHolds palFps (threeSegments 80 120 800) 0 25) :=
  seams_follow_plan_iff (by decide +kernel) (.live (.initial 0) 0 ⟨true, some palFps⟩ rfl)
    (by decide +kernel)

/-- Segments of 41, 41 and 918 ms: the second swap is planned at tick 3 and made at tick 4. -/
theorem split_frames_drift :
    ¬ ∀ (house : RationalFps) (block : FedBlock) (tick : Int) (s : Seams),
      block.structurallyValid = true → Activated house block tick s → FollowsPlan house s := by
  intro always
  have follows := always palFps (threeSegments 41 41 918) 0 (threeSeams 41 41 918) (by decide +kernel)
    (.live (.initial 0) 0 ⟨true, some palFps⟩ rfl)
  have second := (follows.swaps 1 (by decide +kernel)).2
  exact absurd second (by decide +kernel)

end Plan

end Retrovue.Air.Blockplan
