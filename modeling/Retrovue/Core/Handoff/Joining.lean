/-
**What joining in progress leaves of a block** (`runtime/channel_manager.py`).

* `skipElapsed_positive`, `total_skipElapsed`: the walk leaves positive lengths, and what has not
  elapsed; `skipElapsed_fallsIn`: the segment under way, trimmed, and all after it;
* `extendPad_fills`: the pad at the end makes up the block;
* `generateNextBlock_ok`: a generated plan is the whole block, or the block joined.
-/

import Mathlib
import Retrovue.Core.Handoff.BlockPlan

namespace Retrovue.Core.Handoff

open Retrovue.Foundation.Offsets Retrovue.Core.Playlog

/-! ### The walk -/

section Walk

@[simp] theorem planLength_trim (seg : PlanSegment) (elapsedMs : Int) :
    planLength (seg.trim elapsedMs) = planLength seg - elapsedMs := rfl

/-- **The walk leaves positive lengths**, also of segments of none. -/
theorem skipElapsed_positive :
    ∀ (segments : List PlanSegment) {remaining : Int}, 0 ≤ remaining →
      Positive planLength (skipElapsed remaining segments)
  | [], _, _ => by
    intro seg member
    cases member
  | seg :: rest, remaining, started => by
    unfold skipElapsed
    split_ifs with elapsed under
    · exact skipElapsed_positive rest (by omega)
    · refine List.forall_mem_cons.mpr ⟨?_, skipElapsed_positive rest le_rfl⟩
      rw [planLength_trim, planLength]
      omega
    · refine List.forall_mem_cons.mpr ⟨?_, skipElapsed_positive rest started⟩
      rw [planLength]
      omega

/-- **The walk leaves what has not elapsed.** -/
theorem total_skipElapsed :
    ∀ {segments : List PlanSegment}, (∀ seg ∈ segments, 0 ≤ planLength seg) →
      ∀ {remaining : Int}, 0 ≤ remaining →
        total planLength (skipElapsed remaining segments) =
          max 0 (total planLength segments - remaining)
  | [], _, remaining, started => by
    rw [skipElapsed, total_nil]
    omega
  | seg :: rest, lengths, remaining, started => by
    obtain ⟨here, later⟩ := List.forall_mem_cons.mp lengths
    have restNonneg : 0 ≤ total planLength rest := by
      refine List.sum_nonneg fun length member => ?_
      obtain ⟨other, among, rfl⟩ := List.mem_map.mp member
      exact later other among
    have length : planLength seg = seg.segmentDurationMs := rfl
    unfold skipElapsed
    split_ifs with elapsed under
    · rw [total_skipElapsed later (by omega), total_cons]
      congr 1
      omega
    · rw [total_cons, total_cons, total_skipElapsed later le_rfl, planLength_trim]
      omega
    · rw [total_cons, total_cons, total_skipElapsed later started]
      omega

/-- What the walk leaves of a segment under way. -/
def PlanSegment.remainder (seg : PlanSegment) (elapsedMs : Int) : PlanSegment :=
  if 0 < elapsedMs then seg.trim elapsedMs else seg

@[simp] theorem skipElapsed_zero {segments : List PlanSegment}
    (positive : Positive planLength segments) : skipElapsed 0 segments = segments := by
  induction segments with
  | nil => rfl
  | cons seg rest ih =>
    have here : 0 < seg.segmentDurationMs := positive seg List.mem_cons_self
    rw [skipElapsed, if_neg (by omega), if_neg (by omega), ih positive.tail]

/-- **The walk stops in the segment that the offset falls in**: its remainder, and every segment
after it. -/
theorem skipElapsed_fallsIn :
    ∀ {segments : List PlanSegment}, Positive planLength segments →
      ∀ {offset : Int} {before after : List PlanSegment} {seg : PlanSegment},
        FallsIn planLength segments offset before seg after →
        skipElapsed offset segments = seg.remainder (offset - total planLength before) :: after
  | [], _, _, before, _, _, falls => by
    have split := falls.split
    cases before <;> cases split
  | first :: rest, positive, offset, before, after, seg, falls => by
    rcases fallsIn_cons falls with ⟨rfl, rfl, rfl, low, high⟩ | ⟨others, rfl, further⟩
    · rw [skipElapsed, if_neg (by rw [planLength] at high; omega), total_nil, sub_zero,
        PlanSegment.remainder]
      split_ifs with under
      · rw [skipElapsed_zero positive.tail]
      · rw [show offset = 0 by omega, skipElapsed_zero positive.tail]
    · have passed := further.passed
      have others_nonneg : 0 ≤ total planLength others := by
        refine total_nonneg planLength fun b member => positive b ?_
        rw [further.split]
        exact List.mem_cons_of_mem first (List.mem_append_left _ member)
      have length : planLength first = first.segmentDurationMs := rfl
      rw [skipElapsed, if_pos (by omega), total_cons, skipElapsed_fallsIn positive.tail further,
        sub_sub]

end Walk

/-! ### The pad at the end -/

section Pad

/-- Nothing missing, nothing changed. -/
theorem extendPad_full {blockDurMs : Int} {result : List PlanSegment}
    (full : total planLength result = blockDurMs) : extendPad blockDurMs result = result := by
  rw [extendPad, full, sub_self, if_neg (lt_irrefl 0)]

/-- A pad is added where the list does not end in one. -/
theorem positive_append_gapPad {gapMs : Int} (gap : 0 < gapMs) {result : List PlanSegment}
    (positive : Positive planLength result) :
    Positive planLength (result ++ [gapPad gapMs]) ∧
      total planLength (result ++ [gapPad gapMs]) = total planLength result + gapMs := by
  constructor
  · refine List.forall_mem_append.mpr ⟨positive, ?_⟩
    rw [List.forall_mem_singleton]
    exact gap
  · rw [total_append, total_cons, total_nil, add_zero]
    rfl

/-- **The pad at the end makes up the block.** -/
theorem extendPad_fills {blockDurMs : Int} {result : List PlanSegment}
    (positive : Positive planLength result) (fits : total planLength result ≤ blockDurMs) :
    Positive planLength (extendPad blockDurMs result) ∧
      total planLength (extendPad blockDurMs result) = blockDurMs := by
  by_cases full : total planLength result = blockDurMs
  · rw [extendPad_full full]
    exact ⟨positive, full⟩
  · have gap : 0 < blockDurMs - total planLength result := by omega
    have appended := positive_append_gapPad gap positive
    rw [add_sub_cancel] at appended
    simp only [extendPad, if_pos gap]
    cases placed : result.getLast? with
    | none =>
      obtain rfl : result = [] := List.getLast?_eq_none_iff.mp placed
      exact appended
    | some last =>
      obtain ⟨others, rfl⟩ := List.getLast?_eq_some_iff.mp placed
      by_cases padded : last.segmentType = some "pad"
      · simp only [if_pos padded, List.dropLast_concat]
        obtain ⟨othersPositive, lastPositive⟩ := List.forall_mem_append.mp positive
        rw [List.forall_mem_singleton] at lastPositive
        constructor
        · refine List.forall_mem_append.mpr ⟨othersPositive, ?_⟩
          rw [List.forall_mem_singleton]
          exact add_pos lastPositive gap
        · simp only [total_append, total_cons, total_nil, add_zero]
          rw [planLength]
          ring
      · simp only [if_neg padded]
        exact appended

end Pad

/-! ### Generated plans -/

section Generated

/-- Segments numbered while they are listed. -/
theorem numbered_mapIdx {α : Type} {dict : Nat → α → PlanSegment}
    (indexed : ∀ i a, (dict i a).segmentIndex = some (i : Int)) (items : List α) :
    Numbered (items.mapIdx dict) := by
  unfold Numbered
  apply List.ext_getElem
  · simp
  · intro i here there
    simp [indexed]

/-- Lengths while segments are numbered. -/
theorem map_mapIdx_length {α : Type} (dict : Nat → α → PlanSegment) (length : α → Int)
    (kept : ∀ i a, planLength (dict i a) = length a) (items : List α) :
    (items.mapIdx dict).map planLength = items.map length := by
  apply List.ext_getElem
  · simp
  · intro i here there
    simp [kept]

theorem numbered_renumber (segments : List PlanSegment) : Numbered (renumber segments) :=
  numbered_mapIdx (fun _ _ => rfl) segments

theorem map_renumber_length (segments : List PlanSegment) :
    (renumber segments).map planLength = segments.map planLength :=
  map_mapIdx_length PlanSegment.setIndex planLength (fun _ _ => rfl) segments

@[simp] theorem total_renumber (segments : List PlanSegment) :
    total planLength (renumber segments) = total planLength segments :=
  congrArg List.sum (map_renumber_length segments)

/-- The dicts of a scheduled block. -/
def planSegments (scheduled : ScheduledBlock) : List PlanSegment :=
  scheduled.segments.mapIdx segmentDict

theorem numbered_planSegments (scheduled : ScheduledBlock) : Numbered (planSegments scheduled) :=
  numbered_mapIdx (fun _ _ => rfl) scheduled.segments

theorem map_planSegments_length (scheduled : ScheduledBlock) :
    (planSegments scheduled).map planLength =
      scheduled.segments.map ScheduledSegment.segmentDurationMs :=
  map_mapIdx_length segmentDict ScheduledSegment.segmentDurationMs (fun _ _ => rfl) scheduled.segments

variable {channelIdInt : Int} {scheduled : ScheduledBlock} {jipOffsetMs nowUtcMs : Int}
  {plan : BlockPlan}

/-- **A generated plan** is the block joined at `now`, or the whole block. -/
theorem generateNextBlock_ok
    (inside : 0 < jipOffsetMs → nowUtcMs < scheduled.endUtcMs)
    (done : generateNextBlock channelIdInt scheduled jipOffsetMs nowUtcMs = .ok plan) :
    plan.endUtcMs = scheduled.endUtcMs ∧
      if 0 < jipOffsetMs ∧ scheduled.startUtcMs < nowUtcMs then
        plan.startUtcMs = nowUtcMs ∧
          plan.segments = renumber (applyJipToSegments (planSegments scheduled)
            (nowUtcMs - scheduled.startUtcMs) (scheduled.endUtcMs - nowUtcMs))
      else
        plan.startUtcMs = scheduled.startUtcMs ∧ plan.segments = planSegments scheduled := by
  unfold generateNextBlock at done
  by_cases joins : 0 < jipOffsetMs
  · by_cases sound : 0 < nowUtcMs
    · have now := inside joins
      simp only [joins, sound, decide_true, Bool.and_self, if_true, ne_eq, not_true_eq_false,
        if_false, ScheduledBlock.durationMs] at done
      by_cases started : scheduled.startUtcMs < nowUtcMs
      · rw [if_pos ⟨joins, started⟩]
        have offset : max 0 (min (nowUtcMs - scheduled.startUtcMs)
            (scheduled.endUtcMs - scheduled.startUtcMs)) = nowUtcMs - scheduled.startUtcMs := by
          omega
        rw [offset] at done
        have under : nowUtcMs - scheduled.startUtcMs > 0 := by omega
        simp only [under, if_true, not_true_eq_false, if_false, add_sub_cancel] at done
        cases done
        exact ⟨rfl, rfl, rfl⟩
      · rw [if_neg fun both => started both.2]
        have offset : max 0 (min (nowUtcMs - scheduled.startUtcMs)
            (scheduled.endUtcMs - scheduled.startUtcMs)) = 0 := by
          omega
        rw [offset] at done
        simp only [gt_iff_lt, lt_irrefl, if_false, add_zero, not_true_eq_false] at done
        cases done
        exact ⟨rfl, rfl, rfl⟩
    · -- the offset is applied to the segments but not to the start, and the assertion fails
      simp only [joins, sound, decide_true, decide_false, Bool.and_false, Bool.false_eq_true,
        if_false, if_true, ne_eq, not_true_eq_false] at done
      rw [if_pos (by omega)] at done
      cases done
  · simp only [joins, decide_false, Bool.false_and, Bool.false_eq_true, if_false,
      ne_eq, not_true_eq_false] at done
    cases done
    rw [if_neg fun both => joins both.1]
    exact ⟨rfl, rfl, rfl⟩

end Generated

end Retrovue.Core.Handoff
