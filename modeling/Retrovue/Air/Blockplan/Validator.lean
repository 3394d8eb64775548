/-
**The block plan validator and its boundary table** (`BlockPlanValidator.cpp`).

* `validate`: the checks in their order, the first failure with what its detail names;
* `Acceptable`, `validate_ok_iff`: the conditions that they come to;
* `Tabulates`, `tabulates_boundaries`: the boundary table splits the block's content time between the
  segments in index order, and the search finds the part that a content time lies in;
* `validate_iff`: acceptance and the table together.

Content times and durations do not wrap here.
-/

import Mathlib
import Retrovue.Air.Blockplan.Join

namespace Retrovue.Air.Blockplan

open Retrovue.Foundation.Sorting Retrovue.Foundation.Offsets

/-! ### The validator -/

section Validation

/-- `BlockPlanError`, as far as the validator reports it, with what the detail text names. -/
inductive ValidationError
  /-- `kInvalidBlockTiming`. -/
  | invalidBlockTiming (endUtcMs startUtcMs : Int)
  /-- `kStaleBlockFromCore`. -/
  | staleBlockFromCore (stalenessMs : Int)
  /-- `kInvalidSegmentIndex`: no segments. -/
  | emptySegments
  /-- `kInvalidSegmentIndex`: the indices do not start at 0. -/
  | firstIndex (index : Int)
  /-- `kInvalidSegmentIndex`: a gap. -/
  | indexGap (position : Nat) (found : Int)
  /-- `kSegmentDurationMismatch`: a duration that is not positive. -/
  | nonPositiveDuration (segmentIndex durationMs : Int)
  /-- `kSegmentDurationMismatch`: the sum is not the block's duration. -/
  | durationSum (sumMs blockDurationMs : Int)
  /-- `kInvalidSegmentIndex`: a pad with an asset. -/
  | padWithAsset (segmentIndex : Int) (assetUri : String)
  /-- `kAssetMissing`. -/
  | assetMissing (segmentIndex : Int) (assetUri : String)
  /-- `kInvalidOffset`. -/
  | invalidOffset (segmentIndex offsetMs assetDurationMs : Int)
  deriving DecidableEq, Repr

/-- `ValidateBlockTiming`. -/
def validateBlockTiming (plan : BlockPlan) : Except ValidationError Unit :=
  if plan.endUtcMs ≤ plan.startUtcMs then
    .error (.invalidBlockTiming plan.endUtcMs plan.startUtcMs)
  else .ok ()

/-- `ValidateFreshness`. -/
def validateFreshness (plan : BlockPlan) (tReceiptMs : Int) : Except ValidationError Unit :=
  if plan.endUtcMs ≤ tReceiptMs then .error (.staleBlockFromCore (tReceiptMs - plan.endUtcMs))
  else .ok ()

/-- The loop of `ValidateSegmentIndices` over the sorted indices, from a position on. -/
def checkContiguous (first : Int) : Nat → List Int → Except ValidationError Unit
  | _, [] => .ok ()
  | i, index :: rest =>
    if index ≠ i then .error (if first ≠ 0 then .firstIndex first else .indexGap i index)
    else checkContiguous first (i + 1) rest

/-- `ValidateSegmentIndices`. -/
def validateSegmentIndices (plan : BlockPlan) : Except ValidationError Unit :=
  match sortByKey id (plan.segments.map fun segment => segment.segmentIndex) with
  | [] => .error .emptySegments
  | first :: rest => checkContiguous first 0 (first :: rest)

/-- The loop of `ValidateDurationSum`, with the sum so far. -/
def checkDurations : Int → List PlanSegment → Except ValidationError Int
  | sum, [] => .ok sum
  | sum, segment :: rest =>
    if segment.segmentDurationMs ≤ 0 then
      .error (.nonPositiveDuration segment.segmentIndex segment.segmentDurationMs)
    else checkDurations (sum + segment.segmentDurationMs) rest

/-- `ValidateDurationSum`. -/
def validateDurationSum (plan : BlockPlan) : Except ValidationError Unit := do
  let sum ← checkDurations 0 plan.segments
  if sum ≠ plan.endUtcMs - plan.startUtcMs then
    .error (.durationSum sum (plan.endUtcMs - plan.startUtcMs))
  else .ok ()

/-- The loop of `ValidateAssets`; the duration of an asset that is not there is negative. -/
def checkAssets (assetDurationMs : String → Int) : List PlanSegment → Except ValidationError Unit
  | [] => .ok ()
  | segment :: rest =>
    if segment.segmentType = .pad then
      if segment.assetUri ≠ "" then .error (.padWithAsset segment.segmentIndex segment.assetUri)
      else checkAssets assetDurationMs rest
    else if assetDurationMs segment.assetUri < 0 then
      .error (.assetMissing segment.segmentIndex segment.assetUri)
    else if segment.assetStartOffsetMs ≥ assetDurationMs segment.assetUri then
      .error (.invalidOffset segment.segmentIndex segment.assetStartOffsetMs
        (assetDurationMs segment.assetUri))
    else checkAssets assetDurationMs rest

/-- `Validate`. -/
def validate (assetDurationMs : String → Int) (plan : BlockPlan) (tReceiptMs : Int) :
    Except ValidationError (List SegmentBoundary) := do
  validateBlockTiming plan
  validateFreshness plan tReceiptMs
  validateSegmentIndices plan
  validateDurationSum plan
  checkAssets assetDurationMs plan.segments
  .ok plan.fed.computeBoundaries

end Validation

/-! ### What is accepted -/

section Acceptance

/-- A segment whose asset fits: a pad names none, any other names one that is there and is longer than
the offset. -/
def AssetFits (assetDurationMs : String → Int) (segment : PlanSegment) : Prop :=
  if segment.segmentType = .pad then segment.assetUri = ""
  else 0 ≤ assetDurationMs segment.assetUri ∧
    segment.assetStartOffsetMs < assetDurationMs segment.assetUri

/-- **What the validator accepts.** -/
structure Acceptable (assetDurationMs : String → Int) (plan : BlockPlan) (tReceiptMs : Int) :
    Prop where
  timing : plan.startUtcMs < plan.endUtcMs
  fresh : tReceiptMs < plan.endUtcMs
  some_ : plan.segments ≠ []
  indices : (plan.segments.map fun segment => segment.segmentIndex).Perm
    ((List.range plan.segments.length).map Int.ofNat)
  durations : Positive segmentLength plan.segments
  sum : total segmentLength plan.segments = plan.endUtcMs - plan.startUtcMs
  assets : ∀ segment ∈ plan.segments, AssetFits assetDurationMs segment

/-- The indices `0 … n - 1` in some order sort to `0 … n - 1`. -/
theorem sorted_indices_iff (indices : List Int) :
    sortByKey id indices = (List.range indices.length).map Int.ofNat ↔
      indices.Perm ((List.range indices.length).map Int.ofNat) := by
  constructor
  · intro sorted
    rw [← sorted]
    exact (sortByKey_perm id indices).symm
  · intro perm
    refine sortByKey_of_perm id perm ?_
    rw [List.pairwise_map]
    exact List.pairwise_lt_range.imp fun earlier => Int.ofNat_lt.mpr earlier

/-- The loop over the indices accepts a run of consecutive ones. -/
theorem checkContiguous_iff (first : Int) : ∀ (i : Nat) (indices : List Int),
    checkContiguous first i indices = .ok () ↔
      indices = (List.range indices.length).map fun k : Nat => ((i + k : Nat) : Int)
  | i, [] => by simp [checkContiguous]
  | i, index :: rest => by
    have shift : (List.range (index :: rest).length).map (fun k : Nat => ((i + k : Nat) : Int)) =
        (i : Int) :: (List.range rest.length).map fun k : Nat => ((i + 1 + k : Nat) : Int) := by
      rw [List.length_cons, List.range_succ_eq_map, List.map_cons, List.map_map]
      congr 1
      refine List.map_congr_left fun k _ => ?_
      simp only [Function.comp_apply]
      omega
    rw [shift, checkContiguous]
    by_cases here : index = i
    · rw [if_neg (not_not_intro here), checkContiguous_iff first (i + 1) rest, List.cons.injEq]
      exact (and_iff_right here).symm
    · rw [if_pos here, List.cons.injEq]
      refine iff_of_false (fun done => ?_) fun both => here both.1
      cases done

theorem validateSegmentIndices_iff (plan : BlockPlan) :
    validateSegmentIndices plan = .ok () ↔
      plan.segments ≠ [] ∧ (plan.segments.map fun segment => segment.segmentIndex).Perm
        ((List.range plan.segments.length).map Int.ofNat) := by
  have sorted := sorted_indices_iff (plan.segments.map fun segment => segment.segmentIndex)
  have count := (sortByKey_perm id
    (plan.segments.map fun segment => segment.segmentIndex)).length_eq
  rw [List.length_map] at sorted count
  rw [← sorted, validateSegmentIndices]
  cases listed : sortByKey id (plan.segments.map fun segment => segment.segmentIndex) with
  | nil =>
    rw [listed, List.length_nil] at count
    refine iff_of_false (fun done => ?_) fun both => ?_
    · cases done
    · exact both.1 (List.length_eq_zero_iff.mp count.symm)
  | cons first rest =>
    rw [listed] at count
    have some_ : plan.segments ≠ [] := by
      intro none_
      rw [none_] at count
      cases count
    simp only [checkContiguous_iff, zero_add, count]
    exact (and_iff_right some_).symm

/-- The loop over the durations accepts positive ones, and adds them up. -/
theorem checkDurations_iff : ∀ (segments : List PlanSegment) (sum result : Int),
    checkDurations sum segments = .ok result ↔
      Positive segmentLength segments ∧ result = sum + total segmentLength segments
  | [], sum, result => by
    simp [checkDurations, Positive, eq_comm]
  | segment :: rest, sum, result => by
    rw [checkDurations, Positive, List.forall_mem_cons, total_cons]
    by_cases here : segment.segmentDurationMs ≤ 0
    · rw [if_pos here]
      refine iff_of_false (fun done => ?_) fun both => absurd both.1.1 (not_lt.mpr here)
      cases done
    · rw [if_neg here, checkDurations_iff rest, ← add_assoc, and_assoc]
      exact (and_iff_right (not_le.mp here)).symm

theorem validateDurationSum_iff (plan : BlockPlan) :
    validateDurationSum plan = .ok () ↔
      Positive segmentLength plan.segments ∧
        total segmentLength plan.segments = plan.endUtcMs - plan.startUtcMs := by
  rw [validateDurationSum]
  cases checked : checkDurations 0 plan.segments with
  | error reason =>
    refine iff_of_false (fun done => by cases done) fun both => ?_
    rw [(checkDurations_iff plan.segments 0 _).mpr ⟨both.1, rfl⟩] at checked
    cases checked
  | ok sum =>
    obtain ⟨positive, rfl⟩ := (checkDurations_iff plan.segments 0 sum).mp checked
    rw [zero_add, and_iff_right positive]
    show (if total segmentLength plan.segments ≠ plan.endUtcMs - plan.startUtcMs then _ else _) = _ ↔
      _
    split_ifs with differs
    · exact iff_of_false (fun done => by cases done) differs
    · exact iff_of_true rfl (not_not.mp differs)

theorem checkAssets_iff (assetDurationMs : String → Int) : ∀ segments : List PlanSegment,
    checkAssets assetDurationMs segments = .ok () ↔
      ∀ segment ∈ segments, AssetFits assetDurationMs segment
  | [] => by simp [checkAssets]
  | segment :: rest => by
    rw [checkAssets, List.forall_mem_cons, ← checkAssets_iff assetDurationMs rest, AssetFits]
    split_ifs with pad named missing late
    · exact iff_of_false (fun done => by cases done) fun both => named both.1
    · exact (and_iff_right (not_not.mp named)).symm
    · exact iff_of_false (fun done => by cases done) fun both => absurd both.1.1 (not_le.mpr missing)
    · exact iff_of_false (fun done => by cases done) fun both => absurd both.1.2 (not_lt.mpr late)
    · exact (and_iff_right ⟨not_lt.mp missing, not_le.mp late⟩).symm

/-- A check and what follows it. -/
theorem checked_then {ε α : Type} {check : Except ε Unit} {next : Except ε α} {a : α} :
    (check >>= fun _ => next) = .ok a ↔ check = .ok () ∧ next = .ok a := by
  cases check with
  | error reason => exact iff_of_false (fun done => by cases done) fun both => by cases both.1
  | ok _ => exact (and_iff_right rfl).symm

theorem validateBlockTiming_iff (plan : BlockPlan) :
    validateBlockTiming plan = .ok () ↔ plan.startUtcMs < plan.endUtcMs := by
  rw [validateBlockTiming]
  split_ifs with late
  · exact iff_of_false (fun done => by cases done) (not_lt.mpr late)
  · exact iff_of_true rfl (not_le.mp late)

theorem validateFreshness_iff (plan : BlockPlan) (tReceiptMs : Int) :
    validateFreshness plan tReceiptMs = .ok () ↔ tReceiptMs < plan.endUtcMs := by
  rw [validateFreshness]
  split_ifs with late
  · exact iff_of_false (fun done => by cases done) (not_lt.mpr late)
  · exact iff_of_true rfl (not_le.mp late)

/-- **What the validator accepts**, and the table that it returns. -/
theorem validate_ok_iff (assetDurationMs : String → Int) (plan : BlockPlan) (tReceiptMs : Int)
    (boundaries : List SegmentBoundary) :
    validate assetDurationMs plan tReceiptMs = .ok boundaries ↔
      Acceptable assetDurationMs plan tReceiptMs ∧ boundaries = plan.fed.computeBoundaries := by
  unfold validate
  rw [checked_then, checked_then, checked_then, checked_then, checked_then,
    validateBlockTiming_iff, validateFreshness_iff, validateSegmentIndices_iff,
    validateDurationSum_iff, checkAssets_iff, Except.ok.injEq]
  constructor
  · rintro ⟨timing, fresh, ⟨some_, indices⟩, ⟨durations, sum⟩, assets, rfl⟩
    exact ⟨⟨timing, fresh, some_, indices, durations, sum, assets⟩, rfl⟩
  · rintro ⟨⟨timing, fresh, some_, indices, durations, sum, assets⟩, rfl⟩
    exact ⟨timing, fresh, ⟨some_, indices⟩, ⟨durations, sum⟩, assets, rfl⟩

end Acceptance

/-! ### The boundary table -/

section Table

/-- A content time lies in a boundary. -/
def SegmentBoundary.Contains (bound : SegmentBoundary) (ctMs : Int) : Prop :=
  bound.startCtMs ≤ ctMs ∧ ctMs < bound.endCtMs

/-- **A table of the segments of a plan**: boundary `k` is as long as the segment of index `k`, and
every content time of the block lies in one boundary, the one that the search finds. -/
structure Tabulates (boundaries : List SegmentBoundary) (plan : BlockPlan) : Prop where
  count : boundaries.length = plan.segments.length
  segment : ∀ (k : Nat) (bound : SegmentBoundary), boundaries[k]? = some bound →
    bound.segmentIndex = k ∧ ∃ segment ∈ plan.segments, segment.segmentIndex = k ∧
      bound.endCtMs - bound.startCtMs = segment.segmentDurationMs
  inside : ∀ bound ∈ boundaries, 0 ≤ bound.startCtMs ∧
    bound.endCtMs ≤ plan.endUtcMs - plan.startUtcMs
  found : ∀ ctMs, 0 ≤ ctMs → ctMs < plan.endUtcMs - plan.startUtcMs →
    ∃ bound ∈ boundaries, bound.Contains ctMs ∧
      (∀ other ∈ boundaries, other.Contains ctMs → other = bound) ∧
      findSegmentForCT boundaries ctMs = some bound.segmentIndex

/-- A boundary of a list of segments: where its segment stands. -/
theorem mem_boundariesFrom {bound : SegmentBoundary} : ∀ {segments : List Segment} {ct : Int},
    bound ∈ boundariesFrom ct segments →
      ∃ before segment after, segments = before ++ segment :: after ∧
        bound = ⟨segment.segmentIndex, ct + total Segment.segmentDurationMs before,
          ct + total Segment.segmentDurationMs before + segment.segmentDurationMs⟩
  | [], _, member => by cases member
  | first :: rest, ct, member => by
    rcases List.mem_cons.mp member with rfl | later
    · exact ⟨[], first, rest, rfl, by simp⟩
    · obtain ⟨before, segment, after, rfl, rfl⟩ := mem_boundariesFrom later
      exact ⟨first :: before, segment, after, rfl, by rw [total_cons, ← add_assoc]⟩

variable {assetDurationMs : String → Int} {plan : BlockPlan} {tReceiptMs : Int}

/-- The segments of an accepted plan in index order. -/
theorem sorted_inIndexOrder (acceptable : Acceptable assetDurationMs plan tReceiptMs) :
    InIndexOrder (sortByKey (fun segment : PlanSegment => segment.segmentIndex) plan.segments) := by
  have sorted := (sorted_indices_iff (plan.segments.map fun segment => segment.segmentIndex)).mpr
  rw [List.length_map] at sorted
  rw [InIndexOrder, map_sortByKey, sorted acceptable.indices,
    (sortByKey_perm _ plan.segments).length_eq]

/-- **The table of an accepted plan.** -/
theorem tabulates_boundaries (acceptable : Acceptable assetDurationMs plan tReceiptMs) :
    Tabulates plan.fed.computeBoundaries plan := by
  have inOrder := sorted_inIndexOrder acceptable
  have perm := (sortByKey_perm (fun segment : PlanSegment => segment.segmentIndex)
    plan.segments).symm
  generalize sortByKey (fun segment : PlanSegment => segment.segmentIndex) plan.segments = listed
    at inOrder perm
  have positive : Positive Segment.segmentDurationMs (listed.map PlanSegment.toSegment) := by
    intro segment member
    obtain ⟨planned, among, rfl⟩ := List.mem_map.mp member
    exact acceptable.durations planned (perm.mem_iff.mpr among)
  have spans : total Segment.segmentDurationMs (listed.map PlanSegment.toSegment) =
      plan.endUtcMs - plan.startUtcMs := by
    rw [total_map, ← acceptable.sum, total, total, (perm.map segmentLength).sum_eq]
  rw [computeBoundaries_of_perm perm inOrder]
  refine ⟨by simp [perm.length_eq], ?_, ?_, ?_⟩
  · intro k bound stands
    have within : k < listed.length := by
      simpa using (List.getElem?_eq_some_iff.mp stands).1
    have split : listed = listed.take k ++ listed[k] :: listed.drop (k + 1) := by
      rw [← List.drop_eq_getElem_cons within, List.take_append_drop]
    have places : (listed.take k).length = k := List.length_take_of_le within.le
    have there := boundariesFrom_getElem? listed[k].toSegment
      ((listed.drop (k + 1)).map PlanSegment.toSegment)
      ((listed.take k).map PlanSegment.toSegment) 0
    rw [List.length_map, places, ← List.map_cons, ← List.map_append, ← split, stands,
      Option.some.injEq] at there
    have numbered := segmentIndex_of_inOrder inOrder split
    rw [places] at numbered
    refine ⟨by rw [there, numbered], listed[k], perm.mem_iff.mpr (List.getElem_mem within), numbered,
      ?_⟩
    rw [there]
    dsimp only
    ring
  · intro bound member
    obtain ⟨before, segment, after, split, rfl⟩ := mem_boundariesFrom member
    rw [split] at positive spans
    have front : 0 ≤ total Segment.segmentDurationMs before :=
      total_nonneg _ fun other among => positive other (List.mem_append_left _ among)
    have back : 0 ≤ total Segment.segmentDurationMs after :=
      total_nonneg _ fun other among =>
        positive other (List.mem_append_right _ (List.mem_cons_of_mem segment among))
    rw [total_append, total_cons] at spans
    dsimp only
    omega
  · intro ctMs started runs
    obtain ⟨before, segment, after, falls⟩ := exists_fallsIn started (by rwa [spans])
    have there := boundariesFrom_getElem? segment after before 0
    rw [← falls.split, zero_add] at there
    have passed := falls.passed
    have inside := falls.inside
    refine ⟨_, List.mem_of_getElem? there, ⟨passed, inside⟩, ?_, ?_⟩
    · intro other among contains
      obtain ⟨others, found, rest, split, rfl⟩ := mem_boundariesFrom among
      rw [zero_add] at contains ⊢
      obtain ⟨rfl, rfl, -⟩ :=
        FallsIn.unique positive ⟨split, contains.1, contains.2⟩ falls
      rfl
    · rw [findSegmentForCT_boundariesFrom, locate_fallsIn positive (by rwa [sub_zero])]
      rfl

/-- **The validator accepts exactly what is acceptable, and returns the table of the block**, however
its segments are listed. -/
theorem validate_iff (assetDurationMs : String → Int) (plan : BlockPlan) (tReceiptMs : Int) :
    ((∃ boundaries, validate assetDurationMs plan tReceiptMs = .ok boundaries) ↔
        Acceptable assetDurationMs plan tReceiptMs) ∧
      ∀ boundaries, validate assetDurationMs plan tReceiptMs = .ok boundaries →
        Tabulates boundaries plan := by
  constructor
  · constructor
    · rintro ⟨boundaries, accepted⟩
      exact ((validate_ok_iff assetDurationMs plan tReceiptMs boundaries).mp accepted).1
    · intro acceptable
      exact ⟨_, (validate_ok_iff assetDurationMs plan tReceiptMs _).mpr ⟨acceptable, rfl⟩⟩
  · intro boundaries accepted
    obtain ⟨acceptable, rfl⟩ :=
      (validate_ok_iff assetDurationMs plan tReceiptMs boundaries).mp accepted
    exact tabulates_boundaries acceptable

/-- A second of one segment. -/
def oneSecond (segmentType : SegmentType) (assetUri : String) (offsetMs : Int) : BlockPlan where
  blockId := "blk-0"
  channelId := 1
  startUtcMs := 60000
  endUtcMs := 61000
  segments :=
    [{ segmentIndex := 0
       segmentDurationMs := 1000
       segmentType := segmentType
       transitionIn := .none
       transitionInDurationMs := 0
       assetUri := assetUri
       assetStartOffsetMs := offsetMs
       transitionOut := .none
       transitionOutDurationMs := 0
       gainDb := 0 }]

/-- **More than the timing, the indices, the durations and the offsets is asked**: at its end a block is
stale, a pad must name no asset, and the offset of a pad is not looked at. -/
theorem stale_and_pad_differ :
    validate (fun _ => 5000) (oneSecond .content "a.mkv" 0) 61000 =
        .error (.staleBlockFromCore 0) ∧
      validate (fun _ => 5000) (oneSecond .pad "a.mkv" 0) 0 =
        .error (.padWithAsset 0 "a.mkv") ∧
      validate (fun _ => -1) (oneSecond .pad "" 0) 0 = .ok [⟨0, 0, 1000⟩] := by
  decide +kernel

end Table

end Retrovue.Air.Blockplan
