/-
**Time conservation of the planning pipeline.**

* `Segmented`: content and breaks of a block account for its time up to the pad, whichever way the
  block was cut (`segmentWithChapters_segmented`, `segmentSynthetic_segmented`);
* `fillLoop_fuel`, `fillOneBreak_filled`: the fill loop ends by itself, never overfills, and places
  something exactly when the library's first answer is not empty;
* `breakSegments_total`: a break with an item plays its whole allocation, one without plays nothing;
* `plan_conserves_iff`: every entry's segments add up to its block exactly when every break of
  positive length is answered;
* `unanswered_break_loses_time`: with a library that has no filler, a half-hour block loses its
  breaks.
-/

import Retrovue.Core.Planning.Pipeline

namespace Retrovue.Core.Planning

open Retrovue.Foundation.Sorting Retrovue.Foundation.Apportion Retrovue.Core.Schedule

/-! ### Segmentation -/

section Segmentation

theorem contentTotal_cons (first : ContentSegmentSpec) (rest : List ContentSegmentSpec) :
    contentTotal (first :: rest) = first.durationMs + contentTotal rest := by
  unfold contentTotal
  rw [List.map_cons, List.sum_cons]

/-- The sum of the breaks. -/
def breakTotal (breaks : List BreakSpec) : Int := (breaks.map BreakSpec.durationMs).sum

theorem shareBreaks_durations {inventory : Int} {numBreaks : Nat}
    (shared : numBreaks > 0 ∧ inventory > 0) :
    (shareBreaks inventory numBreaks).map BreakSpec.durationMs = shares inventory numBreaks := by
  unfold shareBreaks
  rw [if_pos shared]
  apply List.ext_getElem
  · simp
  · intro i first second
    simp

theorem shareBreaks_length (inventory : Int) (numBreaks : Nat) :
    (shareBreaks inventory numBreaks).length ≤ numBreaks := by
  unfold shareBreaks
  split
  · simp
  · exact Nat.zero_le _

/-- The breaks take the inventory, or there is none to take, or nowhere to put it. -/
theorem shareBreaks_total (inventory : Int) (numBreaks : Nat) :
    breakTotal (shareBreaks inventory numBreaks) =
      if numBreaks > 0 ∧ inventory > 0 then inventory else 0 := by
  unfold breakTotal
  split
  · rename_i shared
    rw [shareBreaks_durations shared, sum_shares inventory shared.1]
  · rename_i unshared
    unfold shareBreaks
    rw [if_neg unshared]
    rfl

theorem shareBreaks_nonneg {inventory : Int} {numBreaks : Nat} :
    ∀ brk ∈ shareBreaks inventory numBreaks, 0 ≤ brk.durationMs := by
  intro brk member
  by_cases shared : numBreaks > 0 ∧ inventory > 0
  · have listed : brk.durationMs ∈ shares inventory numBreaks := by
      rw [← shareBreaks_durations shared]
      exact List.mem_map_of_mem member
    obtain ⟨i, _, value⟩ := List.mem_map.mp listed
    have quotient : 0 ≤ inventory / (numBreaks : Int) :=
      Int.ediv_nonneg shared.2.le (Int.natCast_nonneg _)
    rw [← value]
    split <;> omega
  · unfold shareBreaks at member
    rw [if_neg shared] at member
    cases member

/-- **The content and the breaks of a block**: the content adds up, and the breaks, one fewer than
the segments at most, take the rest of the block or none of it. -/
structure Segmented (contentMs blockMs : Int)
    (parts : List ContentSegmentSpec × List BreakSpec) : Prop where
  content : contentTotal parts.1 = contentMs
  between : parts.2.length ≤ parts.1.length - 1
  nonneg : ∀ brk ∈ parts.2, 0 ≤ brk.durationMs
  within : breakTotal parts.2 ≤ max 0 (blockMs - contentMs)

/-- Segments that add up to the content, with shared breaks between them. -/
theorem segmented_shareBreaks {contentMs blockMs : Int} {segments : List ContentSegmentSpec}
    {numBreaks : Nat} (content : contentTotal segments = contentMs)
    (between : numBreaks ≤ segments.length - 1) :
    Segmented contentMs blockMs
      (segments, shareBreaks (max 0 (blockMs - contentTotal segments)) numBreaks) where
  content := content
  between := (shareBreaks_length _ _).trans between
  nonneg := shareBreaks_nonneg
  within := by
    rw [content, shareBreaks_total]
    split <;> omega

theorem contentBetween_total (uri : String) (offset : Int) :
    ∀ boundaries : List Int, Ascending id boundaries →
      contentTotal (contentBetween uri offset boundaries) = (gaps boundaries).sum
  | [], _ => rfl
  | [_], _ => rfl
  | start :: stop :: rest, ascending => by
    have ordered : start ≤ stop := List.rel_of_pairwise_cons ascending List.mem_cons_self
    have tail := contentBetween_total uri offset (stop :: rest) (List.Pairwise.of_cons ascending)
    unfold contentBetween
    rw [gaps, List.sum_cons, ← tail]
    split
    · rw [contentTotal_cons]
    · omega

theorem sortedSet_ascending (boundaries : List Int) : Ascending id (sortedSet boundaries) :=
  sortByKey_pairwise _ _

theorem mem_sortedSet {boundaries : List Int} {x : Int} :
    x ∈ sortedSet boundaries ↔ x ∈ boundaries := by
  unfold sortedSet
  rw [mem_sortByKey, List.mem_dedup]

/-- A sorted set of boundaries spans from its least to its greatest. -/
theorem gaps_sortedSet {low high : Int} {boundaries : List Int} (first : low ∈ boundaries)
    (last : high ∈ boundaries)
    (inside : ∀ boundary ∈ boundaries, low ≤ boundary ∧ boundary ≤ high) :
    (gaps (sortedSet boundaries)).sum = high - low := by
  have member : ∀ x, x ∈ sortedSet boundaries ↔ x ∈ boundaries := fun _ => mem_sortedSet
  have ascending : Ascending id (sortedSet boundaries) := sortedSet_ascending boundaries
  cases sorted : sortedSet boundaries with
  | nil =>
    have present := (member low).mpr first
    rw [sorted] at present
    cases present
  | cons head rest =>
    rw [sorted] at ascending member
    have least : head = low := by
      have above := (inside head ((member head).mp List.mem_cons_self)).1
      rcases List.mem_cons.mp ((member low).mpr first) with same | later
      · exact same.symm
      · have below : head ≤ low := List.rel_of_pairwise_cons ascending later
        omega
    have greatest : (head :: rest).getLast (List.cons_ne_nil head rest) = high := by
      have below := (inside _ ((member _).mp (List.getLast_mem (List.cons_ne_nil head rest)))).2
      have above : high ≤ (head :: rest).getLast (List.cons_ne_nil head rest) := by
        obtain ⟨i, bound, value⟩ := List.mem_iff_getElem.mp ((member high).mpr last)
        rw [← value, List.getLast_eq_getElem]
        rcases Nat.lt_or_ge i ((head :: rest).length - 1) with before | at_end
        · exact List.pairwise_iff_getElem.mp ascending i _ bound _ before
        · have same : i = (head :: rest).length - 1 := by omega
          simp only [same, le_refl]
      omega
    rw [sum_gaps, least, ← least, greatest]

/-- **Cut at chapters**, all of them strictly inside the content. -/
theorem segmentWithChapters_segmented {uri : String} {contentMs blockMs offset : Int}
    {chapters : List MarkerInfo} (positive : 0 ≤ contentMs)
    (inside : ∀ m ∈ chapters, 0 < m.offsetMs ∧ m.offsetMs < contentMs) :
    Segmented contentMs blockMs (segmentWithChapters uri contentMs chapters blockMs offset) := by
  have span : (gaps (sortedSet ([0] ++ chapters.map MarkerInfo.offsetMs ++ [contentMs]))).sum =
      contentMs - 0 := by
    refine gaps_sortedSet (by simp) (by simp) ?_
    intro boundary member
    simp only [List.cons_append, List.nil_append, List.mem_cons, List.mem_append, List.mem_map,
      List.not_mem_nil, or_false] at member
    rcases member with rfl | ⟨m, listed, rfl⟩ | rfl
    · omega
    · have strictly := inside m listed
      omega
    · omega
  unfold segmentWithChapters
  refine segmented_shareBreaks ?_ le_rfl
  rw [contentBetween_total _ _ _ (sortedSet_ascending _), span, sub_zero]

theorem contentOf_total (uri : String) : ∀ (offset : Int) (durations : List Int),
    contentTotal (contentOf uri offset durations) = durations.sum
  | _, [] => rfl
  | offset, duration :: rest => by
    rw [contentOf, contentTotal_cons, List.sum_cons, contentOf_total uri (offset + duration) rest]

theorem contentOf_length (uri : String) : ∀ (offset : Int) (durations : List Int),
    (contentOf uri offset durations).length = durations.length
  | _, [] => rfl
  | offset, duration :: rest => by
    rw [contentOf, List.length_cons, List.length_cons, contentOf_length uri _ rest]

/-- **Cut into equal parts.** -/
theorem segmentSynthetic_segmented (uri : String) (contentMs blockMs numSegments offset : Int) :
    Segmented contentMs blockMs
      (segmentSynthetic uri contentMs blockMs numSegments offset) := by
  unfold segmentSynthetic
  split
  · refine ⟨by simp [contentTotal], by simp, (fun _ member => by cases member), ?_⟩
    show (0 : Int) ≤ _
    omega
  · rename_i cut
    have many : 0 < numSegments.toNat := by omega
    refine segmented_shareBreaks ?_ ?_
    · rw [contentOf_total, sum_shares contentMs many]
    · rw [contentOf_length, length_shares]

/-- The chapters of a block lie strictly inside its slice. -/
theorem blockChapters_inside {markers : List MarkerInfo} {eventOffset sliceEnd : Int} :
    ∀ m ∈ blockChapters markers eventOffset sliceEnd,
      0 < m.offsetMs ∧ m.offsetMs < sliceEnd - eventOffset := by
  intro m member
  obtain ⟨source, listed, rfl⟩ := List.mem_map.mp member
  have window := (List.mem_filter.mp listed).2
  simp only [decide_eq_true_eq] at window
  dsimp only
  omega

/-- **A block's content, breaks and pad add up to the block.** -/
structure Accounted (block : SegmentedBlock) : Prop where
  between : block.breaks.length ≤ block.contentSegments.length - 1
  nonneg : ∀ brk ∈ block.breaks, 0 ≤ brk.durationMs
  padNonneg : 0 ≤ block.padMs
  total : contentTotal block.contentSegments + breakTotal block.breaks + block.padMs =
    block.blockDurationMs

variable {Source : Type} (assetLibrary : AssetLibrary Source)

theorem segmentBlock_accounted (grid : Nat) (profile : SyntheticBreakProfile) (slot : ResolvedSlot)
    (slotIdx : Nat) (eventId : String) (bi : Nat) :
    Accounted (segmentBlock assetLibrary grid profile slot slotIdx eventId bi) := by
  have block : 0 ≤ blockMs grid := by
    unfold blockMs
    omega
  have slice : 0 ≤ sliceDurMs assetLibrary grid slot bi ∧
      sliceDurMs assetLibrary grid slot bi ≤ blockMs grid := by
    unfold sliceDurMs sliceEndMs
    omega
  have segmented : Segmented (sliceDurMs assetLibrary grid slot bi) (blockMs grid)
      (blockParts assetLibrary grid profile slot bi) := by
    unfold blockParts
    split
    · exact segmentSynthetic_segmented _ _ _ _ _
    · rename_i chapter rest cut
      refine segmentWithChapters_segmented slice.1 ?_
      rw [← cut]
      intro m member
      have strictly := blockChapters_inside m member
      unfold sliceDurMs
      omega
  have within := segmented.within
  unfold breakTotal at within
  refine ⟨segmented.between, segmented.nonneg, le_max_left _ _, ?_⟩
  show contentTotal (blockParts assetLibrary grid profile slot bi).1 +
    ((blockParts assetLibrary grid profile slot bi).2.map BreakSpec.durationMs).sum +
    max 0 (blockMs grid - sliceDurMs assetLibrary grid slot bi -
      ((blockParts assetLibrary grid profile slot bi).2.map BreakSpec.durationMs).sum) = blockMs grid
  rw [segmented.content]
  omega

theorem segmentBlocks_accounted (scheduleDay : ResolvedScheduleDay) (grid : Nat)
    (profile : Option SyntheticBreakProfile) :
    ∀ block ∈ segmentBlocks assetLibrary scheduleDay grid profile, Accounted block := by
  intro block member
  obtain ⟨⟨slotIdx, eventId, bi⟩, _, built⟩ := List.mem_filterMap.mp member
  obtain ⟨slot, _, rfl⟩ := Option.map_eq_some_iff.mp built
  exact segmentBlock_accounted assetLibrary grid _ slot slotIdx eventId bi

end Segmentation

/-! ### Filling -/

section Filling

variable {Source : Type} (assetLibrary : AssetLibrary Source) (policy : BreakFillPolicy)

/-- The sum of the items. -/
def itemTotal (items : List BreakItem) : Int := (items.map BreakItem.durationMs).sum

/-- A placed filler is one of the answer's, and fits. -/
theorem find_allows {source : Source} {remaining : Int} {used : List String}
    {filler : FillerAsset}
    (found : (assetLibrary.getFillerAssets source remaining 5).1.find?
      (policy.allows used remaining) = some filler) :
    0 < filler.durationMs ∧ filler.durationMs ≤ remaining := by
  have member := List.mem_of_find?_eq_some found
  exact ⟨assetLibrary.filler_pos _ _ _ filler member, assetLibrary.filler_le _ _ _ filler member⟩

/-- **The loop never runs out of fuel**: a millisecond for each item is enough. -/
theorem fillLoop_fuel : ∀ (fuel more : Nat) (source : Source) (remaining : Int)
    (used : List String), remaining ≤ fuel →
      fillLoop assetLibrary policy (fuel + more) source remaining used =
        fillLoop assetLibrary policy fuel source remaining used
  | 0, more, source, remaining, used, enough => by
    cases more with
    | zero => rfl
    | succ more =>
      rw [Nat.zero_add, fillLoop, fillLoop, if_neg (by omega)]
  | fuel + 1, more, source, remaining, used, enough => by
    rw [Nat.add_right_comm, fillLoop, fillLoop]
    by_cases some : remaining > 0
    · rw [if_pos some, if_pos some]
      dsimp only
      cases found : (assetLibrary.getFillerAssets source remaining 5).1.find?
          (policy.allows used remaining) with
      | none => rfl
      | some filler =>
        have fits := find_allows assetLibrary policy found
        dsimp only
        rw [fillLoop_fuel fuel more _ (remaining - filler.durationMs) _ (by omega)]
    · rw [if_neg some, if_neg some]

/-- The items are not negative and never overfill. -/
theorem fillLoop_total : ∀ (fuel : Nat) (source : Source) (remaining : Int) (used : List String),
    0 ≤ remaining →
      0 ≤ itemTotal (fillLoop assetLibrary policy fuel source remaining used).1 ∧
        itemTotal (fillLoop assetLibrary policy fuel source remaining used).1 ≤ remaining
  | 0, source, remaining, used, nonneg => ⟨le_rfl, nonneg⟩
  | fuel + 1, source, remaining, used, nonneg => by
    rw [fillLoop]
    split
    · dsimp only
      split
      · exact ⟨le_rfl, nonneg⟩
      · rename_i filler found
        have fits := find_allows assetLibrary policy found
        have rest := fillLoop_total fuel (assetLibrary.getFillerAssets source remaining 5).2
          (remaining - filler.durationMs) (filler.assetUri :: used) (by omega)
        have sum : ∀ items, itemTotal (filler.item :: items) =
            filler.durationMs + itemTotal items := by
          intro items
          unfold itemTotal
          rw [List.map_cons, List.sum_cons]
          rfl
        rw [sum]
        omega
    · exact ⟨le_rfl, nonneg⟩

/-- The first answer to a break. -/
def firstAnswer (source : Source) (brk : BreakSpec) : List FillerAsset :=
  (assetLibrary.getFillerAssets source brk.durationMs 5).1

/-- **A positive break gets an item exactly when its first answer is not empty.** -/
theorem fillOneBreak_items (source : Source) {brk : BreakSpec} (positive : 0 < brk.durationMs) :
    (fillOneBreak assetLibrary policy source brk).1.items = [] ↔
      firstAnswer assetLibrary source brk = [] := by
  obtain ⟨fuel, enough⟩ : ∃ fuel, brk.durationMs.toNat = fuel + 1 :=
    ⟨brk.durationMs.toNat - 1, by omega⟩
  unfold fillOneBreak firstAnswer
  dsimp only
  rw [enough, fillLoop, if_pos positive]
  dsimp only
  constructor
  · intro empty
    rw [List.eq_nil_iff_forall_not_mem]
    intro filler member
    split at empty
    · rename_i none
      have refused := List.find?_eq_none.mp none filler member
      have fits := assetLibrary.filler_le _ _ _ filler member
      simp [BreakFillPolicy.allows, fits] at refused
    · cases empty
  · intro empty
    rw [empty]
    rfl

/-- An empty break, or one whose pads make up the rest. -/
def FilledBreak.placedMs (brk : FilledBreak) : Int := if brk.items = [] then 0 else brk.allocatedMs

/-- The sum of a list of log segments. -/
def segmentTotal (segments : List LogSegment) : Int :=
  (segments.map LogSegment.segmentDurationMs).sum

theorem segmentTotal_append (first second : List LogSegment) :
    segmentTotal (first ++ second) = segmentTotal first + segmentTotal second := by
  unfold segmentTotal
  rw [List.map_append, List.sum_append]

theorem segmentTotal_cons (first : LogSegment) (rest : List LogSegment) :
    segmentTotal (first :: rest) = first.segmentDurationMs + segmentTotal rest := by
  unfold segmentTotal
  rw [List.map_cons, List.sum_cons]

/-- The items of a break with their pads. -/
theorem padded_total : ∀ (items : List BreakItem) (pads : List Int), pads.length = items.length →
    (∀ pad ∈ pads, 0 ≤ pad) →
      segmentTotal ((items.zip pads).flatMap fun (item, pad) =>
        item.segment :: if pad > 0 then [padSegment pad] else []) = itemTotal items + pads.sum
  | [], [], _, _ => rfl
  | item :: items, pad :: pads, same, nonneg => by
    have tail := padded_total items pads (by simpa using same)
      fun other member => nonneg other (List.mem_cons_of_mem _ member)
    have head := nonneg pad List.mem_cons_self
    rw [List.zip_cons_cons, List.flatMap_cons, segmentTotal_append, tail, segmentTotal_cons]
    have padded : segmentTotal (if pad > 0 then [padSegment pad] else []) = pad := by
      split
      · unfold segmentTotal
        simp [padSegment]
      · show (0 : Int) = pad
        omega
    rw [padded]
    unfold itemTotal
    rw [List.map_cons, List.sum_cons, List.sum_cons]
    show item.durationMs + pad + _ = _
    ring

/-- **A break with an item plays its whole allocation, one without plays nothing.** -/
theorem breakSegments_total {brk : FilledBreak} (fits : itemTotal brk.items ≤ brk.allocatedMs) :
    segmentTotal (breakSegments brk) = brk.placedMs := by
  unfold breakSegments FilledBreak.placedMs
  by_cases empty : brk.items = []
  · rw [if_pos empty, empty]
    rfl
  rw [if_neg empty]
  have some : brk.items.length > 0 := List.length_pos_iff.mpr empty
  have filled : brk.filledMs = itemTotal brk.items := rfl
  unfold padSizes
  by_cases gap : brk.items.length > 0 ∧ brk.allocatedMs - brk.filledMs > 0
  · rw [if_pos gap, padded_total _ _ (by simp), sum_lateShares _ some, filled]
    · ring
    · intro pad member
      obtain ⟨i, _, rfl⟩ := List.mem_map.mp member
      have quotient : 0 ≤ (brk.allocatedMs - brk.filledMs) / (brk.items.length : Int) :=
        Int.ediv_nonneg gap.2.le (Int.natCast_nonneg _)
      split <;> omega
  · rw [if_neg gap, padded_total]
    · rw [List.sum_replicate]
      have full : brk.allocatedMs = itemTotal brk.items := by omega
      simp [full]
    · rw [List.length_replicate]
      omega
    · intro pad member
      rw [List.eq_of_mem_replicate member]

/-- **Content and breaks interleaved**: each break finds its place between two segments. -/
theorem interleave_total : ∀ (contents : List ContentSegmentSpec) (breaks : List FilledBreak),
    breaks.length ≤ contents.length - 1 →
    (∀ brk ∈ breaks, itemTotal brk.items ≤ brk.allocatedMs) →
      segmentTotal (interleave contents breaks) =
        contentTotal contents + (breaks.map FilledBreak.placedMs).sum
  | [], breaks, short, _ => by
    have none : breaks = [] := List.eq_nil_of_length_eq_zero (by simpa using short)
    rw [none]
    rfl
  | [content], breaks, short, _ => by
    have none : breaks = [] := List.eq_nil_of_length_eq_zero (by simpa using short)
    rw [none]
    simp [interleave, segmentTotal, contentTotal, ContentSegmentSpec.segment]
  | content :: next :: rest, [], _, fits => by
    have tail := interleave_total (next :: rest) [] (Nat.zero_le _) fits
    rw [interleave, segmentTotal_cons, tail, contentTotal_cons content]
    show content.durationMs + _ = _
    ring
  | content :: next :: rest, brk :: breaks, short, fits => by
    have tail := interleave_total (next :: rest) breaks
      (by simp only [List.length_cons] at short ⊢; omega)
      fun other member => fits other (List.mem_cons_of_mem _ member)
    rw [interleave, segmentTotal_cons, segmentTotal_append, tail,
      breakSegments_total (fits brk List.mem_cons_self), contentTotal_cons content, List.map_cons,
      List.sum_cons]
    show content.durationMs + _ = _
    ring

end Filling

/-! ### The whole pipeline -/

section Pipeline

variable {Source : Type} (assetLibrary : AssetLibrary Source) (policy : BreakFillPolicy)

/-- Every break of positive length gets a non-empty answer to its first request, each from the state
in which the library is when its turn comes. -/
def BreaksAnswered : Source → List BreakSpec → Prop
  | _, [] => True
  | source, brk :: rest =>
    (0 < brk.durationMs → firstAnswer assetLibrary source brk ≠ []) ∧
      BreaksAnswered (fillOneBreak assetLibrary policy source brk).2 rest

/-- The same for the breaks of all blocks. -/
def BlocksAnswered : Source → List SegmentedBlock → Prop
  | _, [] => True
  | source, block :: rest =>
    BreaksAnswered assetLibrary policy source block.breaks ∧
      BlocksAnswered (fillBlockBreaks assetLibrary policy source block.breaks).2 rest

/-- **What the filled breaks of a block play**: at most the breaks, and all of them exactly when
every break is answered. -/
theorem fillBlockBreaks_placed : ∀ (breaks : List BreakSpec) (source : Source),
    (∀ brk ∈ breaks, 0 ≤ brk.durationMs) →
      ((fillBlockBreaks assetLibrary policy source breaks).1.map FilledBreak.placedMs).sum ≤
        breakTotal breaks ∧
      (((fillBlockBreaks assetLibrary policy source breaks).1.map FilledBreak.placedMs).sum =
        breakTotal breaks ↔ BreaksAnswered assetLibrary policy source breaks)
  | [], _, _ => ⟨le_rfl, iff_of_true rfl trivial⟩
  | brk :: rest, source, nonneg => by
    obtain ⟨below, exact_iff⟩ := fillBlockBreaks_placed rest
      (fillOneBreak assetLibrary policy source brk).2
      fun other member => nonneg other (List.mem_cons_of_mem _ member)
    have here := nonneg brk List.mem_cons_self
    have total : breakTotal (brk :: rest) = brk.durationMs + breakTotal rest := by
      unfold breakTotal
      rw [List.map_cons, List.sum_cons]
    have allocated : (fillOneBreak assetLibrary policy source brk).1.allocatedMs =
        brk.durationMs := rfl
    rw [total, fillBlockBreaks]
    dsimp only
    rw [List.map_cons, List.sum_cons]
    unfold BreaksAnswered
    rw [← exact_iff]
    by_cases positive : 0 < brk.durationMs
    · have items := fillOneBreak_items assetLibrary policy source positive
      by_cases empty : (fillOneBreak assetLibrary policy source brk).1.items = []
      · have unplaced : (fillOneBreak assetLibrary policy source brk).1.placedMs = 0 := if_pos empty
        rw [unplaced]
        refine ⟨by omega, ?_⟩
        constructor
        · intro equal
          omega
        · rintro ⟨answered, _⟩
          exact absurd (items.mp empty) (answered positive)
      · have placed : (fillOneBreak assetLibrary policy source brk).1.placedMs = brk.durationMs :=
          if_neg empty
        rw [placed]
        refine ⟨by omega, ?_⟩
        constructor
        · intro equal
          exact ⟨fun _ unanswered => empty (items.mpr unanswered), by omega⟩
        · rintro ⟨_, equal⟩
          omega
    · have placed : (fillOneBreak assetLibrary policy source brk).1.placedMs = 0 := by
        unfold FilledBreak.placedMs
        split
        · rfl
        · omega
      rw [placed]
      refine ⟨by omega, ?_⟩
      constructor
      · intro equal
        exact ⟨fun some => absurd some positive, by omega⟩
      · rintro ⟨_, equal⟩
        omega

theorem fillBlockBreaks_length : ∀ (breaks : List BreakSpec) (source : Source),
    (fillBlockBreaks assetLibrary policy source breaks).1.length = breaks.length
  | [], _ => rfl
  | brk :: rest, source => by
    rw [fillBlockBreaks, List.length_cons, List.length_cons, fillBlockBreaks_length rest]

theorem fillBlockBreaks_fits : ∀ (breaks : List BreakSpec) (source : Source),
    (∀ brk ∈ breaks, 0 ≤ brk.durationMs) →
      ∀ filled ∈ (fillBlockBreaks assetLibrary policy source breaks).1,
        itemTotal filled.items ≤ filled.allocatedMs
  | [], _, _, _, member => by cases member
  | brk :: rest, source, nonneg, filled, member => by
    rw [fillBlockBreaks] at member
    rcases List.mem_cons.mp member with rfl | later
    · exact (fillLoop_total assetLibrary policy _ source brk.durationMs []
        (nonneg brk List.mem_cons_self)).2
    · exact fillBlockBreaks_fits rest _
        (fun other member => nonneg other (List.mem_cons_of_mem _ member)) filled later

/-- `fill_breaks` on one block. -/
def fillBlock (source : Source) (block : SegmentedBlock) : FilledBlock :=
  { slotIndex := block.slotIndex
    resolvedSlot := block.resolvedSlot
    contentSegments := block.contentSegments
    filledBreaks := (fillBlockBreaks assetLibrary policy source block.breaks).1
    contentDurationMs := block.contentDurationMs
    blockDurationMs := block.blockDurationMs
    padMs := block.padMs
    programEventId := block.programEventId
    blockIndexWithinEvent := block.blockIndexWithinEvent }

theorem segmentTotal_numbered (segments : List LogSegment) :
    segmentTotal (segments.mapIdx fun i segment => { segment with segmentIndex := i }) =
      segmentTotal segments := by
  unfold segmentTotal
  congr 1
  apply List.ext_getElem
  · simp
  · intro i first second
    simp

/-- **One entry**: its segments add up to the block exactly when the block's breaks are answered. -/
theorem interleaveSegments_total (source : Source) {block : SegmentedBlock}
    (accounted : Accounted block) :
    segmentTotal (interleaveSegments (fillBlock assetLibrary policy source block)) =
        block.blockDurationMs ↔ BreaksAnswered assetLibrary policy source block.breaks := by
  obtain ⟨_, exact_iff⟩ :=
    fillBlockBreaks_placed assetLibrary policy block.breaks source accounted.nonneg
  have between : (fillBlockBreaks assetLibrary policy source block.breaks).1.length ≤
      block.contentSegments.length - 1 := by
    rw [fillBlockBreaks_length]
    exact accounted.between
  have content := interleave_total block.contentSegments _ between
    (fillBlockBreaks_fits assetLibrary policy block.breaks source accounted.nonneg)
  have pad : segmentTotal (if block.padMs > 0 then [padSegment block.padMs] else []) =
      block.padMs := by
    have nonneg := accounted.padNonneg
    split
    · unfold segmentTotal
      simp [padSegment]
    · show (0 : Int) = block.padMs
      omega
  have total := accounted.total
  unfold interleaveSegments
  rw [segmentTotal_numbered, segmentTotal_append, ← exact_iff]
  show segmentTotal (interleave block.contentSegments
      (fillBlockBreaks assetLibrary policy source block.breaks).1) +
    segmentTotal (if block.padMs > 0 then [padSegment block.padMs] else []) =
      block.blockDurationMs ↔ _
  rw [content, pad]
  constructor <;> intro equal <;> omega

theorem segmentTotal_assigned (blockId : String) (segments : List LogSegment) :
    segmentTotal (segments.map (LogSegment.assignEventId blockId)) = segmentTotal segments := by
  unfold segmentTotal
  rw [List.map_map]
  rfl

theorem fillBreaks_cons (source : Source) (block : SegmentedBlock) (rest : List SegmentedBlock) :
    (fillBreaks assetLibrary policy source (block :: rest)).1 =
      fillBlock assetLibrary policy source block ::
        (fillBreaks assetLibrary policy
          (fillBlockBreaks assetLibrary policy source block.breaks).2 rest).1 := rfl

/-- The filled blocks conserve time exactly when every break is answered. -/
theorem fillBreaks_conserve_iff : ∀ (blocks : List SegmentedBlock) (source : Source),
    (∀ block ∈ blocks, Accounted block) →
      ((∀ fb ∈ (fillBreaks assetLibrary policy source blocks).1,
          segmentTotal (interleaveSegments fb) = fb.blockDurationMs) ↔
        BlocksAnswered assetLibrary policy source blocks)
  | [], _, _ => iff_of_true (fun _ member => by cases member) trivial
  | block :: rest, source, accounted => by
    have here := interleaveSegments_total assetLibrary policy source
      (accounted block List.mem_cons_self)
    have others := fillBreaks_conserve_iff rest
      (fillBlockBreaks assetLibrary policy source block.breaks).2
      fun other member => accounted other (List.mem_cons_of_mem _ member)
    rw [fillBreaks_cons, List.forall_mem_cons, others, BlocksAnswered, ← here]
    rfl

/-- **Time conservation.** Every entry of the transmission log has segments that add up to its block
exactly when the library answers the first request for every break of positive length. -/
theorem plan_conserves_iff (source : Source) (scheduleDay : ResolvedScheduleDay)
    (gridBlockMinutes : Nat) (breakProfile : Option SyntheticBreakProfile)
    (fillPolicy : Option BreakFillPolicy) (channelId : String) (broadcastDate : Date)
    (programmingDayStartHour : Int) :
    (∀ entry ∈ (planDay assetLibrary source scheduleDay gridBlockMinutes breakProfile fillPolicy
        channelId broadcastDate programmingDayStartHour).entries,
      segmentTotal entry.segments = entry.endUtcMs - entry.startUtcMs) ↔
    BlocksAnswered assetLibrary (fillPolicy.getD {}) source
      (segmentBlocks assetLibrary scheduleDay gridBlockMinutes breakProfile) := by
  rw [← fillBreaks_conserve_iff assetLibrary (fillPolicy.getD {}) _ source
    (segmentBlocks_accounted assetLibrary scheduleDay gridBlockMinutes breakProfile)]
  have entry_iff (blockIdx : Nat) (fb : FilledBlock) :
      segmentTotal (assembleEntry channelId broadcastDate programmingDayStartHour blockIdx
          fb).segments =
        (assembleEntry channelId broadcastDate programmingDayStartHour blockIdx fb).endUtcMs -
          (assembleEntry channelId broadcastDate programmingDayStartHour blockIdx fb).startUtcMs ↔
      segmentTotal (interleaveSegments fb) = fb.blockDurationMs := by
    unfold assembleEntry
    dsimp only
    rw [segmentTotal_assigned, add_sub_cancel_left]
  constructor
  · intro conserved fb member
    obtain ⟨i, bound, rfl⟩ := List.mem_iff_getElem.mp member
    exact (entry_iff i _).mp (conserved
      (assembleEntry channelId broadcastDate programmingDayStartHour i _)
      (List.mem_mapIdx.mpr ⟨i, bound, rfl⟩))
  · intro conserved entry member
    obtain ⟨i, bound, rfl⟩ := List.mem_mapIdx.mp member
    exact (entry_iff i _).mpr (conserved _ (List.getElem_mem bound))

end Pipeline

/-! ### A library without fillers -/

section Counterexample

/-- Twenty-two minutes of one episode, no markers and no fillers. -/
def emptyLibrary : AssetLibrary Unit where
  getMarkers _ := []
  getDurationMs _ := 1320000
  getFillerAssets source _ _ := ([], source)
  filler_pos _ _ _ _ member := by cases member
  filler_le _ _ _ _ member := by cases member

/-- Midnight. -/
def midnight : TimeOfDay := ⟨0, by decide, by decide⟩

/-- One half-hour event. -/
def episodeDay : ResolvedScheduleDay :=
  { programmingDayDate := 739000
    resolvedSlots := [⟨midnight, ⟨.program, "show"⟩, { filePath := "/ep.mp4" }, 1800, "show"⟩]
    resolutionTimestamp := 0
    programEvents := [⟨"ch-evt0000", "show", "ep1", 0, 1320000, 1, none⟩] }

/-- **The eight minutes of break time of a half-hour block are lost**: the entry is thirty minutes
long and its segments add up to twenty-two. -/
theorem unanswered_break_loses_time :
    ((planDay emptyLibrary () episodeDay 30 none none "ch" 739000 6).entries.map fun entry =>
      (entry.endUtcMs - entry.startUtcMs, segmentTotal entry.segments)) = [(1800000, 1320000)] ∧
    ¬ ∀ entry ∈ (planDay emptyLibrary () episodeDay 30 none none "ch" 739000 6).entries,
      segmentTotal entry.segments = entry.endUtcMs - entry.startUtcMs := by
  have totals : ((planDay emptyLibrary () episodeDay 30 none none "ch" 739000 6).entries.map
      fun entry => (entry.endUtcMs - entry.startUtcMs, segmentTotal entry.segments)) =
        [(1800000, 1320000)] := by decide
  refine ⟨totals, ?_⟩
  intro conserved
  have lost : ((1800000 : Int), (1320000 : Int)) ∈
      (planDay emptyLibrary () episodeDay 30 none none "ch" 739000 6).entries.map
        fun entry => (entry.endUtcMs - entry.startUtcMs, segmentTotal entry.segments) := by
    rw [totals]
    exact List.mem_cons_self
  obtain ⟨entry, member, values⟩ := List.mem_map.mp lost
  have equal := conserved entry member
  simp only [Prod.mk.injEq] at values
  omega

end Counterexample

end Retrovue.Core.Planning
