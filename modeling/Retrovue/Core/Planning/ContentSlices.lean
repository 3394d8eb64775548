/-
**The content slices of an event.**

* `EventRun`: an event with the slots its blocks take, `eventRuns`: the events of a day; the slots run
  out before a truncated last event does;
* `segmentBlocks_eq_runs`: `segment_blocks` goes through the runs;
* `CoversAsset`: slices of one asset that lay out a range of it, the empty ones left out;
* `eventBlocks_cover`: the slices of a run lay its asset out from the start to its end, or to the end
  of the last block.

The step is one block: it goes on where the block before stopped, and once the asset has ended it
adds nothing.
-/

import Retrovue.Foundation.Tiling
import Retrovue.Core.Planning.Conservation
import Retrovue.Core.Schedule.Projection

namespace Retrovue.Core.Planning

open Retrovue.Foundation.Sorting Retrovue.Foundation.Apportion Retrovue.Foundation.Tiling
open Retrovue.Core.Schedule

/-! ### The runs of a day -/

section Runs

/-- An event, the index of its first slot, and its slots. -/
structure EventRun where
  first : Nat
  event : ProgramEvent
  slots : List ResolvedSlot

/-- The events of a day with the slots they take. -/
def eventRuns : Nat → List ResolvedSlot → List ProgramEvent → List EventRun
  | _, _, [] => []
  | first, slots, event :: rest =>
    ⟨first, event, slots.take event.blockSpanCount.toNat⟩ ::
      eventRuns (first + min event.blockSpanCount.toNat slots.length)
        (slots.drop event.blockSpanCount.toNat) rest

variable {Source : Type} (assetLibrary : AssetLibrary Source) (grid : Nat)
  (profile : SyntheticBreakProfile)

/-- The blocks of a run. -/
def eventBlocks (run : EventRun) : List SegmentedBlock :=
  run.slots.mapIdx fun bi slot =>
    segmentBlock assetLibrary grid profile slot (run.first + bi) run.event.id bi

/-- The content slices of blocks, in order. -/
def contentSlices (blocks : List SegmentedBlock) : List ContentSegmentSpec :=
  blocks.flatMap SegmentedBlock.contentSegments

/-- Reading a list through its indices maps it. -/
theorem filterMap_range_getElem {α β : Type} (f : Nat → α → β) (items : List α) :
    ((List.range items.length).filterMap fun i => items[i]?.map (f i)) = items.mapIdx f := by
  induction items using List.reverseRecOn with
  | nil => rfl
  | append_singleton init last ih =>
    rw [List.length_append, List.length_singleton, List.range_succ, List.filterMap_append,
      List.mapIdx_concat, ← ih]
    congr 1
    · refine List.filterMap_congr fun i member => ?_
      rw [List.getElem?_append_left (List.mem_range.mp member)]
    · simp

/-- **`segment_blocks` goes through the runs**, from any slot on. -/
theorem filterMap_blockAssignments (all : List ResolvedSlot) :
    ∀ (events : List ProgramEvent) (slotIdx : Nat), slotIdx ≤ all.length →
      (blockAssignments all.length events slotIdx).filterMap
          (fun (slotIdx, eventId, bi) => all[slotIdx]?.map fun slot =>
            segmentBlock assetLibrary grid profile slot slotIdx eventId bi) =
        (eventRuns slotIdx (all.drop slotIdx) events).flatMap
          (eventBlocks assetLibrary grid profile)
  | [], _, _ => rfl
  | event :: rest, slotIdx, inside => by
    have taken : ((all.drop slotIdx).take event.blockSpanCount.toNat).length =
        min event.blockSpanCount.toNat (all.length - slotIdx) := by
      rw [List.length_take, List.length_drop]
    rw [blockAssignments, List.filterMap_append, eventRuns, List.flatMap_cons]
    congr 1
    · rw [List.filterMap_map, ← taken, eventBlocks, ← filterMap_range_getElem]
      refine List.filterMap_congr fun bi member => ?_
      have early := List.mem_range.mp member
      rw [List.getElem?_take_of_lt (by omega), List.getElem?_drop]
      rfl
    · rw [filterMap_blockAssignments all rest _ (by omega), List.length_drop, List.drop_drop]
      congr 2
      rcases le_total event.blockSpanCount.toNat (all.length - slotIdx) with fits | truncated
      · rw [min_eq_left fits, Nat.add_comm]
      · rw [List.drop_eq_nil_of_le (by omega), List.drop_eq_nil_of_le (by omega)]

theorem segmentBlocks_eq_runs (day : ResolvedScheduleDay)
    (breakProfile : Option SyntheticBreakProfile) :
    segmentBlocks assetLibrary day grid breakProfile =
      (eventRuns 0 day.resolvedSlots day.programEvents).flatMap
        (eventBlocks assetLibrary grid (breakProfile.getD {})) :=
  filterMap_blockAssignments assetLibrary grid (breakProfile.getD {}) day.resolvedSlots
    day.programEvents 0 (Nat.zero_le _)

end Runs

/-! ### Slices of one asset -/

section Slices

/-- The end of a slice in its asset. -/
def sliceStopMs (slice : ContentSegmentSpec) : Int := slice.assetStartOffsetMs + slice.durationMs

/-- The slices that last. -/
def lasting (slices : List ContentSegmentSpec) : List ContentSegmentSpec :=
  slices.filter fun slice => 0 < slice.durationMs

/-- **Slices lay out the range `[low, high)` of an asset**: they are all of it, none is negative, and
those that last go from `low` to `high`, each on from the one before. -/
structure CoversAsset (uri : String) (low high : Int) (slices : List ContentSegmentSpec) : Prop where
  ofAsset : ∀ slice ∈ slices, slice.assetUri = uri
  nonneg : ∀ slice ∈ slices, 0 ≤ slice.durationMs
  tiles : Tiles ContentSegmentSpec.assetStartOffsetMs sliceStopMs (lasting slices) low high

variable {uri : String} {low middle high : Int} {slices others : List ContentSegmentSpec}

theorem CoversAsset.nil (uri : String) (low : Int) : CoversAsset uri low low [] :=
  ⟨fun _ member => (List.not_mem_nil member).elim, fun _ member => (List.not_mem_nil member).elim,
    rfl⟩

theorem CoversAsset.append (first : CoversAsset uri low middle slices)
    (second : CoversAsset uri middle high others) : CoversAsset uri low high (slices ++ others) where
  ofAsset := List.forall_mem_append.mpr ⟨first.ofAsset, second.ofAsset⟩
  nonneg := List.forall_mem_append.mpr ⟨first.nonneg, second.nonneg⟩
  tiles := by
    rw [lasting, List.filter_append]
    exact first.tiles.append second.tiles

/-- One slice, perhaps empty. -/
theorem CoversAsset.single (uri : String) (offset : Int) {durationMs : Int} (nonneg : 0 ≤ durationMs) :
    CoversAsset uri offset (offset + durationMs) [⟨uri, offset, durationMs⟩] where
  ofAsset := List.forall_mem_singleton.mpr rfl
  nonneg := List.forall_mem_singleton.mpr nonneg
  tiles := by
    rcases nonneg.eq_or_lt with rfl | lasts
    · exact (add_zero offset).symm
    · have kept : lasting [⟨uri, offset, durationMs⟩] = [⟨uri, offset, durationMs⟩] :=
        List.filter_cons_of_pos (decide_eq_true lasts)
      rw [kept]
      exact ⟨rfl, le_add_of_nonneg_right nonneg, rfl⟩

/-- An empty range has no slice that lasts. -/
theorem CoversAsset.lasting_eq_nil (covers : CoversAsset uri low low slices) :
    lasting slices = [] := by
  refine List.eq_nil_iff_forall_not_mem.mpr fun slice member => ?_
  have inside := covers.tiles.bounds slice member
  have lasts : 0 < slice.durationMs := of_decide_eq_true (List.mem_filter.mp member).2
  have ends : sliceStopMs slice = slice.assetStartOffsetMs + slice.durationMs := rfl
  omega

/-- Nothing is laid out wherever it is put. -/
theorem CoversAsset.elsewhere (covers : CoversAsset uri low low slices) (other : Int) :
    CoversAsset uri other other slices where
  ofAsset := covers.ofAsset
  nonneg := covers.nonneg
  tiles := by
    rw [covers.lasting_eq_nil]
    rfl

/-- Durations one after the other. -/
theorem contentOf_covers (uri : String) : ∀ (offset : Int) (durations : List Int),
    (∀ durationMs ∈ durations, 0 ≤ durationMs) →
      CoversAsset uri offset (offset + durations.sum) (contentOf uri offset durations)
  | offset, [], _ => by
    rw [List.sum_nil, add_zero]
    exact .nil uri offset
  | offset, durationMs :: rest, nonneg => by
    obtain ⟨here, later⟩ := List.forall_mem_cons.mp nonneg
    have tail := contentOf_covers uri (offset + durationMs) rest later
    rw [List.sum_cons, ← add_assoc]
    exact (CoversAsset.single uri offset here).append tail

/-- Slices between ascending boundaries go from the first to the last. -/
theorem contentBetween_covers (uri : String) (offset : Int) : ∀ (low : Int) (rest : List Int),
    Ascending id (low :: rest) →
      CoversAsset uri (low + offset) ((low :: rest).getLast (List.cons_ne_nil low rest) + offset)
        (contentBetween uri offset (low :: rest))
  | low, [], _ => .nil uri (low + offset)
  | low, stop :: rest, ascending => by
    have ordered : low ≤ stop := List.rel_of_pairwise_cons ascending List.mem_cons_self
    have tail := contentBetween_covers uri offset stop rest (List.Pairwise.of_cons ascending)
    rw [List.getLast_cons (List.cons_ne_nil stop rest), contentBetween]
    split_ifs with lasts
    · have head := CoversAsset.single uri (low + offset) (sub_nonneg.mpr ordered)
      rw [show low + offset + (stop - low) = stop + offset by ring] at head
      exact head.append tail
    · rw [show low = stop by omega]
      exact tail

/-- A sorted set of boundaries goes from its least to its greatest. -/
theorem sortedSet_ends {boundaries : List Int} (first : low ∈ boundaries) (last : high ∈ boundaries)
    (inside : ∀ boundary ∈ boundaries, low ≤ boundary ∧ boundary ≤ high) :
    ∃ rest, sortedSet boundaries = low :: rest ∧
      (low :: rest).getLast (List.cons_ne_nil low rest) = high := by
  have spans := gaps_sortedSet first last inside
  have ascending : Ascending id (sortedSet boundaries) := sortedSet_ascending boundaries
  have member : ∀ x, x ∈ sortedSet boundaries ↔ x ∈ boundaries := fun _ => mem_sortedSet
  cases sorted : sortedSet boundaries with
  | nil =>
    have present := (member low).mpr first
    rw [sorted] at present
    cases present
  | cons head rest =>
    rw [sorted] at ascending member spans
    have least : head = low := by
      have above := (inside head ((member head).mp List.mem_cons_self)).1
      rcases List.mem_cons.mp ((member low).mpr first) with same | later
      · exact same.symm
      · have below : head ≤ low := List.rel_of_pairwise_cons ascending later
        omega
    subst least
    rw [sum_gaps] at spans
    exact ⟨rest, rfl, by omega⟩

end Slices

/-! ### The slices of a block -/

section Block

variable {Source : Type} (assetLibrary : AssetLibrary Source) (grid : Nat)
  (profile : SyntheticBreakProfile)

/-- Equal parts lay out the content of the block. -/
theorem segmentSynthetic_covers (uri : String) {contentMs : Int} (nonneg : 0 ≤ contentMs)
    (blockMs numSegments offset : Int) :
    CoversAsset uri offset (offset + contentMs)
      (segmentSynthetic uri contentMs blockMs numSegments offset).1 := by
  unfold segmentSynthetic
  split_ifs with whole
  · exact .single uri offset nonneg
  · have parts := contentOf_covers uri offset (shares contentMs numSegments.toNat)
      (shares_nonneg nonneg _)
    rw [sum_shares contentMs (by omega)] at parts
    exact parts

/-- Chapters inside the content lay it out. -/
theorem segmentWithChapters_covers (uri : String) {contentMs : Int} (nonneg : 0 ≤ contentMs)
    {chapters : List MarkerInfo}
    (inside : ∀ m ∈ chapters, 0 < m.offsetMs ∧ m.offsetMs < contentMs) (blockMs offset : Int) :
    CoversAsset uri offset (offset + contentMs)
      (segmentWithChapters uri contentMs chapters blockMs offset).1 := by
  have within : ∀ boundary ∈ [0] ++ chapters.map MarkerInfo.offsetMs ++ [contentMs],
      0 ≤ boundary ∧ boundary ≤ contentMs := by
    intro boundary member
    simp only [List.cons_append, List.nil_append, List.mem_cons, List.mem_append, List.mem_map,
      List.not_mem_nil, or_false] at member
    rcases member with rfl | ⟨m, listed, rfl⟩ | rfl
    · omega
    · have strictly := inside m listed
      omega
    · omega
  obtain ⟨rest, sorted, last⟩ := sortedSet_ends (by simp) (by simp) within
  have ascending := sortedSet_ascending ([0] ++ chapters.map MarkerInfo.offsetMs ++ [contentMs])
  rw [sorted] at ascending
  have covers := contentBetween_covers uri offset 0 rest ascending
  rw [last, zero_add, add_comm contentMs] at covers
  simp only [segmentWithChapters, sorted]
  exact covers

/-- **The slices of a block** lay out the part of the asset that falls into it. -/
theorem blockParts_covers (slot : ResolvedSlot) (bi : Nat) :
    CoversAsset slot.resolvedAsset.filePath (eventOffsetMs grid bi)
      (eventOffsetMs grid bi + sliceDurMs assetLibrary grid slot bi)
      (blockParts assetLibrary grid profile slot bi).1 := by
  have nonneg : 0 ≤ sliceDurMs assetLibrary grid slot bi := le_max_left _ _
  unfold blockParts
  split
  · exact segmentSynthetic_covers _ nonneg _ _ _
  · rename_i chapter rest cut
    refine segmentWithChapters_covers _ nonneg ?_ _ _
    rw [← cut]
    intro m member
    have strictly := blockChapters_inside m member
    unfold sliceDurMs
    omega

/-- How far an event has come after so many blocks. -/
def reachedMs (uri : String) (blocks : Nat) : Int :=
  max 0 (min (assetLibrary.getDurationMs uri) (blocks * blockMs grid))

/-- **One block of an event** goes on where the block before stopped. -/
theorem segmentBlock_covers {slot : ResolvedSlot} {uri : String}
    (carries : slot.resolvedAsset.filePath = uri) (slotIdx : Nat) (eventId : String) (bi : Nat) :
    CoversAsset uri (reachedMs assetLibrary grid uri bi) (reachedMs assetLibrary grid uri (bi + 1))
      (segmentBlock assetLibrary grid profile slot slotIdx eventId bi).contentSegments := by
  subst carries
  have covers := blockParts_covers assetLibrary grid profile slot bi
  have block : 0 ≤ blockMs grid := by
    unfold blockMs
    omega
  have offset : 0 ≤ eventOffsetMs grid bi := mul_nonneg (Int.natCast_nonneg bi) block
  have starts : (bi : Int) * blockMs grid = eventOffsetMs grid bi := rfl
  have stops : ((bi + 1 : Nat) : Int) * blockMs grid = eventOffsetMs grid bi + blockMs grid := by
    rw [← starts]
    push_cast
    ring
  have lasts : sliceDurMs assetLibrary grid slot bi =
      max 0 (min (eventOffsetMs grid bi + blockMs grid)
        (assetLibrary.getDurationMs slot.resolvedAsset.filePath) - eventOffsetMs grid bi) := rfl
  unfold reachedMs
  rw [starts, stops]
  rcases le_or_gt (assetLibrary.getDurationMs slot.resolvedAsset.filePath)
    (eventOffsetMs grid bi) with ended | going
  · -- the asset ended before this block
    rw [show sliceDurMs assetLibrary grid slot bi = 0 by omega, add_zero] at covers
    rw [min_eq_left ended, min_eq_left (by omega)]
    exact covers.elsewhere _
  · rw [min_eq_right going.le, max_eq_right offset,
      show max 0 (min (assetLibrary.getDurationMs slot.resolvedAsset.filePath)
        (eventOffsetMs grid bi + blockMs grid)) =
          eventOffsetMs grid bi + sliceDurMs assetLibrary grid slot bi by omega]
    exact covers

/-- **The blocks of an event**, however many, lay its asset out from the start. -/
theorem mapIdx_covers {uri : String} (slots : List ResolvedSlot)
    (carry : ∀ slot ∈ slots, slot.resolvedAsset.filePath = uri) (first : Nat) (eventId : String) :
    CoversAsset uri 0 (reachedMs assetLibrary grid uri slots.length)
      (contentSlices (slots.mapIdx fun bi slot =>
        segmentBlock assetLibrary grid profile slot (first + bi) eventId bi)) := by
  induction slots using List.reverseRecOn with
  | nil =>
    have none_ : reachedMs assetLibrary grid uri 0 = 0 := by
      unfold reachedMs
      rw [Nat.cast_zero, zero_mul]
      omega
    rw [List.length_nil, none_]
    exact .nil uri 0
  | append_singleton init last ih =>
    obtain ⟨earlier, here⟩ := List.forall_mem_append.mp carry
    rw [List.mapIdx_concat, contentSlices, List.flatMap_append, List.length_append,
      List.length_singleton, List.flatMap_singleton]
    exact (ih earlier).append (segmentBlock_covers assetLibrary grid profile
      (here last (List.mem_singleton_self last)) _ eventId _)

end Block

/-! ### The slices of an event -/

section Events

/-- The slots of an event carry one asset. -/
def EventRun.Carries (run : EventRun) (uri : String) : Prop :=
  ∀ slot ∈ run.slots, slot.resolvedAsset.filePath = uri

/-- A resolution lays out as many slots as it was given. -/
theorem laid_length_eq {config : Config} {seedHash : String → String → Date → TimeOfDay → Nat}
    {channelId : String} {date : Date} {stores : Stores} {slots : List ScheduleSlot}
    {resolved : List ResolvedSlot} {events : List ProgramEvent}
    (laid : Laid config seedHash channelId date stores slots resolved events) :
    resolved.length = slots.length := by
  induction laid with
  | nil => rfl
  | event answer span tail ih =>
    rw [List.length_cons, List.length_append, List.length_map, List.length_take, ih,
      List.length_drop, List.length_cons]
    omega

/-- The slots of an event after its first, then those of the rest, also where the rest has none. -/
theorem resolved_parts {config : Config} {slot : ScheduleSlot} {asset : ResolvedAsset}
    {rest : List ScheduleSlot} {n : Nat} {slots : List ResolvedSlot}
    (others : slots.length = rest.length - n) :
    ((rest.take n).map (resolvedSlot config slot asset) ++ slots).take n =
        (rest.take n).map (resolvedSlot config slot asset) ∧
      ((rest.take n).map (resolvedSlot config slot asset) ++ slots).drop n = slots := by
  rcases le_or_gt n rest.length with long | short
  · have own : ((rest.take n).map (resolvedSlot config slot asset)).length = n := by
      rw [List.length_map, List.length_take, min_eq_left long]
    exact ⟨List.take_left' own, List.drop_left' own⟩
  · obtain rfl : slots = [] := List.length_eq_zero_iff.mp (by omega)
    have own : ((rest.take n).map (resolvedSlot config slot asset)).length ≤ n := by
      rw [List.length_map, List.length_take]
      omega
    rw [List.append_nil]
    exact ⟨List.take_of_length_le own, List.drop_eq_nil_of_le own⟩

/-- **The content slices of an event lay out its asset** from the start to its end, or to the end of
the last block that the day's slots leave it; in every block the content, the breaks and the pad add
up to the block. -/
theorem eventBlocks_cover {Source : Type} (assetLibrary : AssetLibrary Source)
    (day : ResolvedScheduleDay) (grid : Nat) (breakProfile : Option SyntheticBreakProfile) :
    segmentBlocks assetLibrary day grid breakProfile =
        (eventRuns 0 day.resolvedSlots day.programEvents).flatMap
          (eventBlocks assetLibrary grid (breakProfile.getD {})) ∧
      ∀ run ∈ eventRuns 0 day.resolvedSlots day.programEvents,
        (∀ uri, run.Carries uri →
          CoversAsset uri 0
            (max 0 (min (assetLibrary.getDurationMs uri) (run.slots.length * blockMs grid)))
            (contentSlices (eventBlocks assetLibrary grid (breakProfile.getD {}) run))) ∧
        ∀ block ∈ eventBlocks assetLibrary grid (breakProfile.getD {}) run,
          block.blockDurationMs = blockMs grid ∧
            contentTotal block.contentSegments + breakTotal block.breaks + block.padMs =
              block.blockDurationMs := by
  refine ⟨segmentBlocks_eq_runs assetLibrary grid day breakProfile, fun run _ => ⟨?_, ?_⟩⟩
  · intro uri carries
    exact mapIdx_covers assetLibrary grid _ run.slots carries run.first run.event.id
  · intro block member
    obtain ⟨bi, bound, rfl⟩ := List.mem_mapIdx.mp member
    exact ⟨rfl, (segmentBlock_accounted assetLibrary grid _ _ _ _ _).total⟩

/-- The day of a film of an hour in its last half hour. -/
def lateFilm : ResolvedScheduleDay := (filmResolution [halfHourSlot halfPastFive "film"]).1

/-- A library in which the film lasts an hour. -/
def filmLibrary : AssetLibrary Unit :=
  { emptyLibrary with getDurationMs := fun _ => 3600000 }

/-- **The second half of the film is nobody's**: its event spans two blocks, the day has a slot for
one. -/
theorem lateFilm_not_covered :
    resolveScheduleDay filmConfig (fun _ _ _ _ => 0) freshStores "ch" 739000
        [halfHourSlot halfPastFive "film"] 0 =
      .ok (lateFilm, (filmResolution [halfHourSlot halfPastFive "film"]).2) ∧
    ∃ run ∈ eventRuns 0 lateFilm.resolvedSlots lateFilm.programEvents,
      run.Carries "/film.mp4" ∧ run.event.blockSpanCount = 2 ∧
      ¬ CoversAsset "/film.mp4" 0
        (max 0 (min (filmLibrary.getDurationMs "/film.mp4")
          (run.event.blockSpanCount * blockMs 30)))
        (contentSlices (eventBlocks filmLibrary 30 {} run)) := by
  have seen : (eventRuns 0 lateFilm.resolvedSlots lateFilm.programEvents).map (fun run =>
      (run.event.blockSpanCount, run.slots.map (fun slot => slot.resolvedAsset.filePath),
        (contentSlices (eventBlocks filmLibrary 30 {} run)))) =
      [(2, ["/film.mp4"], [⟨"/film.mp4", 0, 1800000⟩])] := by decide +kernel
  refine ⟨filmResolution_eq _ (by decide +kernel), ?_⟩
  have some_ : eventRuns 0 lateFilm.resolvedSlots lateFilm.programEvents ≠ [] := by
    intro none_
    rw [none_] at seen
    cases seen
  obtain ⟨run, rest, runs⟩ := List.exists_cons_of_ne_nil some_
  rw [runs, List.map_cons, List.cons.injEq, Prod.mk.injEq, Prod.mk.injEq] at seen
  obtain ⟨⟨span, paths, slices⟩, -⟩ := seen
  refine ⟨run, by rw [runs]; exact List.mem_cons_self, ?_, span, ?_⟩
  · intro slot member
    have path := List.mem_map_of_mem (f := fun slot : ResolvedSlot => slot.resolvedAsset.filePath)
      member
    rw [paths] at path
    exact List.mem_singleton.mp path
  · rw [slices, span]
    intro covers
    exact absurd covers.tiles (by decide)

end Events

end Retrovue.Core.Planning
