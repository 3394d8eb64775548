/-
**Filling a break from an inventory** (`runtime/planning_pipeline.py`).

* `InMemoryAssetLibrary`: the fillers as they were registered, whatever their durations;
* `InMemoryAssetLibrary.fill`: the loop of `_fill_one_break` over it;
* `fill_planned`: with positive durations it is that of the pipeline;
* `FilledWithin`: the loop ends, and the items with their pads stay within the break;
* `ComesOut`: what the fillers before the first one that is not positive leave of the break, and of what
  that one gives back, comes to nothing; `filledWithin_iff`: the break is filled exactly then, or where
  every filler is positive, or where none is repeated.

The loop's only measure is the remaining time: a filler that takes none of it is placed for ever.
-/

import Retrovue.Core.Planning.Conservation
import Retrovue.Foundation.FirstFit

namespace Retrovue.Core.Planning

open Retrovue.Foundation.FirstFit

/-! ### The library -/

section Library

/-- **`InMemoryAssetLibrary`.** -/
structure InMemoryAssetLibrary where
  durations : String → Option Int := fun _ => none
  markers : String → List MarkerInfo := fun _ => []
  fillers : List FillerAsset := []

namespace InMemoryAssetLibrary

variable (library : InMemoryAssetLibrary)

/-- `register_filler`. -/
def registerFiller (assetUri : String) (durationMs : Int) (assetType : String) :
    InMemoryAssetLibrary :=
  { library with
    durations := fun uri => if uri = assetUri then some durationMs else library.durations uri
    fillers := library.fillers ++ [⟨assetUri, durationMs, assetType⟩] }

/-- `get_duration_ms`. -/
def getDurationMs (assetUri : String) : Int := (library.durations assetUri).getD 0

/-- `get_filler_assets`. -/
def getFillerAssets (maxDurationMs : Int) (count : Nat) : List FillerAsset :=
  (library.fillers.filter fun filler => filler.durationMs ≤ maxDurationMs).take count

variable (policy : BreakFillPolicy)

/-- The `while` loop of `_fill_one_break`; nothing where the fuel runs out. -/
def fill : Nat → Int → List String → Option (List BreakItem)
  | 0, _, _ => none
  | fuel + 1, remainingMs, usedUris =>
    if remainingMs > 0 then
      match (library.getFillerAssets remainingMs 5).find? (policy.allows usedUris remainingMs) with
      | none => some []
      | some filler =>
        (fill fuel (remainingMs - filler.durationMs) (filler.assetUri :: usedUris)).map
          (filler.item :: ·)
    else some []

/-- **The loop ends, and the break is not overfilled**: neither by its items, nor with their pads. -/
def FilledWithin (brk : BreakSpec) : Prop :=
  ∃ fuel items, library.fill policy fuel brk.durationMs [] = some items ∧
    itemTotal items ≤ brk.durationMs ∧
    segmentTotal (breakSegments ⟨brk.breakIndex, brk.durationMs, items⟩) ≤ brk.durationMs

/-- The durations of the fillers. -/
def sizes : List Int := library.fillers.map FillerAsset.durationMs

/-- The durations before the first one that is not positive. -/
def firstSizes : List Int := library.sizes.takeWhile fun size => 0 < size

/-- **The fillers before the first one that is not positive come out even**: what they leave of a break,
or of what that filler then gives back, is zero within as many rounds as the least of them has
milliseconds. -/
def ComesOut (durationMs : Int) : Prop :=
  ∀ size ∈ library.sizes.find? (· ≤ 0), ∃ k < (least library.firstSizes).toNat,
    (round library.firstSizes (-size))^[k] (rest library.firstSizes durationMs) = 0

instance (durationMs : Int) : Decidable (library.ComesOut durationMs) :=
  inferInstanceAs (Decidable (∀ size ∈ library.sizes.find? (· ≤ 0),
    ∃ k < (least library.firstSizes).toNat,
      (round library.firstSizes (-size))^[k] (rest library.firstSizes durationMs) = 0))

/-- **When a break is filled**: it is not shorter than nothing; and no filler is repeated, or it is
empty, or the fillers come out even, as they do where all are positive. -/
def Fillable (durationMs : Int) : Prop :=
  0 ≤ durationMs ∧
    (policy.allowRepeatWithinBreak = false ∨ durationMs = 0 ∨ library.ComesOut durationMs)

instance (durationMs : Int) : Decidable (library.Fillable policy durationMs) :=
  inferInstanceAs (Decidable (_ ∧ _))

end InMemoryAssetLibrary

end Library

/-! ### The loop -/

section Loop

namespace InMemoryAssetLibrary

variable {library : InMemoryAssetLibrary} {policy : BreakFillPolicy}

/-- What is placed is in the library, and fits. -/
theorem find_placed {remainingMs : Int} {usedUris : List String} {filler : FillerAsset}
    (found : (library.getFillerAssets remainingMs 5).find? (policy.allows usedUris remainingMs) =
      some filler) :
    filler ∈ library.fillers ∧ filler.durationMs ≤ remainingMs := by
  have member := List.mem_of_mem_take (List.mem_of_find?_eq_some found)
  exact ⟨(List.mem_filter.mp member).1, of_decide_eq_true (List.mem_filter.mp member).2⟩

/-- **The items never overfill.** -/
theorem fill_total {fuel : Nat} {remainingMs : Int} {usedUris : List String} {items : List BreakItem}
    (fills : library.fill policy fuel remainingMs usedUris = some items) (nonneg : 0 ≤ remainingMs) :
    itemTotal items ≤ remainingMs := by
  induction fuel generalizing remainingMs usedUris items with
  | zero => cases fills
  | succ fuel ih =>
    rw [fill] at fills
    split at fills
    · split at fills
      · cases fills
        exact nonneg
      · rename_i filler found
        obtain ⟨others, rest, rfl⟩ := Option.map_eq_some_iff.mp fills
        have fits := (find_placed found).2
        have tail := ih rest (by omega)
        have sum : itemTotal (filler.item :: others) = filler.durationMs + itemTotal others := by
          unfold itemTotal
          rw [List.map_cons, List.sum_cons]
          rfl
        rw [sum]
        omega
    · cases fills
      exact nonneg

/-- **Where no filler is repeated the loop ends**: each one placed is one fewer to place. -/
theorem fill_ends_once (once : policy.allowRepeatWithinBreak = false) (remainingMs : Int)
    (usedUris : List String) :
    ∃ fuel items, library.fill policy fuel remainingMs usedUris = some items := by
  induction left : ((library.fillers.map FillerAsset.assetUri).toFinset \ usedUris.toFinset).card
    using Nat.strong_induction_on generalizing remainingMs usedUris with
  | _ n ih =>
    by_cases open_ : remainingMs > 0
    · cases found : (library.getFillerAssets remainingMs 5).find?
          (policy.allows usedUris remainingMs) with
      | none => exact ⟨1, [], by rw [fill, if_pos open_, found]⟩
      | some filler =>
        have member := (find_placed found).1
        have allowed := List.find?_some found
        have fresh : filler.assetUri ∉ usedUris := by
          simp only [BreakFillPolicy.allows, once, Bool.false_or, Bool.and_eq_true,
            decide_eq_true_eq] at allowed
          exact allowed.1
        have fewer : ((library.fillers.map FillerAsset.assetUri).toFinset \
            (filler.assetUri :: usedUris).toFinset).card < n := by
          rw [← left]
          refine Finset.card_lt_card (Finset.ssubset_iff_of_subset ?_ |>.mpr
            ⟨filler.assetUri, ?_, ?_⟩)
          · exact Finset.sdiff_subset_sdiff le_rfl (by simp)
          · simp only [Finset.mem_sdiff, List.mem_toFinset]
            exact ⟨List.mem_map_of_mem member, fresh⟩
          · simp
        obtain ⟨fuel, items, rest⟩ := ih _ fewer (remainingMs - filler.durationMs)
          (filler.assetUri :: usedUris) rfl
        exact ⟨fuel + 1, filler.item :: items, by
          rw [fill, if_pos open_, found]
          dsimp only
          rw [rest]
          rfl⟩
    · exact ⟨1, [], by rw [fill, if_neg open_]⟩

/-- Where fillers may be repeated the first one that fits is placed. -/
theorem find_repeated (again : policy.allowRepeatWithinBreak = true) (remainingMs : Int)
    (usedUris : List String) :
    (library.getFillerAssets remainingMs 5).find? (policy.allows usedUris remainingMs) =
      library.fillers.find? fun filler => filler.durationMs ≤ remainingMs := by
  have all : ∀ filler ∈ library.getFillerAssets remainingMs 5,
      policy.allows usedUris remainingMs filler = true := by
    intro filler member
    have fits := (List.mem_filter.mp (List.mem_of_mem_take member)).2
    rw [BreakFillPolicy.allows, again, Bool.true_or, Bool.true_and]
    exact fits
  have first : library.fillers.find? (fun filler => filler.durationMs ≤ remainingMs) =
      (library.fillers.filter fun filler => filler.durationMs ≤ remainingMs).head? :=
    List.head?_filter.symm
  rw [first]
  unfold getFillerAssets at all ⊢
  cases eligible : library.fillers.filter fun filler => filler.durationMs ≤ remainingMs with
  | nil => rfl
  | cons filler rest =>
    rw [eligible] at all
    rw [List.take_succ_cons, List.find?_cons_of_pos (all filler (by simp)), List.head?_cons]

/-- The room that the first filler that fits leaves. -/
theorem next_sizes (remainingMs : Int) :
    next library.sizes remainingMs =
      if 0 < remainingMs then
        (library.fillers.find? fun filler => filler.durationMs ≤ remainingMs).map fun filler =>
          remainingMs - filler.durationMs
      else none := by
  rw [next, fits, sizes, List.find?_map, Option.map_map]
  rfl

/-- **Where fillers may be repeated the loop is packing.** -/
theorem fill_ends_iff (again : policy.allowRepeatWithinBreak = true) (remainingMs : Int)
    (usedUris : List String) :
    (∃ fuel items, library.fill policy fuel remainingMs usedUris = some items) ↔
      Ends library.sizes remainingMs := by
  constructor
  · rintro ⟨fuel, items, fills⟩
    induction fuel generalizing remainingMs usedUris items with
    | zero => cases fills
    | succ fuel ih =>
      rw [fill] at fills
      split at fills
      · rename_i open_
        rw [find_repeated again] at fills
        split at fills
        · rename_i nothing
          refine .stop ?_
          rw [next_sizes, if_pos open_, nothing]
          rfl
        · rename_i filler found
          obtain ⟨others, rest, -⟩ := Option.map_eq_some_iff.mp fills
          refine .step ?_ (ih _ _ _ rest)
          rw [next_sizes, if_pos open_, found]
          rfl
      · rename_i used
        exact ends_of_nonpos (not_lt.mp used)
  · intro ends
    induction ends generalizing usedUris with
    | @stop remainingMs halts =>
      refine ⟨1, [], ?_⟩
      rw [next_sizes] at halts
      split_ifs at halts with open_
      · rw [fill, if_pos open_, find_repeated again, Option.map_eq_none_iff.mp halts]
      · rw [fill, if_neg open_]
    | @step remainingMs left goes tail ih =>
      rw [next_sizes] at goes
      split_ifs at goes with open_
      obtain ⟨filler, found, rfl⟩ := Option.map_eq_some_iff.mp goes
      obtain ⟨fuel, items, rest⟩ := ih (filler.assetUri :: usedUris)
      refine ⟨fuel + 1, filler.item :: items, ?_⟩
      rw [fill, if_pos open_, find_repeated again, found]
      dsimp only
      rw [rest]
      rfl

/-- **Packing ends exactly when the fillers come out even.** -/
theorem ends_iff_comesOut {durationMs : Int} (open_ : 0 < durationMs) :
    Ends library.sizes durationMs ↔ library.ComesOut durationMs := by
  cases found : library.sizes.find? (· ≤ 0) with
  | none =>
    have positive : ∀ size ∈ library.sizes, 0 < size := by
      intro size member
      have large := List.find?_eq_none.mp found size member
      simpa using large
    refine iff_of_true (ends_of_pos positive) ?_
    unfold ComesOut
    rw [found]
    exact fun _ none_ => by cases none_
  | some size =>
    obtain ⟨small, first, others, shape, before⟩ := List.find?_eq_some_iff_append.mp found
    have small : size ≤ 0 := of_decide_eq_true small
    have positive : ∀ size ∈ first, 0 < size := by
      intro size member
      have large := before size member
      simpa using large
    have isFirst : library.firstSizes = first := by
      rw [firstSizes, shape, List.takeWhile_append_of_pos fun size member =>
        decide_eq_true (positive size member), List.takeWhile_cons_of_neg (by simpa using small),
        List.append_nil]
    have back : - -size = size := neg_neg size
    have packs := @ends_iff first others durationMs (-size) positive (by omega) open_
    rw [back, ← shape] at packs
    rw [packs, ComesOut, found, isFirst]
    simp

/-- **A break is filled**: the loop ends without overfilling it, by its items or with their pads, exactly
when it is fillable. -/
theorem filledWithin_iff (library : InMemoryAssetLibrary) (policy : BreakFillPolicy)
    (brk : BreakSpec) :
    library.FilledWithin policy brk ↔ library.Fillable policy brk.durationMs := by
  have ends : (∃ fuel items, library.fill policy fuel brk.durationMs [] = some items) ↔
      policy.allowRepeatWithinBreak = false ∨ brk.durationMs ≤ 0 ∨
        library.ComesOut brk.durationMs := by
    cases again : policy.allowRepeatWithinBreak with
    | false => exact iff_of_true (fill_ends_once again _ _) (.inl rfl)
    | true =>
      rw [fill_ends_iff again]
      rcases le_or_gt brk.durationMs 0 with used | open_
      · exact iff_of_true (ends_of_nonpos used) (.inr (.inl used))
      · rw [ends_iff_comesOut open_]
        simp [not_le.mpr open_]
  constructor
  · rintro ⟨fuel, items, fills, within, -⟩
    have nonneg : 0 ≤ brk.durationMs := by
      by_contra negative
      -- nothing is placed in a break that is shorter than nothing
      have nothing : items = [] := by
        cases fuel with
        | zero => cases fills
        | succ fuel =>
          rw [fill, if_neg (by omega)] at fills
          exact (Option.some.inj fills).symm
      rw [nothing] at within
      exact negative within
    refine ⟨nonneg, (ends.mp ⟨fuel, items, fills⟩).imp_right (Or.imp_left fun used => ?_)⟩
    omega
  · rintro ⟨nonneg, comes⟩
    obtain ⟨fuel, items, fills⟩ := ends.mpr (comes.imp_right (Or.imp_left le_of_eq))
    have within := fill_total fills nonneg
    refine ⟨fuel, items, fills, within, ?_⟩
    rw [breakSegments_total within]
    unfold FilledBreak.placedMs
    split_ifs
    · exact nonneg
    · exact le_rfl

/-- A library whose fillers are positive, as the pipeline takes it. -/
def planned (library : InMemoryAssetLibrary)
    (positive : ∀ filler ∈ library.fillers, 0 < filler.durationMs) : AssetLibrary Unit where
  getMarkers := library.markers
  getDurationMs := library.getDurationMs
  getFillerAssets _ maxDurationMs count := (library.getFillerAssets maxDurationMs count, ())
  filler_pos _ _ _ filler member := positive filler
    (List.mem_filter.mp (List.mem_of_mem_take member)).1
  filler_le _ _ _ _ member :=
    of_decide_eq_true (List.mem_filter.mp (List.mem_of_mem_take member)).2

/-- **With positive fillers the loop is that of the pipeline**, which needs a step for every
millisecond at most. -/
theorem fill_planned (positive : ∀ filler ∈ library.fillers, 0 < filler.durationMs) {fuel : Nat}
    {remainingMs : Int} (usedUris : List String) (enough : remainingMs ≤ fuel) :
    library.fill policy (fuel + 1) remainingMs usedUris =
      some (fillLoop (library.planned positive) policy fuel () remainingMs usedUris).1 := by
  induction fuel generalizing remainingMs usedUris with
  | zero => rw [fill, if_neg (by omega), fillLoop]
  | succ fuel ih =>
    rw [fill, fillLoop]
    by_cases open_ : remainingMs > 0
    · rw [if_pos open_, if_pos open_]
      have same : ((library.planned positive).getFillerAssets () remainingMs 5).1 =
          library.getFillerAssets remainingMs 5 := rfl
      dsimp only
      rw [same]
      cases found : (library.getFillerAssets remainingMs 5).find?
          (policy.allows usedUris remainingMs) with
      | none => rfl
      | some filler =>
        have lasts := positive filler (find_placed found).1
        dsimp only
        rw [ih (filler.assetUri :: usedUris) (by omega)]
        rfl
    · rw [if_neg open_, if_neg open_]

/-- The library of registered fillers. -/
def inventory (registered : List FillerAsset) : InMemoryAssetLibrary :=
  registered.foldl (fun library filler =>
    library.registerFiller filler.assetUri filler.durationMs filler.assetType) {}

/-- Every list of fillers is registered as it is. -/
theorem inventory_fillers (registered : List FillerAsset) :
    (inventory registered).fillers = registered := by
  have from_ : ∀ (registered : List FillerAsset) (library : InMemoryAssetLibrary),
      (registered.foldl (fun library filler =>
        library.registerFiller filler.assetUri filler.durationMs filler.assetType)
          library).fillers = library.fillers ++ registered := by
    intro registered
    induction registered with
    | nil => exact fun library => (List.append_nil _).symm
    | cons filler rest ih =>
      intro library
      rw [List.foldl_cons, ih, registerFiller, List.append_assoc]
      rfl
  exact from_ registered {}

/-- **A filler that lasts nothing** is placed in a break of one second for ever. -/
theorem empty_filler_never_ends :
    ¬ (inventory [⟨"empty.mp4", 0, "filler"⟩]).FilledWithin {} ⟨0, 1000⟩ := by
  rintro ⟨fuel, items, fills, -⟩
  have stuck : ∀ (fuel : Nat) (usedUris : List String),
      (inventory [⟨"empty.mp4", 0, "filler"⟩]).fill {} fuel 1000 usedUris = none := by
    intro fuel
    induction fuel with
    | zero => exact fun _ => rfl
    | succ fuel ih =>
      intro usedUris
      rw [fill, if_pos (by decide), find_repeated rfl, inventory_fillers]
      exact Option.map_eq_none_iff.mpr (ih _)
  exact absurd (fills.symm.trans (stuck fuel [])) (by simp)

/-- Spots of 20 before the empty filler come out even in a break of 60, and not in one of 61. -/
example : (inventory [⟨"spot.mp4", 20, "ad"⟩, ⟨"empty.mp4", 0, "filler"⟩]).ComesOut 60 ∧
    ¬ (inventory [⟨"spot.mp4", 20, "ad"⟩, ⟨"empty.mp4", 0, "filler"⟩]).ComesOut 61 := by
  decide +kernel

end InMemoryAssetLibrary

end Loop

end Retrovue.Core.Planning
