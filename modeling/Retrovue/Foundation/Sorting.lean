/-
**Stable sorting by a key**, as `list.sort(key=…)` does it.

* `sortByKey`: insertion sort by the key, which keeps equal keys in their order;
* `sortByKey_pairwise`, `sortByKey_perm`: the result is ascending and a rearrangement;
* `sortByKey_of_ascending`: an ascending list is left as it is;
* `sortByKey_congr`: only the order of the items of each key matters;
* `sortByKey_of_perm`: growing keys leave one order only;
* `map_sortByKey`, `map_sortByKey_comp`: sorting commutes with taking the keys, and with dropping
  tags;
* `filter_sortByKey`: selected items that are ascending keep their order;
* `insertLower`: insertion by `lower_bound`; `insertLower_ascending`, `insertLower_pairwise`: it keeps
  the order.
-/

import Mathlib

namespace Retrovue.Foundation.Sorting

section SortByKey

variable {α κ : Type*} [LinearOrder κ] (key : α → κ)

/-- Ascending by the key; equal keys keep their order. -/
def sortByKey (items : List α) : List α := items.insertionSort fun a b => key a ≤ key b

/-- Ascending keys. -/
def Ascending (items : List α) : Prop := items.Pairwise fun a b => key a ≤ key b

theorem sortByKey_perm (items : List α) : (sortByKey key items).Perm items :=
  List.perm_insertionSort _ items

@[simp] theorem mem_sortByKey {items : List α} {a : α} : a ∈ sortByKey key items ↔ a ∈ items :=
  List.mem_insertionSort _

theorem sortByKey_pairwise (items : List α) : Ascending key (sortByKey key items) := by
  have : Std.Total (fun a b : α => key a ≤ key b) := ⟨fun a b => le_total (key a) (key b)⟩
  have : IsTrans α (fun a b : α => key a ≤ key b) := ⟨fun _ _ _ first second => first.trans second⟩
  exact List.pairwise_insertionSort _ items

theorem sortByKey_of_ascending {items : List α} (ascending : Ascending key items) :
    sortByKey key items = items :=
  ascending.insertionSort_eq

/-- **Sorting keeps the order of ascending items**: what is selected from the sorted list is what is
selected from the list. -/
theorem filter_sortByKey (selected : α → Bool) {items : List α}
    (ascending : Ascending key (items.filter selected)) :
    (sortByKey key items).filter selected = items.filter selected := by
  have : Std.Total (fun a b : α => key a ≤ key b) := ⟨fun a b => le_total (key a) (key b)⟩
  have : IsTrans α (fun a b : α => key a ≤ key b) := ⟨fun _ _ _ first second => first.trans second⟩
  have kept : (items.filter selected).Sublist (sortByKey key items) :=
    List.sublist_insertionSort ascending List.filter_sublist
  have within := kept.filter selected
  rw [List.filter_filter] at within
  simp only [Bool.and_self] at within
  refine (within.eq_of_length ?_).symm
  exact ((sortByKey_perm key items).filter selected).length_eq.symm

/-- The keys of the sorted items are the sorted keys. -/
theorem map_sortByKey (items : List α) :
    (sortByKey key items).map key = sortByKey id (items.map key) := by
  have keys : ((sortByKey key items).map key).Perm (sortByKey id (items.map key)) :=
    ((sortByKey_perm key items).map key).trans (sortByKey_perm id _).symm
  refine keys.eq_of_pairwise (fun _ _ _ _ below above => below.antisymm above) ?_
    (sortByKey_pairwise id (items.map key))
  exact List.pairwise_map.mpr (sortByKey_pairwise key items)

/-- Sorting what is tagged, by a key of what the tags are on, sorts that. -/
theorem map_sortByKey_comp {β : Type*} (f : β → α) (items : List β) :
    (sortByKey (fun item => key (f item)) items).map f = sortByKey key (items.map f) :=
  List.map_insertionSort _ _ f items fun _ _ _ _ => Iff.rfl

/-- Growing keys tell the items apart. -/
theorem eq_of_growing {listed : List α} (growing : listed.Pairwise fun a b => key a < key b)
    {a b : α} (here : a ∈ listed) (there : b ∈ listed) (same : key a = key b) : a = b := by
  have apart : (listed.map key).Nodup := List.pairwise_map.mpr (growing.imp ne_of_lt)
  exact List.inj_on_of_nodup_map apart here there same

/-- **Keys that grow from item to item**: any rearrangement of the items sorts back to them. -/
theorem sortByKey_of_perm {items listed : List α} (perm : items.Perm listed)
    (growing : listed.Pairwise fun a b => key a < key b) : sortByKey key items = listed := by
  refine ((sortByKey_perm key items).trans perm).eq_of_pairwise ?_ (sortByKey_pairwise key items)
    (growing.imp le_of_lt)
  intro a b here there below above
  have listedHere : a ∈ listed := perm.mem_iff.mp ((mem_sortByKey key).mp here)
  exact eq_of_growing key growing listedHere there (below.antisymm above)

/-- Ascending lists that agree on each key's items are the same list. -/
theorem eq_of_filters {first second : List α} (firstAscending : Ascending key first)
    (secondAscending : Ascending key second)
    (same : ∀ k, (first.filter fun a => key a = k) = second.filter fun a => key a = k) :
    first = second := by
  induction first generalizing second with
  | nil =>
    cases second with
    | nil => rfl
    | cons b rest =>
      have here := same (key b)
      rw [List.filter_cons_of_pos (by simp)] at here
      cases here
  | cons a first' ih =>
    have members : ∀ c, c ∈ second ↔ c ∈ a :: first' := by
      intro c
      have here : c ∈ second.filter (fun d => key d = key c) ↔
          c ∈ (a :: first').filter fun d => key d = key c := by rw [same]
      simpa [List.mem_filter] using here
    obtain ⟨aLeast, ascending⟩ := List.pairwise_cons.mp firstAscending
    cases second with
    | nil =>
      have there := (members a).mpr List.mem_cons_self
      cases there
    | cons b second' =>
      obtain ⟨bLeast, ascending'⟩ := List.pairwise_cons.mp secondAscending
      -- the first of each list is among the other's, so the first keys are equal
      have keys : key a = key b := by
        refine le_antisymm ?_ ?_
        · rcases List.mem_cons.mp ((members b).mp List.mem_cons_self) with rfl | later
          · exact le_refl _
          · exact aLeast b later
        · rcases List.mem_cons.mp ((members a).mpr List.mem_cons_self) with rfl | later
          · exact le_refl _
          · exact bLeast a later
      have heads := same (key b)
      rw [List.filter_cons_of_pos (by simpa using keys), List.filter_cons_of_pos (by simp)] at heads
      obtain ⟨rfl, -⟩ := List.cons.inj heads
      rw [ih ascending ascending' fun k => ?_]
      have whole := same k
      rw [List.filter_cons, List.filter_cons] at whole
      split_ifs at whole
      · exact (List.cons.inj whole).2
      · exact whole

/-- **Stability**: the sorted list depends only on the order of the items of each key. -/
theorem sortByKey_congr {items others : List α}
    (same : ∀ k, (items.filter fun a => key a = k) = others.filter fun a => key a = k) :
    sortByKey key items = sortByKey key others := by
  have selected : ∀ (list : List α) (k : κ),
      ((sortByKey key list).filter fun a => key a = k) = list.filter fun a => key a = k := by
    intro list k
    refine filter_sortByKey key _ ?_
    refine List.pairwise_iff_forall_sublist.mpr fun {a b} pair => ?_
    have both : ∀ c ∈ [a, b], key c = k := fun c member =>
      of_decide_eq_true (List.mem_filter.mp (pair.subset member)).2
    rw [both a (by simp), both b (by simp)]
  refine eq_of_filters key (sortByKey_pairwise key items) (sortByKey_pairwise key others) fun k => ?_
  rw [selected, selected, same]

/-- Insertion before the first item whose key is not smaller, as `std::lower_bound` places it. -/
def insertLower (a : α) (items : List α) : List α :=
  items.takeWhile (fun b => decide (key b < key a)) ++
    a :: items.dropWhile fun b => decide (key b < key a)

theorem insertLower_perm (a : α) (items : List α) : (insertLower key a items).Perm (a :: items) := by
  unfold insertLower
  refine List.perm_middle.trans ?_
  rw [List.takeWhile_append_dropWhile]

@[simp] theorem mem_insertLower {a b : α} {items : List α} :
    b ∈ insertLower key a items ↔ b = a ∨ b ∈ items :=
  (insertLower_perm key a items).mem_iff.trans List.mem_cons

/-- **Insertion keeps the order**: the items after the place are not smaller. -/
theorem insertLower_ascending {a : α} {items : List α} (ascending : Ascending key items) :
    Ascending key (insertLower key a items) := by
  induction items with
  | nil => exact List.pairwise_singleton _ a
  | cons b rest ih =>
    obtain ⟨least, others⟩ := List.pairwise_cons.mp ascending
    unfold insertLower
    by_cases smaller : key b < key a
    · rw [List.takeWhile_cons_of_pos (by exact decide_eq_true smaller),
        List.dropWhile_cons_of_pos (by exact decide_eq_true smaller)]
      refine List.pairwise_cons.mpr ⟨fun c member => ?_, ih others⟩
      rcases (mem_insertLower key).mp member with rfl | later
      · exact smaller.le
      · exact least c later
    · rw [List.takeWhile_cons_of_neg (by simpa using smaller),
        List.dropWhile_cons_of_neg (by simpa using smaller)]
      have first := not_lt.mp smaller
      refine List.pairwise_cons.mpr ⟨?_, ascending⟩
      exact List.forall_mem_cons.mpr ⟨first, fun c later => first.trans (least c later)⟩

/-- What the inserted item has with each of the others, both ways round, and these have in order, all
have in order. -/
theorem insertLower_pairwise {related : α → α → Prop} {a : α} {items : List α}
    (ordered : items.Pairwise related) (both : ∀ b ∈ items, related a b ∧ related b a) :
    (insertLower key a items).Pairwise related := by
  unfold insertLower
  have whole : items.takeWhile (fun b => decide (key b < key a)) ++
      items.dropWhile (fun b => decide (key b < key a)) = items := List.takeWhile_append_dropWhile
  rw [← whole] at ordered both
  obtain ⟨before, after, across⟩ := List.pairwise_append.mp ordered
  refine List.pairwise_append.mpr ⟨before, List.pairwise_cons.mpr ⟨fun b later => ?_, after⟩, ?_⟩
  · exact (both b (List.mem_append_right _ later)).1
  · intro b earlier c member
    rcases List.mem_cons.mp member with rfl | later
    · exact (both b (List.mem_append_left _ earlier)).2
    · exact across b earlier c later

end SortByKey

end Retrovue.Foundation.Sorting
