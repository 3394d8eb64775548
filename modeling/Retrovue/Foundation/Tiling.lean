/-
**Lists of half-open spans laid end to end.**

* `Tiles start stop items low high`: the spans of the items go from `low` to `high` without a gap or
  an overlap, none of them backwards;
* `Tiles.append`: tilings compose, `tiles_map`: they are about the spans only;
* `Tiles.bounds`: every span lies inside;
* `Tiles.pairwise`: earlier spans end before later ones start, `Tiles.ascending`: in start order;
* `Clear`: two spans apart, in either order; `ordered_of_clear`: spans pairwise apart lie one after
  the other once they are sorted.
-/

import Mathlib
import Retrovue.Foundation.Sorting

namespace Retrovue.Foundation.Tiling

open Retrovue.Foundation.Sorting

section Tiles

variable {α τ : Type*} [LinearOrder τ] (start stop : α → τ)

/-- The spans `[start a, stop a)` lie end to end from `low` to `high`. -/
def Tiles : List α → τ → τ → Prop
  | [], low, high => low = high
  | a :: rest, low, high => start a = low ∧ start a ≤ stop a ∧ Tiles rest (stop a) high

instance tilesDecidable : ∀ (items : List α) (low high : τ), Decidable (Tiles start stop items low high)
  | [], low, high => inferInstanceAs (Decidable (low = high))
  | a :: rest, low, high =>
    have := tilesDecidable rest (stop a) high
    inferInstanceAs (Decidable (start a = low ∧ start a ≤ stop a ∧ Tiles start stop rest (stop a) high))

variable {start stop}

theorem Tiles.le : ∀ {items : List α} {low high : τ}, Tiles start stop items low high → low ≤ high
  | [], _, _, tiles => le_of_eq tiles
  | _ :: _, _, _, ⟨begins, forward, rest⟩ => begins ▸ forward.trans rest.le

/-- Every span lies inside the tiled range. -/
theorem Tiles.bounds : ∀ {items : List α} {low high : τ}, Tiles start stop items low high →
    ∀ a ∈ items, low ≤ start a ∧ stop a ≤ high
  | [], _, _, _, a, member => by cases member
  | b :: rest, low, high, ⟨begins, forward, tail⟩, a, member => by
    rcases List.mem_cons.mp member with rfl | later
    · exact ⟨begins.ge, tail.le⟩
    · have inside := tail.bounds a later
      exact ⟨begins ▸ forward.trans inside.1, inside.2⟩

/-- Earlier spans end before later ones start. -/
theorem Tiles.pairwise : ∀ {items : List α} {low high : τ}, Tiles start stop items low high →
    items.Pairwise fun a b => stop a ≤ start b
  | [], _, _, _ => List.Pairwise.nil
  | _ :: _, _, _, ⟨_, _, tail⟩ =>
    List.Pairwise.cons (fun b member => (tail.bounds b member).1) tail.pairwise

/-- The spans stand in start order. -/
theorem Tiles.ascending : ∀ {items : List α} {low high : τ}, Tiles start stop items low high →
    Ascending start items
  | [], _, _, _ => List.Pairwise.nil
  | _ :: _, _, _, ⟨_, forward, tail⟩ =>
    List.Pairwise.cons (fun b member => forward.trans (tail.bounds b member).1) tail.ascending

/-- **Tilings compose.** -/
theorem Tiles.append : ∀ {first second : List α} {low middle high : τ},
    Tiles start stop first low middle → Tiles start stop second middle high →
      Tiles start stop (first ++ second) low high
  | [], _, _, _, _, tiles, after => by
    rw [List.nil_append, show _ = _ from tiles]
    exact after
  | _ :: _, _, _, _, _, ⟨begins, forward, tail⟩, after => ⟨begins, forward, tail.append after⟩

/-- A tiling is one of the spans. -/
theorem tiles_map {β : Type*} (f : β → α) : ∀ (items : List β) (low high : τ),
    Tiles start stop (items.map f) low high ↔ Tiles (start ∘ f) (stop ∘ f) items low high
  | [], _, _ => Iff.rfl
  | _ :: rest, _, high => and_congr_right' (and_congr_right' (tiles_map f rest _ high))

/-- **A time lies in one span only.** -/
theorem Tiles.unique {items : List α} {low high t : τ} (tiles : Tiles start stop items low high)
    {a b : α} (first : a ∈ items) (second : b ∈ items) (inFirst : start a ≤ t ∧ t < stop a)
    (inSecond : start b ≤ t ∧ t < stop b) : a = b := by
  induction items generalizing low with
  | nil => cases first
  | cons c rest ih =>
    obtain ⟨_, _, tail⟩ := tiles
    rcases List.mem_cons.mp first with rfl | firstLater
    · rcases List.mem_cons.mp second with rfl | secondLater
      · rfl
      · have after := (tail.bounds b secondLater).1
        exact absurd (inFirst.2.trans_le (after.trans inSecond.1)) (lt_irrefl t)
    · rcases List.mem_cons.mp second with rfl | secondLater
      · have after := (tail.bounds a firstLater).1
        exact absurd (inSecond.2.trans_le (after.trans inFirst.1)) (lt_irrefl t)
      · exact ih tail firstLater secondLater

end Tiles

section Clear

variable {α τ : Type*} [LinearOrder τ] (start stop : α → τ)

/-- One of two spans ends before the other starts. -/
def Clear (a b : α) : Prop := stop a ≤ start b ∨ stop b ≤ start a

theorem Clear.symm {start stop : α → τ} {a b : α} (clear : Clear start stop a b) :
    Clear start stop b a := Or.symm clear

/-- Spans one after the other are pairwise apart. -/
theorem clear_of_ordered {items : List α} (ordered : items.Pairwise fun a b => stop a ≤ start b) :
    items.Pairwise (Clear start stop) := ordered.imp Or.inl

/-- **Sorting spans that are pairwise apart** lays them one after the other. -/
theorem ordered_of_clear {items : List α} (proper : ∀ a ∈ items, start a < stop a)
    (clear : items.Pairwise (Clear start stop)) :
    (sortByKey start items).Pairwise fun a b => stop a ≤ start b := by
  have apart := ((sortByKey_perm start items).pairwise_iff Clear.symm).mpr clear
  refine (apart.and (sortByKey_pairwise start items)).imp_of_mem ?_
  rintro a b _ second ⟨before | after, ascending⟩
  · exact before
  · have forward := proper b ((mem_sortByKey start).mp second)
    exact absurd (forward.trans_le (after.trans ascending)) (lt_irrefl _)

end Clear

end Retrovue.Foundation.Tiling
