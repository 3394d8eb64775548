/-
**Where an offset falls in a list of lengths.**

* `total`: the lengths of a list added up;
* `FallsIn`: an offset falls in an item, with the items before and after it;
* `exists_fallsIn`: an offset below the total falls in some item, `FallsIn.unique`: in one only;
* `locate`, `locate_fallsIn`: the search for it from a running start.
-/

import Mathlib

namespace Retrovue.Foundation.Offsets

section Falls

variable {α : Type*} (length : α → Int)

/-- The lengths added up. -/
def total (items : List α) : Int := (items.map length).sum

@[simp] theorem total_nil : total length [] = 0 := rfl

@[simp] theorem total_cons (a : α) (rest : List α) :
    total length (a :: rest) = length a + total length rest := by
  simp [total]

@[simp] theorem total_append (first second : List α) :
    total length (first ++ second) = total length first + total length second := by
  simp [total]

/-- Every item has a positive length. -/
def Positive (items : List α) : Prop := ∀ a ∈ items, 0 < length a

theorem Positive.tail {a : α} {rest : List α} (positive : Positive length (a :: rest)) :
    Positive length rest := fun b member => positive b (List.mem_cons_of_mem a member)

theorem total_nonneg {items : List α} (positive : Positive length items) :
    0 ≤ total length items := by
  induction items with
  | nil => exact le_rfl
  | cons a rest ih =>
    rw [total_cons]
    exact add_nonneg (positive a List.mem_cons_self).le (ih positive.tail)

/-- **An offset falls in an item**: the items before it end at or before the offset, and it ends
after. -/
structure FallsIn (items : List α) (offset : Int) (before : List α) (item : α) (after : List α) :
    Prop where
  split : items = before ++ item :: after
  passed : total length before ≤ offset
  inside : offset < total length before + length item

variable {length}

/-- One item further on. -/
theorem FallsIn.cons {items before after : List α} {item : α} {offset : Int} (a : α)
    (falls : FallsIn length items (offset - length a) before item after) :
    FallsIn length (a :: items) offset (a :: before) item after where
  split := by rw [falls.split, List.cons_append]
  passed := by
    have passed := falls.passed
    rw [total_cons]
    omega
  inside := by
    have inside := falls.inside
    rw [total_cons]
    omega

/-- The first item has it, or the rest do. -/
theorem fallsIn_cons {a : α} {rest before after : List α} {item : α} {offset : Int}
    (falls : FallsIn length (a :: rest) offset before item after) :
    (before = [] ∧ item = a ∧ after = rest ∧ 0 ≤ offset ∧ offset < length a) ∨
      ∃ others, before = a :: others ∧
        FallsIn length rest (offset - length a) others item after := by
  obtain ⟨split, passed, inside⟩ := falls
  cases before with
  | nil =>
    obtain ⟨rfl, rfl⟩ := List.cons.inj split
    exact .inl ⟨rfl, rfl, rfl, by simpa using passed, by simpa using inside⟩
  | cons b others =>
    obtain ⟨rfl, tail⟩ := List.cons.inj split
    rw [total_cons] at passed inside
    exact .inr ⟨others, rfl, tail, by omega, by omega⟩

/-- The items seen through a map. -/
theorem total_map {β : Type*} (through : β → α) (items : List β) :
    total length (items.map through) = total (fun b => length (through b)) items := by
  rw [total, total, List.map_map]
  rfl

theorem FallsIn.map {β : Type*} (through : β → α) {items before after : List β} {item : β}
    {offset : Int} (falls : FallsIn (fun b => length (through b)) items offset before item after) :
    FallsIn length (items.map through) offset (before.map through) (through item)
      (after.map through) where
  split := by rw [falls.split, List.map_append, List.map_cons]
  passed := by
    rw [total_map]
    exact falls.passed
  inside := by
    rw [total_map]
    exact falls.inside

/-- **An offset below the total falls in some item.** -/
theorem exists_fallsIn : ∀ {items : List α} {offset : Int}, 0 ≤ offset →
    offset < total length items → ∃ before item after, FallsIn length items offset before item after
  | [], offset, start, stop => by
    rw [total_nil] at stop
    omega
  | a :: rest, offset, start, stop => by
    by_cases here : offset < length a
    · exact ⟨[], a, rest, rfl, start, by simpa using here⟩
    · rw [total_cons] at stop
      have left : offset - length a < total length rest := by omega
      obtain ⟨before, item, after, falls⟩ := exists_fallsIn (by omega) left
      exact ⟨a :: before, item, after, falls.cons a⟩

/-- **An offset falls in one item only.** -/
theorem FallsIn.unique :
    ∀ {items : List α}, Positive length items → ∀ {offset : Int} {before after others rest : List α}
      {item other : α}, FallsIn length items offset before item after →
      FallsIn length items offset others other rest →
      before = others ∧ item = other ∧ after = rest
  | [], _, _, before, _, _, _, _, _, falls, _ => by
    have split := falls.split
    cases before <;> cases split
  | a :: tail, positive, offset, before, after, others, rest, item, other, falls, there => by
    rcases fallsIn_cons falls with ⟨rfl, rfl, rfl, -, high⟩ | ⟨before', rfl, further⟩
    · rcases fallsIn_cons there with ⟨rfl, rfl, rfl, -, -⟩ | ⟨others', rfl, beyond⟩
      · exact ⟨rfl, rfl, rfl⟩
      · have passed := beyond.passed
        have nonneg : 0 ≤ total length others' := by
          refine total_nonneg length fun b member => positive b ?_
          rw [beyond.split]
          exact List.mem_cons_of_mem item (List.mem_append_left _ member)
        omega
    · have passed := further.passed
      have nonneg : 0 ≤ total length before' := by
        refine total_nonneg length fun b member => positive b ?_
        rw [further.split]
        exact List.mem_cons_of_mem a (List.mem_append_left _ member)
      rcases fallsIn_cons there with ⟨rfl, rfl, rfl, -, high⟩ | ⟨others', rfl, beyond⟩
      · omega
      · obtain ⟨rfl, same, ends⟩ := FallsIn.unique positive.tail further beyond
        exact ⟨rfl, same, ends⟩

/-- What is left from an offset on: the rest of its item, and the items after it. -/
theorem FallsIn.left {items before after : List α} {item : α} {offset : Int}
    (falls : FallsIn length items offset before item after) :
    total length items - offset =
      (length item - (offset - total length before)) + total length after := by
  rw [falls.split, total_append, total_cons]
  ring

end Falls

section Locate

variable {α : Type*} {length : α → Int}

/-- The first item from a running start whose span contains the offset, with where it starts. -/
def locate (length : α → Int) : Int → List α → Int → Option (Int × α)
  | _, [], _ => none
  | start, a :: rest, offset =>
    if start ≤ offset ∧ offset < start + length a then some (start, a)
    else locate length (start + length a) rest offset

/-- **The search finds the item** that the offset falls in, and where it starts. -/
theorem locate_fallsIn : ∀ {items : List α}, Positive length items →
    ∀ {start offset : Int} {before after : List α} {item : α},
      FallsIn length items (offset - start) before item after →
      locate length start items offset = some (start + total length before, item)
  | [], _, _, _, before, _, _, falls => by
    have split := falls.split
    cases before <;> cases split
  | a :: rest, positive, start, offset, before, after, item, falls => by
    rcases fallsIn_cons falls with ⟨rfl, rfl, rfl, low, high⟩ | ⟨others, rfl, further⟩
    · rw [locate, if_pos ⟨by omega, by omega⟩, total_nil, add_zero]
    · have passed := further.passed
      have others_nonneg : 0 ≤ total length others := by
        refine total_nonneg length fun b member => positive b ?_
        rw [further.split]
        exact List.mem_cons_of_mem a (List.mem_append_left _ member)
      rw [locate, if_neg (by omega), locate_fallsIn positive.tail
        (by rwa [show offset - (start + length a) = offset - start - length a by ring]),
        total_cons, add_assoc]

end Locate

end Retrovue.Foundation.Offsets
