/-
**Rings of slots.**

A sequence goes through a ring of slots: item `i` into slot `i` modulo their number, and the items from
some position on are still there.

* `mod_ne_mod`: positions less than a turn apart have different slots;
* `distance`: how far one index of the ring is behind another, `distance_mod` for those of two positions;
* `Holds`: the items from a position on stand in their slots; `Holds.set`, `Holds.append`: the next item
  is put in its slot, and then it is one of them; `Holds.advance`: the first is given up;
* `Holds.contents`: what is read from the slots, around the ring.
-/

import Mathlib

namespace Retrovue.Foundation.Rings

/-! ### Positions and indices -/

section Indices

/-- **Positions less than a turn apart** have different slots. -/
theorem mod_ne_mod {slots first second : ℕ} (later : first < second)
    (near : second < first + slots) : first % slots ≠ second % slots := by
  intro same
  have divides : slots ∣ second - first := (Nat.modEq_iff_dvd' later.le).mp same
  have turn : slots ≤ second - first := Nat.le_of_dvd (by omega) divides
  omega

/-- How far the index `behind` is behind the index `ahead`, around the ring. -/
def distance (slots ahead behind : ℕ) : ℕ :=
  if behind ≤ ahead then ahead - behind else slots - (behind - ahead)

theorem distance_lt {slots ahead behind : ℕ} (inside : ahead < slots) :
    distance slots ahead behind < slots := by
  unfold distance
  split <;> omega

/-- **The indices of two positions** less than a turn apart are as far apart as the positions. -/
theorem distance_mod {slots first second : ℕ} (later : first ≤ second)
    (near : second < first + slots) :
    distance slots (second % slots) (first % slots) = second - first := by
  have positive : 0 < slots := by omega
  have below : first % slots < slots := Nat.mod_lt first positive
  obtain ⟨gap, rfl⟩ := Nat.exists_eq_add_of_le later
  unfold distance
  rcases Nat.lt_or_ge (first % slots + gap) slots with straight | around
  · have second_mod : (first + gap) % slots = first % slots + gap := by
      rw [Nat.add_mod, Nat.mod_eq_of_lt (show gap < slots by omega), Nat.mod_eq_of_lt straight]
    rw [second_mod, if_pos (Nat.le_add_right _ _)]
    omega
  · have second_mod : (first + gap) % slots = first % slots + gap - slots := by
      rw [Nat.add_mod, Nat.mod_eq_of_lt (show gap < slots by omega), Nat.mod_eq_sub_mod around,
        Nat.mod_eq_of_lt (by omega)]
    rw [second_mod, if_neg (by omega)]
    omega

/-- The index after that of a position is that of the next one. -/
theorem succ_mod_mod (slots position : ℕ) : (position % slots + 1) % slots = (position + 1) % slots :=
  Nat.mod_add_mod position slots 1

end Indices

/-! ### Items in their slots -/

section Items

variable {Item : Type*} {slots items : List Item} {first : ℕ}

/-- The items from position `first` on stand in their slots. -/
def Holds (slots items : List Item) (first : ℕ) : Prop :=
  ∀ position, first ≤ position → position < items.length →
    slots[position % slots.length]? = items[position]?

theorem holds_nil (slots : List Item) (first : ℕ) : Holds slots [] first :=
  fun _ _ inside => absurd inside (Nat.not_lt_zero _)

/-- **The next item is put in its slot**: while there is a slot to spare, the others stay. -/
theorem Holds.set (holds : Holds slots items first) (room : items.length < first + slots.length)
    (item : Item) : Holds (slots.set (items.length % slots.length) item) items first := by
  intro position from_first inside
  have elsewhere : items.length % slots.length ≠ position % slots.length :=
    (mod_ne_mod inside (by omega)).symm
  rw [List.length_set, List.getElem?_set_ne elsewhere]
  exact holds position from_first inside

/-- What was put in the next slot is there. -/
theorem getElem?_set_next (positive : 0 < slots.length) (item : Item) :
    (slots.set (items.length % slots.length) item)[items.length % slots.length]? = some item :=
  List.getElem?_set_self (Nat.mod_lt _ positive)

/-- **An item that stands in the next slot** is one of them. -/
theorem Holds.append {item : Item} (holds : Holds slots items first)
    (there : slots[items.length % slots.length]? = some item) :
    Holds slots (items ++ [item]) first := by
  intro position from_first inside
  rw [List.length_append, List.length_singleton] at inside
  rcases Nat.lt_or_ge position items.length with old | new
  · rw [List.getElem?_append_left old]
    exact holds position from_first old
  · have last : position = items.length := by omega
    rw [last, there, List.getElem?_concat_length]

/-- **The first item is given up.** -/
theorem Holds.advance (holds : Holds slots items first) : Holds slots items (first + 1) :=
  fun position from_next => holds position (by omega)

/-- **What is read from the slots**, around the ring from the index of `first`. -/
theorem Holds.contents (holds : Holds slots items first) (inside : first ≤ items.length) :
    (List.range (items.length - first)).map
        (fun offset => slots[(first % slots.length + offset) % slots.length]?) =
      (items.drop first).map some := by
  refine List.ext_getElem (by simp) fun offset below _ => ?_
  rw [List.length_map, List.length_range] at below
  have within : first + offset < items.length := by omega
  rw [List.getElem_map, List.getElem_range, List.getElem_map, List.getElem_drop, Nat.mod_add_mod,
    holds (first + offset) (Nat.le_add_right _ _) within, List.getElem?_eq_getElem within]

end Items

end Retrovue.Foundation.Rings
