/-
**Packing a room first-fit, with sizes that may be zero or negative.**

* `fits`, `next`: the first size in the list that fits the room, and the room it leaves;
* `Ends`: packing comes to an end: the room is used up, or nothing fits;
* `ends_of_pos`: positive sizes always end; `rest`: what they leave;
* `round`: where the first size that is not positive gives room back until something fits again;
  `ends_iff`: packing then ends exactly when one of the first few rests is zero.

A size that is not positive fits every room, so the sizes after it are never taken.
-/

import Mathlib
import Retrovue.Foundation.Rounding

namespace Retrovue.Foundation.FirstFit

open Retrovue.Foundation.Rounding

/-! ### Packing -/

section Packing

variable (sizes : List ℤ) (room : ℤ)

/-- The first size that fits. -/
def fits : Option ℤ := sizes.find? fun size => size ≤ room

/-- The room after the next size; none where packing stops. -/
def next : Option ℤ := if 0 < room then (fits sizes room).map (room - ·) else none

/-- **Packing comes to an end.** -/
inductive Ends : ℤ → Prop
  | stop {room : ℤ} (halts : next sizes room = none) : Ends room
  | step {room left : ℤ} (goes : next sizes room = some left) (tail : Ends left) : Ends room

variable {sizes room}

theorem fits_le {size : ℤ} (fit : fits sizes room = some size) : size ≤ room :=
  of_decide_eq_true (List.find?_some (p := fun size => decide (size ≤ room)) fit)

theorem fits_mem {size : ℤ} (fit : fits sizes room = some size) : size ∈ sizes :=
  List.mem_of_find?_eq_some fit

theorem fits_eq_none : fits sizes room = none ↔ ∀ size ∈ sizes, room < size := by
  simp [fits, List.find?_eq_none]

/-- Where packing goes on, it ends with what follows. -/
theorem ends_next {left : ℤ} (goes : next sizes room = some left) :
    Ends sizes room ↔ Ends sizes left := by
  constructor
  · intro ends
    cases ends with
    | stop halts => exact absurd (goes.symm.trans halts) (by simp)
    | step goes' tail =>
      obtain rfl := Option.some.inj (goes.symm.trans goes')
      exact tail
  · exact .step goes

/-- A room that is used up ends. -/
theorem ends_of_nonpos (used : room ≤ 0) : Ends sizes room := .stop (if_neg (not_lt.mpr used))

theorem next_of_fits {size : ℤ} (open_ : 0 < room) (fit : fits sizes room = some size) :
    next sizes room = some (room - size) := by
  rw [next, if_pos open_, fit]
  rfl

/-- **Positive sizes always end.** -/
theorem ends_of_pos (positive : ∀ size ∈ sizes, 0 < size) : Ends sizes room := by
  induction bound : room.toNat using Nat.strong_induction_on generalizing room with
  | _ n ih =>
    rcases le_or_gt room 0 with used | open_
    · exact ends_of_nonpos used
    · cases fit : fits sizes room with
      | none => exact .stop (by rw [next, if_pos open_, fit]; rfl)
      | some size =>
        have pos := positive size (fits_mem fit)
        have small := fits_le fit
        exact .step (next_of_fits open_ fit) (ih (room - size).toNat (by omega) rfl)

end Packing

/-! ### What positive sizes leave -/

section Rest

variable (sizes : List ℤ)

/-- What is left after so many sizes, or where nothing fits. -/
def leftover : ℕ → ℤ → ℤ
  | 0, room => room
  | fuel + 1, room =>
    match fits sizes room with
    | none => room
    | some size => leftover fuel (room - size)

/-- **What positive sizes leave of a room**: the room is steps enough. -/
def rest (room : ℤ) : ℤ := leftover sizes room.toNat room

variable {sizes} {room : ℤ}

/-- More steps than the room change nothing. -/
theorem leftover_eq_leftover (positive : ∀ size ∈ sizes, 0 < size) {fuel other : ℕ}
    (enough : room.toNat ≤ fuel) (enough' : room.toNat ≤ other) (nonneg : 0 ≤ room) :
    leftover sizes fuel room = leftover sizes other room := by
  induction fuel generalizing room other with
  | zero =>
    obtain rfl : room = 0 := by omega
    cases other with
    | zero => rfl
    | succ other => rw [leftover, leftover, fits_eq_none.mpr positive]
  | succ fuel ih =>
    cases fit : fits sizes room with
    | none =>
      cases other with
      | zero => rw [leftover, leftover, fit]
      | succ other => rw [leftover, leftover, fit]
    | some size =>
      have pos := positive size (fits_mem fit)
      have small := fits_le fit
      obtain ⟨n, rfl⟩ : ∃ n, other = n + 1 := ⟨other - 1, by omega⟩
      rw [leftover, leftover, fit]
      exact ih (by omega) (by omega) (by omega)

theorem rest_of_fits (positive : ∀ size ∈ sizes, 0 < size) {size : ℤ}
    (fit : fits sizes room = some size) : rest sizes room = rest sizes (room - size) := by
  have pos := positive size (fits_mem fit)
  have small := fits_le fit
  obtain ⟨n, steps⟩ : ∃ n, room.toNat = n + 1 := ⟨room.toNat - 1, by omega⟩
  rw [rest, steps, leftover, fit]
  exact leftover_eq_leftover positive (by omega) le_rfl (by omega)

theorem rest_of_none (nothing : fits sizes room = none) : rest sizes room = room := by
  unfold rest
  cases room.toNat with
  | zero => rfl
  | succ n => rw [leftover, nothing]

/-- Positive sizes leave a room that none of them fits. -/
theorem rest_spec (positive : ∀ size ∈ sizes, 0 < size) (nonneg : 0 ≤ room) :
    0 ≤ rest sizes room ∧ ∀ size ∈ sizes, rest sizes room < size := by
  induction bound : room.toNat using Nat.strong_induction_on generalizing room with
  | _ n ih =>
    cases fit : fits sizes room with
    | none =>
      rw [rest_of_none fit]
      exact ⟨nonneg, fits_eq_none.mp fit⟩
    | some size =>
      have pos := positive size (fits_mem fit)
      have small := fits_le fit
      rw [rest_of_fits positive fit]
      exact ih (room - size).toNat (by omega) (by omega) rfl

end Rest

/-! ### Sizes that give room back -/

section Refills

variable (sizes : List ℤ)

/-- The least size. -/
def least : ℤ := sizes.min?.getD 0

/-- The rest after a rest: room is given back, `back` at a time, until a size fits. -/
def round (back room : ℤ) : ℤ := rest sizes (room + back * ceilDiv (least sizes - room) back)

/-- The next rest that packing comes to. -/
def target (back room : ℤ) : ℤ := if room < least sizes then round sizes back room else rest sizes room

variable {sizes} {room back : ℤ} {others : List ℤ}

theorem lt_least (some_ : sizes ≠ []) : room < least sizes ↔ ∀ size ∈ sizes, room < size := by
  obtain ⟨low, isLeast⟩ := Option.isSome_iff_exists.mp (List.isSome_min?_iff.mpr some_)
  obtain ⟨member, below⟩ := List.min?_eq_some_iff.mp isLeast
  rw [least, isLeast, Option.getD_some]
  exact ⟨fun lt size listed => lt.trans_le (below size listed), fun all => all low member⟩

/-- **A size that is not positive is taken exactly where no size before it fits.** -/
theorem next_append (nonneg : 0 ≤ back) (open_ : 0 < room) :
    next (sizes ++ -back :: others) room =
      some (match fits sizes room with
        | none => room + back
        | some size => room - size) := by
  have always : (decide (-back ≤ room)) = true := decide_eq_true (by omega)
  rw [next, if_pos open_, fits, List.find?_append, ← fits]
  cases fit : fits sizes room with
  | none =>
    rw [Option.none_or, List.find?_cons, always]
    simp
  | some size => rfl

/-- A rest is a room that none of the sizes fits, given back or not. -/
theorem rest_bounds (positive : ∀ size ∈ sizes, 0 < size) (some_ : sizes ≠ []) (nonneg : 0 ≤ room) :
    0 ≤ rest sizes room ∧ rest sizes room < least sizes := by
  obtain ⟨low, small⟩ := rest_spec positive nonneg
  exact ⟨low, (lt_least some_).mpr small⟩

/-- So is the rest after a rest. -/
theorem round_bounds (positive : ∀ size ∈ sizes, 0 < size) (some_ : sizes ≠ []) (nonneg : 0 ≤ back)
    (open_ : 0 < room) (small : room < least sizes) :
    0 ≤ round sizes back room ∧ round sizes back room < least sizes := by
  refine rest_bounds positive some_ ?_
  rcases nonneg.eq_or_lt with rfl | pos
  · rw [zero_mul, add_zero]
    exact open_.le
  · have given := ceilDiv_nonneg (a := least sizes - room) pos (by omega)
    positivity

/-- Giving room back once more comes to the same rest. -/
theorem round_add (pos : 0 < back) : round sizes back (room + back) = round sizes back room := by
  have shift := ceilDiv_add_self (a := least sizes - (room + back)) pos
  rw [show least sizes - (room + back) + back = least sizes - room by ring] at shift
  unfold round
  rw [shift]
  congr 1
  ring

/-- **One step** keeps the next rest, or comes to it. -/
theorem target_next (positive : ∀ size ∈ sizes, 0 < size) (some_ : sizes ≠ []) (nonneg : 0 ≤ back)
    (open_ : 0 < room) {left : ℤ} (goes : next (sizes ++ -back :: others) room = some left) :
    (0 < left ∧ target sizes back left = target sizes back room) ∨
      (0 ≤ left ∧ left = target sizes back room ∧
        target sizes back left = round sizes back left) := by
  rw [next_append nonneg open_, Option.some.injEq] at goes
  cases fit : fits sizes room with
  | none =>
    -- room is given back
    rw [fit] at goes
    obtain rfl : room + back = left := goes
    have small : room < least sizes := (lt_least some_).mpr (fits_eq_none.mp fit)
    refine .inl ⟨by omega, ?_⟩
    rcases nonneg.eq_or_lt with rfl | pos
    · rw [add_zero]
    unfold target
    rw [if_pos small]
    split_ifs with still
    · exact round_add pos
    · have once : ceilDiv (least sizes - room) back = 1 := by
        apply le_antisymm
        · rw [ceilDiv_le_iff pos]
          omega
        · exact Int.add_one_le_iff.mpr (ceilDiv_pos pos (by omega))
      rw [round, once, mul_one]
  | some size =>
    rw [fit] at goes
    obtain rfl : room - size = left := goes
    have pos := positive size (fits_mem fit)
    have fitting := fits_le fit
    have large : ¬ room < least sizes := fun small =>
      absurd fit (by rw [fits_eq_none.mpr ((lt_least some_).mp small)]; simp)
    have same : target sizes back room = rest sizes (room - size) := by
      rw [target, if_neg large, rest_of_fits positive fit]
    by_cases small : room - size < least sizes
    · have over_ : rest sizes (room - size) = room - size :=
        rest_of_none (fits_eq_none.mpr ((lt_least some_).mp small))
      exact .inr ⟨by omega, by rw [same, over_], if_pos small⟩
    · have leastPos : 0 < least sizes := (lt_least some_).mpr positive
      exact .inl ⟨by omega, by rw [same]; exact if_neg small⟩

/-- **Packing that ends comes to a zero rest.** -/
theorem reaches_of_ends (positive : ∀ size ∈ sizes, 0 < size) (some_ : sizes ≠ [])
    (nonneg : 0 ≤ back) (ends : Ends (sizes ++ -back :: others) room) (open_ : 0 < room) :
    ∃ k, (round sizes back)^[k] (target sizes back room) = 0 := by
  induction ends with
  | stop halts =>
    rw [next_append nonneg open_] at halts
    cases halts
  | @step room left goes tail ih =>
    rcases target_next positive some_ nonneg open_ goes with ⟨more, same⟩ | ⟨low, comes, on⟩
    · rw [← same]
      exact ih more
    · rcases low.eq_or_lt with zero | more
      · exact ⟨0, by rw [Function.iterate_zero_apply, ← comes, zero]⟩
      · obtain ⟨k, reached⟩ := ih more
        refine ⟨k + 1, ?_⟩
        rw [Function.iterate_succ_apply, ← comes, ← on]
        exact reached

/-- Positive sizes first take what they can. -/
theorem ends_rest (positive : ∀ size ∈ sizes, 0 < size) (nonneg : 0 ≤ back) (low : 0 ≤ room) :
    Ends (sizes ++ -back :: others) room ↔ Ends (sizes ++ -back :: others) (rest sizes room) := by
  induction bound : room.toNat using Nat.strong_induction_on generalizing room with
  | _ n ih =>
    cases fit : fits sizes room with
    | none => rw [rest_of_none fit]
    | some size =>
      have pos := positive size (fits_mem fit)
      have small := fits_le fit
      have goes : next (sizes ++ -back :: others) room = some (room - size) := by
        rw [next_append nonneg (pos.trans_le small), fit]
      rw [ends_next goes, rest_of_fits positive fit]
      exact ih (room - size).toNat (by omega) (by omega) rfl

/-- Then room is given back until something fits. -/
theorem ends_refill (some_ : sizes ≠ []) (pos : 0 < back)
    (open_ : 0 < room) (small : room < least sizes) :
    Ends (sizes ++ -back :: others) room ↔
      Ends (sizes ++ -back :: others) (room + back * ceilDiv (least sizes - room) back) := by
  induction bound : (least sizes - room).toNat using Nat.strong_induction_on generalizing room with
  | _ n ih =>
    have goes : next (sizes ++ -back :: others) room = some (room + back) := by
      rw [next_append pos.le open_, fits_eq_none.mpr ((lt_least some_).mp small)]
    rw [ends_next goes]
    have shift := ceilDiv_add_self (a := least sizes - (room + back)) pos
    rw [show least sizes - (room + back) + back = least sizes - room by ring] at shift
    by_cases still : room + back < least sizes
    · rw [ih (least sizes - (room + back)).toNat (by omega) (by omega) still rfl, shift]
      rw [show room + back + back * ceilDiv (least sizes - (room + back)) back =
        room + back * (ceilDiv (least sizes - (room + back)) back + 1) by ring]
    · have once : ceilDiv (least sizes - room) back = 1 := by
        apply le_antisymm
        · rw [ceilDiv_le_iff pos]
          omega
        · exact Int.add_one_le_iff.mpr (ceilDiv_pos pos (by omega))
      rw [once, mul_one]

/-- Packing goes on from rest to rest. -/
theorem ends_round (positive : ∀ size ∈ sizes, 0 < size) (some_ : sizes ≠ []) (nonneg : 0 ≤ back)
    (open_ : 0 < room) (small : room < least sizes) :
    Ends (sizes ++ -back :: others) room ↔
      Ends (sizes ++ -back :: others) (round sizes back room) := by
  rcases nonneg.eq_or_lt with rfl | pos
  · rw [round, zero_mul, add_zero, ← ends_rest positive le_rfl open_.le]
  · have given := ceilDiv_nonneg (a := least sizes - room) pos (by omega)
    have low : 0 ≤ room + back * ceilDiv (least sizes - room) back := by positivity
    rw [ends_refill some_ pos open_ small, round, ends_rest positive nonneg low]

/-- A room that comes to a zero rest ends. -/
theorem ends_of_reaches (positive : ∀ size ∈ sizes, 0 < size) (some_ : sizes ≠ [])
    (nonneg : 0 ≤ back) {k : ℕ} (low : 0 ≤ room) (small : room < least sizes)
    (reached : (round sizes back)^[k] room = 0) : Ends (sizes ++ -back :: others) room := by
  induction k generalizing room with
  | zero => exact ends_of_nonpos reached.le
  | succ k ih =>
    rcases low.eq_or_lt with rfl | open_
    · exact ends_of_nonpos le_rfl
    · rw [ends_round positive some_ nonneg open_ small]
      obtain ⟨low', small'⟩ := round_bounds positive some_ nonneg open_ small
      exact ih low' small' reached

end Refills

/-! ### When packing ends -/

section Ending

/-- What is reached from below a bound without leaving it, is reached in as many steps. -/
theorem reaches_within {f : ℤ → ℤ} {bound start : ℤ}
    (stays : ∀ x, 0 < x → x < bound → 0 ≤ f x ∧ f x < bound) (low : 0 ≤ start)
    (small : start < bound) (reaches : ∃ k, f^[k] start = 0) :
    ∃ k < bound.toNat, f^[k] start = 0 := by
  classical
  refine ⟨Nat.find reaches, ?_, Nat.find_spec reaches⟩
  have before : ∀ i, i ≤ Nat.find reaches → 0 ≤ f^[i] start ∧ f^[i] start < bound := by
    intro i
    induction i with
    | zero => exact fun _ => ⟨low, small⟩
    | succ i ih =>
      intro early
      obtain ⟨low', small'⟩ := ih (by omega)
      have nonzero : f^[i] start ≠ 0 := Nat.find_min reaches (by omega)
      rw [Function.iterate_succ_apply']
      exact stays _ (by omega) small'
  by_contra late
  -- two of the values before the first zero are the same, and the zero comes sooner
  have crowded : (Finset.Ioo 0 bound).card < (Finset.range (Nat.find reaches)).card := by
    rw [Int.card_Ioo, Finset.card_range]
    omega
  have inside : ∀ i ∈ Finset.range (Nat.find reaches), f^[i] start ∈ Finset.Ioo 0 bound := by
    intro i early
    have sooner := Finset.mem_range.mp early
    obtain ⟨low', small'⟩ := before i sooner.le
    have nonzero : f^[i] start ≠ 0 := Nat.find_min reaches sooner
    exact Finset.mem_Ioo.mpr ⟨by omega, small'⟩
  obtain ⟨i, early, j, early', differ, same⟩ :=
    Finset.exists_ne_map_eq_of_card_lt_of_maps_to crowded inside
  rw [Finset.mem_range] at early early'
  have sooner : ∀ i j, i < j → j < Nat.find reaches → f^[i] start = f^[j] start → False := by
    intro i j apart late same
    refine Nat.find_min reaches (m := Nat.find reaches - j + i) (by omega) ?_
    rw [Function.iterate_add_apply, same, ← Function.iterate_add_apply,
      Nat.sub_add_cancel late.le]
    exact Nat.find_spec reaches
  rcases lt_or_gt_of_ne differ with first | second
  · exact sooner i j first early' same
  · exact sooner j i second early same.symm

variable {sizes others : List ℤ} {room back : ℤ}

/-- Where the first size gives room back, or takes none, packing never ends. -/
theorem not_ends_of_first (nonneg : 0 ≤ back) (open_ : 0 < room) :
    ¬ Ends (-back :: others) room := by
  have goes {room : ℤ} (open_ : 0 < room) : next (-back :: others) room = some (room + back) :=
    @next_append [] room back others nonneg open_
  intro ends
  induction ends with
  | stop halts => exact absurd ((goes open_).symm.trans halts) (by simp)
  | step stepped tail ih =>
    obtain rfl := Option.some.inj ((goes open_).symm.trans stepped)
    exact ih (by omega)

/-- **Packing with a size that is not positive** ends exactly when one of the first few rests that the
positive sizes before it leave is zero. -/
theorem ends_iff (positive : ∀ size ∈ sizes, 0 < size) (nonneg : 0 ≤ back) (open_ : 0 < room) :
    Ends (sizes ++ -back :: others) room ↔
      ∃ k < (least sizes).toNat, (round sizes back)^[k] (rest sizes room) = 0 := by
  rcases eq_or_ne sizes [] with rfl | some_
  · refine iff_of_false (not_ends_of_first nonneg open_) ?_
    rintro ⟨k, few, -⟩
    exact absurd few (Nat.not_lt_zero k)
  obtain ⟨low, small⟩ := rest_bounds positive some_ open_.le
  constructor
  · intro ends
    obtain ⟨k, reached⟩ := reaches_of_ends positive some_ nonneg ends open_
    refine reaches_within (fun x pos below => round_bounds positive some_ nonneg pos below) low small
      ?_
    by_cases tight : room < least sizes
    · -- nothing fits the room: it is its own rest
      rw [target, if_pos tight] at reached
      rw [rest_of_none (fits_eq_none.mpr ((lt_least some_).mp tight))]
      exact ⟨k + 1, reached⟩
    · rw [target, if_neg tight] at reached
      exact ⟨k, reached⟩
  · rintro ⟨k, -, reached⟩
    rw [ends_rest positive nonneg open_.le]
    exact ends_of_reaches positive some_ nonneg low small reached

end Ending

end Retrovue.Foundation.FirstFit
