/-
**Arcs of a circle of whole numbers.**

A circle has a period; an arc runs from a start to an end, once around where the two are the same
place.

* `arcLength`, `InArc`: how long an arc is, and the places on it;
* `arcLength_mul`, `inArc_mul`: a finer circle has the same arcs;
* `arcLength_of_shift`: an arc whose end is moved by less than a unit of a coarser circle;
* `countP_around`: places taken in turn around the circle meet each place at most once.
-/

import Mathlib

namespace Retrovue.Foundation.Arcs

/-! ### Arcs -/

section Arcs

/-- The length of the arc from `start` to `stop`. -/
def arcLength (period start stop : ℤ) : ℤ :=
  if (stop - start) % period = 0 then period else (stop - start) % period

/-- The place `x` is on the arc from `start` to `stop`, its end left out. -/
def InArc (period start stop x : ℤ) : Prop := (x - start) % period < arcLength period start stop

instance inArcDecidable (period start stop x : ℤ) : Decidable (InArc period start stop x) :=
  inferInstanceAs (Decidable ((x - start) % period < arcLength period start stop))

variable {period start stop x : ℤ}

theorem arcLength_pos (positive : 0 < period) : 0 < arcLength period start stop := by
  unfold arcLength
  split_ifs with closed
  · exact positive
  · have nonneg := Int.emod_nonneg (stop - start) positive.ne'
    omega

theorem arcLength_le (positive : 0 < period) : arcLength period start stop ≤ period := by
  unfold arcLength
  split_ifs
  · exact le_refl _
  · exact (Int.emod_lt_of_pos _ positive).le

/-- The length is what leads from the start to the end. -/
theorem arcLength_emod :
    arcLength period start stop % period = (stop - start) % period := by
  unfold arcLength
  split_ifs with closed
  · rw [Int.emod_self, closed]
  · exact Int.emod_emod_of_dvd _ (dvd_refl _)

/-- What leads from the start to the end, and is no longer than the circle, is the length. -/
theorem arcLength_unique (positive : 0 < period) {length : ℤ} (pos : 0 < length)
    (le : length ≤ period) (leads : length % period = (stop - start) % period) :
    arcLength period start stop = length := by
  unfold arcLength
  rw [← leads]
  rcases le.lt_or_eq with lt | rfl
  · rw [Int.emod_eq_of_lt pos.le lt, if_neg pos.ne']
  · rw [Int.emod_self, if_pos rfl]

theorem inArc_start (positive : 0 < period) : InArc period start stop start := by
  rw [InArc, sub_self, Int.zero_emod]
  exact arcLength_pos positive

/-- Places that are a number of turns apart are on the same arcs. -/
theorem inArc_emod : InArc period start stop (x % period) ↔ InArc period start stop x := by
  rw [InArc, InArc, Int.emod_sub_emod]

end Arcs

/-! ### Finer circles -/

section Scale

variable {period start stop unit : ℤ}

/-- **A finer circle** has the arcs of the coarser one. -/
theorem arcLength_mul (fine : 0 < unit) :
    arcLength (unit * period) (unit * start) (unit * stop) =
      unit * arcLength period start stop := by
  unfold arcLength
  rw [← mul_sub, Int.mul_emod_mul_of_pos _ _ fine]
  by_cases closed : (stop - start) % period = 0
  · rw [if_pos closed, if_pos (by rw [closed, mul_zero])]
  · rw [if_neg closed, if_neg (mul_ne_zero fine.ne' closed)]

/-- A place on the finer circle is on the arc when the unit it is in is. -/
theorem inArc_mul (positive : 0 < period) {x rest : ℤ} (nonneg : 0 ≤ rest) (lt : rest < unit) :
    InArc (unit * period) (unit * start) (unit * stop) (unit * x + rest) ↔
      InArc period start stop x := by
  have fine : 0 < unit := nonneg.trans_lt lt
  have place : (unit * x + rest - unit * start) % (unit * period) =
      unit * ((x - start) % period) + rest := by
    have apart : unit * x + rest - unit * start =
        (unit * ((x - start) % period) + rest) + unit * period * ((x - start) / period) := by
      have division := Int.emod_add_mul_ediv (x - start) period
      linear_combination -unit * division
    rw [apart, Int.add_mul_emod_self_left]
    have below := Int.emod_lt_of_pos (x - start) positive
    have above := Int.emod_nonneg (x - start) positive.ne'
    refine Int.emod_eq_of_lt (by positivity) ?_
    calc unit * ((x - start) % period) + rest < unit * ((x - start) % period) + unit := by omega
      _ = unit * ((x - start) % period + 1) := by ring
      _ ≤ unit * period := by gcongr; omega
  rw [InArc, InArc, place, arcLength_mul fine]
  constructor
  · intro before
    by_contra after
    have reaches : unit * arcLength period start stop ≤ unit * ((x - start) % period) := by
      gcongr
      omega
    omega
  · intro before
    calc unit * ((x - start) % period) + rest < unit * ((x - start) % period) + unit := by omega
      _ = unit * ((x - start) % period + 1) := by ring
      _ ≤ unit * arcLength period start stop := by gcongr; omega

/-- **An end that is moved** by less than a unit: the length moves with it, but for the whole circle,
which an end moved on leaves all but empty. -/
theorem arcLength_of_shift (fine : 0 < unit) (positive : 0 < period) {shift : ℤ}
    (back : -unit < shift) (on : shift < unit) :
    arcLength (unit * period) (unit * start) (unit * stop + shift) =
      if arcLength period start stop = period ∧ 0 < shift then shift
      else unit * arcLength period start stop + shift := by
  have whole : 0 < unit * period := mul_pos fine positive
  have pos := @arcLength_pos period start stop positive
  have le := @arcLength_le period start stop positive
  have scaled := @arcLength_mul period start stop unit fine
  have leads := @arcLength_emod (unit * period) (unit * start) (unit * stop)
  rw [scaled] at leads
  have first : unit ≤ unit * arcLength period start stop := by nlinarith
  split_ifs with around
  · refine arcLength_unique whole around.2 ?_ ?_
    · rw [around.1] at first
      omega
    · rw [around.1, Int.emod_self] at leads
      have moved : unit * stop + shift - unit * start = (unit * stop - unit * start) + shift := by ring
      rw [moved, Int.add_emod, ← leads, zero_add, Int.emod_emod_of_dvd _ (dvd_refl _)]
  · refine arcLength_unique whole (by omega) ?_ ?_
    · by_cases full : arcLength period start stop = period
      · rw [full]
        have still : ¬ 0 < shift := fun ahead => around ⟨full, ahead⟩
        omega
      · have short : unit * (arcLength period start stop + 1) ≤ unit * period := by
          gcongr
          omega
        rw [mul_add, mul_one] at short
        omega
    · have moved : unit * stop + shift - unit * start = (unit * stop - unit * start) + shift := by ring
      rw [moved, Int.add_emod, leads, ← Int.add_emod]

end Scale

/-! ### Places in turn -/

section Turns

/-- **Places taken in turn** around the circle, at most once around, meet each place at most once. -/
theorem countP_around {period first place : ℤ} {count : ℕ} (most : (count : ℤ) ≤ period)
    (nonneg : 0 ≤ place) (lt : place < period) :
    (List.range count).countP (fun i : ℕ => decide ((first + (i : ℤ)) % period = place)) =
      if (place - first) % period < count then 1 else 0 := by
  have positive : 0 < period := nonneg.trans_lt lt
  obtain ⟨turn, isTurn⟩ := Int.eq_ofNat_of_zero_le (Int.emod_nonneg (place - first) positive.ne')
  have turns : ∀ i ∈ List.range count,
      decide ((first + (i : ℤ)) % period = place) = true ↔ (i == turn) = true := by
    intro i inRange
    have below : (i : ℤ) < period := by
      have := List.mem_range.mp inRange
      omega
    rw [decide_eq_true_eq, beq_iff_eq]
    constructor
    · rintro rfl
      rw [Int.emod_sub_emod, add_sub_cancel_left, Int.emod_eq_of_lt (by omega) below] at isTurn
      exact_mod_cast isTurn
    · rintro rfl
      rw [← isTurn, Int.add_emod_emod, add_sub_cancel, Int.emod_eq_of_lt nonneg lt]
  rw [List.countP_congr turns, ← List.count, List.nodup_range.count, isTurn]
  congr 1
  rw [List.mem_range, Nat.cast_lt]

end Turns

end Retrovue.Foundation.Arcs
