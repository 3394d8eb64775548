/-
**Counting at a rate.**

* `rate_eq_of_bounded`: the multiples of two rates stay within a bound of each other only when the
  rates are equal;
* `accumulate`: a budget that grows by an increment each tick and fires when it reaches a threshold,
  at most once a tick;
* `accumulate_conserves`, `accumulate_close`: an increment up to the threshold fires at the rate of
  their quotient, less than one firing off;
* `accumulate_saturates`: a larger one fires each tick and no more often.
-/

import Mathlib

namespace Retrovue.Foundation.Rates

/-! ### Two rates -/

section Drift

variable {K : Type*} [Field K] [LinearOrder K] [IsStrictOrderedRing K] [Archimedean K]

/-- A drift whose multiples are bounded is none. -/
theorem eq_zero_of_bounded {drift bound : K} (held : ∀ n : ℕ, |n * drift| ≤ bound) : drift = 0 := by
  by_contra nonzero
  have positive : 0 < |drift| := abs_pos.mpr nonzero
  obtain ⟨n, large⟩ := exists_nat_gt (bound / |drift|)
  rw [div_lt_iff₀ positive] at large
  have bounded := held n
  rw [abs_mul, Nat.abs_cast] at bounded
  exact absurd large (not_lt.mpr bounded)

/-- **Two rates that stay within a bound are equal.** -/
theorem rate_eq_of_bounded {rate other bound : K} (held : ∀ n : ℕ, |n * rate - n * other| ≤ bound) :
    rate = other := by
  apply sub_eq_zero.mp
  apply eq_zero_of_bounded
  intro n
  rw [mul_sub]
  exact held n

end Drift

/-! ### A budget -/

section Budget

variable (increment threshold : ℤ)

/-- The budget after a tick, and whether it fired. -/
def tick (budget : ℤ) : ℤ × Bool :=
  if threshold ≤ budget + increment then (budget + increment - threshold, true)
  else (budget + increment, false)

/-- The budget after some ticks, and how often it fired. -/
def accumulate (budget : ℤ) : ℕ → ℤ × ℕ
  | 0 => (budget, 0)
  | n + 1 =>
    ((tick increment threshold (accumulate budget n).1).1,
      (accumulate budget n).2 + (tick increment threshold (accumulate budget n).1).2.toNat)

/-- A firing takes the threshold out of the budget. -/
theorem tick_conserves (budget : ℤ) :
    (tick increment threshold budget).1 + (tick increment threshold budget).2.toNat * threshold =
      budget + increment := by
  unfold tick
  split <;> simp

/-- **Nothing is lost**: the budget and what was fired add up to what came in. -/
theorem accumulate_conserves (budget : ℤ) (n : ℕ) :
    (accumulate increment threshold budget n).1 +
        (accumulate increment threshold budget n).2 * threshold = budget + n * increment := by
  induction n with
  | zero => simp [accumulate]
  | succ n ih =>
    have step := tick_conserves increment threshold (accumulate increment threshold budget n).1
    simp only [accumulate]
    push_cast
    linarith

variable {increment threshold}

/-- A budget below the threshold stays there, when the increment is no larger. -/
theorem accumulate_below (nonneg : 0 ≤ increment) (slow : increment ≤ threshold) {budget : ℤ}
    (start : 0 ≤ budget ∧ budget < threshold) (n : ℕ) :
    0 ≤ (accumulate increment threshold budget n).1 ∧
      (accumulate increment threshold budget n).1 < threshold := by
  induction n with
  | zero => exact start
  | succ n ih =>
    simp only [accumulate, tick]
    split <;> dsimp only <;> omega

/-- **A slow budget fires at its rate**, less than one firing off. -/
theorem accumulate_close (nonneg : 0 ≤ increment) (slow : increment ≤ threshold) {budget : ℤ}
    (start : 0 ≤ budget ∧ budget < threshold) (n : ℕ) :
    |((accumulate increment threshold budget n).2 : ℚ) - n * (increment / threshold)| < 1 := by
  have positive : (0 : ℚ) < threshold := by exact_mod_cast start.1.trans_lt start.2
  have below := accumulate_below nonneg slow start n
  have conserved : ((accumulate increment threshold budget n).1 : ℚ) +
      (accumulate increment threshold budget n).2 * threshold = budget + n * increment := by
    exact_mod_cast accumulate_conserves increment threshold budget n
  have gap : ((accumulate increment threshold budget n).2 : ℚ) - n * (increment / threshold) =
      (budget - (accumulate increment threshold budget n).1) / threshold := by
    field_simp
    linarith
  rw [gap, abs_lt, lt_div_iff₀ positive, div_lt_iff₀ positive]
  have low : (0 : ℚ) ≤ budget := by exact_mod_cast start.1
  have high : (budget : ℚ) < threshold := by exact_mod_cast start.2
  have low' : (0 : ℚ) ≤ (accumulate increment threshold budget n).1 := by exact_mod_cast below.1
  have high' : ((accumulate increment threshold budget n).1 : ℚ) < threshold := by
    exact_mod_cast below.2
  constructor <;> linarith

/-- **A fast budget fires each tick**, and no more often. -/
theorem accumulate_saturates (fast : threshold ≤ increment) {budget : ℤ} (start : 0 ≤ budget)
    (n : ℕ) :
    (accumulate increment threshold budget n).2 = n ∧
      0 ≤ (accumulate increment threshold budget n).1 := by
  induction n with
  | zero => exact ⟨rfl, start⟩
  | succ n ih =>
    have fires : threshold ≤ (accumulate increment threshold budget n).1 + increment := by omega
    simp only [accumulate, tick, if_pos fires, ih.1]
    exact ⟨rfl, by omega⟩

end Budget

end Retrovue.Foundation.Rates
