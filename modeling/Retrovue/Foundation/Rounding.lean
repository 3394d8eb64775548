/-
**Rounding a ratio of integers down and up.**

* `ceilDiv`: the quotient rounded up, as integer code computes it;
* `ceilDiv_le_iff`, `lt_ceilDiv_iff`: it is the least number that covers the ratio; floors have the
  same two facts in the library (`Int.le_ediv_iff_mul_le`, `Int.ediv_lt_iff_lt_mul`);
* `ediv_le_ceilDiv`, `ceilDiv_le_ediv_add_one`, `ceilDiv_add_le`, `ceilDiv_add_ge`: how the two
  roundings compare and how the upper one adds up;
* `ceilDiv_ediv`, `isGreatest_steps`, `ediv_steps`: counting steps that last `length / count`, at
  least one unit each, there and back.
-/

import Mathlib

namespace Retrovue.Foundation.Rounding

/-! ### Rounding up -/

section Ceiling

/-- `a / b` rounded up. -/
def ceilDiv (a b : ℤ) : ℤ := (a + b - 1) / b

variable {a a' b n : ℤ}

/-- The ceiling is the least number whose multiple covers `a`. -/
theorem ceilDiv_le_iff (pos : 0 < b) : ceilDiv a b ≤ n ↔ a ≤ n * b := by
  rw [ceilDiv, ← Int.lt_add_one_iff, Int.ediv_lt_iff_lt_mul pos, add_mul, one_mul]
  omega

theorem lt_ceilDiv_iff (pos : 0 < b) : n < ceilDiv a b ↔ n * b < a := by
  rw [← not_le, ceilDiv_le_iff pos, not_le]

theorem le_ceilDiv_mul (pos : 0 < b) : a ≤ ceilDiv a b * b := (ceilDiv_le_iff pos).mp le_rfl

theorem ceilDiv_mul_lt (pos : 0 < b) : ceilDiv a b * b < a + b := by
  have short : (ceilDiv a b - 1) * b < a := (lt_ceilDiv_iff pos).mp (sub_one_lt _)
  rw [sub_mul, one_mul] at short
  omega

theorem ceilDiv_mono (pos : 0 < b) (le : a ≤ a') : ceilDiv a b ≤ ceilDiv a' b :=
  (ceilDiv_le_iff pos).mpr (le.trans (le_ceilDiv_mul pos))

theorem ceilDiv_zero (pos : 0 < b) : ceilDiv 0 b = 0 := by
  rw [ceilDiv, zero_add]
  exact Int.ediv_eq_zero_of_lt (by omega) (by omega)

theorem ceilDiv_pos (pos : 0 < b) (positive : 0 < a) : 0 < ceilDiv a b := by
  rw [lt_ceilDiv_iff pos, zero_mul]
  exact positive

theorem ceilDiv_nonneg (pos : 0 < b) (nonneg : 0 ≤ a) : 0 ≤ ceilDiv a b :=
  (ceilDiv_zero pos).symm.le.trans (ceilDiv_mono pos nonneg)

theorem ceilDiv_add_self (pos : 0 < b) : ceilDiv (a + b) b = ceilDiv a b + 1 := by
  unfold ceilDiv
  rw [show a + b + b - 1 = a + b - 1 + b * 1 by ring, Int.add_mul_ediv_left _ _ pos.ne']

/-- The floor is at most the ceiling. -/
theorem ediv_le_ceilDiv (pos : 0 < b) : a / b ≤ ceilDiv a b := by
  have low : a / b * b ≤ a := Int.ediv_mul_le a pos.ne'
  exact le_of_mul_le_mul_right (low.trans (le_ceilDiv_mul pos)) pos

/-- The ceiling is at most one above the floor. -/
theorem ceilDiv_le_ediv_add_one (pos : 0 < b) : ceilDiv a b ≤ a / b + 1 := by
  rw [ceilDiv_le_iff pos]
  exact (Int.lt_ediv_add_one_mul_self a pos).le

/-- **Ceilings are sub-additive.** -/
theorem ceilDiv_add_le (pos : 0 < b) : ceilDiv (a + a') b ≤ ceilDiv a b + ceilDiv a' b := by
  rw [ceilDiv_le_iff pos, add_mul]
  exact add_le_add (le_ceilDiv_mul pos) (le_ceilDiv_mul pos)

/-- Two ceilings exceed the ceiling of the sum by at most one. -/
theorem ceilDiv_add_ge {c : ℤ} (pos : 0 < b) :
    ceilDiv a b + ceilDiv c b ≤ ceilDiv (a + c) b + 1 := by
  have first := ceilDiv_mul_lt (a := a) pos
  have second := ceilDiv_mul_lt (a := c) pos
  have covered := le_ceilDiv_mul (a := a + c) pos
  by_contra few
  have more : ceilDiv (a + c) b + 2 ≤ ceilDiv a b + ceilDiv c b := by omega
  have scaled := mul_le_mul_of_nonneg_right more pos.le
  rw [add_mul, add_mul] at scaled
  omega

end Ceiling

/-! ### Steps of a fixed length -/

section Steps

variable {count length : ℤ}

/-- A number of steps is recovered from their total time rounded down, by rounding up. -/
theorem ceilDiv_ediv (pos : 0 < count) (long : count ≤ length) (n : ℤ) :
    ceilDiv (n * length / count * count) length = n := by
  have lengthPos : 0 < length := pos.trans_le long
  have low : n * length / count * count ≤ n * length := Int.ediv_mul_le _ pos.ne'
  have high : n * length < (n * length / count + 1) * count := Int.lt_ediv_add_one_mul_self _ pos
  apply le_antisymm
  · rw [ceilDiv_le_iff lengthPos]
    exact low
  · rw [← Int.sub_one_lt_iff, lt_ceilDiv_iff lengthPos, sub_mul, one_mul]
    rw [add_mul, one_mul] at high
    omega

/-- `n` steps are over by time `d` exactly when they start before `d + 1`. -/
theorem steps_le_iff (pos : 0 < count) (long : count ≤ length) (n d : ℤ) :
    n * length / count ≤ d ↔ n ≤ ceilDiv ((d + 1) * count) length - 1 := by
  rw [← Int.lt_add_one_iff, Int.ediv_lt_iff_lt_mul pos, Int.le_sub_one_iff,
    lt_ceilDiv_iff (pos.trans_le long)]

/-- The most steps that are over by time `d`. -/
theorem isGreatest_steps (pos : 0 < count) (long : count ≤ length) {d : ℤ} (nonneg : 0 ≤ d) :
    IsGreatest {n : ℤ | 0 ≤ n ∧ n * length / count ≤ d}
      (ceilDiv ((d + 1) * count) length - 1) := by
  constructor
  · refine ⟨?_, (steps_le_iff pos long _ d).mpr le_rfl⟩
    rw [Int.le_sub_one_iff]
    exact ceilDiv_pos (pos.trans_le long) (mul_pos (by omega) pos)
  · rintro n ⟨-, done⟩
    exact (steps_le_iff pos long n d).mp done

/-- Rounding the ratio down gives that number of steps, or one less. -/
theorem ediv_steps (pos : 0 < count) (long : count ≤ length) (d : ℤ) :
    d * count / length = ceilDiv ((d + 1) * count) length - 1 ∨
      d * count / length = ceilDiv ((d + 1) * count) length - 1 - 1 := by
  have lengthPos : 0 < length := pos.trans_le long
  have low : d * count / length < ceilDiv ((d + 1) * count) length := by
    rw [lt_ceilDiv_iff lengthPos, add_mul, one_mul]
    have floor : d * count / length * length ≤ d * count := Int.ediv_mul_le _ lengthPos.ne'
    omega
  have high : ceilDiv ((d + 1) * count) length ≤ d * count / length + 2 := by
    rw [ceilDiv_le_iff lengthPos, add_mul d 1 count, one_mul, add_mul]
    have ceiling : d * count < (d * count / length + 1) * length :=
      Int.lt_ediv_add_one_mul_self _ lengthPos
    rw [add_mul, one_mul] at ceiling
    omega
  omega

end Steps

end Retrovue.Foundation.Rounding
