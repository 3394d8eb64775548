/-
**Tick deadlines in 64-bit arithmetic** (`OutputClock.cpp`, `RationalFps.hpp`).

* `int64`: a result stored in an `int64_t`, wrapped around;
* `deadlineOffsetNs`: the deadline of a frame, counted from the start of the session. The product of
  index, nanoseconds and denominator is formed before the division;
* `deadlineOffsetNs_exact`, `deadlineOffsetNs_wrapped`: it is exact below `2 ^ 63`, and wrong from
  there on;
* `deadlines_iff`: how long the deadlines of a session stay exact and in order;
* `deadlines_ntsc_wrap`: at 29.97 frames a second that is three and a half days.
-/

import Mathlib
import Retrovue.Air.Blockplan.RationalTime
import Retrovue.Air.Runtime.HouseRate

namespace Retrovue.Air.Blockplan

open Retrovue.Air.Runtime

/-! ### The clock -/

section Clock

/-- A number stored in an `int64_t`: two's complement. -/
def int64 (x : Int) : Int := x.bmod 18446744073709551616

/-- `DurationFromFramesNs`, as the machine computes it. -/
def RationalFps.durationFromFramesNs64 (fps : RationalFps) (frames : Int) : Int :=
  if fps.isValid then (int64 (int64 (frames * 1000000000) * fps.den)).tdiv fps.num else 0

/-- `DeadlineOffsetNs` of a clock constructed from the house rate. -/
def deadlineOffsetNs (house : RationalFps) (sessionFrameIndex : Int) : Int :=
  (RationalFps.make house.num house.den).durationFromFramesNs64 sessionFrameIndex

/-- The deadlines of a session of some frames are the exact times rounded down, and increase. -/
structure Deadlines (house : RationalFps) (frames : Int) : Prop where
  exact : ∀ n, 0 ≤ n → n ≤ frames →
    deadlineOffsetNs house n = n * 1000000000 * house.den / house.num
  increasing : ∀ n m, 0 ≤ n → n < m → m ≤ frames →
    deadlineOffsetNs house n < deadlineOffsetNs house m

end Clock

/-! ### Wrapping around -/

section Wrapping

variable {house : RationalFps}

/-- Normalizing a rate again changes nothing. -/
theorem make_self (fps : RationalFps) : RationalFps.make fps.num fps.den = fps := by
  obtain ⟨num, den, normal⟩ := fps
  rcases normal with ⟨numPos, denPos, coprime⟩ | ⟨rfl, rfl⟩
  · rw [RationalFps.make, if_neg denPos.not_gt, dif_pos ⟨numPos, denPos⟩]
    simp [RationalFps.reduced, coprime]
  · decide

/-- The two products wrap as one. -/
theorem deadlineOffsetNs_eq (valid : house.isValid = true) (n : Int) :
    deadlineOffsetNs house n = (int64 (n * 1000000000 * house.den)).tdiv house.num := by
  rw [deadlineOffsetNs, make_self, RationalFps.durationFromFramesNs64, if_pos valid]
  unfold int64
  rw [Int.bmod_mul_bmod]

/-- A number in the range of `int64_t` is stored as it is. -/
theorem int64_of_fits {x : Int} (nonneg : 0 ≤ x) (fits : x < 9223372036854775808) : int64 x = x :=
  Int.bmod_eq_of_le (by omega) (by omega)

/-- A number past the range is stored as one that is smaller by a multiple of `2 ^ 64`. -/
theorem int64_of_past {x : Int} (past : 9223372036854775808 ≤ x) :
    int64 x ≤ x - 18446744073709551616 := by
  have split : int64 x + 18446744073709551616 * x.bdiv 18446744073709551616 = x :=
    Int.bmod_add_bdiv x 18446744073709551616
  have small : int64 x < (18446744073709551616 + 1) / 2 := Int.bmod_lt (by omega)
  omega

/-- Below `2 ^ 63` the deadline is the exact time rounded down. -/
theorem deadlineOffsetNs_exact (valid : house.isValid = true) {n : Int} (nonneg : 0 ≤ n)
    (fits : n * 1000000000 * house.den < 9223372036854775808) :
    deadlineOffsetNs house n = n * 1000000000 * house.den / house.num := by
  obtain ⟨_, den⟩ := RationalFps.positive valid
  have product : 0 ≤ n * 1000000000 * house.den := by positivity
  rw [deadlineOffsetNs_eq valid, int64_of_fits product fits, Int.tdiv_eq_ediv_of_nonneg product]

/-- From `2 ^ 63` on it is not. -/
theorem deadlineOffsetNs_wrapped (valid : house.isValid = true)
    (stored : house.num < 9223372036854775808) {n : Int}
    (past : 9223372036854775808 ≤ n * 1000000000 * house.den) :
    deadlineOffsetNs house n < n * 1000000000 * house.den / house.num := by
  obtain ⟨num, _⟩ := RationalFps.positive valid
  have wrapped := int64_of_past past
  rw [deadlineOffsetNs_eq valid]
  by_cases sign : 0 ≤ int64 (n * 1000000000 * house.den)
  · rw [Int.tdiv_eq_ediv_of_nonneg sign]
    have below : int64 (n * 1000000000 * house.den) / house.num * house.num ≤
        int64 (n * 1000000000 * house.den) := Int.ediv_mul_le _ num.ne'
    rw [← Int.add_one_le_iff, Int.le_ediv_iff_mul_le num, add_mul, one_mul]
    omega
  · -- a deadline before the session started
    have before_start : 0 ≤ (-int64 (n * 1000000000 * house.den)).tdiv house.num :=
      Int.tdiv_nonneg (by omega) num.le
    rw [Int.neg_tdiv] at before_start
    have positive : 1 ≤ n * 1000000000 * house.den / house.num := by
      rw [Int.le_ediv_iff_mul_le num, one_mul]
      omega
    omega

end Wrapping

/-! ### A session's deadlines -/

section Sessions

variable {house : RationalFps}

/-- Exact deadlines increase when a frame lasts a nanosecond or more. -/
theorem exact_increases (valid : house.isValid = true)
    (slow : house.num ≤ 1000000000 * house.den) {n m : Int} (lt : n < m) :
    n * 1000000000 * house.den / house.num < m * 1000000000 * house.den / house.num := by
  obtain ⟨num, den⟩ := RationalFps.positive valid
  have apart : n * 1000000000 * house.den + 1000000000 * house.den ≤
      m * 1000000000 * house.den := by
    calc n * 1000000000 * house.den + 1000000000 * house.den
        = (n + 1) * (1000000000 * house.den) := by ring
      _ ≤ m * (1000000000 * house.den) := mul_le_mul_of_nonneg_right (by omega) (by positivity)
      _ = m * 1000000000 * house.den := by ring
  rw [← Int.add_one_le_iff, Int.le_ediv_iff_mul_le num, add_mul, one_mul]
  have low := Int.ediv_mul_le (n * 1000000000 * house.den) num.ne'
  omega

/-- **The deadlines of a session are exact and in order exactly as long as the index of its last
frame, times `10 ^ 9` and the denominator, stays below `2 ^ 63`**; beyond a thousand million frames a
second they are not in order. -/
theorem deadlines_iff (house : RationalFps) (valid : house.isValid = true)
    (stored : house.num < 9223372036854775808) (frames : Int) (nonneg : 0 ≤ frames) :
    Deadlines house frames ↔
      frames * 1000000000 * house.den < 9223372036854775808 ∧
        (0 < frames → house.num ≤ 1000000000 * house.den) := by
  obtain ⟨num, den⟩ := RationalFps.positive valid
  constructor
  · intro held
    have fits : frames * 1000000000 * house.den < 9223372036854775808 := by
      by_contra past
      have wrapped := deadlineOffsetNs_wrapped valid stored (not_lt.mp past)
      rw [held.exact frames nonneg le_rfl] at wrapped
      exact lt_irrefl _ wrapped
    refine ⟨fits, ?_⟩
    intro some_frame
    -- the first two deadlines of a faster rate are both zero
    by_contra fast
    have first := held.increasing 0 1 le_rfl one_pos (by omega)
    rw [held.exact 0 le_rfl nonneg, held.exact 1 (by omega) (by omega)] at first
    rw [Int.ediv_eq_zero_of_lt (a := 1 * 1000000000 * house.den) (by positivity) (by omega)] at first
    simp at first
  · rintro ⟨fits, slow⟩
    have below : ∀ n, n ≤ frames → n * 1000000000 * house.den < 9223372036854775808 := by
      intro n le
      have mono : n * 1000000000 * house.den ≤ frames * 1000000000 * house.den :=
        mul_le_mul_of_nonneg_right (by omega) den.le
      omega
    constructor
    · intro n start le
      exact deadlineOffsetNs_exact valid start (below n le)
    · intro n m start lt le
      rw [deadlineOffsetNs_exact valid start (below n (by omega)),
        deadlineOffsetNs_exact valid (by omega) (below m le)]
      exact exact_increases valid (slow (by omega)) lt

/-- At 60 frames a second the deadlines of a year are exact and in order. -/
theorem deadlines_year_60 : Deadlines (.make 60 1) (31536000 * 60) :=
  (deadlines_iff (.make 60 1) (by decide) (by decide) _ (by decide)).mpr (by decide)

/-- The rate that a session runs with when its request has no program format, 29.97 frames a second:
three and a half days into the session, the deadline lies before its start. -/
theorem deadlines_ntsc_wrap :
    (startSession []).fps = .make 30000 1001 ∧
      9214158 * (RationalFps.make 30000 1001).den ≤ 31536000 * (RationalFps.make 30000 1001).num ∧
      ¬ Deadlines (.make 30000 1001) 9214158 ∧
      deadlineOffsetNs (.make 30000 1001) 9214158 < 0 := by
  have last : deadlineOffsetNs (.make 30000 1001) 9214158 = -307445730523651 := by
    decide +kernel
  refine ⟨rfl, by decide, ?_, ?_⟩
  · intro held
    have wrong := held.exact 9214158 (by decide) le_rfl
    rw [last] at wrong
    exact absurd wrong (by decide)
  · rw [last]
    decide

end Sessions

end Retrovue.Air.Blockplan
