/-
**Rational time arithmetic** (`RationalFps.hpp`), over exact integers.

* `fpsGcd64`, `normalizeInPlace`: the normalization as its loop computes it, and `make_normalizes`:
  the constructor of the model is that normalization;
* `durationFromFrames`, `framesFromDurationFloor`, `framesFromDurationCeil`: durations and frames, in
  a unit of `scale` ticks a second; `…Us`, `…Ms`, `…Ns` are their instances;
* `floor_le_ceil`, `ceil_add_le`: how the two roundings relate;
* `rational_time`: the arithmetic is mutually inverse, and equal ratios are equal rates.
-/

import Mathlib
import Retrovue.Foundation.Rounding
import Retrovue.Air.Blockplan.Types

namespace Retrovue.Air.Blockplan

open Retrovue.Foundation.Rounding

/-! ### Normalization -/

section Normalization

/-- `FpsAbs64`. -/
def fpsAbs64 (v : Int) : Int := if v < 0 then -v else v

/-- The loop of `FpsGcd64`; `%` on `int64_t` truncates. -/
def fpsGcdLoop (a b : Int) : Int :=
  if b = 0 then a else fpsGcdLoop b (a.tmod b)
termination_by b.natAbs
decreasing_by
  rw [Int.natAbs_tmod]
  exact Nat.mod_lt _ (by omega)

/-- `FpsGcd64`. -/
def fpsGcd64 (a b : Int) : Int :=
  if fpsGcdLoop (fpsAbs64 a) (fpsAbs64 b) = 0 then 1 else fpsGcdLoop (fpsAbs64 a) (fpsAbs64 b)

/-- `NormalizeInPlace`. -/
def normalizeInPlace (num den : Int) : Int × Int :=
  if den = 0 then (0, 1)
  else
    let flipped := if den < 0 then (-num, -den) else (num, den)
    if flipped.1 ≤ 0 ∨ flipped.2 ≤ 0 then (0, 1)
    else
      (flipped.1.tdiv (fpsGcd64 flipped.1 flipped.2), flipped.2.tdiv (fpsGcd64 flipped.1 flipped.2))

theorem fpsAbs64_eq (v : Int) : fpsAbs64 v = v.natAbs := by
  unfold fpsAbs64
  split <;> omega

/-- The loop ends with the greatest common divisor. -/
theorem fpsGcdLoop_eq (a b : ℕ) : fpsGcdLoop a b = Int.gcd a b := by
  induction b using Nat.strong_induction_on generalizing a with
  | _ b ih =>
    rw [fpsGcdLoop]
    by_cases zero : b = 0
    · simp [zero]
    · rw [if_neg (by exact_mod_cast zero), ← Int.ofNat_tmod, ih _ (Nat.mod_lt a (by omega)) b]
      simp only [Int.gcd_natCast_natCast, Nat.cast_inj]
      rw [Nat.gcd_comm, ← Nat.gcd_rec, Nat.gcd_comm]

/-- Of a positive ratio it is the greatest common divisor. -/
theorem fpsGcd64_eq {num den : Int} (positive : 0 < num ∧ 0 < den) :
    fpsGcd64 num den = Int.gcd num den := by
  have loop : fpsGcdLoop (fpsAbs64 num) (fpsAbs64 den) = Int.gcd num den := by
    rw [fpsAbs64_eq, fpsAbs64_eq, fpsGcdLoop_eq, Int.gcd_natCast_natCast, Int.gcd_def]
  have gcdPos : 0 < Int.gcd num den := Int.gcd_pos_of_ne_zero_left den positive.1.ne'
  rw [fpsGcd64, loop, if_neg (by omega)]

/-- **The constructor normalizes as the code does.** -/
theorem make_normalizes (n d : Int) :
    normalizeInPlace n d = ((RationalFps.make n d).num, (RationalFps.make n d).den) := by
  have reduced : ∀ {num den : Int} (positive : 0 < num ∧ 0 < den),
      (num.tdiv (fpsGcd64 num den), den.tdiv (fpsGcd64 num den)) =
        ((RationalFps.reduced num den positive).num, (RationalFps.reduced num den positive).den) := by
    intro num den positive
    rw [fpsGcd64_eq positive, Int.tdiv_eq_ediv_of_nonneg positive.1.le,
      Int.tdiv_eq_ediv_of_nonneg positive.2.le]
    rfl
  unfold normalizeInPlace RationalFps.make
  by_cases zero : d = 0
  · rw [if_pos zero, if_neg (by omega), dif_neg (by omega)]
    rfl
  · rw [if_neg zero]
    by_cases negative : d < 0
    · simp only [if_pos negative]
      by_cases positive : 0 < -n ∧ 0 < -d
      · rw [if_neg (by omega), dif_pos positive, reduced positive]
      · rw [if_pos (by omega), dif_neg positive]
        rfl
    · simp only [if_neg negative]
      by_cases positive : 0 < n ∧ 0 < d
      · rw [if_neg (by omega), dif_pos positive, reduced positive]
      · rw [if_pos (by omega), dif_neg positive]
        rfl

/-- A common factor does not change a reduced ratio. -/
theorem reduced_mul {k num den : Int} (factor : 0 < k) (positive : 0 < num ∧ 0 < den)
    (scaled : 0 < k * num ∧ 0 < k * den) :
    RationalFps.reduced (k * num) (k * den) scaled = RationalFps.reduced num den positive := by
  have gcd : (Int.gcd (k * num) (k * den) : Int) = k * Int.gcd num den := by
    rw [Int.gcd_mul_left, Nat.cast_mul, Int.natAbs_of_nonneg factor.le]
  simp only [RationalFps.reduced, RationalFps.mk.injEq]
  rw [gcd, Int.mul_ediv_mul_of_pos _ _ factor, Int.mul_ediv_mul_of_pos _ _ factor]
  exact ⟨rfl, rfl⟩

/-- A ratio and the ratio of its negatives are the same rate. -/
theorem make_neg (n d : Int) : RationalFps.make (-n) (-d) = RationalFps.make n d := by
  unfold RationalFps.make
  rcases lt_trichotomy d 0 with negative | zero | positive
  · rw [if_neg (by omega), if_pos negative]
  · rw [if_neg (by omega), if_neg (by omega), dif_neg (by omega), dif_neg (by omega)]
  · rw [if_pos (by omega), if_neg (by omega)]
    simp only [neg_neg]

/-- **Equal ratios are equal rates.** -/
theorem make_mul {k : Int} (factor : k ≠ 0) (n d : Int) :
    RationalFps.make (k * n) (k * d) = RationalFps.make n d := by
  have byPositive : ∀ k : Int, 0 < k →
      RationalFps.make (k * n) (k * d) = RationalFps.make n d := by
    intro k factor
    have sign : ∀ x : Int, 0 < k * x ↔ 0 < x := fun x => mul_pos_iff_of_pos_left factor
    have negative : k * d < 0 ↔ d < 0 := by
      rw [← neg_pos, ← mul_neg, sign, neg_pos]
    unfold RationalFps.make
    simp only [← mul_neg, sign, negative]
    by_cases flips : d < 0
    · rw [if_pos flips, if_pos flips]
      by_cases positive : 0 < -n ∧ 0 < -d
      · rw [dif_pos positive, dif_pos positive, reduced_mul factor positive]
      · rw [dif_neg positive, dif_neg positive]
    · rw [if_neg flips, if_neg flips]
      by_cases positive : 0 < n ∧ 0 < d
      · rw [dif_pos positive, dif_pos positive, reduced_mul factor positive]
      · rw [dif_neg positive, dif_neg positive]
  rcases lt_or_gt_of_ne factor with negative | positive
  · rw [← make_neg, ← neg_mul, ← neg_mul]
    exact byPositive (-k) (by omega)
  · exact byPositive k positive

end Normalization

/-! ### Durations and frames -/

section Arithmetic

variable (scale : Int) (fps : RationalFps)

/-- `DurationFromFrames…`; `/` on `int64_t` truncates. -/
def RationalFps.durationFromFrames (frames : Int) : Int :=
  if fps.isValid then (frames * scale * fps.den).tdiv fps.num else 0

/-- `FramesFromDurationFloor…`. -/
def RationalFps.framesFromDurationFloor (delta : Int) : Int :=
  if fps.isValid then (delta * fps.num).tdiv (fps.den * scale) else 0

/-- `FramesFromDurationCeil…`. -/
def RationalFps.framesFromDurationCeil (delta : Int) : Int :=
  if fps.isValid then (delta * fps.num + fps.den * scale - 1).tdiv (fps.den * scale) else 0

/-- `DurationFromFramesUs`. -/
def RationalFps.durationFromFramesUs (frames : Int) : Int := fps.durationFromFrames 1000000 frames

/-- `DurationFromFramesNs`. -/
def RationalFps.durationFromFramesNs (frames : Int) : Int :=
  fps.durationFromFrames 1000000000 frames

/-- `FramesFromDurationFloorUs`. -/
def RationalFps.framesFromDurationFloorUs (deltaUs : Int) : Int :=
  fps.framesFromDurationFloor 1000000 deltaUs

/-- `FramesFromDurationCeilUs`. -/
def RationalFps.framesFromDurationCeilUs (deltaUs : Int) : Int :=
  fps.framesFromDurationCeil 1000000 deltaUs

/-- `FramesFromDurationFloorMs`. -/
def RationalFps.framesFromDurationFloorMs (deltaMs : Int) : Int :=
  fps.framesFromDurationFloor 1000 deltaMs

theorem framesFromDurationCeilMs_scale (deltaMs : Int) :
    fps.framesFromDurationCeilMs deltaMs = fps.framesFromDurationCeil 1000 deltaMs := rfl

variable {scale fps}

/-- The frames of a duration, rounded down, are a floor. -/
theorem framesFromDurationFloor_eq (valid : fps.isValid = true) {delta : Int} (nonneg : 0 ≤ delta) :
    fps.framesFromDurationFloor scale delta = delta * fps.num / (fps.den * scale) := by
  obtain ⟨num, -⟩ : 0 < fps.num ∧ 0 < fps.den := by simpa [RationalFps.isValid] using valid
  rw [RationalFps.framesFromDurationFloor, if_pos valid,
    Int.tdiv_eq_ediv_of_nonneg (mul_nonneg nonneg num.le)]

/-- The frames of a duration, rounded up, are a ceiling. -/
theorem framesFromDurationCeil_eq (valid : fps.isValid = true) (ticks : 0 < scale) {delta : Int}
    (nonneg : 0 ≤ delta) :
    fps.framesFromDurationCeil scale delta = ceilDiv (delta * fps.num) (fps.den * scale) := by
  obtain ⟨num, den⟩ : 0 < fps.num ∧ 0 < fps.den := by simpa [RationalFps.isValid] using valid
  have product : 0 ≤ delta * fps.num := mul_nonneg nonneg num.le
  have unit : 0 < fps.den * scale := mul_pos den ticks
  rw [RationalFps.framesFromDurationCeil, if_pos valid, Int.tdiv_eq_ediv_of_nonneg (by omega),
    ceilDiv]

/-- The duration of some frames is a floor. -/
theorem durationFromFrames_eq (valid : fps.isValid = true) (ticks : 0 < scale) {frames : Int}
    (nonneg : 0 ≤ frames) :
    fps.durationFromFrames scale frames = frames * (fps.den * scale) / fps.num := by
  obtain ⟨-, den⟩ : 0 < fps.num ∧ 0 < fps.den := by simpa [RationalFps.isValid] using valid
  rw [RationalFps.durationFromFrames, if_pos valid, Int.tdiv_eq_ediv_of_nonneg (by positivity),
    mul_assoc, mul_comm scale]

/-- The two roundings of a duration differ by a frame at most. -/
theorem floor_le_ceil (valid : fps.isValid = true) (ticks : 0 < scale) {delta : Int}
    (nonneg : 0 ≤ delta) :
    fps.framesFromDurationFloor scale delta ≤ fps.framesFromDurationCeil scale delta ∧
      fps.framesFromDurationCeil scale delta ≤ fps.framesFromDurationFloor scale delta + 1 := by
  obtain ⟨-, den⟩ : 0 < fps.num ∧ 0 < fps.den := by simpa [RationalFps.isValid] using valid
  have unit : 0 < fps.den * scale := mul_pos den ticks
  rw [framesFromDurationFloor_eq valid nonneg, framesFromDurationCeil_eq valid ticks nonneg]
  exact ⟨ediv_le_ceilDiv unit, ceilDiv_le_ediv_add_one unit⟩

/-- Rounding up is sub-additive. -/
theorem ceil_add_le (valid : fps.isValid = true) (ticks : 0 < scale) {a b : Int} (left : 0 ≤ a)
    (right : 0 ≤ b) :
    fps.framesFromDurationCeil scale (a + b) ≤
      fps.framesFromDurationCeil scale a + fps.framesFromDurationCeil scale b := by
  obtain ⟨-, den⟩ : 0 < fps.num ∧ 0 < fps.den := by simpa [RationalFps.isValid] using valid
  rw [framesFromDurationCeil_eq valid ticks left, framesFromDurationCeil_eq valid ticks right,
    framesFromDurationCeil_eq valid ticks (add_nonneg left right), add_mul]
  exact ceilDiv_add_le (mul_pos den ticks)

/-- **Rational time arithmetic is mutually inverse**: at up to a million frames a second, frames come
back from their duration, and the frames of a duration are the most that fit in it, or one less; the
roundings of a duration are a frame apart at most and the upper one is sub-additive; and equal ratios
are equal rates. -/
theorem rational_time (fps : RationalFps) (valid : fps.isValid = true)
    (slow : fps.num ≤ 1000000 * fps.den) :
    (∀ n, 0 ≤ n → fps.framesFromDurationCeilUs (fps.durationFromFramesUs n) = n) ∧
      (∀ d, 0 ≤ d → ∃ most, IsGreatest {n | 0 ≤ n ∧ fps.durationFromFramesUs n ≤ d} most ∧
        (fps.framesFromDurationFloorUs d = most ∨ fps.framesFromDurationFloorUs d = most - 1)) ∧
      (∀ d, 0 ≤ d →
        (fps.framesFromDurationFloorUs d ≤ fps.framesFromDurationCeilUs d ∧
          fps.framesFromDurationCeilUs d ≤ fps.framesFromDurationFloorUs d + 1) ∧
        fps.framesFromDurationFloorMs d ≤ fps.framesFromDurationCeilMs d ∧
          fps.framesFromDurationCeilMs d ≤ fps.framesFromDurationFloorMs d + 1) ∧
      (∀ a b, 0 ≤ a → 0 ≤ b →
        fps.framesFromDurationCeilUs (a + b) ≤
            fps.framesFromDurationCeilUs a + fps.framesFromDurationCeilUs b ∧
          fps.framesFromDurationCeilMs (a + b) ≤
            fps.framesFromDurationCeilMs a + fps.framesFromDurationCeilMs b) ∧
      ∀ k n d : Int, k ≠ 0 → RationalFps.make n d = RationalFps.make (k * n) (k * d) := by
  obtain ⟨num, den⟩ : 0 < fps.num ∧ 0 < fps.den := by simpa [RationalFps.isValid] using valid
  have long : fps.num ≤ fps.den * 1000000 := by omega
  refine ⟨?_, ?_, ?_, ?_, ?_⟩
  · intro n nonneg
    have duration : fps.durationFromFramesUs n = n * (fps.den * 1000000) / fps.num :=
      durationFromFrames_eq valid (by omega) nonneg
    have elapsed : 0 ≤ fps.durationFromFramesUs n := by
      rw [duration]
      exact Int.ediv_nonneg (by positivity) num.le
    rw [RationalFps.framesFromDurationCeilUs, framesFromDurationCeil_eq valid (by omega) elapsed,
      duration]
    exact ceilDiv_ediv num long n
  · intro d nonneg
    refine ⟨ceilDiv ((d + 1) * fps.num) (fps.den * 1000000) - 1, ?_, ?_⟩
    · have sets : {n | 0 ≤ n ∧ fps.durationFromFramesUs n ≤ d} =
          {n | 0 ≤ n ∧ n * (fps.den * 1000000) / fps.num ≤ d} := by
        ext n
        refine and_congr_right fun nonneg => ?_
        rw [RationalFps.durationFromFramesUs, durationFromFrames_eq valid (by omega) nonneg]
      rw [sets]
      exact isGreatest_steps num long nonneg
    · rw [RationalFps.framesFromDurationFloorUs, framesFromDurationFloor_eq valid nonneg]
      exact ediv_steps num long d
  · intro d nonneg
    exact ⟨floor_le_ceil valid (by omega) nonneg, floor_le_ceil valid (by omega) nonneg⟩
  · intro a b left right
    exact ⟨ceil_add_le valid (by omega) left right, ceil_add_le valid (by omega) left right⟩
  · intro k n d factor
    exact (make_mul factor n d).symm

/-- 23.976 frames a second: 7 frames last 291958 µs, in which 6 whole frames fit by rounding
down. -/
theorem rational_time_film :
    (RationalFps.make 24000 1001).durationFromFramesUs 7 = 291958 ∧
      (RationalFps.make 24000 1001).framesFromDurationFloorUs 291958 = 6 ∧
      (RationalFps.make 24000 1001).framesFromDurationCeilUs 291958 = 7 := by
  obtain ⟨inverse, -⟩ := rational_time (.make 24000 1001) (by decide) (by decide)
  exact ⟨by decide, by decide, inverse 7 (by decide)⟩

end Arithmetic

end Retrovue.Air.Blockplan
