/-
**The frame rate of a BlockPlan session** (`StartBlockPlanSession`, `DeriveRationalFPS`,
`SnapToStandardRationalFps`).

* `deriveRationalFps`: the standard rate within 0.01, or the nearest whole number;
* `startSession`: what a session takes from the program format of its request;
* `derive_derivediff`: the derived rate is the ratio itself exactly for the standard rates and for whole
  numbers;
* `snap_eq_derive`: snapping agrees with deriving within the table's tolerance;
* `house_rate_iff`: the rate that a session runs with, the round trip of formats, and snapping.
-/

import Mathlib
import Retrovue.Air.Blockplan.PlaybackSpeed
import Retrovue.Air.Runtime.ProgramFormat

namespace Retrovue.Air.Runtime

open Retrovue.Foundation.FlatJson (Text)
open Retrovue.Air.Blockplan

/-! ### Deriving a rate -/

section Deriving

/-- `static_cast<int64_t>` of a double, with doubles as rationals; a value out of range, which the
language leaves open, becomes the least number as on x86-64. -/
def toInt64 (x : ℚ) : Int :=
  let truncated := if 0 ≤ x then ⌊x⌋ else ⌈x⌉
  if -9223372036854775808 ≤ truncated ∧ truncated < 9223372036854775808 then truncated
  else -9223372036854775808

/-- `DeriveRationalFPS`. -/
def deriveRationalFps (fps : ℚ) : RationalFps :=
  match standardRates.find? fun entry => |fps - entry.1| < 1 / 100 with
  | some entry => entry.2
  | none => .make (toInt64 (fps + 1 / 2)) 1

/-- `AspectPolicy`. -/
inductive AspectPolicy
  | preserve
  | stretch
  | crop
  deriving DecidableEq, Repr

/-- The video part of a `BlockPlanSessionContext`. -/
structure SessionFormat where
  width : Int
  height : Int
  fps : RationalFps
  aspectPolicy : AspectPolicy
  deriving DecidableEq, Repr

/-- The defaults of `BlockPlanSessionContext`. -/
def SessionFormat.default : SessionFormat := ⟨640, 480, .make 30000 1001, .preserve⟩

/-- The policy that a text names. -/
def aspectPolicyOf (policy : Text) : AspectPolicy :=
  if policy = "stretch".toList then .stretch
  else if policy = "crop".toList then .crop
  else .preserve

/-- `StartBlockPlanSession`, as far as it reads `program_format_json`. -/
def startSession (formatJson : Text) : SessionFormat :=
  if formatJson = [] then .default
  else
    match fromJson formatJson with
    | some format =>
      let parsedFps := format.getFrameRateAsDouble
      { width := format.video.width.val
        height := format.video.height.val
        fps := deriveRationalFps (if 0 < parsedFps then parsedFps else 2997 / 100)
        aspectPolicy := aspectPolicyOf format.video.aspectPolicy }
    | none => .default

end Deriving

/-! ### The derived rate -/

section Derived

/-- The rates that survive the way through a double: whole numbers in the range of `int64_t`, and the
three standard rates over 1001. -/
def Representable (n d : ℕ) : Prop :=
  (d ∣ n ∧ n / d < 9223372036854775808) ∨
    n * 1001 = 24000 * d ∨ n * 1001 = 30000 * d ∨ n * 1001 = 60000 * d

instance representableDecidable (n d : ℕ) : Decidable (Representable n d) :=
  inferInstanceAs (Decidable (_ ∨ _ ∨ _ ∨ _))

/-- A positive ratio keeps its value. -/
theorem make_value {n d : ℕ} (numPos : 0 < n) (denPos : 0 < d) :
    (RationalFps.make n d).isValid = true ∧ (RationalFps.make n d).value = n / d := by
  have positive : (0 : Int) < n ∧ (0 : Int) < d := by omega
  have made : RationalFps.make n d = RationalFps.reduced n d positive := by
    rw [RationalFps.make, if_neg (by omega), dif_pos positive]
  have gcdPos : 0 < Int.gcd n d := Int.gcd_pos_of_ne_zero_left d positive.1.ne'
  rw [made]
  constructor
  · rcases (RationalFps.reduced n d positive).normal with ⟨num, den, _⟩ | ⟨num, _⟩
    · simp [RationalFps.isValid, num, den]
    · have whole : 0 < (n : Int) / Int.gcd n d :=
        Int.ediv_pos_of_pos_of_dvd positive.1 (by positivity) (Int.gcd_dvd_left _ _)
      have zero : (n : Int) / Int.gcd n d = 0 := num
      omega
  · have gcdNe : ((Int.gcd n d : Int) : ℚ) ≠ 0 := by exact_mod_cast gcdPos.ne'
    rw [RationalFps.value, RationalFps.reduced]
    dsimp only
    rw [Int.cast_div (Int.gcd_dvd_left _ _) gcdNe, Int.cast_div (Int.gcd_dvd_right _ _) gcdNe,
      div_div_div_cancel_right₀ gcdNe, Int.cast_natCast, Int.cast_natCast]

/-- Valid rates of the same value are the same. -/
theorem eq_of_value {fps other : RationalFps} (valid : fps.isValid = true)
    (validOther : other.isValid = true) (same : fps.value = other.value) : fps = other := by
  have reads : ∀ rate : RationalFps, rate.isValid = true →
      rate.value.num = rate.num ∧ (rate.value.den : Int) = rate.den := by
    intro rate valid
    obtain ⟨num, den⟩ := RationalFps.positive valid
    have coprime : Nat.Coprime rate.num.natAbs rate.den.natAbs := by
      rcases rate.normal with ⟨_, _, gcd⟩ | ⟨zero, _⟩
      · exact gcd
      · omega
    exact ⟨Rat.num_div_eq_of_coprime den coprime, Rat.den_div_eq_of_coprime den coprime⟩
  obtain ⟨num, den⟩ := reads fps valid
  obtain ⟨num', den'⟩ := reads other validOther
  obtain ⟨n, d, normal⟩ := fps
  obtain ⟨n', d', normal'⟩ := other
  rw [same] at num den
  simp only at num den num' den'
  simp only [RationalFps.mk.injEq]
  omega

/-- The table: three rates over 1001 near their decimals, and whole numbers. -/
theorem standardRates_table : ∀ entry ∈ standardRates, entry.2.isValid = true ∧
    ((entry.1 = 23976 / 1000 ∧ entry.2.value = 24000 / 1001) ∨
      (entry.1 = 2997 / 100 ∧ entry.2.value = 30000 / 1001) ∨
      (entry.1 = 5994 / 100 ∧ entry.2.value = 60000 / 1001) ∨
      ∃ m ∈ [24, 25, 30, 50, 60], entry.1 = (m : ℕ) ∧ entry.2.value = (m : ℕ)) := by
  decide +kernel

/-- Whole numbers less than one apart are the same. -/
theorem eq_of_near {k m : ℕ} (near : |(k : ℚ) - m| < 1 / 100) : k = m := by
  obtain ⟨low, high⟩ := abs_lt.mp near
  have above : (k : ℚ) < m + 1 := by linarith
  have below : (m : ℚ) < k + 1 := by linarith
  norm_cast at above below
  omega

/-- No whole number lies strictly between two that follow each other. -/
theorem not_between {k m : ℕ} (low : (m : ℚ) < k) (high : (k : ℚ) < m + 1) : False := by
  norm_cast at low high
  omega

/-- A whole number within the tolerance of a standard rate is that rate. -/
theorem standardRates_whole {entry : ℚ × RationalFps} (member : entry ∈ standardRates) {k : ℕ}
    (near : |(k : ℚ) - entry.1| < 1 / 100) : entry.2.value = k := by
  obtain ⟨_, row⟩ := standardRates_table entry member
  rcases row with ⟨approx, _⟩ | ⟨approx, _⟩ | ⟨approx, _⟩ | ⟨m, _, approx, value⟩
  · rw [approx, abs_lt] at near
    exact (@not_between k 23 (by push_cast; linarith) (by push_cast; linarith)).elim
  · rw [approx, abs_lt] at near
    exact (@not_between k 29 (by push_cast; linarith) (by push_cast; linarith)).elim
  · rw [approx, abs_lt] at near
    exact (@not_between k 59 (by push_cast; linarith) (by push_cast; linarith)).elim
  · rw [approx] at near
    rw [value, eq_of_near near]

/-- The standard rates are representable. -/
theorem standardRates_representable {n d : ℕ} (denPos : 0 < d) {entry : ℚ × RationalFps}
    (member : entry ∈ standardRates) (same : entry.2.value = (n : ℚ) / d) :
    Representable n d := by
  have denQ : (d : ℚ) ≠ 0 := by exact_mod_cast denPos.ne'
  obtain ⟨_, row⟩ := standardRates_table entry member
  rcases row with ⟨_, value⟩ | ⟨_, value⟩ | ⟨_, value⟩ | ⟨m, listed, _, value⟩ <;>
    rw [value] at same
  · rw [div_eq_div_iff (by norm_num) denQ] at same
    exact .inr (.inl (by exact_mod_cast same.symm))
  · rw [div_eq_div_iff (by norm_num) denQ] at same
    exact .inr (.inr (.inl (by exact_mod_cast same.symm)))
  · rw [div_eq_div_iff (by norm_num) denQ] at same
    exact .inr (.inr (.inr (by exact_mod_cast same.symm)))
  · rw [eq_div_iff denQ] at same
    have whole : n = m * d := by exact_mod_cast same.symm
    have table : ∀ m ∈ [24, 25, 30, 50, 60], m ≤ 60 := by decide
    have small := table m listed
    refine .inl ⟨⟨m, by rw [whole, mul_comm]⟩, ?_⟩
    rw [whole, Nat.mul_div_cancel _ denPos]
    omega

/-- A whole number in range is what half more than it is truncated to. -/
theorem toInt64_whole {k : ℕ} (small : k < 9223372036854775808) : toInt64 (k + 1 / 2) = k := by
  have nonneg : (0 : ℚ) ≤ k + 1 / 2 := by positivity
  have floor : ⌊(k : ℚ) + 1 / 2⌋ = k := by
    rw [Int.floor_eq_iff]
    push_cast
    constructor <;> linarith
  unfold toInt64
  dsimp only
  rw [if_pos nonneg, floor, if_pos (by omega)]

theorem toInt64_lt (x : ℚ) : toInt64 x < 9223372036854775808 := by
  unfold toInt64
  dsimp only
  split_ifs <;> omega

/-- What is derived is always a valid rate with the value of a standard one, or a whole number. -/
theorem derive_representable {n d : ℕ} (numPos : 0 < n) (denPos : 0 < d)
    (derived : deriveRationalFps ((n : ℚ) / d) = .make n d) : Representable n d := by
  obtain ⟨valid, value⟩ := make_value numPos denPos
  have denQ : (d : ℚ) ≠ 0 := by exact_mod_cast denPos.ne'
  unfold deriveRationalFps at derived
  split at derived
  · rename_i entry found
    rw [← derived] at value
    exact standardRates_representable denPos (List.mem_of_find?_eq_some found) value
  · rename_i missed
    have bound := toInt64_lt ((n : ℚ) / d + 1 / 2)
    generalize toInt64 ((n : ℚ) / d + 1 / 2) = whole at derived bound
    by_cases positive : 0 < whole
    · lift whole to ℕ using positive.le
      obtain ⟨_, wholeValue⟩ := @make_value whole 1 (by omega) (by decide)
      rw [Nat.cast_one] at wholeValue
      rw [← derived] at value
      rw [Nat.cast_one, div_one] at wholeValue
      rw [wholeValue, eq_div_iff denQ] at value
      have product : n = whole * d := by exact_mod_cast value.symm
      refine .inl ⟨⟨whole, by rw [product, mul_comm]⟩, ?_⟩
      rw [product, Nat.mul_div_cancel _ denPos]
      omega
    · have invalid : RationalFps.make whole 1 = .invalid := by
        rw [RationalFps.make, if_neg (by decide), dif_neg (by omega)]
      rw [← derived, invalid] at valid
      cases valid

/-- **A representable rate is derived as it is.** -/
theorem derive_of_representable {n d : ℕ} (numPos : 0 < n) (denPos : 0 < d)
    (representable : Representable n d) : deriveRationalFps ((n : ℚ) / d) = .make n d := by
  obtain ⟨valid, value⟩ := make_value numPos denPos
  have denQ : (d : ℚ) ≠ 0 := by exact_mod_cast denPos.ne'
  have ratio : ∀ a : ℕ, n * 1001 = a * d → (n : ℚ) / d = a / 1001 := by
    intro a same
    rw [div_eq_div_iff denQ (by norm_num)]
    exact_mod_cast same
  have standard : ∀ a : ℕ, 0 < a → n * 1001 = a * d →
      deriveRationalFps ((a : ℚ) / 1001) = .make a 1001 →
        deriveRationalFps ((n : ℚ) / d) = .make n d := by
    intro a pos same derived
    obtain ⟨valid', value'⟩ := @make_value a 1001 pos (by decide)
    rw [ratio a same, derived]
    apply eq_of_value valid' valid
    rw [value, ratio a same]
    exact value'
  rcases representable with ⟨⟨k, rfl⟩, small⟩ | film | ntsc | ntsc
  · rw [Nat.mul_div_cancel_left _ denPos] at small
    have whole : ((d * k : ℕ) : ℚ) / d = k := by
      rw [Nat.cast_mul, mul_div_cancel_left₀ _ denQ]
    rw [whole] at value ⊢
    unfold deriveRationalFps
    split
    · rename_i entry found
      have member := List.mem_of_find?_eq_some found
      have near : |(k : ℚ) - entry.1| < 1 / 100 := by simpa using List.find?_some found
      apply eq_of_value (standardRates_table entry member).1 valid
      rw [value, standardRates_whole member near]
    · have pos : 0 < k := Nat.pos_of_mul_pos_left numPos
      obtain ⟨valid', value'⟩ := @make_value k 1 pos (by decide)
      rw [toInt64_whole small]
      apply eq_of_value valid' valid
      rw [value]
      rw [Nat.cast_one, Nat.cast_one, div_one] at value'
      exact value'
  · exact standard 24000 (by decide) film (by decide +kernel)
  · exact standard 30000 (by decide) ntsc (by decide +kernel)
  · exact standard 60000 (by decide) ntsc (by decide +kernel)

end Derived

/-! ### Sessions -/

section Sessions

/-- The first standard rate within the tolerance is the derived one. -/
theorem derive_of_found {fps : ℚ} {row : ℚ × RationalFps}
    (found : (standardRates.find? fun entry => |fps - entry.1| < 1 / 100) = some row) :
    deriveRationalFps fps = row.2 := by
  unfold deriveRationalFps
  rw [found]

/-- Within the table's tolerance snapping and deriving agree. -/
theorem snap_eq_derive {fps : RationalFps}
    (near : ∃ entry ∈ standardRates, |fps.value - entry.1| < 1 / 100) :
    snapToStandardRationalFps fps = deriveRationalFps fps.value := by
  obtain ⟨entry, member, close⟩ := near
  have positive : 0 < entry.1 - 1 / 100 := by
    have table : ∀ entry ∈ standardRates, 0 < entry.1 - 1 / 100 := by decide +kernel
    exact table entry member
  have valid : fps.isValid = true := by
    rcases fps.normal with ⟨num, den, _⟩ | ⟨num, den⟩
    · simp [RationalFps.isValid, num, den]
    · rw [RationalFps.value, num, den, abs_lt] at close
      norm_num at close
      linarith
  unfold RationalFps.value at close ⊢
  cases found : standardRates.find? fun entry =>
      |(fps.num : ℚ) / fps.den - entry.1| < 1 / 100 with
  | some row =>
    rw [derive_of_found found]
    simp only [snapToStandardRationalFps, if_pos valid, found]
  | none =>
    have missed := List.find?_eq_none.mp found entry member
    exact absurd (decide_eq_true close) missed

theorem fromJson_nil : fromJson [] = none := rfl

/-- The rate of a session whose format was parsed. -/
theorem startSession_fps {json : Text} {format : ProgramFormat} (parsed : fromJson json = some format)
    {numerator denominator : Text}
    (rate : splitRate format.video.frameRate = some (numerator, denominator))
    (numPos : 0 < numeral numerator) (denPos : 0 < numeral denominator) :
    (startSession json).fps =
      deriveRationalFps ((numeral numerator : ℚ) / numeral denominator) := by
  have nonempty : json ≠ [] := by
    intro empty
    rw [empty, fromJson_nil] at parsed
    cases parsed
  have value : format.getFrameRateAsDouble = (numeral numerator : ℚ) / numeral denominator := by
    rw [ProgramFormat.getFrameRateAsDouble, rate]
    exact if_pos denPos.ne'
  have numQ : (0 : ℚ) < numeral numerator := by exact_mod_cast numPos
  have denQ : (0 : ℚ) < numeral denominator := by exact_mod_cast denPos
  rw [startSession, if_neg nonempty, parsed]
  simp only [value]
  rw [if_pos (div_pos numQ denQ)]

/-- **The house frame rate**: a session runs with the rate of its program format exactly when it is
representable; a valid format comes back from its text exactly when its aspect policy can be read; and
snapping to the standard rates is idempotent and agrees with deriving. -/
theorem house_rate_iff (json : Text) (format : ProgramFormat) (fps : RationalFps) :
    (∀ numerator denominator : Text,
      fromJson json = some format →
      splitRate format.video.frameRate = some (numerator, denominator) →
      0 < numeral numerator → 0 < numeral denominator →
        (((startSession json).fps.isValid = true ∧
          (startSession json).fps = .make (numeral numerator) (numeral denominator)) ↔
            Representable (numeral numerator) (numeral denominator))) ∧
      (format.isValid = true →
        (fromJson (toJson format) = some format ↔ AspectReadable format.video.aspectPolicy)) ∧
      snapToStandardRationalFps (snapToStandardRationalFps fps) = snapToStandardRationalFps fps ∧
        ((∃ entry ∈ standardRates, |fps.value - entry.1| < 1 / 100) →
          snapToStandardRationalFps fps = deriveRationalFps fps.value) := by
  refine ⟨?_, ?_, snap_snap fps, snap_eq_derive⟩
  · intro numerator denominator parsed rate numPos denPos
    rw [startSession_fps parsed rate numPos denPos]
    constructor
    · rintro ⟨_, same⟩
      exact derive_representable numPos denPos same
    · intro representable
      rw [derive_of_representable numPos denPos representable]
      exact ⟨(make_value numPos denPos).1, rfl⟩
  · intro valid
    exact fromJson_toJson_iff valid

/-- A format of the given frame rate. -/
def formatAt (frameRate : String) : ProgramFormat :=
  ⟨⟨⟨1280, by decide⟩, ⟨720, by decide⟩, frameRate.toList, preserve⟩,
    ⟨⟨48000, by decide⟩, ⟨2, by decide⟩⟩⟩

/-- At 30000/1001 frames a second the session runs with that rate. -/
theorem house_rate_ntsc :
    fromJson (toJson (formatAt "30000/1001")) = some (formatAt "30000/1001") ∧
      (startSession (toJson (formatAt "30000/1001"))).fps = .make 30000 1001 := by
  obtain ⟨rate, trip, _⟩ := house_rate_iff (toJson (formatAt "30000/1001"))
    (formatAt "30000/1001") (.make 30000 1001)
  have parsed := (trip (by decide)).mpr (by decide)
  exact ⟨parsed, ((rate "30000".toList "1001".toList parsed (by decide) (by decide)
    (by decide)).mpr (by decide)).2⟩

/-- At 12.5 frames a second the session runs with 13. -/
theorem house_rate_rounded :
    fromJson (toJson (formatAt "25/2")) = some (formatAt "25/2") ∧
      (startSession (toJson (formatAt "25/2"))).fps ≠ .make 25 2 := by
  have parsed := (@fromJson_toJson_iff (formatAt "25/2") (by decide)).mpr (by decide)
  have rate : splitRate (formatAt "25/2").video.frameRate = some ("25".toList, "2".toList) := by
    decide
  refine ⟨parsed, ?_⟩
  rw [startSession_fps parsed rate (by decide) (by decide)]
  decide +kernel

end Sessions

end Retrovue.Air.Runtime
