/-
**The fades of a segment** (`TickProducer.cpp`).

* `segmentAlpha`: the opacity of a frame, in 65536ths, from the segment's two ramps with their casts
  to 32 bits;
* `applyFade`, `applySegmentTransitionFade`: the frame that it is applied to;
* `inRamp`, `outRamp`: the ramps as they are meant; `Faded`: opacity in range, the lesser ramp, dark
  at the first instant, rising and falling;
* `stepsPast`: by how much a frame lies past the end of the fade-out;
* `faded_iff`: frames are faded as meant exactly when none lies past that end, or by so much that 32
  bits do not tell.

Products of content times, in milliseconds, with 65536 are taken not to overflow 64 bits.
-/

import Mathlib
import Retrovue.Air.Blockplan.Types

namespace Retrovue.Air.Blockplan

/-! ### The opacity -/

section Opacity

/-- `kAlphaOne`. -/
def kAlphaOne : ℤ := 65536

/-- `static_cast<int32_t>`. -/
def toInt32 (x : ℤ) : ℤ := x.bmod 4294967296

/-- The transitions of a segment. -/
structure SegmentFades where
  transitionIn : TransitionType
  transitionInDurationMs : UInt32
  transitionOut : TransitionType
  transitionOutDurationMs : UInt32
  deriving DecidableEq, Repr

/-- A fade-in is configured. -/
def SegmentFades.fadesIn (seg : SegmentFades) : Bool :=
  seg.transitionIn = .fade && 0 < seg.transitionInDurationMs.toNat

/-- A fade-out is configured. -/
def SegmentFades.fadesOut (seg : SegmentFades) : Bool :=
  seg.transitionOut = .fade && 0 < seg.transitionOutDurationMs.toNat

/-- The fade-in's part of `ApplySegmentTransitionFade`. -/
def alphaIn (seg : SegmentFades) (boundary : SegmentBoundary) (ctBefore : ℤ) : ℤ :=
  let segCt := ctBefore - boundary.startCtMs
  let fadeDur : ℤ := seg.transitionInDurationMs.toNat
  if seg.fadesIn = true ∧ segCt < fadeDur then
    let inAlpha := toInt32 ((segCt * kAlphaOne).tdiv fadeDur)
    if inAlpha < kAlphaOne then inAlpha else kAlphaOne
  else kAlphaOne

/-- **The opacity** that `ApplySegmentTransitionFade` computes: the fade-out's part takes the lesser
one. -/
def segmentAlpha (seg : SegmentFades) (boundary : SegmentBoundary) (ctBefore : ℤ) : ℤ :=
  let alpha := alphaIn seg boundary ctBefore
  let segDuration := boundary.endCtMs - boundary.startCtMs
  let segCt := ctBefore - boundary.startCtMs
  let fadeDur : ℤ := seg.transitionOutDurationMs.toNat
  let fadeStart := segDuration - fadeDur
  if seg.fadesOut = true ∧ segCt ≥ fadeStart then
    let timeInFade := segCt - fadeStart
    let outAlpha := toInt32 ((timeInFade * kAlphaOne).tdiv fadeDur)
    let a := toInt32 (kAlphaOne - outAlpha)
    if a < alpha then a else alpha
  else alpha

end Opacity

/-! ### The faded frame -/

section Frames

/-- The parts of `FrameData` that a fade changes: the bytes of the picture, three planes one after the
other, and the samples of each audio frame. -/
structure FadeFrame where
  width : ℕ
  height : ℕ
  video : List UInt8
  audio : List (List Int16)
  deriving DecidableEq, Repr

/-- `y_size`. -/
def FadeFrame.ySize (fd : FadeFrame) : ℕ := fd.width * fd.height

/-- `uv_size`. -/
def FadeFrame.uvSize (fd : FadeFrame) : ℕ := fd.width / 2 * (fd.height / 2)

/-- A byte of the luma plane at an opacity. -/
def fadeLuma (alpha : ℤ) (byte : UInt8) : UInt8 := UInt8.ofInt ((byte.toNat * alpha) >>> (16 : ℕ))

/-- A byte of a chroma plane: the distance from 128 fades. -/
def fadeChroma (alpha : ℤ) (byte : UInt8) : UInt8 :=
  UInt8.ofInt (128 + (((byte.toNat : ℤ) - 128) * alpha) >>> (16 : ℕ))

/-- An audio sample at an opacity. -/
def fadeSample (alpha : ℤ) (sample : Int16) : Int16 := Int16.ofInt ((sample.toInt * alpha) >>> (16 : ℕ))

/-- **`ApplyFade`**: black and silence at no opacity, nothing at full opacity. -/
def applyFade (fd : FadeFrame) (alpha : ℤ) : FadeFrame :=
  if alpha ≤ 0 then
    { fd with
      video := fd.video.mapIdx fun i byte =>
        if i < fd.ySize then 0 else if i < fd.ySize + 2 * fd.uvSize then 128 else byte
      audio := fd.audio.map fun samples => samples.map fun _ => 0 }
  else if alpha ≥ kAlphaOne then fd
  else
    { fd with
      video := fd.video.mapIdx fun i byte =>
        if i < fd.ySize then fadeLuma alpha byte
        else if i < fd.ySize + 2 * fd.uvSize then fadeChroma alpha byte
        else byte
      audio := fd.audio.map fun samples => samples.map (fadeSample alpha) }

/-- **`ApplySegmentTransitionFade`**, for the segment at an index. -/
def applySegmentTransitionFade (segments : List SegmentFades) (boundaries : List SegmentBoundary)
    (currentSegmentIndex : ℕ) (fd : FadeFrame) (ctBefore : ℤ) : FadeFrame :=
  match segments[currentSegmentIndex]?, boundaries[currentSegmentIndex]? with
  | some seg, some boundary =>
    if segmentAlpha seg boundary ctBefore < kAlphaOne then
      applyFade fd (segmentAlpha seg boundary ctBefore)
    else fd
  | _, _ => fd

end Frames

/-! ### The ramps -/

section Ramps

variable (seg : SegmentFades) (boundary : SegmentBoundary)

/-- An opacity within its range. -/
def clamped (alpha : ℤ) : ℤ := max 0 (min kAlphaOne alpha)

/-- The length of the segment. -/
def segmentMs : ℤ := boundary.endCtMs - boundary.startCtMs

/-- The rise from dark, at a time since the segment's start. -/
def inRamp (segCt : ℤ) : ℤ :=
  if seg.fadesIn then clamped (segCt * kAlphaOne / seg.transitionInDurationMs.toNat) else kAlphaOne

/-- Where the fade-out begins. -/
def fadeOutStart : ℤ := segmentMs boundary - seg.transitionOutDurationMs.toNat

/-- The fall to dark, which it reaches at the segment's end. -/
def outRamp (segCt : ℤ) : ℤ :=
  if seg.fadesOut then
    clamped (kAlphaOne -
      (segCt - fadeOutStart seg boundary) * kAlphaOne / seg.transitionOutDurationMs.toNat)
  else kAlphaOne

/-- The opacity at a time since the segment's start. -/
def alphaAt (segCt : ℤ) : ℤ := segmentAlpha seg boundary (boundary.startCtMs + segCt)

/-- **Frames at some times since the segment's start are faded as they are meant to be.** The fades
rise and fall where they do not overlap. -/
structure Faded (frames : List ℕ) : Prop where
  range : ∀ segCt ∈ frames, 0 ≤ alphaAt seg boundary segCt ∧ alphaAt seg boundary segCt ≤ kAlphaOne
  ramps : ∀ segCt ∈ frames,
    alphaAt seg boundary segCt = min (inRamp seg segCt) (outRamp seg boundary segCt)
  dark : seg.fadesIn = true → 0 ∈ frames → alphaAt seg boundary 0 = 0
  rises : ∀ first ∈ frames, ∀ second ∈ frames, first ≤ second →
    second ≤ seg.transitionInDurationMs.toNat →
    (seg.fadesOut = true → (second : ℤ) ≤ fadeOutStart seg boundary) →
    alphaAt seg boundary first ≤ alphaAt seg boundary second
  falls : ∀ first ∈ frames, ∀ second ∈ frames, first ≤ second →
    fadeOutStart seg boundary ≤ first →
    (seg.fadesIn = true → seg.transitionInDurationMs.toNat ≤ first) →
    seg.fadesOut = true → alphaAt seg boundary second ≤ alphaAt seg boundary first

/-- By how many 65536ths of the fade-out a time is past its end. -/
def stepsPast (segCt : ℤ) : ℤ :=
  if seg.fadesOut then
    max 0 ((segCt - segmentMs boundary) * kAlphaOne / seg.transitionOutDurationMs.toNat)
  else 0

/-- **Not past the end of the fade-out** by a step of the ramp; or by so many steps that in 32 bits
they are none, or a rise over a fade-in that is dark still. -/
def Within (segCt : ℤ) : Prop :=
  stepsPast seg boundary segCt % 4294967296 = 0 ∨
    2147483648 < stepsPast seg boundary segCt % 4294967296 ∧ inRamp seg segCt = 0

end Ramps

/-! ### The opacity against the ramps -/

section Against

variable {seg : SegmentFades} {boundary : SegmentBoundary}

/-- A number in the range of `int32_t` is kept. -/
theorem toInt32_of_fits {x : ℤ} (low : -2147483648 ≤ x) (high : x < 2147483648) : toInt32 x = x :=
  Int.bmod_eq_of_le (by omega) (by omega)

/-- The steps by which a ramp goes below zero, in 32 bits. -/
theorem toInt32_neg (steps : ℤ) :
    toInt32 (-steps) =
      if steps % 4294967296 ≤ 2147483648 then -(steps % 4294967296)
      else 4294967296 - steps % 4294967296 := by
  unfold toInt32
  rw [Int.bmod_def]
  push_cast
  split_ifs <;> omega

theorem clamped_nonneg (alpha : ℤ) : 0 ≤ clamped alpha := le_max_left _ _

theorem clamped_le (alpha : ℤ) : clamped alpha ≤ kAlphaOne := by
  unfold clamped kAlphaOne
  omega

theorem clamped_mono {low high : ℤ} (le : low ≤ high) : clamped low ≤ clamped high := by
  unfold clamped
  omega

/-- A ramp is in the range of the opacity. -/
theorem inRamp_bounds (segCt : ℤ) : 0 ≤ inRamp seg segCt ∧ inRamp seg segCt ≤ kAlphaOne := by
  unfold inRamp
  split_ifs
  · exact ⟨clamped_nonneg _, clamped_le _⟩
  · exact ⟨by decide, le_rfl⟩

theorem outRamp_bounds (segCt : ℤ) :
    0 ≤ outRamp seg boundary segCt ∧ outRamp seg boundary segCt ≤ kAlphaOne := by
  unfold outRamp
  split_ifs
  · exact ⟨clamped_nonneg _, clamped_le _⟩
  · exact ⟨by decide, le_rfl⟩

/-- A configured fade lasts. -/
theorem fadesIn_pos (configured : seg.fadesIn = true) :
    (0 : ℤ) < seg.transitionInDurationMs.toNat := by
  simp only [SegmentFades.fadesIn, Bool.and_eq_true, decide_eq_true_eq] at configured
  exact_mod_cast configured.2

theorem fadesOut_pos (configured : seg.fadesOut = true) :
    (0 : ℤ) < seg.transitionOutDurationMs.toNat := by
  simp only [SegmentFades.fadesOut, Bool.and_eq_true, decide_eq_true_eq] at configured
  exact_mod_cast configured.2

theorem inRamp_mono {first second : ℤ} (le : first ≤ second) :
    inRamp seg first ≤ inRamp seg second := by
  unfold inRamp
  split_ifs with configured
  · refine clamped_mono (Int.ediv_le_ediv (fadesIn_pos configured) ?_)
    exact mul_le_mul_of_nonneg_right le (by decide)
  · exact le_rfl

theorem outRamp_anti {first second : ℤ} (le : first ≤ second) :
    outRamp seg boundary second ≤ outRamp seg boundary first := by
  unfold outRamp
  split_ifs with configured
  · refine clamped_mono (sub_le_sub_left (Int.ediv_le_ediv (fadesOut_pos configured) ?_) _)
    exact mul_le_mul_of_nonneg_right (by omega) (by decide)
  · exact le_rfl

/-- **The fade-in's part is its ramp**, from the segment's start on. -/
theorem alphaIn_eq (segCt : ℕ) :
    alphaIn seg boundary (boundary.startCtMs + segCt) = inRamp seg segCt := by
  unfold alphaIn inRamp
  dsimp only
  rw [add_sub_cancel_left]
  by_cases configured : seg.fadesIn = true
  · rw [if_pos configured]
    have positive := fadesIn_pos configured
    have nonneg : (0 : ℤ) ≤ segCt * kAlphaOne / seg.transitionInDurationMs.toNat :=
      Int.ediv_nonneg (mul_nonneg (Int.natCast_nonneg _) (by decide)) positive.le
    by_cases rising : (segCt : ℤ) < seg.transitionInDurationMs.toNat
    · have below : (segCt : ℤ) * kAlphaOne / seg.transitionInDurationMs.toNat < kAlphaOne := by
        rw [Int.ediv_lt_iff_lt_mul positive, mul_comm]
        exact mul_lt_mul_of_pos_left rising (by decide)
      rw [if_pos ⟨configured, rising⟩, Int.tdiv_eq_ediv_of_nonneg
        (mul_nonneg (Int.natCast_nonneg _) (by decide))]
      unfold clamped
      unfold kAlphaOne at *
      rw [toInt32_of_fits (by omega) (by omega), if_pos below]
      omega
    · have full : kAlphaOne ≤ segCt * kAlphaOne / seg.transitionInDurationMs.toNat := by
        rw [Int.le_ediv_iff_mul_le positive, mul_comm]
        exact mul_le_mul_of_nonneg_right (not_lt.mp rising) (by decide)
      rw [if_neg (fun both => rising both.2)]
      unfold clamped
      unfold kAlphaOne at *
      omega
  · rw [if_neg (fun both => configured both.1), if_neg configured]

/-- The steps of the fade-out's ramp at a time. -/
def outSteps (seg : SegmentFades) (boundary : SegmentBoundary) (segCt : ℤ) : ℤ :=
  (segCt - fadeOutStart seg boundary) * kAlphaOne / seg.transitionOutDurationMs.toNat

/-- **The opacity in a fade-out** is the lesser of the ramps, the falling one cast to 32 bits. -/
theorem alphaAt_eq (segCt : ℕ) :
    alphaAt seg boundary segCt =
      if seg.fadesOut = true ∧ fadeOutStart seg boundary ≤ segCt then
        min (inRamp seg segCt) (toInt32 (kAlphaOne - outSteps seg boundary segCt))
      else inRamp seg segCt := by
  unfold alphaAt segmentAlpha
  dsimp only
  rw [alphaIn_eq, add_sub_cancel_left]
  show (if seg.fadesOut = true ∧ (segCt : ℤ) ≥ fadeOutStart seg boundary then
    if toInt32 (kAlphaOne - toInt32 (((segCt - fadeOutStart seg boundary) * kAlphaOne).tdiv
        seg.transitionOutDurationMs.toNat)) < inRamp seg segCt then
      toInt32 (kAlphaOne - toInt32 (((segCt - fadeOutStart seg boundary) * kAlphaOne).tdiv
        seg.transitionOutDurationMs.toNat))
    else inRamp seg segCt
    else inRamp seg segCt) = _
  by_cases falling : seg.fadesOut = true ∧ fadeOutStart seg boundary ≤ segCt
  · have cast : toInt32 (kAlphaOne - toInt32 (((segCt - fadeOutStart seg boundary) * kAlphaOne).tdiv
        seg.transitionOutDurationMs.toNat)) = toInt32 (kAlphaOne - outSteps seg boundary segCt) := by
      rw [Int.tdiv_eq_ediv_of_nonneg (mul_nonneg (by omega) (by decide))]
      exact Int.sub_bmod_bmod
    rw [if_pos falling, if_pos falling, cast]
    split_ifs with less
    · exact (min_eq_right less.le).symm
    · exact (min_eq_left (not_lt.mp less)).symm
  · rw [if_neg falling, if_neg falling]

/-- The ramps, by their steps. -/
theorem outRamp_eq (configured : seg.fadesOut = true) (segCt : ℤ) :
    outRamp seg boundary segCt = clamped (kAlphaOne - outSteps seg boundary segCt) :=
  if_pos configured

theorem stepsPast_eq (configured : seg.fadesOut = true) (segCt : ℤ) :
    stepsPast seg boundary segCt = max 0 (outSteps seg boundary segCt - kAlphaOne) := by
  have positive := fadesOut_pos configured
  have split : (segCt - fadeOutStart seg boundary) * kAlphaOne =
      (segCt - segmentMs boundary) * kAlphaOne +
        kAlphaOne * seg.transitionOutDurationMs.toNat := by
    unfold fadeOutStart
    ring
  rw [stepsPast, if_pos configured, outSteps, split, Int.add_mul_ediv_right _ _ positive.ne',
    add_sub_cancel_right]

/-- Before the fade-out its ramp has no steps. -/
theorem outSteps_nonpos (configured : seg.fadesOut = true) {segCt : ℤ}
    (before : segCt ≤ fadeOutStart seg boundary) : outSteps seg boundary segCt ≤ 0 := by
  have le := Int.ediv_le_ediv (fadesOut_pos configured)
    (mul_nonpos_of_nonpos_of_nonneg (sub_nonpos.mpr before) (by decide : (0 : ℤ) ≤ kAlphaOne))
  rwa [Int.zero_ediv] at le

/-- Before the fade-out its ramp is full. -/
theorem outRamp_before {segCt : ℤ}
    (before : seg.fadesOut = true → segCt ≤ fadeOutStart seg boundary) :
    outRamp seg boundary segCt = kAlphaOne := by
  by_cases configured : seg.fadesOut = true
  · have steps := outSteps_nonpos configured (before configured)
    rw [outRamp_eq configured]
    unfold clamped
    unfold kAlphaOne
    omega
  · rw [outRamp, if_neg configured]

/-- After the fade-in its ramp is full. -/
theorem inRamp_after {segCt : ℤ}
    (after : seg.fadesIn = true → (seg.transitionInDurationMs.toNat : ℤ) ≤ segCt) :
    inRamp seg segCt = kAlphaOne := by
  by_cases configured : seg.fadesIn = true
  · have full : kAlphaOne ≤ segCt * kAlphaOne / seg.transitionInDurationMs.toNat := by
      rw [Int.le_ediv_iff_mul_le (fadesIn_pos configured), mul_comm]
      exact mul_le_mul_of_nonneg_right (after configured) (by decide)
    rw [inRamp, if_pos configured]
    unfold clamped
    unfold kAlphaOne at *
    omega
  · rw [inRamp, if_neg configured]

/-- **One frame**: its opacity is in range and the lesser ramp exactly when it is not past the end of
the fade-out. -/
theorem alphaAt_iff (segCt : ℕ) :
    ((0 ≤ alphaAt seg boundary segCt ∧ alphaAt seg boundary segCt ≤ kAlphaOne) ∧
      alphaAt seg boundary segCt = min (inRamp seg segCt) (outRamp seg boundary segCt)) ↔
    Within seg boundary segCt := by
  have rising : 0 ≤ inRamp seg segCt ∧ inRamp seg segCt ≤ kAlphaOne := inRamp_bounds _
  unfold Within
  rw [alphaAt_eq]
  by_cases configured : seg.fadesOut = true
  · rw [stepsPast_eq configured]
    by_cases falling : fadeOutStart seg boundary ≤ segCt
    · have nonneg : 0 ≤ outSteps seg boundary segCt :=
        Int.ediv_nonneg (mul_nonneg (by omega) (by decide)) (Int.natCast_nonneg _)
      rw [if_pos ⟨configured, falling⟩, outRamp_eq configured]
      generalize outSteps seg boundary segCt = steps at nonneg
      generalize inRamp seg segCt = rise at rising
      unfold clamped
      unfold kAlphaOne at *
      rcases le_or_gt steps 65536 with inside | past
      · rw [toInt32_of_fits (by omega) (by omega)]
        omega
      · -- past the end the falling ramp is below zero, or wrapped
        rw [show (65536 : ℤ) - steps = -(steps - 65536) by ring, toInt32_neg,
          max_eq_right (by omega : (0 : ℤ) ≤ steps - 65536)]
        split_ifs <;> omega
    · have full : outRamp seg boundary segCt = kAlphaOne := outRamp_before fun _ => by omega
      have before := outSteps_nonpos configured (not_le.mp falling).le
      rw [if_neg (fun both => falling both.2), full, min_eq_left rising.2]
      unfold kAlphaOne at *
      omega
  · rw [if_neg (fun both => configured both.1), outRamp, if_neg configured, min_eq_left rising.2,
      stepsPast, if_neg configured]
    exact ⟨fun _ => .inl rfl, fun _ => ⟨rising, rfl⟩⟩

/-- **The fades of a segment.** The frames of a segment are faded as they are meant to be exactly when
none of them lies past the end of the fade-out. -/
theorem faded_iff (seg : SegmentFades) (boundary : SegmentBoundary) (frames : List ℕ) :
    Faded seg boundary frames ↔ ∀ segCt ∈ frames, Within seg boundary segCt := by
  constructor
  · intro faded segCt member
    exact (alphaAt_iff segCt).mp ⟨faded.range segCt member, faded.ramps segCt member⟩
  · intro within
    have one := fun segCt member => (alphaAt_iff segCt).mpr (within segCt member)
    refine ⟨fun segCt member => (one segCt member).1, fun segCt member => (one segCt member).2,
      ?_, ?_, ?_⟩
    · intro configured member
      have ramps := (one 0 member).2
      have dark : inRamp seg (0 : ℕ) = 0 := by
        rw [inRamp, if_pos configured, Nat.cast_zero, zero_mul, Int.zero_ediv]
        rfl
      rw [dark, min_eq_left (outRamp_bounds _).1] at ramps
      exact ramps
    · intro first memberFirst second memberSecond le _ apart
      have full (segCt : ℤ) (before : segCt ≤ second) : outRamp seg boundary segCt = kAlphaOne :=
        outRamp_before fun configured => before.trans (apart configured)
      rw [(one first memberFirst).2, (one second memberSecond).2, full first (by omega),
        full second le_rfl]
      exact min_le_min_right _ (inRamp_mono (by omega))
    · intro first memberFirst second memberSecond le _ after _
      have full (segCt : ℤ) (later : first ≤ segCt) : inRamp seg segCt = kAlphaOne :=
        inRamp_after fun configured => (Nat.cast_le.mpr (after configured)).trans later
      rw [(one first memberFirst).2, (one second memberSecond).2, full first le_rfl,
        full second (by omega)]
      exact min_le_min_left _ (outRamp_anti (by omega))

/-- A second that fades out over its last half. -/
def halfSecondFade : SegmentFades := ⟨.none, 0, .fade, 500⟩

/-- **A frame past the end** of its segment has an opacity below zero. -/
theorem frame_past_end_below_zero :
    alphaAt halfSecondFade ⟨0, 0, 1000⟩ 1010 = -1310 ∧
      ¬ Faded halfSecondFade ⟨0, 0, 1000⟩ [1010] := by
  have below : alphaAt halfSecondFade ⟨0, 0, 1000⟩ 1010 = -1310 := by decide
  refine ⟨below, fun faded => ?_⟩
  have range := (faded.range 1010 List.mem_cons_self).1
  rw [show alphaAt halfSecondFade ⟨0, 0, 1000⟩ ((1010 : ℕ) : ℤ) = -1310 from below] at range
  exact absurd range (by decide)

end Against

/-! ### Applying it -/

section Applied

/-- An opacity below zero is none at all. -/
theorem applyFade_of_nonpos (fd : FadeFrame) {alpha : ℤ} (dark : alpha ≤ 0) :
    applyFade fd alpha = applyFade fd 0 := by
  rw [applyFade, if_pos dark, applyFade, if_pos le_rfl]

end Applied

end Retrovue.Air.Blockplan
