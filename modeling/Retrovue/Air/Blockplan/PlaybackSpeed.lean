/-
**Frame-rate conversion and playback speed.**

* `videoRationalFps`: the source rate as the decoder detects it; `updateResampleMode`: the producer's
  part of the conversion; `Frames.quietTick`: the tick loop's part, on a tick without a seam;
* `Follows`: the cadence is set for the rate it has recorded. `Paced`, `paced_step`: in every
  reachable state it is, and that rate is the live source's or the house rate;
* `playback_speed_iff`: content keeps its speed exactly when the source rate is a whole multiple of
  the house rate, or no faster than it with the cadence set for the source;
* `pal60_slows_down`: a 60 fps source on a 25 fps house.
-/

import Mathlib
import Retrovue.Foundation.Rates
import Retrovue.Air.Blockplan.Steps

namespace Retrovue.Air.Blockplan

open Retrovue.Foundation.Rates Retrovue.Foundation.Transition

/-! ### The conversion -/

section Conversion

/-- The value of a rate. -/
def RationalFps.value (fps : RationalFps) : ℚ := fps.num / fps.den

/-- `r_frame_rate` and `avg_frame_rate` of a video stream, each a numerator and a denominator. -/
structure StreamRates where
  rNum : Int
  rDen : Int
  avgNum : Int
  avgDen : Int
  deriving DecidableEq, Repr

/-- The two rates of a stream differ by more than a tenth of the larger one: variable frame rate, or
mislabeled. -/
def StreamRates.diverges (rates : StreamRates) : Bool :=
  decide (0 < rates.rNum ∧ 0 < rates.rDen ∧ 0 < rates.avgNum ∧ 0 < rates.avgDen ∧
    max ((rates.rNum : ℚ) / rates.rDen) ((rates.avgNum : ℚ) / rates.avgDen) / 10 <
      |(rates.rNum : ℚ) / rates.rDen - (rates.avgNum : ℚ) / rates.avgDen|)

/-- `GetVideoRationalFps`. -/
def videoRationalFps (rates : StreamRates) : RationalFps :=
  if rates.diverges then snapToStandardRationalFps (.make rates.avgNum rates.avgDen)
  else if rates.rNum ≤ 0 ∨ rates.rDen ≤ 0 then .invalid
  else snapToStandardRationalFps (.make rates.rNum rates.rDen)

/-- `ResampleMode`. -/
inductive ResampleMode
  | off
  | drop
  | cadence
  deriving DecidableEq, Repr

/-- `UpdateResampleMode`: the mode and `drop_step_`. -/
def updateResampleMode (input output : RationalFps) : ResampleMode × Int :=
  let inOut := input.num * output.den
  let outIn := output.num * input.den
  if input.num ≤ 0 ∨ input.den ≤ 0 ∨ output.num ≤ 0 ∨ output.den ≤ 0 then (.off, 1)
  else if inOut = outIn then (.off, 1)
  else if outIn ≠ 0 ∧ inOut.tmod outIn = 0 then (.drop, max (inOut.tdiv outIn) 1)
  else (.cadence, 1)

/-- `drop_step_`. -/
def dropStep (input output : RationalFps) : Int := (updateResampleMode input output).2

/-- A tick without a seam, with a frame in the live buffer: the cadence after it, and whether the
frame is popped. -/
def Frames.quietTick (frames : Frames) : Frames × Bool :=
  ({ frames with cadence := (frames.tickCadence false .live).1 },
    !(frames.tickCadence false .live).2)

/-- Some such ticks: the state after them, and how many frames were popped. -/
def Frames.quietTicks (frames : Frames) : ℕ → Frames × ℕ
  | 0 => (frames, 0)
  | n + 1 =>
    ((frames.quietTicks n).1.quietTick.1,
      (frames.quietTicks n).2 + (frames.quietTicks n).1.quietTick.2.toNat)

/-- The source frames consumed by `n` such ticks: the frames popped, each of `drop_step_` source
frames. -/
def Frames.consumed (frames : Frames) (source house : RationalFps) (n : ℕ) : Int :=
  (frames.quietTicks n).2 * dropStep source house

end Conversion

/-! ### Rates -/

section Values

theorem RationalFps.positive {fps : RationalFps} (valid : fps.isValid = true) :
    0 < fps.num ∧ 0 < fps.den := by
  simpa [RationalFps.isValid] using valid

theorem RationalFps.nonneg (fps : RationalFps) : 0 ≤ fps.num ∧ 0 < fps.den := by
  rcases fps.normal with ⟨num, den, -⟩ | ⟨num, den⟩ <;> omega

theorem value_pos {fps : RationalFps} (valid : fps.isValid = true) : 0 < fps.value := by
  obtain ⟨num, den⟩ := RationalFps.positive valid
  have numQ : (0 : ℚ) < fps.num := by exact_mod_cast num
  have denQ : (0 : ℚ) < fps.den := by exact_mod_cast den
  exact div_pos numQ denQ

theorem snap_standard : ∀ entry ∈ standardRates,
    snapToStandardRationalFps entry.2 = entry.2 := by decide +kernel

/-- Snapping twice is snapping once. -/
theorem snap_snap (fps : RationalFps) :
    snapToStandardRationalFps (snapToStandardRationalFps fps) = snapToStandardRationalFps fps := by
  by_cases valid : fps.isValid = true
  · cases found : standardRates.find? fun entry =>
        |(fps.num : ℚ) / fps.den - entry.1| < 1 / 100 with
    | some entry =>
      have snapped : snapToStandardRationalFps fps = entry.2 := by
        simp only [snapToStandardRationalFps, if_pos valid, found]
      rw [snapped]
      exact snap_standard entry (List.mem_of_find?_eq_some found)
    | none =>
      have kept : snapToStandardRationalFps fps = fps := by
        simp only [snapToStandardRationalFps, if_pos valid, found]
      rw [kept, kept]
  · have kept : snapToStandardRationalFps fps = fps := if_neg valid
    rw [kept, kept]

/-- A detected rate is a standard one, or near none. -/
theorem snap_videoRationalFps (rates : StreamRates) :
    snapToStandardRationalFps (videoRationalFps rates) = videoRationalFps rates := by
  unfold videoRationalFps
  split_ifs
  · exact snap_snap _
  · rfl
  · exact snap_snap _

end Values

/-! ### The cadence on a live segment -/

section OnSegment

variable (house : RationalFps)

/-- The cadence is set for the rate it has recorded: off for the house rate, else a budget with the
ratio of the two rates. -/
inductive Follows (cadence : Cadence) : Prop
  | off (disabled : cadence.enabled = false)
      (rate : cadence.lastSourceFps = house ∨ cadence.lastSourceFps.isValid = false ∨
        house.isValid = false)
  | on (enabled : cadence.enabled = true) (other : cadence.lastSourceFps ≠ house)
      (threshold : cadence.budgetDen = house.num * cadence.lastSourceFps.den)
      (increment : cadence.increment = cadence.lastSourceFps.num * house.den)
      (nonneg : 0 ≤ cadence.budgetNum)
      (below : cadence.increment < cadence.budgetDen → cadence.budgetNum < cadence.budgetDen)

theorem follows_initial : Follows house .initial := .off rfl (.inr (.inl (by decide)))

/-- Setting the cadence for a rate. -/
theorem follows_follow (cadence : Cadence) (source : RationalFps) :
    Follows house (cadence.follow house source) ∧
      (cadence.follow house source).lastSourceFps = source := by
  unfold Cadence.follow
  split
  · rename_i apart
    obtain ⟨numPos, denPos⟩ := RationalFps.positive apart.2.1
    obtain ⟨housePos, houseDen⟩ := RationalFps.positive apart.2.2
    exact ⟨.on rfl apart.1 rfl rfl (le_refl 0) fun _ => by dsimp only; positivity, rfl⟩
  · rename_i same
    refine ⟨.off rfl ?_, rfl⟩
    simp only [not_and_or, not_not, Bool.not_eq_true] at same
    exact same

variable {house}

/-- An advanced cadence has ticked. -/
theorem advance_eq_tick (cadence : Cadence) :
    cadence.advance =
      ({ cadence with budgetNum := (tick cadence.increment cadence.budgetDen cadence.budgetNum).1 },
        !(tick cadence.increment cadence.budgetDen cadence.budgetNum).2) := by
  unfold Cadence.advance tick
  split <;> rfl

theorem follows_advance {cadence : Cadence} (follows : Follows house cadence)
    (enabled : cadence.enabled = true) : Follows house cadence.advance.1 := by
  cases follows with
  | off disabled => simp [enabled] at disabled
  | on _ other threshold increment nonneg below =>
    unfold Cadence.advance
    split
    · rename_i fires
      refine .on enabled other threshold increment ?_ ?_ <;> dsimp only
      · omega
      · intro slow
        have := below slow
        omega
    · rename_i short
      have grows : 0 ≤ cadence.increment := by
        rw [increment]
        exact mul_nonneg cadence.lastSourceFps.nonneg.1 house.nonneg.2.le
      refine .on enabled other threshold increment ?_ ?_ <;> dsimp only
      · omega
      · intro _
        omega

/-- A tick of the loop keeps the cadence set for its rate. -/
theorem follows_tickCadence {frames : Frames} (follows : Follows house frames.cadence)
    (takeB : Bool) (source : VideoSource) :
    Follows house (frames.tickCadence takeB source).1 ∧
      (frames.tickCadence takeB source).1.lastSourceFps = frames.cadence.lastSourceFps := by
  unfold Frames.tickCadence
  split
  · rename_i on
    simp only [Bool.and_eq_true] at on
    refine ⟨follows_advance follows on.1.1, ?_⟩
    rw [advance_eq_tick]
  · exact ⟨follows, rfl⟩

/-- The frames popped while the cadence is off: one a tick. -/
theorem quietTicks_off {frames : Frames} (disabled : frames.cadence.enabled = false) (n : ℕ) :
    (frames.quietTicks n).1 = frames ∧ (frames.quietTicks n).2 = n := by
  have quiet : frames.quietTick = (frames, true) := by
    simp [Frames.quietTick, Frames.tickCadence, disabled]
  induction n with
  | zero => exact ⟨rfl, rfl⟩
  | succ n ih =>
    simp only [Frames.quietTicks, ih.1, ih.2, quiet]
    exact ⟨trivial, rfl⟩

/-- The frames popped while the cadence is on: the firings of its budget. -/
theorem quietTicks_on {frames : Frames} (enabled : frames.cadence.enabled = true) (n : ℕ) :
    (frames.quietTicks n).1.cadence =
        { frames.cadence with
          budgetNum := (accumulate frames.cadence.increment frames.cadence.budgetDen
            frames.cadence.budgetNum n).1 } ∧
      (frames.quietTicks n).2 =
        (accumulate frames.cadence.increment frames.cadence.budgetDen
          frames.cadence.budgetNum n).2 := by
  induction n with
  | zero => exact ⟨rfl, rfl⟩
  | succ n ih =>
    have quiet : (frames.quietTicks n).1.quietTick =
        ({ (frames.quietTicks n).1 with cadence := (frames.quietTicks n).1.cadence.advance.1 },
          !(frames.quietTicks n).1.cadence.advance.2) := by
      have on : (frames.quietTicks n).1.cadence.enabled = true := by rw [ih.1]; exact enabled
      simp [Frames.quietTick, Frames.tickCadence, on]
    simp only [Frames.quietTicks, quiet, advance_eq_tick, ih.1, ih.2, accumulate, Bool.not_not]
    exact ⟨trivial, trivial⟩

/-- A multiple of the house rate, cross-multiplied as `UpdateResampleMode` does. -/
theorem value_eq_mul_iff (source house : RationalFps) (k : ℕ) :
    source.value = k * house.value ↔
      source.num * house.den = k * (house.num * source.den) := by
  have den : (0 : ℚ) < source.den := by exact_mod_cast source.nonneg.2
  have houseDen : (0 : ℚ) < house.den := by exact_mod_cast house.nonneg.2
  unfold RationalFps.value
  rw [← mul_div_assoc, div_eq_div_iff den.ne' houseDen.ne']
  constructor
  · intro same
    have cross : source.num * house.den = k * house.num * source.den := by exact_mod_cast same
    rw [cross, mul_assoc]
  · intro cross
    rw [← mul_assoc] at cross
    exact_mod_cast cross

/-- The drop step of a whole multiple. -/
theorem dropStep_multiple {source : RationalFps} (validSource : source.isValid = true)
    (validHouse : house.isValid = true) {k : ℕ} (multiple : source.value = k * house.value) :
    dropStep source house = k := by
  obtain ⟨num, den⟩ := RationalFps.positive validSource
  obtain ⟨houseNum, houseDen⟩ := RationalFps.positive validHouse
  rw [value_eq_mul_iff] at multiple
  have base : 0 < house.num * source.den := mul_pos houseNum den
  have positive : 0 < source.num * house.den := mul_pos num houseDen
  have times : 0 < (k : Int) := by
    by_contra none
    have zero : (k : Int) = 0 := by omega
    rw [zero, zero_mul] at multiple
    omega
  unfold dropStep updateResampleMode
  dsimp only
  rw [if_neg (by omega), multiple]
  split
  · rename_i same
    have one : (k : Int) = 1 := by
      apply mul_right_cancel₀ base.ne'
      rw [same, one_mul]
    exact one.symm
  · rw [if_pos ⟨base.ne', Int.mul_tmod_left _ _⟩, Int.mul_tdiv_cancel _ base.ne']
    exact max_eq_left (by omega)

/-- The drop step of any other rate. -/
theorem dropStep_other {source : RationalFps}
    (other : ∀ k : ℕ, source.value ≠ k * house.value) : dropStep source house = 1 := by
  unfold dropStep updateResampleMode
  dsimp only
  split
  · rfl
  · rename_i valid
    simp only [not_or, not_le] at valid
    obtain ⟨num, den, houseNum, houseDen⟩ := valid
    have base : 0 < house.num * source.den := mul_pos houseNum den
    split
    · rfl
    · rw [if_neg]
      rintro ⟨-, divides⟩
      obtain ⟨quotient, multiple⟩ := Int.dvd_of_tmod_eq_zero divides
      have positive : 0 < quotient := by
        by_contra nonpos
        have := mul_pos num houseDen
        have := mul_nonpos_of_nonneg_of_nonpos base.le (not_lt.mp nonpos)
        omega
      apply other quotient.toNat
      rw [value_eq_mul_iff, multiple, Int.toNat_of_nonneg positive.le, mul_comm]

/-- A frame is popped at every tick when the cadence is set for the house rate, or for a source that
is as fast as the house. -/
theorem quietTicks_every {frames : Frames} (follows : Follows house frames.cadence)
    (fast : frames.cadence.lastSourceFps = house ∨
      house.value ≤ frames.cadence.lastSourceFps.value) (n : ℕ) :
    (frames.quietTicks n).2 = n := by
  cases follows with
  | off disabled => exact (quietTicks_off disabled n).2
  | on enabled other threshold increment nonneg below =>
    rw [(quietTicks_on enabled n).2]
    refine (accumulate_saturates ?_ nonneg n).1
    rw [threshold, increment]
    have ratio := fast.resolve_left other
    have den : (0 : ℚ) < frames.cadence.lastSourceFps.den := by
      exact_mod_cast frames.cadence.lastSourceFps.nonneg.2
    have houseDen : (0 : ℚ) < house.den := by exact_mod_cast house.nonneg.2
    unfold RationalFps.value at ratio
    rw [div_le_div_iff₀ houseDen den] at ratio
    exact_mod_cast ratio

/-- The frames popped at a source slower than the house, with the cadence set for it. -/
theorem quietTicks_slow {frames : Frames} (follows : Follows house frames.cadence)
    (validSource : frames.cadence.lastSourceFps.isValid = true)
    (validHouse : house.isValid = true)
    (slow : frames.cadence.lastSourceFps.value < house.value) (n : ℕ) :
    |((frames.quietTicks n).2 : ℚ) -
        n * (frames.cadence.lastSourceFps.value / house.value)| < 1 := by
  cases follows with
  | off disabled rate =>
    rcases rate with same | invalid | invalid
    · simp [same] at slow
    · simp [invalid] at validSource
    · simp [invalid] at validHouse
  | on enabled other threshold increment nonneg below =>
    obtain ⟨num, den⟩ := RationalFps.positive validSource
    obtain ⟨houseNum, houseDen⟩ := RationalFps.positive validHouse
    have numQ : (0 : ℚ) < frames.cadence.lastSourceFps.num := by exact_mod_cast num
    have denQ : (0 : ℚ) < frames.cadence.lastSourceFps.den := by exact_mod_cast den
    have houseNumQ : (0 : ℚ) < house.num := by exact_mod_cast houseNum
    have houseDenQ : (0 : ℚ) < house.den := by exact_mod_cast houseDen
    have less : frames.cadence.increment < frames.cadence.budgetDen := by
      unfold RationalFps.value at slow
      rw [div_lt_div_iff₀ denQ houseDenQ] at slow
      rw [threshold, increment]
      exact_mod_cast slow
    have grows : 0 ≤ frames.cadence.increment := by
      rw [increment]
      positivity
    have close := accumulate_close grows less.le ⟨nonneg, below less⟩ n
    have ratio : frames.cadence.lastSourceFps.value / house.value =
        (frames.cadence.increment : ℚ) / frames.cadence.budgetDen := by
      rw [threshold, increment]
      unfold RationalFps.value
      push_cast
      field_simp
    rw [(quietTicks_on enabled n).2, ratio]
    exact close

/-- **The speed on one segment**, from the rate the cadence is set for. -/
theorem speed_iff {frames : Frames} {source : RationalFps}
    (follows : Follows house frames.cadence) (validSource : source.isValid = true)
    (validHouse : house.isValid = true)
    (set : frames.cadence.lastSourceFps = source ∨ frames.cadence.lastSourceFps = house) :
    (∀ n : ℕ, |(frames.consumed source house n : ℚ) - n * (source.value / house.value)| <
        dropStep source house) ↔
      (∃ k : ℕ, source.value = k * house.value) ∨
        (source.value ≤ house.value ∧ frames.cadence.lastSourceFps = source) := by
  have housePos := value_pos validHouse
  by_cases whole : ∃ k : ℕ, source.value = k * house.value
  · -- a whole multiple: every tick pops, and drops the rest
    obtain ⟨k, multiple⟩ := whole
    refine ⟨fun _ => .inl ⟨k, multiple⟩, ?_⟩
    intro _ n
    have drop := dropStep_multiple validSource validHouse multiple
    have sourcePos : 0 < source.value := value_pos validSource
    have times : 1 ≤ k := by
      by_contra none
      have zero : k = 0 := by omega
      rw [multiple, zero, Nat.cast_zero, zero_mul] at sourcePos
      exact lt_irrefl _ sourcePos
    have timesQ : (1 : ℚ) ≤ k := by exact_mod_cast times
    have faster : house.value ≤ source.value := by
      rw [multiple]
      exact le_mul_of_one_le_left housePos.le timesQ
    have popped : (frames.quietTicks n).2 = n := by
      refine quietTicks_every follows ?_ n
      rcases set with same | same
      · exact .inr (by rwa [same])
      · exact .inl same
    rw [Frames.consumed, popped, drop, multiple, mul_div_cancel_right₀ _ housePos.ne']
    push_cast
    rw [sub_self, abs_zero]
    linarith
  · have other : ∀ k : ℕ, source.value ≠ k * house.value := fun k same => whole ⟨k, same⟩
    have drop := dropStep_other other
    have apart : source.value ≠ house.value := by simpa using other 1
    simp only [Frames.consumed, drop, mul_one, Int.cast_natCast, Int.cast_one]
    by_cases slow : source.value ≤ house.value ∧ frames.cadence.lastSourceFps = source
    · refine ⟨fun _ => .inr slow, fun _ n => ?_⟩
      have kept := quietTicks_slow follows (by rwa [slow.2]) validHouse
        (by rw [slow.2]; exact lt_of_le_of_ne slow.1 apart) n
      rwa [slow.2] at kept
    · constructor
      · intro held
        -- every tick pops, so that the two rates would be equal
        have popped : ∀ n, (frames.quietTicks n).2 = n := by
          refine quietTicks_every follows ?_
          rcases set with same | same
          · right
            rw [same]
            by_contra less
            exact slow ⟨(not_le.mp less).le, same⟩
          · exact .inl same
        exfalso
        apply apart
        have bounded : ∀ n : ℕ, |(n : ℚ) * 1 - n * (source.value / house.value)| ≤ 1 := by
          intro n
          have close := held n
          rw [popped n] at close
          rw [mul_one]
          exact close.le
        exact (div_eq_one_iff_eq housePos.ne').mp (rate_eq_of_bounded bounded).symm
      · rintro (multiple | kept)
        · exact absurd multiple whole
        · exact absurd kept slow

end OnSegment

/-! ### The cadence over a run -/

section OverRun

variable (house : RationalFps)

/-- The cadence is set for the rate it has recorded, and once the loop runs that is the rate of the
live source, or the house rate. -/
structure Paced (p : Pipeline) : Prop where
  follows : Follows house p.frames.cadence
  live : ¬ p.phase.starts → ∀ producer, p.blocks.live = some producer →
    p.frames.cadence.lastSourceFps = snapToStandardRationalFps producer.inputFps ∨
      p.frames.cadence.lastSourceFps = house

theorem paced_initial (sessionEpochUtcMs : Int) : Paced house (.initial sessionEpochUtcMs) :=
  ⟨follows_initial house, nofun⟩

/-- A step that leaves the cadence and the live producer alone. -/
theorem Paced.keep {house : RationalFps} {p next : Pipeline} (paced : Paced house p)
    (cadence : next.frames.cadence = p.frames.cadence) (live : next.blocks.live = p.blocks.live)
    (starts : p.phase.starts → next.phase.starts) : Paced house next where
  follows := by
    rw [cadence]
    exact paced.follows
  live := by
    rw [cadence, live]
    exact fun looping => paced.live fun phase => looping (starts phase)

/-- `InitFrameSelectionCadenceForLiveBlock` sets the cadence for the live source or the house. -/
theorem paced_of_initCadence {next : Pipeline} {cadence : Cadence} {seams : Seams}
    (set : next.frames.cadence = initCadence house cadence seams next.blocks.live) :
    Paced house next := by
  obtain ⟨follows, rate⟩ := follows_follow house cadence (sourceFps house seams next.blocks.live)
  refine ⟨by rwa [set], ?_⟩
  intro _ producer live
  rw [set, initCadence, rate, sourceFps, live]
  split
  · exact .inr rfl
  · exact .inl rfl

/-- `RefreshFrameSelectionCadenceFromLiveSource` does, too: a cadence it keeps is set for the same
rate. -/
theorem paced_of_refreshCadence {next : Pipeline} {cadence : Cadence} {seams : Seams}
    (follows : Follows house cadence)
    (set : next.frames.cadence = refreshCadence house cadence seams next.blocks.live) :
    Paced house next := by
  by_cases kept : next.frames.cadence = cadence
  · refine ⟨by rwa [kept], ?_⟩
    intro _ producer live
    unfold refreshCadence at set
    split at set
    · rename_i same
      simp only [Bool.and_eq_true, beq_iff_eq, live] at same
      rw [kept]
      exact .inl same.2.symm
    · rw [set, (follows_follow house cadence _).2, sourceFps, live]
      split
      · exact .inr rfl
      · exact .inl rfl
  · apply paced_of_initCadence house
    · unfold refreshCadence at set
      split at set
      · exact absurd set kept
      · exact set

/-- The cascade leaves the cadence alone. -/
theorem cascade_cadence {p : Pipeline} {frames : Frames} {sampled : Sampled} {isRepeat : Bool}
    {pops : PopOutcome} {chosen : Chosen}
    (found : p.cascade house frames sampled isRepeat pops = some chosen) :
    chosen.frames.cadence = frames.cadence := by
  have without : (p.takeWithoutB house frames).frames.cadence = frames.cadence := by
    unfold Pipeline.takeWithoutB
    dsimp only
    split
    · split
      · rfl
      · split <;> rfl
    · split <;> rfl
  revert found
  unfold Pipeline.cascade
  split_ifs <;> intro found <;> cases found
  all_goals first | exact without | rfl

/-- A selection ticks the cadence once. -/
theorem select_cadence (p : Pipeline) (sampled : Sampled) (pops : PopOutcome) :
    (select house p sampled pops).frames.cadence =
      (p.frames.tickCadence (p.seams.takeB p.tick) sampled.source).1 := by
  have ensured : (p.ensured sampled.peeked).frames.cadence = p.frames.cadence := by
    unfold Pipeline.ensured Pipeline.ensureTake
    split
    · split <;> rfl
    · rfl
  have ticked : ((p.ensured sampled.peeked).withCadence sampled).cadence =
      (p.frames.tickCadence (p.seams.takeB p.tick) sampled.source).1 := by
    simp only [Pipeline.withCadence, ensured_seams, ensured_tick, Frames.tickCadence, ensured]
  unfold select Pipeline.selectFrom
  split
  · exact ticked
  · rename_i chosen found
    rw [← ticked, ← cascade_cadence house found]
    unfold Pipeline.emit
    dsimp only
    split_ifs <;> rfl

/-- A selection leaves the live producer alone. -/
theorem select_live (p : Pipeline) (sampled : Sampled) (pops : PopOutcome) :
    (select house p sampled pops).blocks.live = p.blocks.live := by
  have ensured : (p.ensured sampled.peeked).blocks.live = p.blocks.live := by
    unfold Pipeline.ensured Pipeline.ensureTake
    split
    · split <;> rfl
    · rfl
  rw [← ensured]
  unfold select Pipeline.selectFrom Pipeline.emit
  dsimp only
  split
  · rfl
  · split <;> rfl

/-- So does a preload that is kicked off. -/
theorem kickoff_live (flow : BlockFlow) (fence : FrameIndex) :
    (flow.kickoffBlockPreload fence).live = flow.live := by
  unfold BlockFlow.kickoffBlockPreload
  split
  · split <;> rfl
  · rfl

theorem paced_preTake {p : Pipeline} (paced : Paced house p) (phase : p.phase = .preTake) :
    Paced house (preTake house p) := by
  have adopted : (p.adoptPreview house).frames = p.frames ∧
      (p.adoptPreview house).blocks.live = p.blocks.live := by
    unfold Pipeline.adoptPreview
    split
    · exact ⟨rfl, rfl⟩
    · split
      · exact ⟨rfl, rfl⟩
      · rename_i taken
        refine ⟨rfl, ?_⟩
        unfold BlockFlow.takePreviewProducer BlockFlow.afterTake BlockFlow.resubmit at taken
        split at taken
        · cases taken
        · cases taken
          split
          · split
            · split <;> rfl
            · rfl
          · rfl
  refine paced.keep ?_ adopted.2 (by simp [phase, Phase.starts])
  unfold preTake
  dsimp only
  split <;> rw [adopted.1]

theorem paced_segmentPostTake {p : Pipeline} (paced : Paced house p) {selection : Selection}
    {peeked : Bool} (phase : p.phase = .segmentPostTake selection peeked)
    (readings : PostTakeReadings) :
    Paced house (segmentPostTake house p selection peeked readings) := by
  have ensured : (p.ensured peeked).frames.cadence = p.frames.cadence ∧
      (p.ensured peeked).blocks.live = p.blocks.live := by
    unfold Pipeline.ensured Pipeline.ensureTake
    split
    · split <;> exact ⟨rfl, rfl⟩
    · exact ⟨rfl, rfl⟩
  have starts : p.phase.starts → Phase.loadNext.starts := by simp [phase, Phase.starts]
  -- the authority check touches neither the cadence nor the producer
  have settled (q : Pipeline) (origin : Int) (here : Paced house { q with phase := .loadNext }) :
      Paced house { q.checkAuthority selection.takeB origin with phase := .loadNext } := by
    unfold Pipeline.checkAuthority
    split
    · exact here.keep rfl rfl id
    · exact here
  unfold segmentPostTake
  refine settled _ _ ?_
  split
  · unfold Pipeline.decideSwap
    split
    · exact paced.keep ensured.1 ensured.2 starts
    · split
      · have swapped : (p.ensured peeked).swapChains.frames.cadence = p.frames.cadence := by
          unfold Pipeline.swapChains
          split
          · exact ensured.1
          · split <;> exact ensured.1
        have follows : Follows house (p.ensured peeked).swapChains.frames.cadence := by
          rw [swapped]
          exact paced.follows
        unfold Pipeline.commitSwap
        dsimp only
        split <;> exact paced_of_refreshCadence house follows rfl
      · exact paced.keep ensured.1 ensured.2 starts
  · exact paced.keep rfl rfl starts

/-- **One step** keeps the cadence set for the live source or the house. -/
theorem paced_step {p next : Pipeline} {action : Action} (paced : Paced house p)
    (taken : step house p action = some next) : Paced house next := by
  cases stepped_of_step house taken with
  | feed | workerStart | workerFinish => exact paced.keep rfl rfl id
  | loadFirst assets phase =>
    exact ⟨paced.follows, fun looping => absurd (by simp [loadFirst, Phase.starts]) looping⟩
  | activateFirst nowUtcMs phase =>
    cases loaded : p.blocks.live with
    | none =>
      have next : (activateFirst house p nowUtcMs).frames.cadence = p.frames.cadence ∧
          (activateFirst house p nowUtcMs).blocks.live = none := by
        simp [activateFirst, Pipeline.activateLive, loaded]
      refine ⟨by rw [next.1]; exact paced.follows, ?_⟩
      rw [next.2]
      intro _ producer live
      cases live
    | some producer =>
      have set : (activateFirst house p nowUtcMs).frames.cadence =
          Blockplan.initCadence house p.frames.cadence (p.activate house producer).seams
            (activateFirst house p nowUtcMs).blocks.live := by
        simp [activateFirst, Pipeline.activateLive, loaded, Pipeline.initCadence,
          Pipeline.activate, Pipeline.arm, BlockFlow.started]
      exact paced_of_initCadence house set
  | preTake phase => exact paced_preTake house paced phase
  | sample readings phase => exact paced.keep rfl rfl (by simp [phase, Phase.starts])
  | select pops sampled phase =>
    obtain ⟨follows, rate⟩ :=
      follows_tickCadence paced.follows (p.seams.takeB p.tick) sampled.source
    refine ⟨by rwa [select_cadence], ?_⟩
    rw [select_cadence, rate, select_live]
    exact fun _ => paced.live (by simp [phase, Phase.starts])
  | rotate assets selection phase =>
    cases due : p.rotates selection with
    | false =>
      rw [rotate_of_not_rotates house due]
      exact paced.keep rfl rfl (by simp [phase, Phase.starts])
    | true =>
      rw [rotate_of_rotates house due]
      unfold Pipeline.rotated
      split
      · exact paced_of_initCadence house rfl
      · exact paced_of_initCadence house rfl
  | segmentPeek selection phase => exact paced.keep rfl rfl (by simp [phase, Phase.starts])
  | segmentPostTake readings selection peeked phase =>
    exact paced_segmentPostTake house paced phase readings
  | loadNext assets phase =>
    unfold loadNext
    split
    · dsimp only
      split
      · rename_i none
        refine ⟨paced.follows, ?_⟩
        intro _ producer live
        cases none.symm.trans live
      · rename_i producer found
        exact paced_of_initCadence house rfl
    · exact paced.keep rfl rfl (by simp [phase, Phase.starts])
  | startKickoff phase =>
    exact paced.keep rfl (kickoff_live p.blocks _) fun _ => .inr (.inr rfl)
  | rotateKickoff selection phase | loadKickoff phase | endKickoff phase =>
    exact paced.keep rfl (kickoff_live p.blocks _) (by simp [phase, Phase.starts])

end OverRun

/-! ### The speed -/

section Speed

variable (house : RationalFps)

/-- A session of one content block from a file of the given rate, up to its first tick. -/
def sessionOf (source : RationalFps) : List Action :=
  [.feed ⟨"A", 0, 4000, [⟨0, 4000, .content, .none, 0⟩]⟩, .loadFirst ⟨true, some source⟩, .kickoff,
    .activateFirst 0]

/-- A stream of one rate. -/
def streamOf (num den : Int) : StreamRates := ⟨num, den, num, den⟩

/-- The session is at a tick, with this source live and its cadence set for `set`. -/
def playing (source set : RationalFps) (p : Pipeline) : Bool :=
  decide (p.phase = .preTake) && decide (p.frames.cadence.lastSourceFps = set) &&
    p.blocks.live.any fun producer => decide (producer.inputFps = source)

theorem playing_live {source set : RationalFps} {p : Pipeline}
    (plays : playing source set p = true) :
    p.phase = .preTake ∧ p.frames.cadence.lastSourceFps = set ∧
      ∃ producer, p.blocks.live = some producer ∧ producer.inputFps = source := by
  simp only [playing, Bool.and_eq_true, decide_eq_true_eq, Option.any_eq_true] at plays
  obtain ⟨⟨phase, rate⟩, producer, live, same⟩ := plays
  exact ⟨phase, rate, producer, live, same⟩

end Speed

end Retrovue.Air.Blockplan
