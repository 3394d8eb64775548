/-
**Presentation time of video and audio** (`OutputClock.cpp`, and the audio emission of
`PipelineManager::Run`).

* `frameIndexToPts90k`: video time, the frame index times a rounded frame duration;
* `Emission`, `emitTick`: the counters of the tick loop and the audio frame that a tick encodes, on
  whichever of the four branches it takes;
* `emission_counts`: audio follows the exact rate on every branch;
* `synchronous_iff`: video and audio stay together over sessions of every length exactly when the
  frame duration is a whole number of 90 kHz ticks;
* `ntsc60_drifts`: at 60000/1001 frames a second they do not.
-/

import Mathlib
import Retrovue.Foundation.Rates
import Retrovue.Air.Blockplan.Types

namespace Retrovue.Air.Blockplan

open Retrovue.Foundation.Rates

/-! ### The clock -/

section Clock

variable (house : RationalFps)

/-- `frame_duration_90k_`: the frame duration rounded to the nearest 90 kHz tick. -/
def frameDuration90k : Int := (90000 * house.den + house.num.tdiv 2).tdiv house.num

/-- `FrameIndexToPts90k`. -/
def frameIndexToPts90k (sessionFrameIndex : Int) : Int := sessionFrameIndex * frameDuration90k house

/-- `kHouseAudioSampleRate`. -/
def houseAudioSampleRate : Int := 48000

end Clock

/-! ### A tick's audio -/

section Audio

/-- What the audio emission of a tick looks at: the degraded hold, the sources, the decision and the
active segment, and whether `TryPopSamples` succeeded. -/
structure AudioReadings where
  usingDegradedHeld : Bool
  hasSource : Bool
  hasAudioBuffer : Bool
  isPrimed : Bool
  padDecision : Bool
  activeSegmentIsPad : Bool
  popped : Bool
  deriving DecidableEq, Repr

/-- `a_emit` is not null: the tick's source, or the live buffer on a pad tick. -/
def AudioReadings.emits (readings : AudioReadings) : Bool :=
  readings.hasSource ||
    (readings.hasAudioBuffer && (readings.padDecision || readings.activeSegmentIsPad))

/-- The frame handed to `encodeAudioFrame`. -/
structure AudioFrame where
  nbSamples : Int
  pts90k : Int
  isSilencePad : Bool
  deriving DecidableEq, Repr

/-- The counters of the tick loop that time is computed from, with the audio encoded so far. -/
structure Emission where
  sessionFrameIndex : Int
  audioSamplesEmitted : Int
  audioTicksEmitted : Int
  audioBufferSamplesEmitted : Int
  encoded : List AudioFrame
  deriving DecidableEq, Repr

/-- The counters as a session starts. -/
def Emission.initial : Emission := ⟨0, 0, 0, 0, []⟩

/-- `pts_origin_frame_index` and `pts_origin_audio_samples`. -/
def ptsOrigin : Int := 0

/-- `audio_pts_90k`. -/
def Emission.audioPts90k (e : Emission) : Int :=
  ((e.audioSamplesEmitted - ptsOrigin) * 90000).tdiv houseAudioSampleRate

variable (house : RationalFps)

/-- `video_pts_90k`. -/
def Emission.videoPts90k (e : Emission) : Int :=
  frameIndexToPts90k house (e.sessionFrameIndex - ptsOrigin)

/-- `samples_this_tick`. -/
def Emission.samplesThisTick (e : Emission) : Int :=
  ((e.audioTicksEmitted + 1) * houseAudioSampleRate * house.den).tdiv house.num -
    e.audioBufferSamplesEmitted

/-- A frame encoded and counted. -/
def Emission.encode (e : Emission) (samples : Int) (isSilencePad : Bool) : Emission :=
  { e with
    audioSamplesEmitted := e.audioSamplesEmitted + samples
    audioTicksEmitted := e.audioTicksEmitted + 1
    audioBufferSamplesEmitted := e.audioBufferSamplesEmitted + samples
    encoded := e.encoded ++ [⟨samples, e.audioPts90k, isSilencePad⟩] }

/-- The audio emission: silence in a degraded hold, popped samples, silence on an underflow, or
silence without a primed source. -/
def Emission.emitAudio (e : Emission) (readings : AudioReadings) : Emission :=
  if readings.usingDegradedHeld then e.encode (e.samplesThisTick house) true
  else if readings.emits &&
      (readings.isPrimed || readings.padDecision || readings.activeSegmentIsPad) then
    if readings.popped then e.encode (e.samplesThisTick house) readings.padDecision
    else e.encode (e.samplesThisTick house) true
  else e.encode (e.samplesThisTick house) true

/-- A tick of the session. -/
def emitTick (e : Emission) (readings : AudioReadings) : Emission :=
  { e.emitAudio house readings with sessionFrameIndex := e.sessionFrameIndex + 1 }

/-- The counters before the tick that follows these. -/
def emissionAfter (ticks : List AudioReadings) : Emission := ticks.foldl (emitTick house) .initial

end Audio

/-! ### What a tick counts -/

section Counting

variable (house : RationalFps)

/-- Every branch counts the same samples and one tick. -/
theorem emitTick_counts (e : Emission) (readings : AudioReadings) :
    (emitTick house e readings).sessionFrameIndex = e.sessionFrameIndex + 1 ∧
      (emitTick house e readings).audioSamplesEmitted =
        e.audioSamplesEmitted + e.samplesThisTick house ∧
      (emitTick house e readings).audioTicksEmitted = e.audioTicksEmitted + 1 ∧
      (emitTick house e readings).audioBufferSamplesEmitted =
        e.audioBufferSamplesEmitted + e.samplesThisTick house ∧
      (emitTick house e readings).encoded.map AudioFrame.nbSamples =
        e.encoded.map AudioFrame.nbSamples ++ [e.samplesThisTick house] := by
  unfold emitTick Emission.emitAudio Emission.encode
  split_ifs <;> simp

/-- The samples due before tick `n`: the exact rate rounded down. -/
def samplesDue (n : ℕ) : Int := (48000 * n * house.den) / house.num

variable {house}

theorem positive_of_valid (valid : house.isValid = true) : 0 < house.num ∧ 0 < house.den := by
  simpa [RationalFps.isValid] using valid

/-- **Audio counts exactly**: whatever branches the ticks took, the samples emitted are those due. -/
theorem emission_counts (valid : house.isValid = true) (ticks : List AudioReadings) :
    (emissionAfter house ticks).sessionFrameIndex = ticks.length ∧
      (emissionAfter house ticks).audioSamplesEmitted = samplesDue house ticks.length ∧
      (emissionAfter house ticks).audioTicksEmitted = ticks.length ∧
      (emissionAfter house ticks).audioBufferSamplesEmitted = samplesDue house ticks.length ∧
      ((emissionAfter house ticks).encoded.map AudioFrame.nbSamples).sum =
        samplesDue house ticks.length := by
  obtain ⟨positive, den⟩ := positive_of_valid valid
  induction ticks using List.reverseRecOn with
  | nil => simp [emissionAfter, Emission.initial, samplesDue]
  | append_singleton ticks readings ih =>
    obtain ⟨index, samples, count, buffered, encoded⟩ := ih
    have step : emissionAfter house (ticks ++ [readings]) =
        emitTick house (emissionAfter house ticks) readings := by
      simp [emissionAfter]
    obtain ⟨index', samples', count', buffered', encoded'⟩ :=
      emitTick_counts house (emissionAfter house ticks) readings
    have due : samplesDue house ticks.length + (emissionAfter house ticks).samplesThisTick house =
        samplesDue house (ticks ++ [readings]).length := by
      have next : ((ticks.length : Int) + 1) * 48000 * house.den =
          48000 * (ticks.length + 1) * house.den := by ring
      simp only [Emission.samplesThisTick, buffered, count, samplesDue, houseAudioSampleRate,
        List.length_append, List.length_singleton, Nat.cast_add, Nat.cast_one]
      rw [next, Int.tdiv_eq_ediv_of_nonneg (by positivity)]
      ring
    rw [step, index', samples', count', buffered', encoded', List.sum_append, encoded, index, samples,
      count, buffered, List.sum_singleton, due]
    simp

end Counting

/-! ### Video and audio together -/

section Together

variable (house : RationalFps)

/-- Before tick `n`: video is at its exact time within one 90 kHz tick, the audio samples encoded
are those due, and the two are within `bound` of each other. -/
structure Synchronous (bound : ℚ) (n : ℕ) (e : Emission) : Prop where
  video : |(e.videoPts90k house : ℚ) - n * (90000 * house.den / house.num)| ≤ 1
  audio : (e.encoded.map AudioFrame.nbSamples).sum = samplesDue house n
  together : |(e.videoPts90k house : ℚ) - e.audioPts90k| ≤ bound

variable {house}

theorem videoPts90k_after (valid : house.isValid = true) (ticks : List AudioReadings) :
    (emissionAfter house ticks).videoPts90k house = ticks.length * frameDuration90k house := by
  rw [Emission.videoPts90k, (emission_counts valid ticks).1, ptsOrigin, sub_zero]
  rfl

/-- A frame that lasts a whole number of 90 kHz ticks is not rounded. -/
theorem frameDuration90k_exact (valid : house.isValid = true) {duration : Int}
    (whole : 90000 * house.den = house.num * duration) : frameDuration90k house = duration := by
  obtain ⟨positive, den⟩ := positive_of_valid valid
  have half : 0 ≤ house.num.tdiv 2 ∧ house.num.tdiv 2 < house.num := by
    rw [Int.tdiv_eq_ediv_of_nonneg positive.le]
    omega
  rw [frameDuration90k, whole, Int.tdiv_eq_ediv_of_nonneg]
  · rw [Int.add_comm, Int.add_mul_ediv_left _ _ positive.ne', Int.ediv_eq_zero_of_lt half.1 half.2,
      zero_add]
  · rw [← whole]
    exact add_nonneg (by positivity) half.1

/-- Audio time trails the exact time by less than three 90 kHz ticks: one sample rounded down, and
its time rounded down. -/
theorem audioPts90k_after (valid : house.isValid = true) (ticks : List AudioReadings) :
    ((emissionAfter house ticks).audioPts90k : ℚ) ≤
        ticks.length * (90000 * house.den / house.num) ∧
      ticks.length * (90000 * house.den / house.num) - 3 ≤
        ((emissionAfter house ticks).audioPts90k : ℚ) := by
  obtain ⟨positive, den⟩ := positive_of_valid valid
  obtain ⟨-, samples, -⟩ := emission_counts valid ticks
  have numPos : (0 : ℚ) < house.num := by exact_mod_cast positive
  -- the samples are the exact count rounded down
  have due : samplesDue house ticks.length * house.num ≤ 48000 * ticks.length * house.den ∧
      48000 * ticks.length * house.den < samplesDue house ticks.length * house.num + house.num := by
    constructor
    · exact Int.ediv_mul_le _ positive.ne'
    · exact Int.lt_ediv_add_one_mul_self _ positive |>.trans_eq (by rw [samplesDue]; ring)
  have duePos : 0 ≤ samplesDue house ticks.length := Int.ediv_nonneg (by positivity) positive.le
  have pts : (emissionAfter house ticks).audioPts90k =
      samplesDue house ticks.length * 90000 / 48000 := by
    rw [Emission.audioPts90k, samples, ptsOrigin, sub_zero, houseAudioSampleRate,
      Int.tdiv_eq_ediv_of_nonneg (by positivity)]
  have time : (emissionAfter house ticks).audioPts90k * 48000 ≤ samplesDue house ticks.length * 90000 ∧
      samplesDue house ticks.length * 90000 <
        (emissionAfter house ticks).audioPts90k * 48000 + 48000 := by
    rw [pts]
    omega
  have low : (samplesDue house ticks.length : ℚ) * house.num ≤ 48000 * ticks.length * house.den := by
    exact_mod_cast due.1
  have high : (48000 * ticks.length * house.den : ℚ) <
      samplesDue house ticks.length * house.num + house.num := by
    exact_mod_cast due.2
  have timeLow : ((emissionAfter house ticks).audioPts90k : ℚ) * 48000 ≤
      samplesDue house ticks.length * 90000 := by
    exact_mod_cast time.1
  have timeHigh : (samplesDue house ticks.length : ℚ) * 90000 <
      (emissionAfter house ticks).audioPts90k * 48000 + 48000 := by
    exact_mod_cast time.2
  rw [show (ticks.length : ℚ) * (90000 * house.den / house.num) =
    48000 * ticks.length * house.den / house.num * (90000 / 48000) by field_simp]
  have exactLow : (samplesDue house ticks.length : ℚ) ≤
      48000 * ticks.length * house.den / house.num := by
    rwa [le_div_iff₀ numPos]
  have exactHigh : (48000 * ticks.length * house.den / house.num : ℚ) <
      samplesDue house ticks.length + 1 := by
    rw [div_lt_iff₀ numPos]
    linarith
  constructor <;> linarith

/-- A tick whose audio is silence. -/
def silentTick : AudioReadings := ⟨false, false, false, false, false, false, false⟩

/-- **Video and audio stay together exactly at the rates whose frame is a whole number of 90 kHz
ticks**: there, and at no other valid house rate, every tick of a session of any length finds video
within one tick of its time, audio at its exact count, and the two within a fixed bound. -/
theorem synchronous_iff (valid : house.isValid = true) :
    (∃ bound : ℚ, ∀ ticks : List AudioReadings,
        Synchronous house bound ticks.length (emissionAfter house ticks)) ↔
      house.num ∣ 90000 * house.den := by
  obtain ⟨positive, den⟩ := positive_of_valid valid
  have numPos : (0 : ℚ) < house.num := by exact_mod_cast positive
  constructor
  · rintro ⟨bound, held⟩
    have rates : (frameDuration90k house : ℚ) = 90000 * house.den / house.num := by
      apply rate_eq_of_bounded
      intro n
      have video := (held (List.replicate n silentTick)).video
      rw [videoPts90k_after valid, List.length_replicate] at video
      push_cast at video
      exact video
    rw [eq_div_iff numPos.ne'] at rates
    refine ⟨frameDuration90k house, ?_⟩
    rw [mul_comm house.num]
    exact_mod_cast rates.symm
  · rintro ⟨duration, whole⟩
    refine ⟨3, ?_⟩
    intro ticks
    have exact : ((emissionAfter house ticks).videoPts90k house : ℚ) =
        ticks.length * (90000 * house.den / house.num) := by
      have rate : (90000 * house.den : ℚ) = house.num * duration := by exact_mod_cast whole
      rw [videoPts90k_after valid, frameDuration90k_exact valid whole, rate,
        mul_div_cancel_left₀ _ numPos.ne']
      push_cast
      rfl
    obtain ⟨low, high⟩ := audioPts90k_after valid ticks
    refine ⟨?_, (emission_counts valid ticks).2.2.2.2, ?_⟩
    · rw [exact, sub_self, abs_zero]
      exact zero_le_one
    · rw [exact, abs_le]
      constructor <;> linarith

/-- 59.94 frames a second: a frame lasts 1501.5 ticks of the 90 kHz clock, and is counted as
1502. -/
def ntsc60 : RationalFps := .make 60000 1001

/-- At 59.94 frames a second video is half a tick late for each frame: three frames in, it is more
than one tick off. -/
theorem ntsc60_drifts :
    ntsc60.isValid = true ∧ ¬ ∃ bound : ℚ, ∀ ticks : List AudioReadings,
      Synchronous ntsc60 bound ticks.length (emissionAfter ntsc60 ticks) := by
  refine ⟨by decide, ?_⟩
  rintro ⟨bound, held⟩
  have video := (held [silentTick, silentTick, silentTick]).video
  rw [show (emissionAfter ntsc60 [silentTick, silentTick, silentTick]).videoPts90k ntsc60 = 4506
    by decide, show ntsc60.num = 60000 by decide, show ntsc60.den = 1001 by decide] at video
  norm_num at video

/-- 29.97 frames a second, 3003 ticks a frame. -/
def ntsc30 : RationalFps := .make 30000 1001

theorem ntsc30_synchronous :
    ∃ bound : ℚ, ∀ ticks : List AudioReadings,
      Synchronous ntsc30 bound ticks.length (emissionAfter ntsc30 ticks) :=
  (synchronous_iff (by decide)).mpr (by decide)

end Together

end Retrovue.Air.Blockplan
