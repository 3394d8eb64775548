/-
**The audio that reaches the AAC encoder** (`EncoderPipeline::encodeAudioFrame`).

* `encodeAudioFrame`: the samples left over from earlier calls are put before the new ones, complete
  chunks are sent with the time of the call, advanced by a chunk's duration, and the rest is kept;
* `encodeTicks`: the calls of the tick loop, each with the time of its own first sample;
* `sendChunks_carries`: a call's chunks and rest are its samples in order;
* `encodeTicks_carries`: over every sequence of calls no sample is lost or repeated;
* `encodeTicks_timed_iff`: the chunks carry the right time exactly when no call that completes a
  chunk finds more than one sample left over.
-/

import Mathlib
import Retrovue.Air.Blockplan.OutputClock

namespace Retrovue.Air.Encoder

open Retrovue.Air.Blockplan (houseAudioSampleRate)

/-! ### The encoder's side -/

section Encoder

variable {Sample : Type*}

/-- `kHouseAudioChannels`. -/
def houseAudioChannels : Int := 2

/-- An `AudioFrame` of the producers: `nb_samples` is the length of `samples`. -/
structure AudioInput (Sample : Type*) where
  samples : List Sample
  sampleRate : Int
  channels : Int
  deriving DecidableEq, Repr

/-- `IsHouseFormat`. -/
def AudioInput.isHouseFormat (input : AudioInput Sample) : Bool :=
  input.sampleRate == houseAudioSampleRate && input.channels == houseAudioChannels

/-- A house-format frame. -/
def houseFrame (samples : List Sample) : AudioInput Sample :=
  ⟨samples, houseAudioSampleRate, houseAudioChannels⟩

/-- `frame_size` of the AAC encoder. -/
def frameSize : ℕ := 1024

/-- `chunk_duration_90k`. -/
def chunkDuration90k : Int := (frameSize * 90000 : Int).tdiv houseAudioSampleRate

/-- `av_rescale_q`: `a * b / c` rounded to the nearest, halves away from zero. -/
def avRescale (a b c : Int) : Int :=
  if a < 0 then -((-a * b + c / 2) / c) else (a * b + c / 2) / c

/-- A frame given to `avcodec_send_frame`: the chunk, `current_pts90k` and the PTS in the codec's
time base. -/
structure SentFrame (Sample : Type*) where
  samples : List Sample
  pts90k : Int
  pts : Int
  deriving DecidableEq, Repr

/-- The frame of a chunk. -/
def sentFrame (samples : List Sample) (currentPts90k : Int) : SentFrame Sample :=
  ⟨samples, currentPts90k, avRescale currentPts90k houseAudioSampleRate 90000⟩

/-- What `encodeAudioFrame` keeps between calls, and what it has sent. -/
structure AudioEncoder (Sample : Type*) where
  producerCtAuthoritative : Bool
  lastSeenAudioPts90k : Option Int
  audioPtsOffset90k : Int
  /-- `audio_resample_buffer_`, of `audio_resample_buffer_samples_` samples. -/
  audioResampleBuffer : List Sample
  sent : List (SentFrame Sample)
  deriving DecidableEq, Repr

/-- The encoder as a session in producer-authoritative mode begins. -/
def AudioEncoder.initial : AudioEncoder Sample := ⟨true, none, 0, [], []⟩

/-- The chunk loop: complete chunks, each one chunk's duration after the one before, and the rest. -/
def sendChunks (samples : List Sample) (currentPts90k : Int) :
    List (SentFrame Sample) × List Sample :=
  if frameSize ≤ samples.length then
    let later := sendChunks (samples.drop frameSize) (currentPts90k + chunkDuration90k)
    (sentFrame (samples.take frameSize) currentPts90k :: later.1, later.2)
  else ([], samples)
termination_by samples.length
decreasing_by
  simp only [List.length_drop, frameSize] at *
  omega

/-- A producer switch: the time falls back by more than five seconds. -/
def AudioEncoder.producerSwitched (encoder : AudioEncoder Sample) (pts90k : Int) : Bool :=
  encoder.lastSeenAudioPts90k.any fun lastSeen => pts90k < lastSeen - 450000

/-- `audio_pts_offset_90k_` after the call: a switch moves the new producer behind the audio already
muxed, whose last time is `lastMuxedPts90k`. -/
def AudioEncoder.rebasedOffset (encoder : AudioEncoder Sample) (lastMuxedPts90k : Option Int)
    (pts90k : Int) : Int :=
  match encoder.producerSwitched pts90k, lastMuxedPts90k with
  | true, some lastMuxed => lastMuxed + chunkDuration90k - pts90k
  | _, _ => encoder.audioPtsOffset90k

/-- The samples and the time that the chunk loop starts with, and the loop's outcome kept. -/
def AudioEncoder.encodeFrom (encoder : AudioEncoder Sample) (samples : List Sample)
    (currentPts90k : Int) : AudioEncoder Sample :=
  let chunks := sendChunks (encoder.audioResampleBuffer ++ samples) currentPts90k
  { encoder with
    audioResampleBuffer := chunks.2
    sent := encoder.sent ++ chunks.1 }

/-- `encodeAudioFrame`, of an encoder that accepts every frame. -/
def AudioEncoder.encodeAudioFrame (encoder : AudioEncoder Sample) (input : AudioInput Sample)
    (pts90k : Int) (lastMuxedPts90k : Option Int) : AudioEncoder Sample × Bool :=
  if input.sampleRate ≤ 0 ∨ input.channels ≤ 0 ∨ input.samples = [] then (encoder, true)
  else if !input.isHouseFormat then (encoder, false)
  else if encoder.producerCtAuthoritative then
    ({ encoder with lastSeenAudioPts90k := some pts90k }.encodeFrom input.samples pts90k, true)
  else
    -- legacy: the time of a new producer is moved behind the old one's
    let offset := encoder.rebasedOffset lastMuxedPts90k pts90k
    ({ encoder with
        lastSeenAudioPts90k := some pts90k
        audioPtsOffset90k := offset }.encodeFrom input.samples (pts90k + offset), true)

/-- `audio_pts_90k` after so many samples. -/
def audioPts90k (samplesEmitted : ℕ) : Int :=
  (samplesEmitted * 90000 : Int).tdiv houseAudioSampleRate

/-- The tick loop's calls: each input comes with the time of the samples passed before it. -/
def encodeTicks (encoder : AudioEncoder Sample) (samplesEmitted : ℕ) :
    List (List Sample) → AudioEncoder Sample
  | [] => encoder
  | samples :: rest =>
    encodeTicks
      (encoder.encodeAudioFrame (houseFrame samples) (audioPts90k samplesEmitted) none).1
      (samplesEmitted + samples.length) rest

end Encoder

/-! ### What the audio should be -/

section Purpose

variable {Sample : Type*}

/-- The frames are complete chunks of the stream, in order, and `left` is what they leave of it. -/
def Carries (stream : List Sample) (frames : List (SentFrame Sample)) (left : List Sample) : Prop :=
  frames.flatMap SentFrame.samples ++ left = stream ∧
    (∀ frame ∈ frames, frame.samples.length = frameSize) ∧ left.length < frameSize

/-- Frames that start at sample `index` of the stream are each within one 90 kHz tick of the time of
their first sample. -/
def TimedFrom : ℕ → List (SentFrame Sample) → Prop
  | _, [] => True
  | index, frame :: rest =>
    |frame.pts90k - audioPts90k index| ≤ 1 ∧ TimedFrom (index + frame.samples.length) rest

/-- Every call that completes a chunk finds at most one sample left over. -/
def AlignedFrom : ℕ → List (List Sample) → Prop
  | _, [] => True
  | emitted, samples :: rest =>
    (frameSize ≤ emitted % frameSize + samples.length → emitted % frameSize ≤ 1) ∧
      AlignedFrom (emitted + samples.length) rest

end Purpose

/-! ### A call -/

section Call

variable {Sample : Type*}

theorem audioPts90k_eq (emitted : ℕ) : audioPts90k emitted = (emitted * 90000 : Int) / 48000 :=
  Int.tdiv_eq_ediv_of_nonneg (by positivity)

/-- **The chunk loop** keeps its samples, in order. -/
theorem sendChunks_carries (samples : List Sample) (currentPts90k : Int) :
    Carries samples (sendChunks samples currentPts90k).1 (sendChunks samples currentPts90k).2 := by
  fun_induction sendChunks samples currentPts90k with
  | case1 samples currentPts90k complete later ih =>
    obtain ⟨content, sizes, short⟩ := ih
    refine ⟨?_, ?_, short⟩
    · rw [List.flatMap_cons, List.append_assoc, content]
      exact List.take_append_drop frameSize samples
    · intro frame member
      rcases List.mem_cons.mp member with rfl | member
      · simpa [sentFrame] using complete
      · exact sizes frame member
  | case2 samples currentPts90k short => exact ⟨rfl, by simp, Nat.lt_of_not_le short⟩

/-- A chunk's time advances by what its samples take. -/
theorem audioPts90k_add_frameSize (index : ℕ) :
    audioPts90k (index + frameSize) = audioPts90k index + chunkDuration90k := by
  have duration : chunkDuration90k = 1920 := by decide
  rw [audioPts90k_eq, audioPts90k_eq, duration]
  simp only [frameSize]
  omega

/-- All chunks of a call are off by what the first one is off. -/
theorem timedFrom_sendChunks_iff (samples : List Sample) (currentPts90k : Int) (index : ℕ) :
    TimedFrom index (sendChunks samples currentPts90k).1 ↔
      (frameSize ≤ samples.length → |currentPts90k - audioPts90k index| ≤ 1) := by
  fun_induction sendChunks samples currentPts90k generalizing index with
  | case1 samples currentPts90k complete later ih =>
    have taken : (sentFrame (samples.take frameSize) currentPts90k).samples.length = frameSize := by
      simpa [sentFrame] using complete
    have shift : currentPts90k + chunkDuration90k - audioPts90k (index + frameSize) =
        currentPts90k - audioPts90k index := by
      rw [audioPts90k_add_frameSize]
      ring
    simp only [TimedFrom, taken, complete, true_implies, later]
    rw [ih, shift]
    constructor
    · rintro ⟨here, _⟩
      exact here
    · intro here
      exact ⟨here, fun _ => here⟩
  | case2 samples currentPts90k short => simp [TimedFrom, short]

/-- The error of a call's chunks is the time of the samples left over. -/
theorem call_timed_iff (emitted : ℕ) :
    |audioPts90k emitted - audioPts90k (emitted - emitted % frameSize)| ≤ 1 ↔
      emitted % frameSize ≤ 1 := by
  rw [audioPts90k_eq, audioPts90k_eq, abs_le]
  simp only [frameSize]
  omega

end Call

/-! ### A session -/

section Session

variable {Sample : Type*}

/-- What is left over is the remainder of the stream's length. -/
theorem Carries.left_length {stream : List Sample} {frames : List (SentFrame Sample)}
    {left : List Sample} (carries : Carries stream frames left) :
    left.length = stream.length % frameSize := by
  obtain ⟨rfl, sizes, short⟩ := carries
  have whole : (frames.flatMap SentFrame.samples).length = frameSize * frames.length := by
    rw [List.length_flatMap, List.map_congr_left sizes, List.map_const', List.sum_replicate,
      smul_eq_mul, mul_comm]
  rw [List.length_append, whole, Nat.mul_add_mod, Nat.mod_eq_of_lt short]

/-- The samples sent are those that are not left over. -/
theorem Carries.sent_length {stream : List Sample} {frames : List (SentFrame Sample)}
    {left : List Sample} (carries : Carries stream frames left) :
    (frames.flatMap SentFrame.samples).length = stream.length - stream.length % frameSize := by
  rw [← carries.left_length, ← carries.1, List.length_append]
  omega

/-- Chunks of what was left over and new samples continue the stream. -/
theorem Carries.append {stream samples rest : List Sample} {frames more : List (SentFrame Sample)}
    {left : List Sample} (carries : Carries stream frames left)
    (call : Carries (left ++ samples) more rest) :
    Carries (stream ++ samples) (frames ++ more) rest := by
  obtain ⟨rfl, sizes, _⟩ := carries
  obtain ⟨content, sizes', short⟩ := call
  refine ⟨?_, ?_, short⟩
  · rw [List.flatMap_append, List.append_assoc, content, List.append_assoc]
  · intro frame member
    rcases List.mem_append.mp member with old | new
    · exact sizes frame old
    · exact sizes' frame new

theorem timedFrom_append (index : ℕ) (frames more : List (SentFrame Sample)) :
    TimedFrom index (frames ++ more) ↔ TimedFrom index frames ∧
      TimedFrom (index + (frames.flatMap SentFrame.samples).length) more := by
  induction frames generalizing index with
  | nil => simp [TimedFrom]
  | cons frame rest ih =>
    rw [List.cons_append, TimedFrom, TimedFrom, ih, List.flatMap_cons, List.length_append,
      Nat.add_assoc, and_assoc]

/-- A house-format frame in producer-authoritative mode is encoded with the time of the call. -/
theorem encodeAudioFrame_house {encoder : AudioEncoder Sample}
    (authoritative : encoder.producerCtAuthoritative = true) {samples : List Sample}
    (nonempty : samples ≠ []) (pts90k : Int) (lastMuxedPts90k : Option Int) :
    encoder.encodeAudioFrame (houseFrame samples) pts90k lastMuxedPts90k =
      ({ encoder with lastSeenAudioPts90k := some pts90k }.encodeFrom samples pts90k, true) := by
  simp [AudioEncoder.encodeAudioFrame, houseFrame, AudioInput.isHouseFormat, houseAudioSampleRate,
    houseAudioChannels, nonempty, authoritative]

/-- An empty frame is skipped. -/
theorem encodeAudioFrame_empty (encoder : AudioEncoder Sample) (pts90k : Int)
    (lastMuxedPts90k : Option Int) :
    encoder.encodeAudioFrame (houseFrame []) pts90k lastMuxedPts90k = (encoder, true) := by
  simp [AudioEncoder.encodeAudioFrame, houseFrame]

/-- **A call**, after a stream of samples: the stream goes on, and the chunks sent are on time exactly
when at most one sample was left over or none is completed. -/
theorem encodeAudioFrame_spec {encoder : AudioEncoder Sample} {stream : List Sample}
    (authoritative : encoder.producerCtAuthoritative = true)
    (carries : Carries stream encoder.sent encoder.audioResampleBuffer) (samples : List Sample) :
    let next := (encoder.encodeAudioFrame (houseFrame samples) (audioPts90k stream.length) none).1
    next.producerCtAuthoritative = true ∧
      Carries (stream ++ samples) next.sent next.audioResampleBuffer ∧
      (TimedFrom 0 next.sent ↔ TimedFrom 0 encoder.sent ∧
        (frameSize ≤ stream.length % frameSize + samples.length →
          stream.length % frameSize ≤ 1)) := by
  intro next
  by_cases empty : samples = []
  · subst empty
    have below : stream.length % frameSize < frameSize := Nat.mod_lt _ (by decide)
    have same : next = encoder := by simp only [next, encodeAudioFrame_empty]
    rw [same, List.append_nil]
    exact ⟨authoritative, carries, by simp [below]⟩
  · have encoded : next =
        { encoder with
          lastSeenAudioPts90k := some (audioPts90k stream.length) }.encodeFrom samples
            (audioPts90k stream.length) := by
      simp only [next, encodeAudioFrame_house authoritative empty]
    rw [encoded]
    refine ⟨authoritative, carries.append (sendChunks_carries _ _), ?_⟩
    simp only [AudioEncoder.encodeFrom]
    rw [timedFrom_append, timedFrom_sendChunks_iff, carries.sent_length, Nat.zero_add,
      call_timed_iff, List.length_append, carries.left_length]

/-- **No sample is lost or repeated**, over every sequence of calls. -/
theorem encodeTicks_carries (inputs : List (List Sample)) {encoder : AudioEncoder Sample}
    {stream : List Sample} (authoritative : encoder.producerCtAuthoritative = true)
    (carries : Carries stream encoder.sent encoder.audioResampleBuffer) :
    let final := encodeTicks encoder stream.length inputs
    Carries (stream ++ inputs.flatten) final.sent final.audioResampleBuffer := by
  induction inputs generalizing encoder stream with
  | nil => simpa [encodeTicks] using carries
  | cons samples rest ih =>
    obtain ⟨mode, next, _⟩ := encodeAudioFrame_spec authoritative carries samples
    have later := ih mode next
    rw [List.length_append] at later
    rw [List.flatten_cons, ← List.append_assoc]
    exact later

/-- **The chunks are on time** exactly when the calls are aligned. -/
theorem encodeTicks_timed_iff (inputs : List (List Sample)) {encoder : AudioEncoder Sample}
    {stream : List Sample} (authoritative : encoder.producerCtAuthoritative = true)
    (carries : Carries stream encoder.sent encoder.audioResampleBuffer) :
    TimedFrom 0 (encodeTicks encoder stream.length inputs).sent ↔
      TimedFrom 0 encoder.sent ∧ AlignedFrom stream.length inputs := by
  induction inputs generalizing encoder stream with
  | nil => simp [encodeTicks, AlignedFrom]
  | cons samples rest ih =>
    obtain ⟨mode, next, timed⟩ := encodeAudioFrame_spec authoritative carries samples
    have later := ih mode next
    rw [List.length_append] at later
    rw [encodeTicks, later, timed, AlignedFrom, and_assoc]

/-- Before the first call nothing is sent and nothing is left over. -/
theorem carries_initial :
    Carries [] (AudioEncoder.initial : AudioEncoder Sample).sent
      (AudioEncoder.initial : AudioEncoder Sample).audioResampleBuffer :=
  ⟨rfl, by simp [AudioEncoder.initial], by simp [AudioEncoder.initial, frameSize]⟩

/-- **Encoded audio is complete and on time exactly when the calls are aligned.** -/
theorem encoded_audio_timed_iff (inputs : List (List Sample)) :
    (Carries inputs.flatten (encodeTicks .initial 0 inputs).sent
        (encodeTicks .initial 0 inputs).audioResampleBuffer ∧
      TimedFrom 0 (encodeTicks .initial 0 inputs).sent) ↔ AlignedFrom 0 inputs := by
  have carried := encodeTicks_carries inputs rfl (@carries_initial Sample)
  have timed := encodeTicks_timed_iff inputs rfl (@carries_initial Sample)
  rw [List.length_nil] at carried timed
  constructor
  · rintro ⟨_, all⟩
    exact (timed.mp all).2
  · intro aligned
    exact ⟨carried, timed.mpr ⟨trivial, aligned⟩⟩

/-- Ticks of 1600 samples, as at 30 frames a second: the second finds 576 samples left over. -/
theorem encoded_audio_late :
    ¬ TimedFrom 0 (encodeTicks .initial 0
      [List.replicate 1600 (), List.replicate 1600 ()]).sent := by
  intro timed
  have aligned := (encodeTicks_timed_iff _ rfl (@carries_initial Unit)).mp timed
  have second := aligned.2.2.1
  simp only [List.length_nil, List.length_replicate, frameSize] at second
  omega

end Session

end Retrovue.Air.Encoder
