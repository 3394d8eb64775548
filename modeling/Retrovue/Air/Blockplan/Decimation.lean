/-
**Decimation of a source that runs at a multiple of the house rate.**

* `Decoding`: the decoder's side of a `TickProducer`, with the primed and the buffered frames;
  `decode`, `primeFirstFrame`, `decodeNextFrameRaw`, `primeFirstTick`, `tryGetFrame`;
* `Decimates`: what the ticks of a segment are meant to return, one group of source frames each;
* `drain`: the audio that a run of decodes hands over. `drain_all_iff`: it is all the audio of the
  run exactly when two audio frames a picture keep up with it (`clears`);
* `decimates_iff`: from a decoder at rest the ticks decimate exactly when every group that is due
  decodes in full and its audio keeps up (`Grouped`);
* `decimation_iff`: priming takes single source frames, so a primed segment is decimated only when it
  has no second frame, or when the priming got none.
-/

import Mathlib
import Retrovue.Air.Blockplan.OutputClock
import Retrovue.Air.Blockplan.PlaybackSpeed

namespace Retrovue.Air.Blockplan

/-! ### Decoding a segment -/

section Model

/-- A source frame: its metadata, and the audio frames that the decoder queues on the way to it. -/
structure SourceFrame (Audio : Type) where
  ptsUs : Int
  dtsUs : Int
  durationUs : Int
  audio : List Audio
  deriving DecidableEq, Repr

/-- `FrameData`. The picture is the number of the source frame it was decoded from. -/
structure FrameData (Audio : Type) where
  picture : ℕ
  ptsUs : Int
  dtsUs : Int
  durationUs : Int
  audio : List Audio
  blockCtMs : Int
  deriving DecidableEq, Repr

/-- What stays as it is while a segment is decoded. -/
structure DecodeSetup (Audio : Type) where
  input : RationalFps
  output : RationalFps
  segStartCtMs : Int
  hasAudioStream : Bool
  nbSamples : Audio → Int

/-- `drop_step_`. -/
def DecodeSetup.dropStep {Audio : Type} (setup : DecodeSetup Audio) : ℕ :=
  (Blockplan.dropStep setup.input setup.output).toNat

/-- A decoder and its producer. The source lists the calls of `DecodeFrameToBuffer` that are left
before the end of the file, those that fail with no frame. -/
structure Decoding (Audio : Type) where
  source : List (Option (SourceFrame Audio))
  decoded : ℕ
  pendingAudio : List Audio
  decoderOk : Bool
  segFirstPtsMs : Int
  frameIndex : Int
  blockCtMs : Int
  primedFrame : Option (FrameData Audio)
  bufferedFrames : List (FrameData Audio)

/-- After `AssignBlock`. -/
def Decoding.assigned {Audio : Type} (source : List (Option (SourceFrame Audio))) :
    Decoding Audio :=
  ⟨source, 0, [], true, -1, 0, 0, none, []⟩

/-- `kMaxAudioFramesPerVideoFrame`. -/
def maxAudioFramesPerVideoFrame : ℕ := 2

/-- `kMaxPendingAudioFrames`. -/
def maxPendingAudioFrames : ℕ := 120

/-- `CtUs`. -/
def ctUs (output : RationalFps) (k : Int) : Int :=
  if output.num ≤ 0 then 0 else (k * 1000000 * output.den).tdiv output.num

/-- `FrameDurationUs`. -/
def RationalFps.frameDurationUs (fps : RationalFps) : Int :=
  if fps.isValid then (1000000 * fps.den).tdiv fps.num else 0

variable {Audio : Type} (setup : DecodeSetup Audio)

/-- The decode that `PrimeFirstFrame` and `DecodeNextFrameRaw` share: the next frame with at most two
of the audio frames in the decoder's queue. -/
def Decoding.decode (p : Decoding Audio) : Option (FrameData Audio) × Decoding Audio :=
  match p.source with
  | [] => (none, p)
  | none :: rest => (none, { p with source := rest })
  | some frame :: rest =>
    let queue := (p.pendingAudio ++ frame.audio).take maxPendingAudioFrames
    let decodedPtsMs := frame.ptsUs.tdiv 1000
    let segFirstPtsMs := if p.segFirstPtsMs < 0 then decodedPtsMs else p.segFirstPtsMs
    (some
      { picture := p.decoded
        ptsUs := frame.ptsUs
        dtsUs := frame.dtsUs
        durationUs := frame.durationUs
        audio := queue.take maxAudioFramesPerVideoFrame
        blockCtMs := setup.segStartCtMs + (decodedPtsMs - segFirstPtsMs) },
      { p with
        source := rest
        decoded := p.decoded + 1
        pendingAudio := queue.drop maxAudioFramesPerVideoFrame
        segFirstPtsMs := segFirstPtsMs })

/-- `frame_index_++`, when the output state advances. -/
def Decoding.advance (p : Decoding Audio) (advanceOutputState : Bool) : Decoding Audio :=
  if advanceOutputState then { p with frameIndex := p.frameIndex + 1 } else p

/-- `PrimeFirstFrame`. -/
def Decoding.primeFirstFrame (p : Decoding Audio) : Decoding Audio :=
  if p.decoderOk then
    match p.decode setup with
    | (some frame, next) => { next with primedFrame := some frame }
    | (none, next) => next
  else p

/-- `DecodeNextFrameRaw`. -/
def Decoding.decodeNextFrameRaw (p : Decoding Audio) (advanceOutputState : Bool) :
    Option (FrameData Audio) × Decoding Audio :=
  if p.decoderOk then
    match p.decode setup with
    | (some frame, next) =>
      (some frame, { next with blockCtMs := frame.blockCtMs }.advance advanceOutputState)
    | (none, next) =>
      -- The end of the file closes the decoder; any other failure leaves it open.
      (none, { next with decoderOk := !p.source.isEmpty }.advance advanceOutputState)
  else (none, p.advance advanceOutputState)

/-- The audio of a frame, in samples. -/
def DecodeSetup.samplesOf (frame : FrameData Audio) : Int :=
  (frame.audio.map setup.nbSamples).sum

/-- The depth of some audio samples, in milliseconds. -/
def depthMs (audioSamples : Int) : Int := (audioSamples * 1000).tdiv houseAudioSampleRate

/-- `kMaxNullRun`. -/
def maxNullRun : ℕ := 10

/-- `kMaxTotalDecodes`. -/
def maxTotalDecodes : ℕ := 60

/-- The loop of `PrimeFirstTick`, for so many more decodes: the primed frames, their audio samples
and the producer after it. -/
def Decoding.primeLoop (minAudioPrimeMs : Int) :
    ℕ → ℕ → Int → List (FrameData Audio) → Decoding Audio →
      List (FrameData Audio) × Int × Decoding Audio
  | 0, _, audioSamples, primedFrames, p => (primedFrames, audioSamples, p)
  | decodes + 1, nullRun, audioSamples, primedFrames, p =>
    if minAudioPrimeMs ≤ depthMs audioSamples then (primedFrames, audioSamples, p)
    else
      match p.decodeNextFrameRaw setup true with
      | (none, next) =>
        if maxNullRun ≤ nullRun + 1 then (primedFrames, audioSamples, next)
        else primeLoop minAudioPrimeMs decodes (nullRun + 1) audioSamples primedFrames next
      | (some frame, next) =>
        primeLoop minAudioPrimeMs decodes 0 (audioSamples + setup.samplesOf frame)
          (primedFrames ++ [frame]) next

/-- A primed frame without audio takes one audio frame from the first buffered frame. -/
def stealAudio (primed : FrameData Audio) :
    List (FrameData Audio) → FrameData Audio × List (FrameData Audio)
  | [] => (primed, [])
  | first :: rest =>
    match primed.audio, first.audio with
    | [], stolen :: left => ({ primed with audio := [stolen] }, { first with audio := left } :: rest)
    | _, _ => (primed, first :: rest)

/-- `PrimeResult`. -/
structure PrimeResult where
  met : Bool
  depth : Int
  deriving DecidableEq, Repr

/-- `PrimeFirstTick`. The wall-clock timeout strikes after so many decodes of its loop. -/
def Decoding.primeFirstTick (p : Decoding Audio) (minAudioPrimeMs : Int) (timeoutAfter : ℕ) :
    PrimeResult × Decoding Audio :=
  let primed := p.primeFirstFrame setup
  match primed.primedFrame with
  | none => (⟨false, 0⟩, primed)
  | some frame =>
    let audioSamples := setup.samplesOf frame
    if minAudioPrimeMs ≤ 0 then (⟨true, 0⟩, primed)
    else if minAudioPrimeMs ≤ depthMs audioSamples then (⟨true, depthMs audioSamples⟩, primed)
    else
      let looped := Decoding.primeLoop setup minAudioPrimeMs (min maxTotalDecodes timeoutAfter) 0
        audioSamples [frame] { primed with primedFrame := none }
      let result := ⟨decide (minAudioPrimeMs ≤ depthMs looped.2.1), depthMs looped.2.1⟩
      match looped.1 with
      | [] => (result, looped.2.2)
      | first :: rest =>
        let buffered := looped.2.2.bufferedFrames ++ rest
        let shared := if setup.hasAudioStream then stealAudio first buffered else (first, buffered)
        (result,
          { looped.2.2 with primedFrame := some shared.1, bufferedFrames := shared.2 })

/-- The skipped decodes of a tick: the audio they hand over, and the producer after them. -/
def Decoding.skip : ℕ → Decoding Audio → List Audio × Decoding Audio
  | 0, p => ([], p)
  | n + 1, p =>
    let first := p.decodeNextFrameRaw setup false
    let others := skip n first.2
    ((first.1.map FrameData.audio).getD [] ++ others.1, others.2)

/-- A decimated tick: one decode for the picture, the others of its group for their audio. -/
def Decoding.decimatedTick (p : Decoding Audio) : Option (FrameData Audio) × Decoding Audio :=
  match p.decodeNextFrameRaw setup true with
  | (none, next) => (none, next)
  | (some first, next) =>
    let skipped := Decoding.skip setup (setup.dropStep - 1) next
    let tickPtsUs := ctUs setup.output (skipped.2.frameIndex - 1)
    (some
      { first with
        audio := first.audio ++ skipped.1
        durationUs :=
          if 0 < setup.output.num then setup.output.frameDurationUs else first.durationUs
        ptsUs := tickPtsUs
        dtsUs := tickPtsUs },
      skipped.2)

/-- `TryGetFrame`. -/
def Decoding.tryGetFrame (p : Decoding Audio) : Option (FrameData Audio) × Decoding Audio :=
  match p.primedFrame, p.bufferedFrames with
  | some frame, _ =>
    (some frame,
      { p with
        primedFrame := none, blockCtMs := frame.blockCtMs, frameIndex := p.frameIndex + 1 })
  | none, frame :: rest =>
    (some frame,
      { p with
        bufferedFrames := rest, blockCtMs := frame.blockCtMs, frameIndex := p.frameIndex + 1 })
  | none, [] =>
    if (updateResampleMode setup.input setup.output).1 = .drop ∧
        1 < setup.dropStep then
      p.decimatedTick setup
    else p.decodeNextFrameRaw setup true

/-- The producer after some calls of `TryGetFrame`. -/
def Decoding.ticked (p : Decoding Audio) : ℕ → Decoding Audio
  | 0 => p
  | k + 1 => ((Decoding.ticked p k).tryGetFrame setup).2

/-- The block of the source, with the first tick primed for so many milliseconds of audio or not. -/
def Decoding.readied (priming : Option (Int × ℕ)) (source : List (Option (SourceFrame Audio))) :
    Decoding Audio :=
  match priming with
  | none => .assigned source
  | some (minAudioPrimeMs, timeoutAfter) =>
    ((Decoding.assigned source).primeFirstTick setup minAudioPrimeMs timeoutAfter).2

end Model

/-! ### What the ticks are meant to return -/

section Meaning

variable {Audio : Type} (setup : DecodeSetup Audio)

/-- The audio of some source frames, in order. -/
def audioOf (frames : List (SourceFrame Audio)) : List Audio := frames.flatMap SourceFrame.audio

/-- The picture, the audio and the content time of a returned frame. -/
def FrameData.content (frame : FrameData Audio) : ℕ × List Audio × Int :=
  (frame.picture, frame.audio, frame.ptsUs)

/-- The ticks return the source frames in groups of `s`, the first picture of each with the audio of
all of it: the source frames are numbered from `picture` and the ticks from `tick`. -/
def Decimates (s : ℕ) (frames : List (SourceFrame Audio)) (picture : ℕ) (tick : Int)
    (p : Decoding Audio) : Prop :=
  ∀ k : ℕ, ((p.ticked setup k).tryGetFrame setup).1.map FrameData.content =
    if k * s < frames.length then
      some (picture + k * s, audioOf ((frames.drop (k * s)).take s), ctUs setup.output (tick + k))
    else none

/-- Two audio frames a picture keep up with the audio that arrives with the frames of a group: it
fits the decoder's queue, and none is left. -/
def clears : ℕ → List ℕ → Prop
  | waiting, [] => waiting = 0
  | waiting, arriving :: rest =>
    waiting + arriving ≤ maxPendingAudioFrames ∧
      clears (waiting + arriving - maxAudioFramesPerVideoFrame) rest

instance decidableClears : (waiting : ℕ) → (arrivals : List ℕ) →
    Decidable (clears waiting arrivals)
  | waiting, [] => inferInstanceAs (Decidable (waiting = 0))
  | waiting, arriving :: rest =>
    have := decidableClears (waiting + arriving - maxAudioFramesPerVideoFrame) rest
    inferInstanceAs (Decidable (waiting + arriving ≤ maxPendingAudioFrames ∧
      clears (waiting + arriving - maxAudioFramesPerVideoFrame) rest))

/-- Whenever a group of source frames is due, its first decode succeeds, the others do as long as
frames are left, and their audio keeps up. -/
def Grouped (s : ℕ) (source : List (Option (SourceFrame Audio))) : Prop :=
  ∀ k : ℕ, k * s < source.reduceOption.length →
    (∃ frame, source[k * s]? = some (some frame)) ∧
      (source.take ((k + 1) * s)).reduceOption.length =
        min ((k + 1) * s) source.reduceOption.length ∧
      clears 0 (((source.reduceOption.drop (k * s)).take s).map fun frame => frame.audio.length)

/-- When the ticks of a segment decimate it, for a segment that is primed or not. -/
def Decimable (s : ℕ) (priming : Option (Int × ℕ)) (source : List (Option (SourceFrame Audio))) :
    Prop :=
  match priming, source with
  | some _, some frame :: rest =>
    rest.reduceOption = [] ∧ frame.ptsUs = 0 ∧
      frame.audio.length ≤ maxAudioFramesPerVideoFrame
  | some _, none :: rest => Grouped s rest
  | _, _ => Grouped s source

end Meaning

/-! ### The audio that decodes hand over -/

section Drain

variable {Audio : Type}

/-- The audio that some decode calls hand over from a queue, and the queue after them. -/
def drain : List Audio → List (Option (SourceFrame Audio)) → List Audio × List Audio
  | pending, [] => ([], pending)
  | pending, none :: rest => drain pending rest
  | pending, some frame :: rest =>
    let queue := (pending ++ frame.audio).take maxPendingAudioFrames
    let others := drain (queue.drop maxAudioFramesPerVideoFrame) rest
    (queue.take maxAudioFramesPerVideoFrame ++ others.1, others.2)

theorem drain_append (first second : List (Option (SourceFrame Audio))) (pending : List Audio) :
    drain pending (first ++ second) =
      ((drain pending first).1 ++ (drain (drain pending first).2 second).1,
        (drain (drain pending first).2 second).2) := by
  induction first generalizing pending with
  | nil => rfl
  | cons call rest ih =>
    cases call with
    | none => exact ih pending
    | some frame =>
      simp only [List.cons_append, drain]
      rw [ih]
      simp only [List.append_assoc]

/-- No more is handed over than was waiting and arrives. -/
theorem drain_length (calls : List (Option (SourceFrame Audio))) (pending : List Audio) :
    (drain pending calls).1.length ≤
      pending.length + (audioOf calls.reduceOption).length := by
  induction calls generalizing pending with
  | nil => simp [drain]
  | cons call rest ih =>
    cases call with
    | none => simpa [drain] using ih pending
    | some frame =>
      have others := ih (((pending ++ frame.audio).take maxPendingAudioFrames).drop
        maxAudioFramesPerVideoFrame)
      simp only [drain, List.reduceOption_cons_of_some, audioOf, List.flatMap_cons,
        List.length_append, List.length_take, List.length_drop] at others ⊢
      omega

/-- All that was waiting and arrives is handed over exactly when it is cleared. -/
theorem drain_all_iff (calls : List (Option (SourceFrame Audio))) (pending : List Audio) :
    (drain pending calls).1 = pending ++ audioOf calls.reduceOption ↔
      clears pending.length (calls.reduceOption.map fun frame => frame.audio.length) := by
  induction calls generalizing pending with
  | nil => simp [drain, clears, audioOf]
  | cons call rest ih =>
    cases call with
    | none => simpa [drain] using ih pending
    | some frame =>
      simp only [drain, List.reduceOption_cons_of_some, List.map_cons, clears, audioOf,
        List.flatMap_cons]
      by_cases fits : pending.length + frame.audio.length ≤ maxPendingAudioFrames
      · have whole : (pending ++ frame.audio).take maxPendingAudioFrames =
            pending ++ frame.audio := List.take_of_length_le (by simpa using fits)
        rw [whole, ← List.append_assoc]
        conv_lhs =>
          rhs
          rw [← List.take_append_drop maxAudioFramesPerVideoFrame (pending ++ frame.audio)]
        rw [List.append_assoc, List.append_cancel_left_eq, ← audioOf, ih, List.length_drop,
          List.length_append]
        exact (and_iff_right fits).symm
      · refine iff_of_false ?_ fun cleared => fits cleared.1
        intro all
        have length := congrArg List.length all
        have others := drain_length rest
          (((pending ++ frame.audio).take maxPendingAudioFrames).drop maxAudioFramesPerVideoFrame)
        simp only [List.length_append, List.length_take, List.length_drop, audioOf,
          maxAudioFramesPerVideoFrame, maxPendingAudioFrames] at length others fits
        omega

/-- What is cleared leaves nothing waiting. -/
theorem drain_rest (calls : List (Option (SourceFrame Audio))) (pending : List Audio)
    (cleared : clears pending.length
      (calls.reduceOption.map fun frame => frame.audio.length)) :
    (drain pending calls).2 = [] := by
  induction calls generalizing pending with
  | nil => simpa [clears, drain] using cleared
  | cons call rest ih =>
    cases call with
    | none => exact ih pending (by simpa using cleared)
    | some frame =>
      simp only [List.reduceOption_cons_of_some, List.map_cons, clears] at cleared
      have whole : (pending ++ frame.audio).take maxPendingAudioFrames =
          pending ++ frame.audio := List.take_of_length_le (by simpa using cleared.1)
      simp only [drain, whole]
      apply ih
      simpa using cleared.2

end Drain

/-! ### Decode calls -/

section Calls

variable {Audio : Type} (setup : DecodeSetup Audio)

/-- The producer after so many decode calls, none of them delivered. -/
structure After (n : ℕ) (p next : Decoding Audio) : Prop where
  source : next.source = p.source.drop n
  decoded : next.decoded = p.decoded + (p.source.take n).reduceOption.length
  pendingAudio : next.pendingAudio = (drain p.pendingAudio (p.source.take n)).2
  closed : next.decoderOk = false → next.source = []
  primedFrame : next.primedFrame = p.primedFrame
  bufferedFrames : next.bufferedFrames = p.bufferedFrames

theorem After.trans {m n : ℕ} {p middle next : Decoding Audio} (first : After m p middle)
    (second : After n middle next) : After (m + n) p next where
  source := by rw [second.source, first.source, List.drop_drop]
  decoded := by
    rw [second.decoded, first.decoded, first.source, List.take_add, List.reduceOption_append,
      List.length_append, add_assoc]
  pendingAudio := by
    rw [second.pendingAudio, first.pendingAudio, first.source, List.take_add, drain_append]
  closed := second.closed
  primedFrame := second.primedFrame.trans first.primedFrame
  bufferedFrames := second.bufferedFrames.trans first.bufferedFrames

/-- One call: the producer after it, and what it returns. -/
theorem decodeNextFrameRaw_spec {p : Decoding Audio} (closed : p.decoderOk = false → p.source = [])
    (advance : Bool) :
    After 1 p (p.decodeNextFrameRaw setup advance).2 ∧
      (p.decodeNextFrameRaw setup advance).2.frameIndex = p.frameIndex + advance.toNat ∧
      ((p.decodeNextFrameRaw setup advance).1.map FrameData.audio).getD [] =
        (drain p.pendingAudio (p.source.take 1)).1 ∧
      (p.decodeNextFrameRaw setup advance).1.map FrameData.picture =
        p.source.head?.join.map fun _ => p.decoded := by
  by_cases opened : p.decoderOk = true
  · rcases read : p.source with _ | ⟨_ | frame, rest⟩ <;> cases advance <;>
      simp [Decoding.decodeNextFrameRaw, opened, Decoding.decode, read, Decoding.advance, drain] <;>
      constructor <;> simp [read, drain]
  · have shut : p.decoderOk = false := by simpa using opened
    have read := closed shut
    cases advance <;>
      simp [Decoding.decodeNextFrameRaw, shut, read, Decoding.advance, drain] <;>
      constructor <;> simp [read, drain]

/-- The skipped calls of a tick. -/
theorem skip_spec (n : ℕ) {p : Decoding Audio} (closed : p.decoderOk = false → p.source = []) :
    After n p (Decoding.skip setup n p).2 ∧
      (Decoding.skip setup n p).2.frameIndex = p.frameIndex ∧
      (Decoding.skip setup n p).1 = (drain p.pendingAudio (p.source.take n)).1 := by
  induction n generalizing p with
  | zero =>
    refine ⟨?_, rfl, by simp [Decoding.skip, drain]⟩
    constructor <;> simp [Decoding.skip, drain]
    exact closed
  | succ n ih =>
    obtain ⟨first, index, handed, -⟩ := decodeNextFrameRaw_spec setup closed false
    obtain ⟨others, kept, rest⟩ := ih first.closed
    refine ⟨?_, ?_, ?_⟩
    · have both := first.trans others
      rwa [add_comm 1 n] at both
    · rw [Decoding.skip, kept, index]
      simp
    · rw [Decoding.skip, handed, rest, first.pendingAudio, first.source, add_comm n 1,
        List.take_add, drain_append]

end Calls

/-! ### Ticks -/

section Ticks

variable {Audio : Type} {setup : DecodeSetup Audio}

/-- Nothing is primed or buffered, and the decoder is closed at the end of the file only. -/
structure Rested (p : Decoding Audio) : Prop where
  primedFrame : p.primedFrame = none
  bufferedFrames : p.bufferedFrames = []
  closed : p.decoderOk = false → p.source = []

theorem rested_assigned (source : List (Option (SourceFrame Audio))) :
    Rested (Decoding.assigned source) := ⟨rfl, rfl, by simp [Decoding.assigned]⟩

theorem After.rested {n : ℕ} {p next : Decoding Audio} (after : After n p next) (rested : Rested p) :
    Rested next :=
  ⟨after.primedFrame.trans rested.primedFrame, after.bufferedFrames.trans rested.bufferedFrames,
    after.closed⟩

/-- A decimated source has at least two frames to a tick. -/
theorem two_le_dropStep_of_drop {input output : RationalFps}
    (dropping : (updateResampleMode input output).1 = .drop) :
    2 ≤ Blockplan.dropStep input output := by
  unfold updateResampleMode at dropping
  unfold Blockplan.dropStep updateResampleMode
  dsimp only at dropping ⊢
  split_ifs at dropping ⊢ with degenerate same multiple
  have inOut : 0 < input.num * output.den := mul_pos (by omega) (by omega)
  have outIn : 0 < output.num * input.den := mul_pos (by omega) (by omega)
  have undivided := Int.mul_tdiv_add_tmod (input.num * output.den) (output.num * input.den)
  rw [multiple.2, add_zero] at undivided
  refine le_max_of_le_left ?_
  by_contra few
  have nonneg := Int.tdiv_nonneg inOut.le outIn.le
  obtain zero | one : (input.num * output.den).tdiv (output.num * input.den) = 0 ∨
      (input.num * output.den).tdiv (output.num * input.den) = 1 := by omega
  · rw [zero] at undivided
    omega
  · rw [one] at undivided
    omega

variable (dropping : (updateResampleMode setup.input setup.output).1 = .drop)

include dropping

theorem two_le_dropStep : 2 ≤ setup.dropStep := by
  have step := two_le_dropStep_of_drop dropping
  rw [DecodeSetup.dropStep]
  omega

/-- A tick from a decoder at rest, in full: a failed decode ends it. -/
theorem tryGetFrame_none {p : Decoding Audio} (rested : Rested p)
    (failed : p.source.head?.join = none) :
    (p.tryGetFrame setup).1 = none ∧ After 1 p (p.tryGetFrame setup).2 ∧
      (p.tryGetFrame setup).2.frameIndex = p.frameIndex + 1 := by
  obtain ⟨after, index, -, picture⟩ := decodeNextFrameRaw_spec setup rested.closed true
  have step := two_le_dropStep dropping
  rw [failed, Option.map_none, Option.map_eq_none_iff] at picture
  have ticked : p.tryGetFrame setup = p.decodeNextFrameRaw setup true := by
    rw [Decoding.tryGetFrame, rested.primedFrame, rested.bufferedFrames]
    dsimp only
    rw [if_pos ⟨dropping, by omega⟩, Decoding.decimatedTick]
    split
    · rename_i decoded
      rw [decoded]
    · rename_i decoded
      rw [decoded] at picture
      cases picture
  rw [ticked]
  exact ⟨picture, after, by simpa using index⟩

/-- A tick from a decoder at rest that gets a frame: the audio of its group comes with it. -/
theorem tryGetFrame_some {p : Decoding Audio} (rested : Rested p)
    (read : p.source.head?.join ≠ none) :
    (p.tryGetFrame setup).1.map FrameData.content =
        some (p.decoded,
          (drain p.pendingAudio (p.source.take setup.dropStep)).1,
          ctUs setup.output p.frameIndex) ∧
      After setup.dropStep p (p.tryGetFrame setup).2 ∧
      (p.tryGetFrame setup).2.frameIndex = p.frameIndex + 1 := by
  obtain ⟨after, index, handed, picture⟩ :=
    decodeNextFrameRaw_spec setup rested.closed true
  have step := two_le_dropStep dropping
  obtain ⟨frame, found⟩ := Option.ne_none_iff_exists'.mp read
  rw [found, Option.map_some, Option.map_eq_some_iff] at picture
  obtain ⟨first, decoded, numbered⟩ := picture
  obtain ⟨others, kept, rest⟩ := skip_spec setup
    (setup.dropStep - 1) after.closed
  have group : 1 + (setup.dropStep - 1) =
      setup.dropStep := by omega
  have whole := after.trans others
  have audio : (drain p.pendingAudio (p.source.take 1)).1 ++
      (drain (drain p.pendingAudio (p.source.take 1)).2
        ((p.source.drop 1).take (setup.dropStep - 1))).1 =
      (drain p.pendingAudio (p.source.take setup.dropStep)).1 := by
    conv_rhs => rw [← group, List.take_add, drain_append]
  rw [group] at whole
  rw [after.pendingAudio, after.source] at rest
  have ticked : p.tryGetFrame setup = p.decimatedTick setup := by
    rw [Decoding.tryGetFrame, rested.primedFrame, rested.bufferedFrames]
    dsimp only
    rw [if_pos ⟨dropping, by omega⟩]
  have split : p.decodeNextFrameRaw setup true = (some first, (p.decodeNextFrameRaw setup true).2) := by
    rw [← decoded]
  rw [ticked, Decoding.decimatedTick, split]
  refine ⟨?_, whole, by simpa using kept.trans index⟩
  rw [decoded] at handed
  simp only [FrameData.content, Option.map_some, Option.getD_some] at handed ⊢
  rw [numbered, kept, index, handed, rest, audio]
  simp

end Ticks

/-! ### Groups -/

section Groups

variable {Audio : Type} {setup : DecodeSetup Audio}

theorem ticked_succ (p : Decoding Audio) (k : ℕ) :
    p.ticked setup (k + 1) = (p.tryGetFrame setup).2.ticked setup k := by
  induction k with
  | zero => rfl
  | succ k ih => exact congrArg (fun q => (Decoding.tryGetFrame setup q).2) ih

/-- The first group, and the others. -/
theorem decimates_iff_first {s : ℕ} {frames : List (SourceFrame Audio)} {picture : ℕ} {tick : Int}
    {p : Decoding Audio} : Decimates setup s frames picture tick p ↔
      (p.tryGetFrame setup).1.map FrameData.content =
          (if 0 < frames.length then some (picture, audioOf (frames.take s), ctUs setup.output tick)
            else none) ∧
        Decimates setup s (frames.drop s) (picture + s) (tick + 1) (p.tryGetFrame setup).2 := by
  have later (k : ℕ) :
      (((p.tryGetFrame setup).2.ticked setup k).tryGetFrame setup).1.map FrameData.content =
          (if k * s < (frames.drop s).length then
            some (picture + s + k * s, audioOf (((frames.drop s).drop (k * s)).take s),
              ctUs setup.output (tick + 1 + k))
          else none) ↔
        ((p.ticked setup (k + 1)).tryGetFrame setup).1.map FrameData.content =
          if (k + 1) * s < frames.length then
            some (picture + (k + 1) * s, audioOf ((frames.drop ((k + 1) * s)).take s),
              ctUs setup.output (tick + (k + 1 : ℕ)))
          else none := by
    have due : k * s < (frames.drop s).length ↔ (k + 1) * s < frames.length := by
      rw [List.length_drop, add_mul, one_mul]
      omega
    rw [ticked_succ, List.drop_drop, show s + k * s = (k + 1) * s by ring,
      show picture + s + k * s = picture + (k + 1) * s by ring,
      show tick + 1 + (k : Int) = tick + ((k + 1 : ℕ) : Int) by push_cast; ring]
    simp only [due]
  constructor
  · intro decimates
    refine ⟨by simpa [Decoding.ticked] using decimates 0, fun k => (later k).mpr (decimates (k + 1))⟩
  · rintro ⟨first, others⟩ k
    cases k with
    | zero => simpa [Decoding.ticked] using first
    | succ k => exact (later k).mp (others k)

/-- Some calls got as many frames as they could: the frames in order. -/
theorem frames_split {s : ℕ} {source : List (Option (SourceFrame Audio))}
    (full : (source.take s).reduceOption.length = min s source.reduceOption.length) :
    (source.take s).reduceOption = source.reduceOption.take s ∧
      (source.drop s).reduceOption = source.reduceOption.drop s := by
  have whole : (source.take s).reduceOption ++ (source.drop s).reduceOption =
      source.reduceOption := by
    rw [← List.reduceOption_append, List.take_append_drop]
  have halves := whole.trans (List.take_append_drop s source.reduceOption).symm
  exact List.append_inj halves (by rw [full, List.length_take])

/-- The first group that is due, and the others. -/
theorem grouped_iff_first {s : ℕ} {source : List (Option (SourceFrame Audio))}
    (due : source.reduceOption ≠ []) : Grouped s source ↔
      (∃ frame, source[0]? = some (some frame)) ∧
        (source.take s).reduceOption.length = min s source.reduceOption.length ∧
        clears 0 ((source.reduceOption.take s).map fun frame => frame.audio.length) ∧
        Grouped s (source.drop s) := by
  have nonempty : 0 < source.reduceOption.length := List.length_pos_iff.mpr due
  have later (full : (source.take s).reduceOption.length = min s source.reduceOption.length) (k : ℕ) :
      (k * s < (source.drop s).reduceOption.length ↔ (k + 1) * s < source.reduceOption.length) ∧
      (source.drop s)[k * s]? = source[(k + 1) * s]? ∧
      (k * s < (source.drop s).reduceOption.length →
        (((source.drop s).take ((k + 1) * s)).reduceOption.length =
          min ((k + 1) * s) (source.drop s).reduceOption.length ↔
        (source.take ((k + 1 + 1) * s)).reduceOption.length =
          min ((k + 1 + 1) * s) source.reduceOption.length)) ∧
      (source.drop s).reduceOption.drop (k * s) = source.reduceOption.drop ((k + 1) * s) := by
    obtain ⟨-, rest⟩ := frames_split full
    have next : s + k * s = (k + 1) * s := by ring
    refine ⟨?_, ?_, ?_, ?_⟩
    · rw [rest, List.length_drop]
      omega
    · rw [List.getElem?_drop, next]
    · intro inside
      rw [show (k + 1 + 1) * s = s + (k + 1) * s by ring, List.take_add, List.reduceOption_append,
        List.length_append, full, rest, List.length_drop]
      rw [rest, List.length_drop] at inside
      omega
    · rw [rest, List.drop_drop, next]
  constructor
  · intro grouped
    obtain ⟨first, full, cleared⟩ := grouped 0 (by simpa using nonempty)
    rw [zero_add, one_mul] at full
    refine ⟨by simpa using first, full, by simpa using cleared, fun k inside => ?_⟩
    obtain ⟨inRange, read, count, frames⟩ := later full k
    obtain ⟨found, whole, clear⟩ := grouped (k + 1) (inRange.mp inside)
    exact ⟨by rwa [read], (count inside).mpr whole, by rwa [frames]⟩
  · rintro ⟨first, full, cleared, others⟩ k inside
    cases k with
    | zero => exact ⟨by simpa using first, by simpa using full, by simpa using cleared⟩
    | succ k =>
      obtain ⟨inRange, read, count, frames⟩ := later full k
      obtain ⟨found, whole, clear⟩ := others k (inRange.mpr inside)
      exact ⟨by rwa [← read], (count (inRange.mpr inside)).mp whole, by rwa [← frames]⟩

/-- A source without frames is grouped. -/
theorem grouped_of_empty {s : ℕ} {source : List (Option (SourceFrame Audio))}
    (empty : source.reduceOption = []) : Grouped s source :=
  fun k inside => by simp [empty] at inside

end Groups

/-! ### From a decoder at rest -/

section Rest

variable {Audio : Type} {setup : DecodeSetup Audio}
  (dropping : (updateResampleMode setup.input setup.output).1 = .drop)

include dropping

/-- A source without frames stays without. -/
theorem ticked_empty {p : Decoding Audio} (rested : Rested p) (empty : p.source.reduceOption = [])
    (k : ℕ) : Rested (p.ticked setup k) ∧ (p.ticked setup k).source.reduceOption = [] ∧
      ((p.ticked setup k).tryGetFrame setup).1 = none := by
  have failed {q : Decoding Audio} (gone : q.source.reduceOption = []) :
      q.source.head?.join = none := by
    rcases read : q.source with _ | ⟨_ | frame, rest⟩ <;> simp [read] at gone ⊢
  induction k with
  | zero => exact ⟨rested, empty, (tryGetFrame_none dropping rested (failed empty)).1⟩
  | succ k ih =>
    obtain ⟨before, left, -⟩ := ih
    obtain ⟨-, after, -⟩ := tryGetFrame_none dropping before (failed left)
    have still : (p.ticked setup (k + 1)).source.reduceOption = [] := by
      rw [Decoding.ticked, after.source]
      rw [← List.take_append_drop 1 (p.ticked setup k).source, List.reduceOption_append,
        List.append_eq_nil_iff] at left
      exact left.2
    exact ⟨after.rested before, still,
      (tryGetFrame_none dropping (after.rested before) (failed still)).1⟩

/-- Nothing is returned exactly when no source frame is left. -/
theorem decimates_nil_iff {s picture : ℕ} {tick : Int} {p : Decoding Audio} (rested : Rested p) :
    Decimates setup s [] picture tick p ↔ p.source.reduceOption = [] := by
  constructor
  · intro decimates
    -- Over the calls that are left: a call that gets a frame returns it.
    induction read : p.source generalizing p picture tick with
    | nil => rfl
    | cons call rest ih =>
      obtain ⟨first, others⟩ := decimates_iff_first.mp decimates
      cases call with
      | some frame =>
        obtain ⟨returned, -⟩ := tryGetFrame_some dropping rested (by simp [read])
        rw [returned] at first
        simp at first
      | none =>
        obtain ⟨-, after, -⟩ := tryGetFrame_none dropping rested (by simp [read])
        rw [List.drop_nil] at others
        exact ih (after.rested rested) others (by rw [after.source, read]; rfl)
  · intro empty k
    rw [(ticked_empty dropping rested empty k).2.2]
    simp

/-- The frame that is due is the next one the decoder has. -/
theorem decoded_of_decimates {s picture : ℕ} {frames : List (SourceFrame Audio)} {tick : Int}
    {p : Decoding Audio} (rested : Rested p) (due : 0 < frames.length)
    (decimates : Decimates setup s frames picture tick p) : p.decoded = picture := by
  obtain ⟨first, -⟩ := decimates_iff_first.mp decimates
  rw [if_pos due] at first
  by_cases failed : p.source.head?.join = none
  · rw [(tryGetFrame_none dropping rested failed).1] at first
    simp at first
  · rw [(tryGetFrame_some dropping rested failed).1] at first
    simp only [Option.some.injEq, Prod.mk.injEq] at first
    exact first.1

/-- The group that a tick took was full when the ticks after it return the frames after it. -/
theorem full_of_decimates {s : ℕ} {tick : Int} {p next : Decoding Audio}
    (rested : Rested next) (after : After s p next)
    (others : Decimates setup s (p.source.reduceOption.drop s) (p.decoded + s) tick next) :
    (p.source.take s).reduceOption.length = min s p.source.reduceOption.length := by
  have whole : (p.source.take s).reduceOption ++ (p.source.drop s).reduceOption =
      p.source.reduceOption := by
    rw [← List.reduceOption_append, List.take_append_drop]
  by_cases more : s < p.source.reduceOption.length
  · have numbered := decoded_of_decimates dropping rested (by rw [List.length_drop]; omega) others
    rw [after.decoded] at numbered
    omega
  · rw [List.drop_of_length_le (by omega), decimates_nil_iff dropping rested, after.source] at others
    have length := congrArg List.length whole
    rw [others, List.append_nil] at length
    omega

/-- What is due after a full group is what the producer has left. -/
theorem remaining_iff {s : ℕ} {tick : Int} {p next : Decoding Audio} (rested : Rested next)
    (after : After s p next)
    (full : (p.source.take s).reduceOption.length = min s p.source.reduceOption.length)
    (same : Decimates setup s next.source.reduceOption next.decoded tick next ↔
      Grouped s next.source) :
    Decimates setup s (p.source.reduceOption.drop s) (p.decoded + s) tick next ↔
      Grouped s (p.source.drop s) := by
  rw [← (frames_split full).2, ← after.source]
  by_cases more : s < p.source.reduceOption.length
  · have numbered : next.decoded = p.decoded + s := by
      rw [after.decoded, full, min_eq_left more.le]
    rw [← numbered]
    exact same
  · have empty : next.source.reduceOption = [] := by
      rw [after.source, (frames_split full).2, List.drop_of_length_le (by omega)]
    rw [empty, decimates_nil_iff dropping rested]
    exact iff_of_true empty (grouped_of_empty empty)

/-- From a decoder at rest with an empty queue, the ticks decimate what is left exactly when it is
grouped. -/
theorem decimates_iff {p : Decoding Audio} (rested : Rested p) (cleared : p.pendingAudio = []) :
    Decimates setup setup.dropStep p.source.reduceOption p.decoded
        p.frameIndex p ↔
      Grouped setup.dropStep p.source := by
  have two := two_le_dropStep dropping
  generalize length : p.source.length = n
  -- Over the calls that are left: a group that is due uses at least one.
  induction n using Nat.strong_induction_on generalizing p with
  | _ n ih =>
    by_cases due : p.source.reduceOption = []
    · rw [due, decimates_nil_iff dropping rested, due]
      exact iff_of_true rfl (grouped_of_empty due)
    · have left : 0 < p.source.reduceOption.length := List.length_pos_iff.mpr due
      rw [grouped_iff_first due, decimates_iff_first, if_pos left]
      rcases read : p.source with _ | ⟨_ | frame, rest⟩
      · exact absurd (by rw [read]; rfl) due
      · have failed := (tryGetFrame_none dropping rested (by simp [read])).1
        rw [failed]
        simp
      · rw [← read]
        obtain ⟨returned, after, index⟩ := tryGetFrame_some dropping rested (by simp [read])
        have nextRested := after.rested rested
        have shorter : (p.tryGetFrame setup).2.source.length < n := by
          rw [after.source, List.length_drop, ← length, read, List.length_cons]
          omega
        have handed := drain_all_iff (p.source.take setup.dropStep) []
        rw [List.nil_append, List.length_nil] at handed
        have same (fits : clears 0 ((p.source.take setup.dropStep).reduceOption.map
              fun frame => frame.audio.length)) :
            Decimates setup setup.dropStep (p.tryGetFrame setup).2.source.reduceOption
                (p.tryGetFrame setup).2.decoded (p.frameIndex + 1) (p.tryGetFrame setup).2 ↔
              Grouped setup.dropStep (p.tryGetFrame setup).2.source := by
          rw [← index]
          refine ih _ shorter nextRested ?_ rfl
          rw [after.pendingAudio, cleared]
          exact drain_rest _ [] fits
        rw [returned, cleared]
        constructor
        · rintro ⟨first, others⟩
          have full := full_of_decimates dropping nextRested after others
          simp only [Option.some.injEq, Prod.mk.injEq] at first
          have fits := handed.mp (by rw [(frames_split full).1]; exact first.2.1)
          refine ⟨⟨frame, by rw [read]; rfl⟩, full, by rwa [← (frames_split full).1], ?_⟩
          exact (remaining_iff dropping nextRested after full (same fits)).mp others
        · rintro ⟨-, full, fits, others⟩
          rw [← (frames_split full).1] at fits
          refine ⟨?_, (remaining_iff dropping nextRested after full (same fits)).mpr others⟩
          rw [handed.mpr fits, (frames_split full).1]

end Rest

/-! ### Priming -/

section Priming

variable {Audio : Type} {setup : DecodeSetup Audio}

/-- The loop of `PrimeFirstTick` adds nothing, or the frame after those decoded before it. -/
theorem primeLoop_spec {minAudioPrimeMs : Int} {decodes nullRun : ℕ} {audioSamples : Int}
    {primedFrames : List (FrameData Audio)} {p : Decoding Audio} (rested : Rested p)
    {looped : List (FrameData Audio) × Int × Decoding Audio}
    (ran : Decoding.primeLoop setup minAudioPrimeMs decodes nullRun audioSamples primedFrames p =
      looped) :
    Rested looped.2.2 ∧
      ((looped.1 = primedFrames ∧ looped.2.2.source.reduceOption = p.source.reduceOption ∧
          looped.2.2.decoded = p.decoded) ∨
        ∃ first others, looped.1 = primedFrames ++ first :: others ∧ first.picture = p.decoded ∧
          p.source.reduceOption ≠ []) := by
  induction decodes generalizing nullRun audioSamples primedFrames p with
  | zero =>
    subst ran
    exact ⟨rested, .inl ⟨rfl, rfl, rfl⟩⟩
  | succ decodes ih =>
    rw [Decoding.primeLoop] at ran
    split at ran
    · subst ran
      exact ⟨rested, .inl ⟨rfl, rfl, rfl⟩⟩
    · obtain ⟨after, -, -, picture⟩ := decodeNextFrameRaw_spec setup rested.closed true
      have nextRested := after.rested rested
      split at ran
      · rename_i next decoded
        rw [decoded] at after picture nextRested
        have failed : p.source.head?.join = none := by simpa using picture
        have same : next.source.reduceOption = p.source.reduceOption ∧
            next.decoded = p.decoded := by
          rw [after.source, after.decoded]
          rcases read : p.source with _ | ⟨_ | frame, rest⟩ <;> simp [read] at failed ⊢
        split at ran
        · subst ran
          exact ⟨nextRested, .inl ⟨rfl, same⟩⟩
        · have others := ih nextRested ran
          rwa [same.1, same.2] at others
      · rename_i frame next decoded
        rw [decoded] at after picture nextRested
        obtain ⟨got, found, numbered⟩ : ∃ got, p.source.head?.join = some got ∧
            p.decoded = frame.picture := by simpa using picture.symm
        have left : p.source.reduceOption ≠ [] := by
          rcases read : p.source with _ | ⟨_ | first, rest⟩ <;> simp [read] at found ⊢
        obtain ⟨still, ⟨only, -⟩ | ⟨first, others, more, -⟩⟩ := ih nextRested ran
        · exact ⟨still, .inr ⟨frame, [], only, numbered.symm, left⟩⟩
        · refine ⟨still, .inr ⟨frame, first :: others, ?_, numbered.symm, left⟩⟩
          rw [more, List.append_assoc]
          rfl

/-- Stealing keeps the pictures and the metadata. -/
theorem stealAudio_spec (primed : FrameData Audio) (buffered : List (FrameData Audio)) :
    (stealAudio primed buffered).1.picture = primed.picture ∧
      (stealAudio primed buffered).1.ptsUs = primed.ptsUs ∧
      (stealAudio primed buffered).2.map FrameData.picture = buffered.map FrameData.picture ∧
      (buffered = [] → (stealAudio primed buffered).1 = primed) := by
  rcases buffered with _ | ⟨first, rest⟩
  · exact ⟨rfl, rfl, rfl, fun _ => rfl⟩
  · rcases own : primed.audio with _ | ⟨sound, others⟩ <;>
      rcases next : first.audio with _ | ⟨stolen, left⟩ <;> simp [stealAudio, own, next]

/-- The same for a segment with or without audio. -/
theorem shared_spec (hasAudioStream : Bool) (primed : FrameData Audio)
    (buffered : List (FrameData Audio)) {shared : FrameData Audio × List (FrameData Audio)}
    (eq : (if hasAudioStream then stealAudio primed buffered else (primed, buffered)) = shared) :
    shared.1.picture = primed.picture ∧ shared.1.ptsUs = primed.ptsUs ∧
      shared.2.map FrameData.picture = buffered.map FrameData.picture ∧
      (buffered = [] → shared.1 = primed) := by
  subst eq
  cases hasAudioStream with
  | false => exact ⟨rfl, rfl, rfl, fun _ => rfl⟩
  | true => exact stealAudio_spec primed buffered

/-- Priming a source whose first decode succeeds: the frame is held, and what follows it is at rest,
unless the frame after it is buffered. -/
theorem readied_some {minAudioPrimeMs : Int} {timeoutAfter : ℕ} {frame : SourceFrame Audio}
    {rest : List (Option (SourceFrame Audio))} {p : Decoding Audio}
    (primed : Decoding.readied setup (some (minAudioPrimeMs, timeoutAfter)) (some frame :: rest) =
      p) :
    ∃ held, p.primedFrame = some held ∧ held.picture = 0 ∧ held.ptsUs = frame.ptsUs ∧
      ((p.bufferedFrames = [] ∧ (p.decoderOk = false → p.source = []) ∧
          held.audio = frame.audio.take maxAudioFramesPerVideoFrame ∧
          p.source.reduceOption = rest.reduceOption ∧ p.decoded = 1) ∨
        ∃ first others, p.bufferedFrames = first :: others ∧ first.picture = 1 ∧
          rest.reduceOption ≠ []) := by
  obtain ⟨held, opened⟩ : ∃ held,
      (Decoding.assigned (some frame :: rest)).primeFirstFrame setup =
        { Decoding.assigned rest with
          decoded := 1, pendingAudio := (frame.audio.take maxPendingAudioFrames).drop
            maxAudioFramesPerVideoFrame, segFirstPtsMs := frame.ptsUs.tdiv 1000,
          primedFrame := some held } ∧
      held.picture = 0 ∧ held.ptsUs = frame.ptsUs ∧
      held.audio = frame.audio.take maxAudioFramesPerVideoFrame :=
    ⟨_, rfl, rfl, rfl, by
      simp [Decoding.assigned, List.take_take, maxPendingAudioFrames, maxAudioFramesPerVideoFrame]⟩
  obtain ⟨opened, picture, ptsUs, audio⟩ := opened
  simp only [Decoding.readied, Decoding.primeFirstTick, opened] at primed
  by_cases unwanted : minAudioPrimeMs ≤ 0
  · rw [if_pos unwanted] at primed
    subst primed
    exact ⟨held, rfl, picture, ptsUs, .inl ⟨rfl, by simp [Decoding.assigned], audio, rfl, rfl⟩⟩
  rw [if_neg unwanted] at primed
  by_cases enough : minAudioPrimeMs ≤ depthMs (setup.samplesOf held)
  · rw [if_pos enough] at primed
    subst primed
    exact ⟨held, rfl, picture, ptsUs, .inl ⟨rfl, by simp [Decoding.assigned], audio, rfl, rfl⟩⟩
  rw [if_neg enough] at primed
  generalize ran : Decoding.primeLoop setup minAudioPrimeMs (min maxTotalDecodes timeoutAfter) 0
    (setup.samplesOf held) [held] _ = looped at primed
  obtain ⟨still, outcome⟩ := primeLoop_spec (by exact ⟨rfl, rfl, by simp [Decoding.assigned]⟩) ran
  obtain ⟨only, left, decoded⟩ | ⟨first, others, more, numbered, left⟩ := outcome
  · rw [only] at primed
    dsimp only at primed
    generalize given : (if setup.hasAudioStream = true then
      stealAudio held (looped.2.2.bufferedFrames ++ []) else _) = shared at primed
    obtain ⟨samePicture, samePts, buffered, same⟩ := shared_spec _ _ _ given
    subst primed
    rw [still.bufferedFrames] at buffered same
    refine ⟨shared.1, rfl, samePicture.trans picture, samePts.trans ptsUs, .inl ⟨?_, still.closed,
      ?_, left, decoded⟩⟩
    · simpa using buffered
    · rw [same rfl, audio]
  · rw [more] at primed
    dsimp only [List.cons_append, List.nil_append] at primed
    generalize given : (if setup.hasAudioStream = true then
      stealAudio held (looped.2.2.bufferedFrames ++ first :: others) else _) = shared at primed
    obtain ⟨samePicture, samePts, buffered, -⟩ := shared_spec _ _ _ given
    subst primed
    rw [still.bufferedFrames, List.nil_append, List.map_cons] at buffered
    obtain ⟨next, later, split, nextPicture, -⟩ := List.map_eq_cons_iff.mp buffered
    exact ⟨shared.1, rfl, samePicture.trans picture, samePts.trans ptsUs,
      .inr ⟨next, later, split, nextPicture.trans numbered, left⟩⟩

end Priming

/-! ### Decimation -/

section Main

variable {Audio : Type} {setup : DecodeSetup Audio}

/-- Priming that decodes nothing leaves the segment as it found it. -/
theorem readied_none (minAudioPrimeMs : Int) (timeoutAfter : ℕ)
    (rest : List (Option (SourceFrame Audio))) :
    Decoding.readied setup (some (minAudioPrimeMs, timeoutAfter)) (none :: rest) =
        .assigned rest ∧
      Decoding.readied setup (some (minAudioPrimeMs, timeoutAfter)) [] = .assigned [] :=
  ⟨rfl, rfl⟩

/-- A primed segment whose first decode succeeds: no second group is right, as a single frame was
decoded for the first. -/
theorem decimates_primed_iff (dropping : (updateResampleMode setup.input setup.output).1 = .drop)
    {minAudioPrimeMs : Int} {timeoutAfter : ℕ} {frame : SourceFrame Audio}
    {rest : List (Option (SourceFrame Audio))} :
    Decimates setup setup.dropStep (frame :: rest.reduceOption) 0 0
        (Decoding.readied setup (some (minAudioPrimeMs, timeoutAfter)) (some frame :: rest)) ↔
      rest.reduceOption = [] ∧ frame.ptsUs = 0 ∧
        frame.audio.length ≤ maxAudioFramesPerVideoFrame := by
  have two := two_le_dropStep dropping
  generalize primed : Decoding.readied setup _ _ = p
  obtain ⟨held, slot, picture, ptsUs, outcome⟩ := readied_some primed
  have first : p.tryGetFrame setup = (some held,
      { p with primedFrame := none, blockCtMs := held.blockCtMs, frameIndex := p.frameIndex + 1 }) := by
    rw [Decoding.tryGetFrame, slot]
  have origin : ctUs setup.output 0 = 0 := by
    rw [ctUs]
    split <;> simp
  rw [decimates_iff_first, first, if_pos (by simp), Option.map_some, FrameData.content, picture,
    ptsUs, origin]
  obtain ⟨empty, closed, audio, left, decoded⟩ | ⟨buffered, others, queue, number, more⟩ := outcome
  · have rested : Rested
        { p with primedFrame := none, blockCtMs := held.blockCtMs, frameIndex := p.frameIndex + 1 } :=
      ⟨rfl, empty, closed⟩
    constructor
    · rintro ⟨returned, others⟩
      have none_left : (frame :: rest.reduceOption).drop setup.dropStep = [] := by
        by_contra due
        have numbered := decoded_of_decimates dropping rested (List.length_pos_iff.mpr due) others
        rw [show Decoding.decoded _ = 1 from decoded] at numbered
        omega
      rw [none_left, decimates_nil_iff dropping rested] at others
      have last : rest.reduceOption = [] := left.symm.trans others
      rw [last, List.take_of_length_le (by simp; omega), audio] at returned
      simp only [Option.some.injEq, Prod.mk.injEq, audioOf, List.flatMap_cons, List.flatMap_nil,
        List.append_nil, true_and, List.take_eq_self_iff] at returned
      exact ⟨last, returned.2, returned.1⟩
    · rintro ⟨last, start, few⟩
      rw [last, List.take_of_length_le (by simp; omega), List.drop_of_length_le (by simp; omega),
        decimates_nil_iff dropping rested, audio, List.take_of_length_le few, start]
      exact ⟨by simp [audioOf], left.trans last⟩
  · refine iff_of_false ?_ fun primed => more primed.1
    rintro ⟨-, others⟩
    have second := (decimates_iff_first.mp others).1
    rw [Decoding.tryGetFrame, queue] at second
    dsimp only at second
    rw [Option.map_some, FrameData.content, number] at second
    split_ifs at second
    simp only [Option.some.injEq, Prod.mk.injEq] at second
    omega

/-- **Decimation.** The ticks of a segment return the source frames in groups, each picture with the
audio of its group and the content time of its tick, exactly when every group that is due decodes in
full, with audio that two frames a picture keep up with, and the segment is not primed. Priming takes
single source frames: after it, only a segment of one frame is returned so. -/
theorem decimation_iff (dropping : (updateResampleMode setup.input setup.output).1 = .drop)
    (priming : Option (Int × ℕ)) (source : List (Option (SourceFrame Audio))) :
    Decimates setup setup.dropStep source.reduceOption 0 0
        (Decoding.readied setup priming source) ↔
      Decimable setup.dropStep priming source := by
  have unprimed (calls : List (Option (SourceFrame Audio))) :
      Decimates setup setup.dropStep calls.reduceOption 0 0 (.assigned calls) ↔
        Grouped setup.dropStep calls :=
    decimates_iff dropping (rested_assigned calls) rfl
  rcases priming with _ | ⟨minAudioPrimeMs, timeoutAfter⟩
  · cases source <;> exact unprimed _
  · rcases source with _ | ⟨_ | frame, rest⟩
    · rw [(readied_none minAudioPrimeMs timeoutAfter []).2]
      exact unprimed []
    · rw [(readied_none minAudioPrimeMs timeoutAfter rest).1]
      exact unprimed rest
    · exact decimates_primed_iff dropping

/-- A 60 fps source on a 30 fps house. -/
def sixtyOnThirty : DecodeSetup ℕ := ⟨.make 60 1, .make 30 1, 0, true, fun _ => 1024⟩

/-- Four frames of it, each with one audio frame. -/
def fourFrames : List (Option (SourceFrame ℕ)) :=
  [some ⟨0, 0, 16666, [0]⟩, some ⟨16666, 16666, 16666, [1]⟩, some ⟨33333, 33333, 16666, [2]⟩,
    some ⟨50000, 50000, 16666, [3]⟩]

theorem sixtyOnThirty_drops :
    (updateResampleMode sixtyOnThirty.input sixtyOnThirty.output).1 = .drop := by
  decide +kernel

theorem fourFrames_grouped : Grouped 2 fourFrames := by
  intro k due
  have few : k * 2 < 4 := due
  obtain rfl | rfl : k = 0 ∨ k = 1 := by omega
  · exact ⟨⟨_, rfl⟩, rfl, by decide +kernel⟩
  · exact ⟨⟨_, rfl⟩, rfl, by decide +kernel⟩

/-- Unprimed, the four frames are decimated. -/
theorem decimation_fourFrames :
    Decimates sixtyOnThirty sixtyOnThirty.dropStep fourFrames.reduceOption 0 0
      (Decoding.readied sixtyOnThirty none fourFrames) :=
  (decimation_iff sixtyOnThirty_drops none fourFrames).mpr fourFrames_grouped

/-- Primed for half a second of audio, the same frames are returned one by one. -/
theorem primed_fourFrames :
    ¬ ∀ (priming : Option (Int × ℕ)) (source : List (Option (SourceFrame ℕ))),
      Decimates sixtyOnThirty sixtyOnThirty.dropStep source.reduceOption 0 0
        (Decoding.readied sixtyOnThirty priming source) := by
  intro decimates
  have second := decimates (some (500, 60)) fourFrames 1
  have returned : ((((Decoding.readied sixtyOnThirty (some (500, 60)) fourFrames).ticked
      sixtyOnThirty 1).tryGetFrame sixtyOnThirty).1.map FrameData.content).map Prod.fst =
        some 1 := by
    decide +kernel
  rw [second] at returned
  revert returned
  decide +kernel

end Main

end Retrovue.Air.Blockplan
