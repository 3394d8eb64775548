/-
**The audio buffer between decoder and tick loop** (`AudioLookaheadBuffer.cpp`).

* `AudioLookaheadBuffer`: the queue of frames, the partially consumed head with its offset, and the
  running counters; `push`, `tryPopSamples`, `reset` as the code computes them;
* `held`: the samples that the buffer holds, in order;
* `drainPartial_spec`, `drainFrames_spec`: the two stages of a pop take a prefix of them;
* `Service`, `step`: a buffer with what it accepted and handed out since the last flush;
* `Service.Sound`: the counters, the offset and the queue agree;
* `lossless_fifo_iff`: over every sequence of calls the buffer is a lossless sample queue, and refuses
  every stale push exactly when none is stamped with generation 0, which means no check;
* `lossless_fifo_stale`: a fill thread that started on a fresh buffer carries that stamp.
-/

import Mathlib
import Retrovue.Foundation.Transition
import Retrovue.Air.Blockplan.Types

namespace Retrovue.Air.Blockplan

open Retrovue.Foundation.Transition

/-! ### The buffer -/

section Buffer

variable {Sample : Type*}

/-- A `buffer::AudioFrame`; `data` holds `nb_samples` samples. -/
structure AudioData (Sample : Type*) where
  data : List Sample
  sampleRate : Int
  channels : Int
  ptsUs : Int
  deriving DecidableEq, Repr

/-- `nb_samples`. -/
def AudioData.nbSamples (frame : AudioData Sample) : ℕ := frame.data.length

/-- `AudioFrame{}`. -/
def AudioData.none : AudioData Sample := ⟨[], 0, 0, 0⟩

/-- `AudioLookaheadBuffer`, without the watermarks that only its observers read. -/
structure AudioLookaheadBuffer (Sample : Type*) where
  sampleRate : Int
  channels : Int
  frames : List (AudioData Sample)
  partialFrame : AudioData Sample
  partialConsumedSamples : ℕ
  hasPartial : Bool
  generation : UInt64
  totalSamplesInBuffer : Int
  totalSamplesPushed : Int
  totalSamplesPopped : Int
  underflowCount : Int
  primed : Bool
  deriving DecidableEq, Repr

/-- A buffer as it is constructed. -/
def AudioLookaheadBuffer.fresh (sampleRate channels : Int) : AudioLookaheadBuffer Sample where
  sampleRate := sampleRate
  channels := channels
  frames := []
  partialFrame := .none
  partialConsumedSamples := 0
  hasPartial := false
  generation := 0
  totalSamplesInBuffer := 0
  totalSamplesPushed := 0
  totalSamplesPopped := 0
  underflowCount := 0
  primed := false

/-- The generation check of `Push` lets a stamp pass. -/
def AudioLookaheadBuffer.admits (buffer : AudioLookaheadBuffer Sample)
    (expectedGeneration : UInt64) : Bool :=
  !(expectedGeneration != 0 && expectedGeneration != buffer.generation)

/-- `Push`. -/
def AudioLookaheadBuffer.push (buffer : AudioLookaheadBuffer Sample) (frame : AudioData Sample)
    (expectedGeneration : UInt64) : AudioLookaheadBuffer Sample :=
  if frame.nbSamples ≤ 0 then buffer
  else if !buffer.admits expectedGeneration then buffer
  else
    { buffer with
      totalSamplesPushed := buffer.totalSamplesPushed + frame.nbSamples
      totalSamplesInBuffer := buffer.totalSamplesInBuffer + frame.nbSamples
      primed := true
      frames := buffer.frames ++ [frame] }

/-- `TryPopSamples`, stage 1: what the partial head gives, and the buffer after it. -/
def AudioLookaheadBuffer.drainPartial (buffer : AudioLookaheadBuffer Sample) (remaining : ℕ) :
    List Sample × AudioLookaheadBuffer Sample :=
  if buffer.hasPartial then
    let avail := buffer.partialFrame.nbSamples - buffer.partialConsumedSamples
    let took := min avail remaining
    let out := (buffer.partialFrame.data.drop buffer.partialConsumedSamples).take took
    if buffer.partialFrame.nbSamples ≤ buffer.partialConsumedSamples + took then
      (out, { buffer with
        hasPartial := false
        partialFrame := .none
        partialConsumedSamples := 0 })
    else (out, { buffer with partialConsumedSamples := buffer.partialConsumedSamples + took })
  else ([], buffer)

/-- `TryPopSamples`, stage 2: the loop over the complete frames. -/
def AudioLookaheadBuffer.drainFrames (buffer : AudioLookaheadBuffer Sample) (remaining : ℕ) :
    List (AudioData Sample) → List Sample × AudioLookaheadBuffer Sample
  | [] => ([], { buffer with frames := [] })
  | front :: rest =>
    if remaining = 0 then ([], { buffer with frames := front :: rest })
    else if remaining < front.nbSamples then
      (front.data.take remaining,
        { buffer with
          partialFrame := front
          partialConsumedSamples := remaining
          hasPartial := true
          frames := rest })
    else
      let later := buffer.drainFrames (remaining - front.nbSamples) rest
      (front.data ++ later.1, later.2)

/-- `TryPopSamples`: the buffer after it, and the frame if it returned true. The output is resized to
the samples asked for before it is filled. -/
def AudioLookaheadBuffer.tryPopSamples [Inhabited Sample] (buffer : AudioLookaheadBuffer Sample)
    (samplesNeeded : Int) : AudioLookaheadBuffer Sample × Option (AudioData Sample) :=
  if samplesNeeded ≤ 0 then (buffer, some ⟨[], buffer.sampleRate, buffer.channels, 0⟩)
  else if buffer.totalSamplesInBuffer < samplesNeeded then
    ({ buffer with underflowCount := buffer.underflowCount + 1 }, none)
  else
    let head := buffer.drainPartial samplesNeeded.toNat
    let tail := head.2.drainFrames (samplesNeeded.toNat - head.1.length) head.2.frames
    ({ tail.2 with
        totalSamplesInBuffer := buffer.totalSamplesInBuffer - samplesNeeded
        totalSamplesPopped := buffer.totalSamplesPopped + samplesNeeded },
      some ⟨(head.1 ++ tail.1).takeD samplesNeeded.toNat default, buffer.sampleRate,
        buffer.channels, 0⟩)

/-- `Reset`. -/
def AudioLookaheadBuffer.reset (buffer : AudioLookaheadBuffer Sample) :
    AudioLookaheadBuffer Sample :=
  { AudioLookaheadBuffer.fresh buffer.sampleRate buffer.channels with
    generation := buffer.generation + 1 }

/-- The samples in the buffer, in order: the rest of the partial head, then the queue. -/
def AudioLookaheadBuffer.held (buffer : AudioLookaheadBuffer Sample) : List Sample :=
  (if buffer.hasPartial then buffer.partialFrame.data.drop buffer.partialConsumedSamples else []) ++
    buffer.frames.flatMap AudioData.data

end Buffer

/-! ### A pop takes a prefix -/

section Draining

variable {Sample : Type*} (buffer : AudioLookaheadBuffer Sample)

/-- What the partial head holds. -/
def AudioLookaheadBuffer.headHeld : List Sample :=
  if buffer.hasPartial then buffer.partialFrame.data.drop buffer.partialConsumedSamples else []

theorem held_eq : buffer.held = buffer.headHeld ++ buffer.frames.flatMap AudioData.data := rfl

/-- Stage 1 takes a prefix of the partial head, and leaves no head when it needs more. -/
theorem drainPartial_spec (remaining : ℕ) :
    (buffer.drainPartial remaining).1 = buffer.headHeld.take remaining ∧
      (buffer.drainPartial remaining).2.headHeld = buffer.headHeld.drop remaining ∧
      (buffer.drainPartial remaining).2.frames = buffer.frames ∧
      (buffer.drainPartial remaining).2.totalSamplesPushed = buffer.totalSamplesPushed ∧
      (buffer.headHeld.length ≤ remaining →
        (buffer.drainPartial remaining).2.hasPartial = false) := by
  unfold AudioLookaheadBuffer.drainPartial AudioLookaheadBuffer.headHeld AudioData.nbSamples
  by_cases has : buffer.hasPartial = true
  · simp only [if_pos has]
    have took : (buffer.partialFrame.data.drop buffer.partialConsumedSamples).take
        (min (buffer.partialFrame.data.length - buffer.partialConsumedSamples) remaining) =
          (buffer.partialFrame.data.drop buffer.partialConsumedSamples).take remaining := by
      rw [← List.length_drop, List.take_eq_take_iff]
      omega
    by_cases used : buffer.partialFrame.data.length ≤ buffer.partialConsumedSamples +
        min (buffer.partialFrame.data.length - buffer.partialConsumedSamples) remaining
    · simp only [if_pos used]
      refine ⟨took, ?_, trivial, trivial, fun _ => trivial⟩
      rw [if_neg (by decide), List.drop_drop, List.drop_eq_nil_of_le (by omega)]
    · simp only [if_neg used]
      refine ⟨took, ?_, trivial, trivial, ?_⟩
      · rw [if_pos has, List.drop_drop]
        congr 1
        omega
      · intro short
        rw [List.length_drop] at short
        omega
  · simp only [if_neg has]
    refine ⟨List.take_nil.symm, List.drop_nil.symm, trivial, trivial, ?_⟩
    intro _
    simpa using has

/-- Stage 2 takes a prefix of the queued samples when there is no partial head. -/
theorem drainFrames_spec (remaining : ℕ) (frames : List (AudioData Sample))
    (exhausted : buffer.hasPartial = false) :
    (buffer.drainFrames remaining frames).1 = (frames.flatMap AudioData.data).take remaining ∧
      (buffer.drainFrames remaining frames).2.held =
        (frames.flatMap AudioData.data).drop remaining ∧
      (buffer.drainFrames remaining frames).2.totalSamplesPushed = buffer.totalSamplesPushed := by
  induction frames generalizing remaining with
  | nil => simp [AudioLookaheadBuffer.drainFrames, AudioLookaheadBuffer.held, exhausted]
  | cons front rest ih =>
    rw [AudioLookaheadBuffer.drainFrames, List.flatMap_cons]
    by_cases none_left : remaining = 0
    · simp [none_left, AudioLookaheadBuffer.held, exhausted]
    · rw [if_neg none_left]
      by_cases within : remaining < front.nbSamples
      · rw [if_pos within]
        unfold AudioData.nbSamples at within
        refine ⟨?_, ?_, rfl⟩
        · rw [List.take_append_of_le_length within.le]
        · simp only [AudioLookaheadBuffer.held, if_true]
          rw [List.drop_append_of_le_length within.le]
      · rw [if_neg within]
        unfold AudioData.nbSamples at within ⊢
        dsimp only
        obtain ⟨out, left, counted⟩ := ih (remaining - front.data.length)
        have whole : front.data.take remaining = front.data := List.take_of_length_le (by omega)
        refine ⟨?_, ?_, counted⟩
        · rw [List.take_append, whole, out]
        · rw [left, List.drop_append, List.drop_eq_nil_of_le (not_lt.mp within),
            List.nil_append]

/-- Stage 2 with nothing left to take. -/
theorem drainFrames_zero (frames : List (AudioData Sample)) :
    (buffer.drainFrames 0 frames).1 = [] ∧
      (buffer.drainFrames 0 frames).2 = { buffer with frames := frames } := by
  cases frames with
  | nil => exact ⟨rfl, rfl⟩
  | cons front rest => exact ⟨rfl, rfl⟩

/-- **The two stages take a prefix of what is held and leave the rest.** -/
theorem drain_spec (needed : ℕ) :
    let head := buffer.drainPartial needed
    let tail := head.2.drainFrames (needed - head.1.length) head.2.frames
    head.1 ++ tail.1 = buffer.held.take needed ∧ tail.2.held = buffer.held.drop needed ∧
      tail.2.totalSamplesPushed = buffer.totalSamplesPushed := by
  obtain ⟨out, left, frames, counted, exhausted⟩ := drainPartial_spec buffer needed
  dsimp only
  rw [held_eq, frames, out]
  by_cases short : buffer.headHeld.length ≤ needed
  · obtain ⟨out', left', counted'⟩ := drainFrames_spec (buffer.drainPartial needed).2
      (needed - (buffer.headHeld.take needed).length) buffer.frames (exhausted short)
    have took : (buffer.headHeld.take needed).length = buffer.headHeld.length := by
      rw [List.length_take]
      omega
    rw [took] at out' left' counted' ⊢
    rw [out', left', counted', counted, List.take_append, List.drop_append,
      List.drop_eq_nil_of_le short, List.nil_append]
    exact ⟨rfl, rfl, rfl⟩
  · -- the partial head alone is enough
    have took : (buffer.headHeld.take needed).length = needed := by
      rw [List.length_take]
      omega
    obtain ⟨out', after⟩ := drainFrames_zero (buffer.drainPartial needed).2 buffer.frames
    rw [took, Nat.sub_self, out', after, List.append_nil,
      List.take_append_of_le_length (by omega), List.drop_append_of_le_length (by omega), ← left]
    exact ⟨rfl, rfl, counted⟩

end Draining

/-! ### A buffer in service -/

section Service

variable {Sample : Type*}

/-- A call. -/
inductive BufferCall (Sample : Type*) where
  | push (frame : AudioData Sample) (expectedGeneration : UInt64)
  | tryPopSamples (samplesNeeded : Int)
  | reset

/-- A buffer, with the samples it accepted and those it handed out since the last flush. -/
structure Service (Sample : Type*) where
  buffer : AudioLookaheadBuffer Sample
  accepted : List Sample
  popped : List Sample

/-- A buffer put into service. -/
def Service.start (sampleRate channels : Int) : Service Sample :=
  ⟨.fresh sampleRate channels, [], []⟩

/-- A push is recorded when the buffer admits its stamp. -/
def Service.push (s : Service Sample) (frame : AudioData Sample) (expectedGeneration : UInt64) :
    Service Sample where
  buffer := s.buffer.push frame expectedGeneration
  accepted := if s.buffer.admits expectedGeneration then s.accepted ++ frame.data else s.accepted
  popped := s.popped

/-- The counters, the offset and the queue agree: what was accepted is what was handed out and what
is held, and the counters count it. -/
structure Service.Sound (s : Service Sample) : Prop where
  conserved : s.accepted = s.popped ++ s.buffer.held
  depth : s.buffer.totalSamplesInBuffer = s.buffer.held.length
  pushed : s.buffer.totalSamplesPushed = s.accepted.length
  popped : s.buffer.totalSamplesPopped = s.popped.length

/-- A buffer put into service is sound. -/
theorem Service.Sound.start (sampleRate channels : Int) :
    (Service.start sampleRate channels : Service Sample).Sound :=
  ⟨rfl, rfl, rfl, rfl⟩

variable {s : Service Sample}

/-- Every push keeps the buffer sound. -/
theorem Service.Sound.push (sound : s.Sound) (frame : AudioData Sample)
    (expectedGeneration : UInt64) : (s.push frame expectedGeneration).Sound := by
  unfold Service.push AudioLookaheadBuffer.push AudioData.nbSamples
  by_cases empty : frame.data = []
  · rw [if_pos (by simp [empty])]
    refine ⟨?_, sound.depth, ?_, sound.popped⟩
    · simpa [empty] using sound.conserved
    · simpa [empty] using sound.pushed
  · rw [if_neg (by simpa using empty)]
    by_cases admitted : s.buffer.admits expectedGeneration = true
    · simp only [admitted, Bool.not_true, Bool.false_eq_true, if_false, if_true]
      have grown : ({ s.buffer with
          totalSamplesPushed := s.buffer.totalSamplesPushed + frame.data.length
          totalSamplesInBuffer := s.buffer.totalSamplesInBuffer + frame.data.length
          primed := true
          frames := s.buffer.frames ++ [frame] } : AudioLookaheadBuffer Sample).held =
            s.buffer.held ++ frame.data := by
        simp [AudioLookaheadBuffer.held]
      refine ⟨?_, ?_, ?_, sound.popped⟩
      · show s.accepted ++ frame.data = s.popped ++ AudioLookaheadBuffer.held _
        rw [grown, ← List.append_assoc, ← sound.conserved]
      · show s.buffer.totalSamplesInBuffer + frame.data.length =
          ((AudioLookaheadBuffer.held _).length : Int)
        rw [grown, List.length_append, sound.depth, Nat.cast_add]
      · show s.buffer.totalSamplesPushed + frame.data.length = ((s.accepted ++ frame.data).length : Int)
        rw [List.length_append, sound.pushed, Nat.cast_add]
    · have refused : s.buffer.admits expectedGeneration = false := by simpa using admitted
      simp only [refused, Bool.not_false, Bool.false_eq_true, if_true, if_false]
      exact sound

variable [Inhabited Sample]

/-- A pop is recorded when it succeeds. -/
def Service.pop (s : Service Sample) (samplesNeeded : Int) : Service Sample where
  buffer := (s.buffer.tryPopSamples samplesNeeded).1
  accepted := s.accepted
  popped := s.popped ++ ((s.buffer.tryPopSamples samplesNeeded).2.elim [] AudioData.data)

/-- One call. -/
def Service.call (s : Service Sample) : BufferCall Sample → Service Sample
  | .push frame expectedGeneration => s.push frame expectedGeneration
  | .tryPopSamples samplesNeeded => s.pop samplesNeeded
  | .reset => ⟨s.buffer.reset, [], []⟩

/-- A call as a step of a run. -/
def Service.step (s : Service Sample) (call : BufferCall Sample) : Option (Service Sample) :=
  some (s.call call)

/-- A pop of some samples that fails counts an underflow and does nothing else; it fails when fewer
are held. -/
theorem tryPopSamples_short {buffer : AudioLookaheadBuffer Sample} {samplesNeeded : Int}
    (asked : 0 < samplesNeeded) (short : buffer.totalSamplesInBuffer < samplesNeeded) :
    buffer.tryPopSamples samplesNeeded =
      ({ buffer with underflowCount := buffer.underflowCount + 1 }, none) := by
  rw [AudioLookaheadBuffer.tryPopSamples, if_neg asked.not_ge, if_pos short]

/-- A pop of some samples that are held hands out exactly those, in order, and keeps the rest. -/
theorem tryPopSamples_enough (sound : s.Sound) {samplesNeeded : Int} (asked : 0 < samplesNeeded)
    (enough : samplesNeeded ≤ s.buffer.totalSamplesInBuffer) :
    ∃ after, s.buffer.tryPopSamples samplesNeeded =
        (after, some ⟨s.buffer.held.take samplesNeeded.toNat, s.buffer.sampleRate,
          s.buffer.channels, 0⟩) ∧
      after.held = s.buffer.held.drop samplesNeeded.toNat ∧
      after.totalSamplesInBuffer = s.buffer.totalSamplesInBuffer - samplesNeeded ∧
      after.totalSamplesPushed = s.buffer.totalSamplesPushed ∧
      after.totalSamplesPopped = s.buffer.totalSamplesPopped + samplesNeeded := by
  obtain ⟨out, left, counted⟩ := drain_spec s.buffer samplesNeeded.toNat
  have size : (s.buffer.held.take samplesNeeded.toNat).length = samplesNeeded.toNat := by
    have depth := sound.depth
    rw [List.length_take]
    omega
  rw [AudioLookaheadBuffer.tryPopSamples, if_neg asked.not_ge, if_neg enough.not_gt]
  dsimp only
  rw [out, List.takeD_eq_take default size.ge, List.take_take, min_self]
  exact ⟨_, rfl, left, rfl, counted, rfl⟩

/-- Every pop keeps the buffer sound. -/
theorem Service.Sound.pop (sound : s.Sound) (samplesNeeded : Int) : (s.pop samplesNeeded).Sound := by
  unfold Service.pop
  by_cases asked : 0 < samplesNeeded
  · by_cases short : s.buffer.totalSamplesInBuffer < samplesNeeded
    · rw [tryPopSamples_short asked short]
      refine ⟨?_, sound.depth, sound.pushed, ?_⟩
      · show s.accepted = s.popped ++ [] ++ s.buffer.held
        rw [List.append_nil, sound.conserved]
      · show s.buffer.totalSamplesPopped = (s.popped ++ []).length
        rw [List.append_nil, sound.popped]
    · obtain ⟨after, popped, left, depth, pushed, counted⟩ :=
        tryPopSamples_enough sound asked (not_lt.mp short)
      have depthBefore := sound.depth
      rw [popped]
      refine ⟨?_, ?_, ?_, ?_⟩
      · show s.accepted = s.popped ++ s.buffer.held.take samplesNeeded.toNat ++ after.held
        rw [left, List.append_assoc, List.take_append_drop, sound.conserved]
      · show after.totalSamplesInBuffer = after.held.length
        rw [depth, left, List.length_drop]
        omega
      · exact pushed.trans sound.pushed
      · show after.totalSamplesPopped =
          (s.popped ++ s.buffer.held.take samplesNeeded.toNat).length
        rw [counted, sound.popped, List.length_append, List.length_take]
        push_cast
        omega
  · rw [AudioLookaheadBuffer.tryPopSamples, if_pos (not_lt.mp asked)]
    refine ⟨?_, sound.depth, sound.pushed, ?_⟩
    · simpa using sound.conserved
    · simpa using sound.popped

/-- **Every call keeps the buffer sound.** -/
theorem Service.Sound.call (sound : s.Sound) (call : BufferCall Sample) : (s.call call).Sound := by
  cases call with
  | push frame expectedGeneration => exact sound.push frame expectedGeneration
  | tryPopSamples samplesNeeded => exact sound.pop samplesNeeded
  | reset => exact ⟨rfl, rfl, rfl, rfl⟩

end Service

/-! ### What a user of the buffer is promised -/

section Promise

variable {Sample : Type*}

/-- A lossless sample queue: what was handed out is a prefix of what was accepted, and the counters
are right. -/
structure Service.Lossless (s : Service Sample) : Prop where
  inOrder : s.popped <+: s.accepted
  depth : s.buffer.totalSamplesInBuffer = s.buffer.held.length
  balance : s.buffer.totalSamplesPushed - s.buffer.totalSamplesPopped =
    s.buffer.totalSamplesInBuffer

theorem Service.Sound.lossless {s : Service Sample} (sound : s.Sound) : s.Lossless where
  inOrder := ⟨s.buffer.held, sound.conserved.symm⟩
  depth := sound.depth
  balance := by
    have sizes := congrArg List.length sound.conserved
    rw [List.length_append] at sizes
    rw [sound.pushed, sound.popped, sound.depth]
    omega

variable [Inhabited Sample]

/-- A push with a stale stamp is not accepted; a pop hands out exactly the samples asked for, or
leaves those that are held. -/
def Service.Answered (s : Service Sample) : BufferCall Sample → Prop
  | .push frame expectedGeneration =>
    expectedGeneration ≠ s.buffer.generation → s.buffer.push frame expectedGeneration = s.buffer
  | .tryPopSamples samplesNeeded => 0 < samplesNeeded →
    match (s.buffer.tryPopSamples samplesNeeded).2 with
    | some out => (out.nbSamples : Int) = samplesNeeded
    | none => (s.buffer.tryPopSamples samplesNeeded).1.held = s.buffer.held
  | .reset => True

/-- A call on a lossless queue that is answered as promised and leaves it lossless. -/
structure Service.Promised (s : Service Sample) (call : BufferCall Sample) : Prop where
  before : s.Lossless
  after : (s.call call).Lossless
  answered : s.Answered call

/-- Audio is not stamped with generation 0 once the buffer has been reset. -/
def Service.Stamped (s : Service Sample) : BufferCall Sample → Prop
  | .push frame expectedGeneration =>
    expectedGeneration = 0 → s.buffer.generation = 0 ∨ frame.data = []
  | .tryPopSamples _ => True
  | .reset => True

/-- Every pop is answered as promised. -/
theorem Service.Sound.answered_pop {s : Service Sample} (sound : s.Sound) (samplesNeeded : Int) :
    s.Answered (.tryPopSamples samplesNeeded) := by
  intro asked
  by_cases short : s.buffer.totalSamplesInBuffer < samplesNeeded
  · rw [tryPopSamples_short asked short]
    rfl
  · obtain ⟨after, popped, _⟩ := tryPopSamples_enough sound asked (not_lt.mp short)
    have depth := sound.depth
    rw [popped]
    dsimp only
    rw [AudioData.nbSamples, List.length_take]
    omega

/-- A stale push is refused exactly when it is stamped. -/
theorem answered_push_iff (s : Service Sample) (frame : AudioData Sample)
    (expectedGeneration : UInt64) :
    s.Answered (.push frame expectedGeneration) ↔ s.Stamped (.push frame expectedGeneration) := by
  unfold Service.Answered Service.Stamped AudioLookaheadBuffer.push AudioLookaheadBuffer.admits
    AudioData.nbSamples
  dsimp only
  by_cases empty : frame.data = []
  · simp [empty]
  · have some_samples : frame.data.length ≠ 0 := by simpa using empty
    rw [if_neg (by omega)]
    by_cases unstamped : expectedGeneration = 0
    · -- the check is skipped, and the counter grows
      subst unstamped
      have changed : ({ s.buffer with
          totalSamplesPushed := s.buffer.totalSamplesPushed + frame.data.length
          totalSamplesInBuffer := s.buffer.totalSamplesInBuffer + frame.data.length
          primed := true
          frames := s.buffer.frames ++ [frame] } : AudioLookaheadBuffer Sample) ≠ s.buffer := by
        intro same
        have counters := congrArg AudioLookaheadBuffer.totalSamplesPushed same
        dsimp only at counters
        omega
      simp [changed, empty, eq_comm]
    · constructor
      · intro _ zero
        exact absurd zero unstamped
      · intro _ stale
        rw [if_pos]
        simp [unstamped, stale]

/-- **The audio buffer is a lossless queue of samples** over every sequence of calls, and refuses
every stale push exactly along the sequences in which no audio is stamped with generation 0 after a
reset. -/
theorem lossless_fifo_iff (sampleRate channels : Int) (calls : List (BufferCall Sample)) :
    Along Service.step Service.Promised (.start sampleRate channels) calls ↔
      Along Service.step Service.Stamped (.start sampleRate channels) calls := by
  have kept : ∀ (s : Service Sample) (call : BufferCall Sample) (next : Service Sample),
      s.Sound → Service.step s call = some next → next.Sound := by
    intro s call next sound taken
    cases taken
    exact sound.call call
  refine (along_congr_of_invariant Service.step Service.Sound Service.Stamped Service.Promised
    (fun s call next sound _ taken => kept s call next sound taken) ?_ calls
    (Service.Sound.start sampleRate channels)).symm
  intro s call sound
  have promised : s.Promised call ↔ s.Answered call :=
    ⟨fun promise => promise.answered,
      fun answered => ⟨sound.lossless, (sound.call call).lossless, answered⟩⟩
  rw [promised]
  cases call with
  | push frame expectedGeneration => exact (answered_push_iff s frame expectedGeneration).symm
  | tryPopSamples samplesNeeded =>
    exact ⟨fun _ => sound.answered_pop samplesNeeded, fun _ => trivial⟩
  | reset => exact Iff.rfl

/-- A fill thread that starts on a fresh buffer captures generation 0. After a flush its audio is
accepted. -/
theorem lossless_fifo_stale :
    (AudioLookaheadBuffer.fresh 48000 2 : AudioLookaheadBuffer ℤ).generation = 0 ∧
      ¬ Along Service.step Service.Promised (.start 48000 2)
        [.push ⟨[1, 2], 48000, 2, 0⟩ 0, .reset, .push ⟨[3], 48000, 2, 0⟩ (0 : UInt64)] := by
  refine ⟨rfl, ?_⟩
  rintro ⟨-, later⟩
  have stale := (((later _ rfl).2 _ rfl).1.answered) (by decide)
  have counted := congrArg AudioLookaheadBuffer.totalSamplesPushed stale
  exact absurd counted (by decide)

end Promise

end Retrovue.Air.Blockplan
