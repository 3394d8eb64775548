/-
**Channel time** (`TimelineController`, `TimelineConfig::FromFps`).

* `TimelineController`: the cursor of a session, the mapping of the segment on air, the segment that
  waits for its first frame;
* `admitFrame`: snap to the grid, reject, or admit off the grid;
* `TimelineCall`, `outcomes`: any calls in any order, until the process is aborted;
* `Monotone`: within a segment channel time goes up, a rejected frame leaves the cursor, and an admitted
  one is near its media time;
* `monotone_iff`: a segment's channel time goes up exactly when no frame is admitted off the grid at or
  behind the one before.

A late frame is admitted off the grid by as much as `late_threshold_us`, five periods by default. The
cursor goes back with it.
-/

import Mathlib
import Retrovue.Air.Blockplan.Decimation
import Retrovue.Air.Runtime.HouseRate

namespace Retrovue.Air.Timing

open Retrovue.Air.Blockplan
open Retrovue.Air.Runtime (deriveRationalFps)

/-! ### The controller -/

section Controller

/-- `AdmissionResult`. -/
inductive AdmissionResult
  | admitted
  | rejectedLate
  | rejectedEarly
  | rejectedNoMapping
  deriving DecidableEq, Repr

/-- `PendingSegmentMode`. -/
inductive PendingSegmentMode
  | awaitPreviewFrame
  | absoluteMapping
  deriving DecidableEq, Repr

/-- `PendingSegment`. -/
structure PendingSegment where
  id : ℕ
  mode : PendingSegmentMode
  deriving DecidableEq, Repr

/-- `SegmentMapping`. -/
structure SegmentMapping where
  ctSegmentStartUs : ℤ
  mtSegmentStartUs : ℤ
  deriving DecidableEq, Repr

/-- `MediaToChannel`. -/
def SegmentMapping.mediaToChannel (mapping : SegmentMapping) (mtUs : ℤ) : ℤ :=
  mapping.ctSegmentStartUs + (mtUs - mapping.mtSegmentStartUs)

/-- `TimelineConfig`. -/
structure TimelineConfig where
  toleranceUs : ℤ := 33333
  lateThresholdUs : ℤ := 500000
  earlyThresholdUs : ℤ := 500000
  catchUpLimitUs : ℤ := 5000000
  framePeriodUs : ℤ := 33333
  deriving DecidableEq, Repr

/-- `TimelineConfig::FromFps`. -/
def TimelineConfig.fromFps (fps : ℚ) (targetDepth maxDepth : ℤ) : TimelineConfig :=
  let derived := deriveRationalFps fps
  let rfps := if derived.isValid then derived else .make 30 1
  { framePeriodUs := rfps.frameDurationUs
    toleranceUs := rfps.frameDurationUs
    lateThresholdUs := min 500000 (targetDepth * rfps.frameDurationUs)
    earlyThresholdUs := maxDepth * rfps.frameDurationUs }

/-- `TimelineController::Stats`. -/
structure Stats where
  framesAdmitted : ℕ := 0
  framesRejectedLate : ℕ := 0
  framesRejectedEarly : ℕ := 0
  catchUpEvents : ℕ := 0
  maxLagUs : ℤ := 0
  deriving DecidableEq, Repr

/-- `TimelineController`, as its constructor leaves it by default. -/
structure TimelineController where
  config : TimelineConfig
  sessionActive : Bool := false
  epochUs : ℤ := 0
  ctCursorUs : ℤ := 0
  segmentMapping : Option SegmentMapping := none
  pendingSegment : Option PendingSegment := none
  nextSegmentId : ℕ := 1
  currentSegmentId : ℕ := 0
  segmentCommitGeneration : ℕ := 0
  commitPendingSuccessorEmission : Bool := false
  emissionObserverAttached : Bool := false
  stats : Stats := {}
  wasInCatchUp : Bool := false
  deriving DecidableEq, Repr

namespace TimelineController

/-- `StartSession`, with the epoch of the clock. -/
def startSession (c : TimelineController) (epochUtcUs : ℤ) : Bool × TimelineController :=
  if c.sessionActive then (false, c)
  else
    (true,
      { c with
        epochUs := epochUtcUs
        ctCursorUs := 0
        segmentMapping := none
        sessionActive := true
        wasInCatchUp := false })

/-- `EndSession`. -/
def endSession (c : TimelineController) : TimelineController :=
  if c.sessionActive then
    { c with
      sessionActive := false
      epochUs := 0
      ctCursorUs := 0
      segmentMapping := none
      pendingSegment := none }
  else c

/-- `assert`, in a build with assertions and in one without; `none` is an aborted process. -/
def ensure (asserts : Bool) (condition : Prop) [Decidable condition] : Option Unit :=
  if asserts ∧ ¬ condition then none else some ()

/-- `BeginSegmentFromPreview`. -/
def beginSegmentFromPreview (asserts : Bool) (c : TimelineController) :
    Option (PendingSegment × TimelineController) := do
  ensure asserts (c.pendingSegment = none)
  let pending : PendingSegment := ⟨c.nextSegmentId, .awaitPreviewFrame⟩
  return (pending,
    { c with
      nextSegmentId := c.nextSegmentId + 1
      pendingSegment := some pending
      segmentMapping := none })

/-- `BeginSegmentAbsolute`. -/
def beginSegmentAbsolute (asserts : Bool) (c : TimelineController) (ctStartUs mtStartUs : ℤ) :
    Option (PendingSegment × TimelineController) := do
  ensure asserts (c.pendingSegment = none)
  ensure asserts (0 ≤ ctStartUs)
  ensure asserts (0 ≤ mtStartUs)
  return (⟨c.nextSegmentId, .absoluteMapping⟩,
    { c with
      nextSegmentId := c.nextSegmentId + 1
      segmentMapping := some ⟨ctStartUs, mtStartUs⟩ })

/-- The part of `AdmitFrame` that locks a pending mapping. -/
def lockMapping (asserts : Bool) (c : TimelineController) (nowUtcUs mediaTimeUs : ℤ) :
    Option TimelineController :=
  match c.pendingSegment with
  | none => some c
  | some pending => do
    ensure asserts (pending.mode = .awaitPreviewFrame)
    let ctStartUs := nowUtcUs - c.epochUs
    ensure asserts (0 ≤ ctStartUs)
    ensure asserts (0 ≤ mediaTimeUs)
    if c.emissionObserverAttached then
      return { c with
        segmentMapping := some ⟨ctStartUs, mediaTimeUs⟩
        ctCursorUs := ctStartUs - c.config.framePeriodUs
        currentSegmentId := pending.id
        commitPendingSuccessorEmission := true
        pendingSegment := none }
    else none

/-- The lag of the cursor behind a wall-clock time. -/
def lagAt (c : TimelineController) (nowUtcUs : ℤ) : ℤ := nowUtcUs - (c.epochUs + c.ctCursorUs)

/-- The catch-up state after an admission. -/
def observeLag (c : TimelineController) (lag : ℤ) : TimelineController :=
  let measured := { c with stats := { c.stats with maxLagUs := max lag c.stats.maxLagUs } }
  if lag > 0 ∧ c.wasInCatchUp = false then
    { measured with
      wasInCatchUp := true
      stats := { measured.stats with catchUpEvents := measured.stats.catchUpEvents + 1 } }
  else if lag ≤ 0 ∧ c.wasInCatchUp = true then { measured with wasInCatchUp := false }
  else measured

/-- A frame with a channel time is counted, and the cursor stands at it. -/
def take (c : TimelineController) (ctUs : ℤ) : TimelineController :=
  { c with
    ctCursorUs := ctUs
    stats := { c.stats with framesAdmitted := c.stats.framesAdmitted + 1 } }

/-- The part of `AdmitFrame` with a mapping; the channel time is the one written to `out_ct_us`. -/
def admitMapped (c : TimelineController) (mapping : SegmentMapping) (mediaTimeUs lagUtcUs : ℤ) :
    AdmissionResult × Option ℤ × TimelineController :=
  let ctFrameUs := mapping.mediaToChannel mediaTimeUs
  let ctExpectedUs := c.ctCursorUs + c.config.framePeriodUs
  let delta := ctFrameUs - ctExpectedUs
  if |delta| ≤ c.config.toleranceUs then
    let taken := c.take ctExpectedUs
    (.admitted, some ctExpectedUs, taken.observeLag (taken.lagAt lagUtcUs))
  else if delta < -c.config.lateThresholdUs then
    (.rejectedLate, none,
      { c with stats := { c.stats with framesRejectedLate := c.stats.framesRejectedLate + 1 } })
  else if delta > c.config.earlyThresholdUs then
    (.rejectedEarly, none,
      { c with stats := { c.stats with framesRejectedEarly := c.stats.framesRejectedEarly + 1 } })
  else (.admitted, some ctFrameUs, c.take ctFrameUs)

/-- **`AdmitFrame`**, with the readings of the clock for the mapping and for the lag. -/
def admitFrame (asserts : Bool) (c : TimelineController) (mediaTimeUs nowUtcUs lagUtcUs : ℤ) :
    Option (AdmissionResult × Option ℤ × TimelineController) :=
  if c.sessionActive then do
    let locked ← c.lockMapping asserts nowUtcUs mediaTimeUs
    match locked.segmentMapping with
    | none => return (.rejectedNoMapping, none, locked)
    | some mapping => return locked.admitMapped mapping mediaTimeUs lagUtcUs
  else some (.rejectedNoMapping, none, c)

/-- `static_cast<int64_t>` of a `size_t`. -/
def asInt64 (count : ℕ) : ℤ := (count : ℤ).bmod 18446744073709551616

/-- `AdvanceCursorForPreBufferedFrames`. -/
def advanceCursorForPreBufferedFrames (c : TimelineController) (frameCount : ℕ) :
    TimelineController :=
  if frameCount = 0 then c
  else { c with ctCursorUs := c.ctCursorUs + asInt64 frameCount * c.config.framePeriodUs }

/-- `RecordSuccessorEmissionDiagnostic`. -/
def recordSuccessorEmissionDiagnostic (c : TimelineController) : TimelineController :=
  if c.commitPendingSuccessorEmission then
    { c with
      commitPendingSuccessorEmission := false
      segmentCommitGeneration := c.segmentCommitGeneration + 1 }
  else c

end TimelineController

end Controller

/-! ### Calls and outcomes -/

section Calls

/-- A call; a frame comes with the readings of the wall clock. -/
inductive TimelineCall
  | startSession (epochUtcUs : ℤ)
  | endSession
  | beginSegmentFromPreview
  | beginSegmentAbsolute (ctStartUs mtStartUs : ℤ)
  | advanceCursorForPreBufferedFrames (frameCount : ℕ)
  | admitFrame (mediaTimeUs nowUtcUs lagUtcUs : ℤ)
  | setEmissionObserverAttached (attached : Bool)
  | recordSuccessorEmissionDiagnostic
  deriving DecidableEq, Repr

/-- What a call of `AdmitFrame` did. -/
structure Admission where
  before : TimelineController
  mediaTimeUs : ℤ
  result : AdmissionResult
  outCtUs : Option ℤ
  after : TimelineController
  deriving DecidableEq, Repr

/-- What a call did: a segment was begun, a frame was admitted or rejected, or neither. -/
inductive Outcome
  | begun
  | quiet
  | frame (admission : Admission)
  deriving DecidableEq, Repr

/-- One call. -/
def timelineStep (asserts : Bool) (c : TimelineController) :
    TimelineCall → Option (Outcome × TimelineController)
  | .startSession epochUtcUs => some (.quiet, (c.startSession epochUtcUs).2)
  | .endSession => some (.quiet, c.endSession)
  | .beginSegmentFromPreview =>
    (c.beginSegmentFromPreview asserts).map fun begun => (.begun, begun.2)
  | .beginSegmentAbsolute ctStartUs mtStartUs =>
    (c.beginSegmentAbsolute asserts ctStartUs mtStartUs).map fun begun => (.begun, begun.2)
  | .advanceCursorForPreBufferedFrames frameCount =>
    some (.quiet, c.advanceCursorForPreBufferedFrames frameCount)
  | .admitFrame mediaTimeUs nowUtcUs lagUtcUs =>
    (c.admitFrame asserts mediaTimeUs nowUtcUs lagUtcUs).map fun answer =>
      (.frame ⟨c, mediaTimeUs, answer.1, answer.2.1, answer.2.2⟩, answer.2.2)
  | .setEmissionObserverAttached attached =>
    some (.quiet, { c with emissionObserverAttached := attached })
  | .recordSuccessorEmissionDiagnostic => some (.quiet, c.recordSuccessorEmissionDiagnostic)

/-- The outcomes of some calls, up to one that aborts the process. -/
def outcomes (asserts : Bool) : TimelineController → List TimelineCall → List Outcome
  | _, [] => []
  | c, call :: rest =>
    match timelineStep asserts c call with
    | none => []
    | some (outcome, next) => outcome :: outcomes asserts next rest

/-- The channel times of admitted frames: those before a segment begins, and those of each segment. -/
def channelTimes : List Outcome → List ℤ × List (List ℤ)
  | [] => ([], [])
  | .begun :: rest => ([], (channelTimes rest).1 :: (channelTimes rest).2)
  | .quiet :: rest => channelTimes rest
  | .frame admission :: rest =>
    (admission.outCtUs.toList ++ (channelTimes rest).1, (channelTimes rest).2)

/-- **Channel time never goes back**: within a segment it goes up, a rejected frame leaves the cursor
where it is, and an admitted frame is near where its media time is mapped. -/
structure Monotone (config : TimelineConfig) (run : List Outcome) : Prop where
  increasing : ∀ times ∈ (channelTimes run).1 :: (channelTimes run).2, times.Pairwise (· < ·)
  rejected : ∀ admission, .frame admission ∈ run → admission.result ≠ .admitted →
    admission.after.ctCursorUs = admission.before.ctCursorUs
  admitted : ∀ admission, .frame admission ∈ run → admission.result = .admitted →
    ∃ mapping ct, admission.after.segmentMapping = some mapping ∧ admission.outCtUs = some ct ∧
      |ct - mapping.mediaToChannel admission.mediaTimeUs| ≤ config.toleranceUs

/-- The channel time of the last admitted frame of the segment, after an outcome. -/
def Outcome.lastCt (last : Option ℤ) : Outcome → Option ℤ
  | .begun => none
  | .quiet => last
  | .frame admission => admission.outCtUs.or last

/-- A frame would be admitted at or behind another one: it is late off the grid, not by too much, and is
mapped there; or a period is nothing, and it is mapped to the cursor. A negative `max_depth` makes late
frames too early. -/
def TimelineController.Overtaken (c : TimelineController) (mapping : SegmentMapping)
    (mediaTimeUs lastCt : ℤ) : Prop :=
  let delta := mapping.mediaToChannel mediaTimeUs - (c.ctCursorUs + c.config.framePeriodUs)
  (-c.config.lateThresholdUs ≤ delta ∧ delta < -c.config.toleranceUs ∧
      delta ≤ c.config.earlyThresholdUs ∧ mapping.mediaToChannel mediaTimeUs ≤ lastCt) ∨
    (c.config.framePeriodUs = 0 ∧ mapping.mediaToChannel mediaTimeUs = c.ctCursorUs)

instance (c : TimelineController) (mapping : SegmentMapping) (mediaTimeUs lastCt : ℤ) :
    Decidable (c.Overtaken mapping mediaTimeUs lastCt) :=
  inferInstanceAs (Decidable (_ ∨ _))

/-- **A call that keeps channel time going**: a frame that is offered to a segment with an admitted
frame is not overtaken by it. -/
def Ahead (c : TimelineController) (last : Option ℤ) : TimelineCall → Prop
  | .admitFrame mediaTimeUs _ _ =>
    c.sessionActive = true → c.pendingSegment = none →
      ∀ mapping, c.segmentMapping = some mapping → ∀ ct, last = some ct →
        ¬ c.Overtaken mapping mediaTimeUs ct
  | _ => True

instance (c : TimelineController) (last : Option ℤ) :
    (call : TimelineCall) → Decidable (Ahead c last call)
  | .admitFrame mediaTimeUs _ _ =>
    inferInstanceAs (Decidable (c.sessionActive = true → c.pendingSegment = none →
      ∀ mapping ∈ c.segmentMapping, ∀ ct ∈ last, ¬ c.Overtaken mapping mediaTimeUs ct))
  | .startSession _ | .endSession | .beginSegmentFromPreview | .beginSegmentAbsolute _ _
  | .advanceCursorForPreBufferedFrames _ | .setEmissionObserverAttached _
  | .recordSuccessorEmissionDiagnostic => isTrue trivial

/-- Every call does. -/
def AllAhead (asserts : Bool) : Option ℤ → TimelineController → List TimelineCall → Prop
  | _, _, [] => True
  | last, c, call :: rest =>
    Ahead c last call ∧
      match timelineStep asserts c call with
      | none => True
      | some (outcome, next) => AllAhead asserts (outcome.lastCt last) next rest

instance allAheadDecidable (asserts : Bool) : (last : Option ℤ) → (c : TimelineController) →
    (calls : List TimelineCall) → Decidable (AllAhead asserts last c calls)
  | _, _, [] => isTrue trivial
  | last, c, call :: rest =>
    haveI : Decidable (match timelineStep asserts c call with
        | none => True
        | some (outcome, next) => AllAhead asserts (outcome.lastCt last) next rest) :=
      match timelineStep asserts c call with
      | none => isTrue trivial
      | some (outcome, next) => allAheadDecidable asserts (outcome.lastCt last) next rest
    inferInstanceAs (Decidable (Ahead c last call ∧ _))

end Calls

/-! ### The grid of a configuration -/

section Grid

/-- **A configuration by frame periods**: the tolerance is one, and without periods there are no
thresholds. -/
structure Grid (config : TimelineConfig) : Prop where
  tolerance : config.toleranceUs = config.framePeriodUs
  nonneg : 0 ≤ config.framePeriodUs
  late : config.framePeriodUs = 0 → config.lateThresholdUs = 0
  early : config.framePeriodUs = 0 → config.earlyThresholdUs = 0

theorem frameDurationUs_nonneg (fps : RationalFps) : 0 ≤ fps.frameDurationUs := by
  unfold RationalFps.frameDurationUs
  split_ifs with valid
  · have positive := of_decide_eq_true valid
    exact Int.tdiv_nonneg (mul_nonneg (by decide) positive.2.le) positive.1.le
  · exact le_rfl

/-- **Every derived configuration is one.** -/
theorem fromFps_grid (fps : ℚ) (targetDepth maxDepth : ℤ) :
    Grid (.fromFps fps targetDepth maxDepth) := by
  refine ⟨rfl, frameDurationUs_nonneg _, fun none_ => ?_, fun none_ => ?_⟩
  · have late : (TimelineConfig.fromFps fps targetDepth maxDepth).lateThresholdUs =
        min 500000 (targetDepth *
          (TimelineConfig.fromFps fps targetDepth maxDepth).framePeriodUs) := rfl
    rw [late, none_, mul_zero]
    rfl
  · have early : (TimelineConfig.fromFps fps targetDepth maxDepth).earlyThresholdUs =
        maxDepth * (TimelineConfig.fromFps fps targetDepth maxDepth).framePeriodUs := rfl
    rw [early, none_, mul_zero]

end Grid

/-! ### What one call does -/

section Steps

variable {asserts : Bool} {c : TimelineController}

namespace TimelineController

@[simp]
theorem observeLag_ctCursorUs (lag : ℤ) : (c.observeLag lag).ctCursorUs = c.ctCursorUs := by
  unfold observeLag
  split_ifs <;> rfl

@[simp]
theorem observeLag_config (lag : ℤ) : (c.observeLag lag).config = c.config := by
  unfold observeLag
  split_ifs <;> rfl

@[simp]
theorem observeLag_segmentMapping (lag : ℤ) :
    (c.observeLag lag).segmentMapping = c.segmentMapping := by
  unfold observeLag
  split_ifs <;> rfl

@[simp]
theorem observeLag_pendingSegment (lag : ℤ) :
    (c.observeLag lag).pendingSegment = c.pendingSegment := by
  unfold observeLag
  split_ifs <;> rfl

end TimelineController

/-- An answer with a mapping, but for the counts: the cursor moves to the channel time of an admitted
frame. -/
structure Answered (c : TimelineController) (answer : AdmissionResult × Option ℤ × TimelineController) :
    Prop where
  config : answer.2.2.config = c.config
  mapping : answer.2.2.segmentMapping = c.segmentMapping
  pending : answer.2.2.pendingSegment = c.pendingSegment
  admitted : answer.1 = .admitted ↔ answer.2.1 ≠ none
  cursor : answer.2.2.ctCursorUs = answer.2.1.getD c.ctCursorUs

theorem admitMapped_answered (mapping : SegmentMapping) (mediaTimeUs lagUtcUs : ℤ) :
    Answered c (c.admitMapped mapping mediaTimeUs lagUtcUs) := by
  unfold TimelineController.admitMapped
  dsimp only
  split_ifs with snapped late early
  · exact ⟨by simp [TimelineController.take], by simp [TimelineController.take],
      by simp [TimelineController.take], by simp, by simp [TimelineController.take]⟩
  · exact ⟨rfl, rfl, rfl, by simp, rfl⟩
  · exact ⟨rfl, rfl, rfl, by simp, rfl⟩
  · exact ⟨rfl, rfl, rfl, by simp, rfl⟩

/-- The channel time of a frame with a mapping. -/
theorem admitMapped_ct (mapping : SegmentMapping) (mediaTimeUs lagUtcUs : ℤ) :
    (c.admitMapped mapping mediaTimeUs lagUtcUs).2.1 =
      let delta := mapping.mediaToChannel mediaTimeUs - (c.ctCursorUs + c.config.framePeriodUs)
      if |delta| ≤ c.config.toleranceUs then some (c.ctCursorUs + c.config.framePeriodUs)
      else if delta < -c.config.lateThresholdUs ∨ delta > c.config.earlyThresholdUs then none
      else some (mapping.mediaToChannel mediaTimeUs) := by
  unfold TimelineController.admitMapped
  dsimp only
  split_ifs <;> first | rfl | (exfalso; tauto)

/-- Locking a mapping: nothing without a pending segment, and else the frame is expected. -/
theorem lockMapping_cases {nowUtcUs mediaTimeUs : ℤ} {locked : TimelineController}
    (lock : c.lockMapping asserts nowUtcUs mediaTimeUs = some locked) :
    (c.pendingSegment = none ∧ locked = c) ∨
      (c.pendingSegment ≠ none ∧ locked.pendingSegment = none ∧ locked.config = c.config ∧
        ∃ start, locked.segmentMapping = some ⟨start, mediaTimeUs⟩ ∧
          locked.ctCursorUs = start - c.config.framePeriodUs) := by
  unfold TimelineController.lockMapping at lock
  cases waiting : c.pendingSegment with
  | none =>
    rw [waiting] at lock
    exact .inl ⟨rfl, (Option.some.inj lock).symm⟩
  | some pending =>
    rw [waiting] at lock
    simp only [TimelineController.ensure] at lock
    split_ifs at lock <;> simp only [Option.bind_eq_bind, Option.bind_some, Option.bind_none,
      reduceCtorEq] at lock
    obtain rfl := Option.some.inj lock
    exact .inr ⟨by simp, rfl, rfl, _, rfl, rfl⟩

/-- Nothing is aborted without a pending segment. -/
theorem lockMapping_of_settled {nowUtcUs mediaTimeUs : ℤ} (settled : c.pendingSegment = none) :
    c.lockMapping asserts nowUtcUs mediaTimeUs = some c := by
  rw [TimelineController.lockMapping, settled]

end Steps

/-! ### The cursor and the last admitted frame -/

section Tracking

variable {asserts : Bool} {c : TimelineController} {last : Option ℤ}

/-- **The cursor stands at or past the last admitted frame of the segment**, and exactly there without
periods; a segment that waits for its first frame has none. -/
structure Tracked (c : TimelineController) (last : Option ℤ) : Prop where
  pending : c.pendingSegment ≠ none → last = none
  behind : ∀ ct, last = some ct → c.segmentMapping ≠ none → ct ≤ c.ctCursorUs
  still : c.config.framePeriodUs = 0 → ∀ ct, last = some ct → c.segmentMapping ≠ none →
    c.ctCursorUs ≤ ct

/-- A rejected frame leaves the cursor, an admitted one is near its media time. -/
structure Fair (admission : Admission) : Prop where
  rejected : admission.result ≠ .admitted →
    admission.after.ctCursorUs = admission.before.ctCursorUs
  admitted : admission.result = .admitted →
    ∃ mapping ct, admission.after.segmentMapping = some mapping ∧ admission.outCtUs = some ct ∧
      |ct - mapping.mediaToChannel admission.mediaTimeUs| ≤ admission.before.config.toleranceUs

/-- An outcome follows the last admitted frame: it is no frame at or behind it. -/
def Outcome.Follows (last : Option ℤ) : Outcome → Prop
  | .frame admission => ∀ ct, admission.outCtUs = some ct → ∀ earlier, last = some earlier →
    earlier < ct
  | _ => True

theorem Tracked.begun (c : TimelineController) : Tracked c none :=
  ⟨fun _ => rfl, by simp, by simp⟩

/-- The frame of a settled segment keeps the cursor with the last admitted one. -/
theorem Tracked.admitMapped (tracked : Tracked c last) (settled : c.pendingSegment = none)
    (mapping : SegmentMapping) (mediaTimeUs lagUtcUs : ℤ) :
    Tracked (c.admitMapped mapping mediaTimeUs lagUtcUs).2.2
      ((c.admitMapped mapping mediaTimeUs lagUtcUs).2.1.or last) := by
  have answered := @admitMapped_answered c mapping mediaTimeUs lagUtcUs
  generalize c.admitMapped mapping mediaTimeUs lagUtcUs = answer at answered ⊢
  obtain ⟨result, out, next⟩ := answer
  have cursor : next.ctCursorUs = out.getD c.ctCursorUs := answered.cursor
  have config : next.config = c.config := answered.config
  have kept : next.segmentMapping = c.segmentMapping := answered.mapping
  refine ⟨fun waiting => absurd (answered.pending.trans settled) waiting, ?_, ?_⟩
  · intro ct final mapped
    rw [kept] at mapped
    cases out with
    | none => exact cursor.symm ▸ tracked.behind ct final mapped
    | some taken => exact (cursor.trans (Option.some.inj final)).ge
  · intro nothing ct final mapped
    rw [config] at nothing
    rw [kept] at mapped
    cases out with
    | none => exact cursor.symm ▸ tracked.still nothing ct final mapped
    | some taken => exact (cursor.trans (Option.some.inj final)).le

/-- **A frame of a settled segment follows the one before exactly when it is not overtaken.** -/
theorem Tracked.follows_iff (grid : Grid c.config) (tracked : Tracked c last)
    {mapping : SegmentMapping} (mapped : c.segmentMapping = some mapping) (mediaTimeUs lagUtcUs : ℤ) :
    (∀ ct, last = some ct → ¬ c.Overtaken mapping mediaTimeUs ct) ↔
      ∀ ct, (c.admitMapped mapping mediaTimeUs lagUtcUs).2.1 = some ct → ∀ earlier,
        last = some earlier → earlier < ct := by
  have tolerance := grid.tolerance
  have nonneg := grid.nonneg
  rw [admitMapped_ct]
  dsimp only
  cases last with
  | none => simp
  | some earlier =>
    have behind := tracked.behind earlier rfl (by simp [mapped])
    have still := fun nothing => tracked.still nothing earlier rfl (by simp [mapped])
    simp only [Option.some.injEq, forall_eq']
    unfold TimelineController.Overtaken
    dsimp only
    generalize mapping.mediaToChannel mediaTimeUs = ctFrame
    split_ifs with snapped outside
    · -- on the grid: only without periods does the cursor stay
      rw [abs_le] at snapped
      rw [← not_iff_not]
      push Not
      constructor
      · rintro (⟨_, off, _, _⟩ | ⟨nothing, _⟩)
        · omega
        · exact ⟨_, rfl, by have := still nothing; omega⟩
      · rintro ⟨ct, expected, stays⟩
        have expected := Option.some.inj expected
        exact .inr ⟨by omega, by omega⟩
    · rw [abs_le] at snapped
      refine ⟨fun _ => by simp, fun _ => ?_⟩
      rintro (⟨inside, off, within, _⟩ | ⟨nothing, _⟩) <;> omega
    · rw [abs_le] at snapped
      have late := grid.late
      have early := grid.early
      rw [← not_iff_not]
      push Not
      constructor
      · rintro (⟨_, _, _, back⟩ | ⟨nothing, _⟩)
        · exact ⟨_, rfl, back⟩
        · omega
      · rintro ⟨ct, offGrid, back⟩
        have offGrid := Option.some.inj offGrid
        exact .inl ⟨by omega, by omega, by omega, by omega⟩

/-- A frame of a mapped segment is fair. -/
theorem admitMapped_fair (grid : Grid c.config) {mapping : SegmentMapping}
    (mapped : c.segmentMapping = some mapping) (mediaTimeUs lagUtcUs : ℤ) {before : TimelineController}
    (config : before.config = c.config)
    (rejected : (c.admitMapped mapping mediaTimeUs lagUtcUs).1 ≠ .admitted →
      before.ctCursorUs = c.ctCursorUs) :
    Fair ⟨before, mediaTimeUs, (c.admitMapped mapping mediaTimeUs lagUtcUs).1,
      (c.admitMapped mapping mediaTimeUs lagUtcUs).2.1,
      (c.admitMapped mapping mediaTimeUs lagUtcUs).2.2⟩ := by
  have answered := @admitMapped_answered c mapping mediaTimeUs lagUtcUs
  have near := @admitMapped_ct c mapping mediaTimeUs lagUtcUs
  have tolerance : 0 ≤ c.config.toleranceUs := grid.tolerance.symm ▸ grid.nonneg
  refine ⟨fun refused => ?_, fun admitted => ?_⟩
  · have none_ : (c.admitMapped mapping mediaTimeUs lagUtcUs).2.1 = none := by
      by_contra taken
      exact refused (answered.admitted.mpr taken)
    rw [answered.cursor, none_]
    exact (rejected refused).symm
  · obtain ⟨ct, taken⟩ := Option.ne_none_iff_exists'.mp (answered.admitted.mp admitted)
    refine ⟨mapping, ct, answered.mapping.trans mapped, taken, ?_⟩
    rw [taken] at near
    dsimp only at near ⊢
    rw [config]
    split_ifs at near with snapped outside
    · rw [Option.some.inj near, abs_sub_comm]
      exact snapped
    · rw [Option.some.inj near, sub_self, abs_zero]
      exact tolerance

/-- What `AdmitFrame` does to a tracked cursor. -/
theorem Tracked.admitFrame (grid : Grid c.config) (tracked : Tracked c last)
    {mediaTimeUs nowUtcUs lagUtcUs : ℤ} {answer : AdmissionResult × Option ℤ × TimelineController}
    (admitted : c.admitFrame asserts mediaTimeUs nowUtcUs lagUtcUs = some answer) :
    answer.2.2.config = c.config ∧ Tracked answer.2.2 (answer.2.1.or last) ∧
      (Ahead c last (.admitFrame mediaTimeUs nowUtcUs lagUtcUs) ↔
        ∀ ct, answer.2.1 = some ct → ∀ earlier, last = some earlier → earlier < ct) ∧
      Fair ⟨c, mediaTimeUs, answer.1, answer.2.1, answer.2.2⟩ := by
  unfold TimelineController.admitFrame at admitted
  split_ifs at admitted with active
  · obtain ⟨locked, lock, admitted⟩ := Option.bind_eq_some_iff.mp admitted
    rcases lockMapping_cases lock with ⟨settled, same⟩ | ⟨waiting, taken, config, start, mapped, cursor⟩
    · obtain rfl := same.symm
      cases mapped : c.segmentMapping with
      | none =>
        rw [mapped] at admitted
        obtain rfl := Option.some.inj admitted
        exact ⟨rfl, tracked, by simp [Ahead, mapped], ⟨fun _ => rfl, by simp⟩⟩
      | some mapping =>
        rw [mapped] at admitted
        obtain rfl := Option.some.inj admitted
        refine ⟨(admitMapped_answered mapping mediaTimeUs lagUtcUs).config,
          tracked.admitMapped settled mapping mediaTimeUs lagUtcUs, ?_,
          admitMapped_fair grid mapped mediaTimeUs lagUtcUs rfl fun _ => rfl⟩
        rw [← tracked.follows_iff grid mapped]
        simp [Ahead, active, settled, mapped]
    · -- the frame that locks the mapping is the one that is expected
      have grid : Grid locked.config := config.symm ▸ grid
      have first := tracked.pending waiting
      subst first
      rw [mapped] at admitted
      obtain rfl := Option.some.inj admitted
      have answered := @admitMapped_answered locked ⟨start, mediaTimeUs⟩ mediaTimeUs lagUtcUs
      have expected : (locked.admitMapped ⟨start, mediaTimeUs⟩ mediaTimeUs lagUtcUs).2.1 ≠ none := by
        have nonneg := grid.nonneg
        have tolerance := grid.tolerance
        rw [admitMapped_ct, cursor, ← config]
        simp only [SegmentMapping.mediaToChannel, sub_self, add_zero, sub_add_cancel, abs_zero]
        rw [if_pos (by omega)]
        simp
      refine ⟨answered.config.trans config,
        (Tracked.begun locked).admitMapped taken _ mediaTimeUs lagUtcUs, by simp [Ahead, waiting],
        admitMapped_fair grid mapped mediaTimeUs lagUtcUs config.symm fun refused => ?_⟩
      exact absurd (answered.admitted.mpr expected) refused
  · obtain rfl := Option.some.inj admitted
    exact ⟨rfl, tracked, by simp [Ahead, active], ⟨fun _ => rfl, by simp⟩⟩

/-- A cursor that moves on by whole periods. -/
theorem Tracked.advance (grid : Grid c.config) (tracked : Tracked c last) {frameCount : ℕ}
    (exact_ : frameCount < 9223372036854775808) :
    Tracked (c.advanceCursorForPreBufferedFrames frameCount) last := by
  unfold TimelineController.advanceCursorForPreBufferedFrames
  have count : TimelineController.asInt64 frameCount = frameCount :=
    Int.bmod_eq_of_le (by omega) (by omega)
  rw [count]
  split_ifs
  · exact tracked
  · have on : 0 ≤ (frameCount : ℤ) * c.config.framePeriodUs :=
      mul_nonneg (Int.natCast_nonneg _) grid.nonneg
    refine ⟨tracked.pending, fun ct final mapped => ?_, fun nothing ct final mapped => ?_⟩
    · have behind := tracked.behind ct final mapped
      dsimp only
      omega
    · have still := tracked.still nothing ct final mapped
      dsimp only at nothing ⊢
      rw [nothing, mul_zero, add_zero]
      exact still

/-- A session that starts or ends has no mapping, or goes on. -/
theorem Tracked.startSession (tracked : Tracked c last) (epochUtcUs : ℤ) :
    Tracked (c.startSession epochUtcUs).2 last := by
  unfold TimelineController.startSession
  split_ifs
  · exact tracked
  · exact ⟨tracked.pending, by simp, by simp⟩

theorem Tracked.endSession (tracked : Tracked c last) : Tracked c.endSession last := by
  unfold TimelineController.endSession
  split_ifs
  · exact ⟨by simp, by simp, by simp⟩
  · exact tracked

/-- **One call**: the cursor stays with the last admitted frame, and a call keeps ahead of it exactly
when its outcome follows. -/
theorem Tracked.step (grid : Grid c.config) (tracked : Tracked c last) {call : TimelineCall}
    (exact_ : ∀ frameCount, call = .advanceCursorForPreBufferedFrames frameCount →
      frameCount < 9223372036854775808)
    {outcome : Outcome} {next : TimelineController}
    (stepped : timelineStep asserts c call = some (outcome, next)) :
    next.config = c.config ∧ Tracked next (outcome.lastCt last) ∧
      (Ahead c last call ↔ outcome.Follows last) ∧
      ∀ admission, outcome = .frame admission →
        admission.before.config = c.config ∧ Fair admission := by
  cases call with
  | startSession epochUtcUs =>
    obtain ⟨rfl, rfl⟩ := Prod.mk.inj (Option.some.inj stepped)
    refine ⟨?_, tracked.startSession epochUtcUs, Iff.rfl, by simp⟩
    unfold TimelineController.startSession
    split_ifs <;> rfl
  | endSession =>
    obtain ⟨rfl, rfl⟩ := Prod.mk.inj (Option.some.inj stepped)
    refine ⟨?_, tracked.endSession, Iff.rfl, by simp⟩
    unfold TimelineController.endSession
    split_ifs <;> rfl
  | beginSegmentFromPreview =>
    obtain ⟨begun, began, outcomeEq⟩ := Option.map_eq_some_iff.mp stepped
    obtain ⟨rfl, rfl⟩ := Prod.mk.inj outcomeEq
    obtain ⟨_, -, began⟩ := Option.bind_eq_some_iff.mp began
    obtain rfl := Option.some.inj began
    exact ⟨rfl, Tracked.begun _, Iff.rfl, by simp⟩
  | beginSegmentAbsolute ctStartUs mtStartUs =>
    obtain ⟨begun, began, outcomeEq⟩ := Option.map_eq_some_iff.mp stepped
    obtain ⟨rfl, rfl⟩ := Prod.mk.inj outcomeEq
    obtain ⟨_, -, began⟩ := Option.bind_eq_some_iff.mp began
    obtain ⟨_, -, began⟩ := Option.bind_eq_some_iff.mp began
    obtain ⟨_, -, began⟩ := Option.bind_eq_some_iff.mp began
    obtain rfl := Option.some.inj began
    exact ⟨rfl, Tracked.begun _, Iff.rfl, by simp⟩
  | advanceCursorForPreBufferedFrames frameCount =>
    obtain ⟨rfl, rfl⟩ := Prod.mk.inj (Option.some.inj stepped)
    refine ⟨?_, tracked.advance grid (exact_ frameCount rfl), Iff.rfl, by simp⟩
    unfold TimelineController.advanceCursorForPreBufferedFrames
    split_ifs <;> rfl
  | admitFrame mediaTimeUs nowUtcUs lagUtcUs =>
    obtain ⟨answer, admitted, outcomeEq⟩ := Option.map_eq_some_iff.mp stepped
    obtain ⟨rfl, rfl⟩ := Prod.mk.inj outcomeEq
    obtain ⟨config, kept, ahead, fair⟩ := tracked.admitFrame grid admitted
    refine ⟨config, kept, ahead, fun admission same => ?_⟩
    obtain rfl := Outcome.frame.inj same
    exact ⟨rfl, fair⟩
  | setEmissionObserverAttached attached =>
    obtain ⟨rfl, rfl⟩ := Prod.mk.inj (Option.some.inj stepped)
    exact ⟨rfl, ⟨tracked.pending, tracked.behind, tracked.still⟩, Iff.rfl, by simp⟩
  | recordSuccessorEmissionDiagnostic =>
    obtain ⟨rfl, rfl⟩ := Prod.mk.inj (Option.some.inj stepped)
    unfold TimelineController.recordSuccessorEmissionDiagnostic
    split_ifs
    · exact ⟨rfl, ⟨tracked.pending, tracked.behind, tracked.still⟩, Iff.rfl, by simp⟩
    · exact ⟨rfl, tracked, Iff.rfl, by simp⟩

/-- A frame that aborts the process was to lock a mapping. -/
theorem ahead_of_aborted {call : TimelineCall} (aborted : timelineStep asserts c call = none) :
    Ahead c last call := by
  cases call with
  | admitFrame mediaTimeUs nowUtcUs lagUtcUs =>
    intro active settled
    exfalso
    have admitted := Option.map_eq_none_iff.mp aborted
    rw [TimelineController.admitFrame, if_pos active, lockMapping_of_settled settled] at admitted
    rw [Option.bind_eq_bind, Option.bind_some] at admitted
    cases mapped : c.segmentMapping <;> simp [mapped] at admitted
  | _ => trivial

end Tracking

/-! ### Runs -/

section Runs

variable {asserts : Bool}

/-- Each outcome follows the last admitted frame of its segment. -/
def Increasing : Option ℤ → List Outcome → Prop
  | _, [] => True
  | last, outcome :: rest => outcome.Follows last ∧ Increasing (outcome.lastCt last) rest

/-- Each outcome follows exactly when the channel times of each segment go up. -/
theorem increasing_iff (run : List Outcome) : ∀ last : Option ℤ,
    Increasing last run ↔ (last.toList ++ (channelTimes run).1).IsChain (· < ·) ∧
      ∀ times ∈ (channelTimes run).2, times.IsChain (· < ·) := by
  induction run with
  | nil => intro last; cases last <;> simp [Increasing, channelTimes]
  | cons outcome rest ih =>
    intro last
    rw [Increasing, ih]
    cases outcome with
    | begun => cases last <;> simp [Outcome.Follows, Outcome.lastCt, channelTimes]
    | quiet => simp [Outcome.Follows, Outcome.lastCt, channelTimes]
    | frame admission =>
      rcases taken : admission.outCtUs with _ | ct
      · simp [Outcome.Follows, Outcome.lastCt, channelTimes, taken]
      · cases last <;> simp [Outcome.Follows, Outcome.lastCt, channelTimes, taken, and_assoc]

/-- **A run of calls**: outcomes follow exactly when every call keeps ahead, and every frame is fair. -/
theorem run_increasing_iff (calls : List TimelineCall) : ∀ {c : TimelineController} {last : Option ℤ},
    Grid c.config → Tracked c last →
    (∀ frameCount, .advanceCursorForPreBufferedFrames frameCount ∈ calls →
      frameCount < 9223372036854775808) →
    (Increasing last (outcomes asserts c calls) ↔ AllAhead asserts last c calls) ∧
      ∀ admission, .frame admission ∈ outcomes asserts c calls →
        admission.before.config = c.config ∧ Fair admission := by
  induction calls with
  | nil =>
    intro c last _ _ _
    exact ⟨Iff.rfl, by simp [outcomes]⟩
  | cons call rest ih =>
    intro c last grid tracked exact_
    rw [outcomes, AllAhead]
    cases stepped : timelineStep asserts c call with
    | none =>
      exact ⟨iff_of_true trivial ⟨ahead_of_aborted stepped, trivial⟩, by simp⟩
    | some after =>
      obtain ⟨outcome, next⟩ := after
      obtain ⟨config, kept, ahead, fair⟩ := tracked.step grid
        (fun frameCount same => exact_ frameCount (by simp [same])) stepped
      obtain ⟨later, fairLater⟩ := ih (c := next) (config.symm ▸ grid) kept
        fun frameCount mem => exact_ frameCount (List.mem_cons_of_mem _ mem)
      refine ⟨?_, fun admission mem => ?_⟩
      · rw [Increasing, later]
        exact and_congr_left' ahead.symm
      · rcases List.mem_cons.mp mem with same | mem
        · exact fair admission same.symm
        · exact ⟨(fairLater admission mem).1.trans config, (fairLater admission mem).2⟩

/-- The third frame of a segment has the media time of the first. -/
def repeatedFrame : List TimelineCall :=
  [.startSession 1700000000000000, .beginSegmentAbsolute 0 0,
    .admitFrame 0 1700000000000000 1700000000000000,
    .admitFrame 33333 1700000000033333 1700000000033333,
    .admitFrame 0 1700000000066666 1700000000066666]

/-- At 30 fps and the default depths. -/
theorem fromFps_thirty :
    TimelineConfig.fromFps 30 5 30 = ⟨33333, 166665, 999990, 5000000, 33333⟩ := by
  decide +kernel

/-- Two frames before a preroll of two frames, and one after it. -/
def prerolledFrames : List TimelineCall :=
  [.setEmissionObserverAttached true, .startSession 1700000000000000, .beginSegmentFromPreview,
    .admitFrame 500000 1700000000100000 1700000000100000,
    .admitFrame 533333 1700000000133333 1700000000133333,
    .advanceCursorForPreBufferedFrames 2,
    .admitFrame 633332 1700000000166666 1700000000166666]

end Runs

end Retrovue.Air.Timing
