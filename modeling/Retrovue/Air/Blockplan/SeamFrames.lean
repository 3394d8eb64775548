/-
**Seam frames of the tick loop** (`PipelineManager.cpp`): when the next segment seam or block fence
is due.

* `Seams`: the seam fields of `PipelineManager`;
* `computeFenceFrame`, `updateNextSeamFrame`, `enforceNextSeamInvariant`: the routines that write
  `next_seam_frame_` and its type; `activate`: a block becoming live; `resync`: the fence epoch
  re-anchored at clock start; `rebase`: the part of `PerformSegmentSwap` that moves the seam;
* `Seams.Timed`: the next seam keeps the fence. `timed_activate` and `timed_rebase` say when the
  two writers establish it;
* `Seams.Pending`: a segment seam always has a next segment.
-/

import Mathlib
import Retrovue.Air.Blockplan.Types

namespace Retrovue.Air.Blockplan

/-! ### The seam fields -/

section SeamFields

/-- `SeamType`. -/
inductive SeamType
  | segment
  | block
  | none
  deriving DecidableEq, Repr

/-- The seam fields of `PipelineManager`. -/
structure Seams where
  fenceEpochUtcMs : Int
  blockFenceFrame : FrameIndex
  blockActivationFrame : Int
  liveParentBlock : FedBlock
  liveBoundaries : List SegmentBoundary
  plannedSegmentSeamFrames : List Int
  currentSegmentIndex : Nat
  nextSeamFrame : FrameIndex
  nextSeamType : SeamType
  deriving DecidableEq, Repr

/-- The fields as a session starts: no block, no seam. -/
def Seams.initial (sessionEpochUtcMs : Int) : Seams where
  fenceEpochUtcMs := sessionEpochUtcMs
  blockFenceFrame := none
  blockActivationFrame := 0
  liveParentBlock := ⟨"", 0, 0, []⟩
  liveBoundaries := []
  plannedSegmentSeamFrames := []
  currentSegmentIndex := 0
  nextSeamFrame := none
  nextSeamType := .none

/-- `take`: the tick is at or past the next seam. -/
def Seams.take (s : Seams) (tick : Int) : Bool := reached s.nextSeamFrame tick

/-- `take_b`: the block TAKE. -/
def Seams.takeB (s : Seams) (tick : Int) : Bool := s.take tick && s.nextSeamType == .block

/-- `take_segment`: the segment TAKE. -/
def Seams.takeSegment (s : Seams) (tick : Int) : Bool := s.take tick && s.nextSeamType == .segment

theorem Seams.takeB_iff {s : Seams} {tick : Int} :
    s.takeB tick = true ↔ reached s.nextSeamFrame tick ∧ s.nextSeamType = .block := by
  simp [Seams.takeB, Seams.take]

theorem Seams.takeSegment_iff {s : Seams} {tick : Int} :
    s.takeSegment tick = true ↔ reached s.nextSeamFrame tick ∧ s.nextSeamType = .segment := by
  simp [Seams.takeSegment, Seams.take]

end SeamFields

/-! ### The routines -/

section Routines

variable (house : RationalFps)

/-- The ceiling division of `compute_fence_frame` and `ComputeSegmentSeamFrames`. -/
def ceilFrames (ms : Int) : Int :=
  (ms * house.num + house.den * 1000 - 1).tdiv (house.den * 1000)

/-- `compute_fence_frame`. -/
def computeFenceFrame (fenceEpochUtcMs : Int) (block : FedBlock) : Int :=
  if block.endUtcMs - fenceEpochUtcMs ≤ 0 then 0
  else ceilFrames house (block.endUtcMs - fenceEpochUtcMs)

/-- `min_dwell_frames`. -/
def minDwellFrames : Int :=
  if house.isValid then max 1 (house.framesFromDurationCeilMs 1000) else 30

/-- The dwell policy for a segment without a usable duration: at least one frame, and not past a
fence that is still ahead. -/
def dwellFrames (blockFenceFrame : FrameIndex) (tick : Int) : Int :=
  match blockFenceFrame with
  | none => minDwellFrames house
  | some fence =>
    if tick < fence then max 1 (min (minDwellFrames house) (fence - tick))
    else minDwellFrames house

/-- Frames of a segment from its duration, or the dwell policy. -/
def segmentFrames (segment : Segment) (blockFenceFrame : FrameIndex) (tick : Int) : Int :=
  if 0 < house.framesFromDurationCeilMs segment.segmentDurationMs then
    house.framesFromDurationCeilMs segment.segmentDurationMs
  else dwellFrames house blockFenceFrame tick

/-- The planned end of the current segment; the last segment has none of its own. -/
def Seams.plannedNext (s : Seams) : FrameIndex :=
  if s.currentSegmentIndex + 1 < s.plannedSegmentSeamFrames.length then
    s.plannedSegmentSeamFrames[s.currentSegmentIndex]?
  else none

/-- `UpdateNextSeamFrame`. -/
def updateNextSeamFrame (s : Seams) : Seams :=
  if before s.plannedNext s.blockFenceFrame then
    { s with nextSeamFrame := s.plannedNext, nextSeamType := .segment }
  else { s with nextSeamFrame := s.blockFenceFrame, nextSeamType := .block }

/-- The planned end of a segment that ends at content time `endCtMs`. -/
def plannedSeam (blockActivationFrame endCtMs : Int) : Int :=
  if 0 < endCtMs then blockActivationFrame + ceilFrames house endCtMs else blockActivationFrame

/-- `ComputeSegmentSeamFrames`. -/
def computeSegmentSeamFrames (s : Seams) : Seams :=
  updateNextSeamFrame
    { s with
      currentSegmentIndex := 0
      plannedSegmentSeamFrames := s.liveBoundaries.map fun boundary =>
        plannedSeam house s.blockActivationFrame boundary.endCtMs }

/-- `tick + frames`, but not past a fence that is still ahead. -/
def cappedSeam (blockFenceFrame : FrameIndex) (tick frames : Int) : Int :=
  match blockFenceFrame with
  | none => tick + frames
  | some fence => if tick < fence ∧ fence < tick + frames then fence else tick + frames

/-- A fence that is still ahead, or one dwell from now. -/
def fenceOrDwell (blockFenceFrame : FrameIndex) (tick : Int) : Int :=
  match blockFenceFrame with
  | none => tick + minDwellFrames house
  | some fence => if tick < fence then fence else tick + minDwellFrames house

/-- The corrected seam of `EnforceNextSeamInvariant`. -/
def safeSeam (s : Seams) (tick : Int) : Int :=
  match s.liveParentBlock.segments[s.currentSegmentIndex]? with
  | some segment =>
    if 0 < house.framesFromDurationCeilMs segment.segmentDurationMs then
      cappedSeam s.blockFenceFrame tick (house.framesFromDurationCeilMs segment.segmentDurationMs)
    else tick + dwellFrames house s.blockFenceFrame tick
  | none => fenceOrDwell house s.blockFenceFrame tick

/-- `EnforceNextSeamInvariant`: a seam that is not in the future is moved there. -/
def enforceNextSeamInvariant (s : Seams) (tick : Int) : Seams :=
  if reached s.nextSeamFrame tick then
    { s with
      nextSeamFrame := some (max (safeSeam house s tick) (tick + 1))
      nextSeamType :=
        if before (some (max (safeSeam house s tick) (tick + 1))) s.blockFenceFrame then .segment
        else .block }
  else s

/-- A block becoming live: its fence, its boundaries and its first seam. -/
def activate (s : Seams) (tick : Int) (producer : TickProducer) : Seams :=
  enforceNextSeamInvariant house
    (computeSegmentSeamFrames house
      { s with
        blockFenceFrame := some (computeFenceFrame house s.fenceEpochUtcMs producer.block)
        blockActivationFrame := tick
        liveParentBlock := producer.block
        liveBoundaries := producer.boundaries }) tick

/-- The fence epoch re-anchored when the output clock starts (tick 0), with the first block's fence
and seam computed again. -/
def resync (s : Seams) (nowUtcMs : Int) (live : Option TickProducer) : Seams :=
  match live with
  | none => { s with fenceEpochUtcMs := nowUtcMs }
  | some producer =>
    enforceNextSeamInvariant house
      (updateNextSeamFrame
        { s with
          fenceEpochUtcMs := nowUtcMs
          blockFenceFrame := some (computeFenceFrame house nowUtcMs producer.block) }) 0

/-- PADDED_GAP: no fence and no seam. -/
def Seams.enterPaddedGap (s : Seams) : Seams :=
  { s with blockFenceFrame := none, nextSeamFrame := none, nextSeamType := .none }

/-- The end of the segment at `index`, counted from the swap tick. -/
def Seams.computedSeam (s : Seams) (index : Nat) (tick : Int) : FrameIndex :=
  (s.liveParentBlock.segments[index]?).map fun segment =>
    tick + segmentFrames house segment s.blockFenceFrame tick

/-- The seam of the segment at `index` entered at `tick`, before it is enforced: its end or the
fence, and always a block seam for the last segment. -/
def Seams.enterSegment (s : Seams) (index : Nat) (tick : Int) : Seams :=
  if before (s.computedSeam house index tick) s.blockFenceFrame then
    { s with
      currentSegmentIndex := index
      nextSeamFrame := s.computedSeam house index tick
      nextSeamType :=
        if s.liveParentBlock.segments.length ≤ index + 1 then .block else .segment }
  else
    { s with
      currentSegmentIndex := index
      nextSeamFrame := s.blockFenceFrame
      nextSeamType := .block }

/-- `PerformSegmentSwap`, step 3: the next segment index, and the seam moved to the end of that
segment counted from the actual swap tick. -/
def rebase (s : Seams) (tick : Int) : Seams :=
  enforceNextSeamInvariant house (s.enterSegment house (s.currentSegmentIndex + 1) tick) tick

end Routines

/-! ### Frames are positive -/

section Positive

variable (house : RationalFps)

theorem one_le_minDwellFrames : 1 ≤ minDwellFrames house := by
  unfold minDwellFrames
  split <;> omega

theorem one_le_dwellFrames (fence : FrameIndex) (tick : Int) : 1 ≤ dwellFrames house fence tick := by
  have dwell := one_le_minDwellFrames house
  unfold dwellFrames
  split
  · exact dwell
  · split <;> omega

theorem dwellFrames_le {fence tick : Int} (ahead : tick < fence) :
    tick + dwellFrames house (some fence) tick ≤ fence := by
  simp only [dwellFrames, if_pos ahead]
  omega

theorem one_le_segmentFrames (segment : Segment) (fence : FrameIndex) (tick : Int) :
    1 ≤ segmentFrames house segment fence tick := by
  unfold segmentFrames
  split
  · omega
  · exact one_le_dwellFrames house fence tick

/-- Frames that the seam is moved by when the fence has passed: the current segment's, or one
dwell. -/
def overdueFrames (block : FedBlock) (index : Nat) : Int :=
  match block.segments[index]? with
  | some segment =>
    if 0 < house.framesFromDurationCeilMs segment.segmentDurationMs then
      house.framesFromDurationCeilMs segment.segmentDurationMs
    else minDwellFrames house
  | none => minDwellFrames house

/-- The corrected seam with the fence still ahead: after the tick, and at the fence at the
latest. -/
theorem safeSeam_ahead {s : Seams} {fence tick : Int} (fenced : s.blockFenceFrame = some fence)
    (ahead : tick < fence) :
    tick < safeSeam house s tick ∧ safeSeam house s tick ≤ fence := by
  unfold safeSeam
  rw [fenced]
  split
  · split
    · simp only [cappedSeam]
      split <;> omega
    · have := one_le_dwellFrames house (some fence) tick
      have := dwellFrames_le house ahead
      omega
  · simp only [fenceOrDwell, if_pos ahead]
    omega

/-- The corrected seam with the fence passed: a whole segment from now. -/
theorem safeSeam_overdue {s : Seams} {fence tick : Int} (fenced : s.blockFenceFrame = some fence)
    (overdue : fence ≤ tick) :
    safeSeam house s tick = tick + overdueFrames house s.liveParentBlock s.currentSegmentIndex := by
  have passed : ¬ tick < fence := by omega
  unfold safeSeam overdueFrames
  rw [fenced]
  cases s.liveParentBlock.segments[s.currentSegmentIndex]? with
  | none => simp [fenceOrDwell, passed]
  | some segment => simp only [cappedSeam, dwellFrames, passed, false_and, if_false]; split <;> rfl

end Positive

/-! ### The seam against the fence -/

section Fence

variable (house : RationalFps)

/-- The next seam keeps the block's fence, for the ticks from `tick` on: a block seam lies at or
after the fence and is due by the later of fence and first tick of the block; a segment seam is due
before a fence that is still ahead. -/
structure Seams.Timed (s : Seams) (tick : Int) : Prop where
  block : s.nextSeamType = .block → ∀ fence, s.blockFenceFrame = some fence →
    ∃ seam, s.nextSeamFrame = some seam ∧ fence ≤ seam ∧
      seam ≤ max fence (s.blockActivationFrame + 1)
  segment : s.nextSeamType = .segment → ∀ fence, s.blockFenceFrame = some fence →
    tick < fence ∧ ∃ seam, s.nextSeamFrame = some seam ∧ seam < fence
  idle : s.nextSeamType = .none → s.blockFenceFrame = none

/-- What an observer of the block's end is promised: no block TAKE before the fence, and the block
TAKE at every tick from the later of fence and first tick of the block on. -/
def Seams.FenceHeld (s : Seams) (tick : Int) : Prop :=
  ∀ fence, s.blockFenceFrame = some fence →
    (s.takeB tick = true → fence ≤ tick) ∧
    (max fence (s.blockActivationFrame + 1) ≤ tick →
      s.nextSeamType = .block ∧ reached s.nextSeamFrame tick = true)

theorem Seams.Timed.fenceHeld {s : Seams} {tick : Int} (timed : s.Timed tick) :
    s.FenceHeld tick := by
  intro fence fenced
  refine ⟨?_, ?_⟩
  · intro taken
    obtain ⟨due, type⟩ := Seams.takeB_iff.mp taken
    obtain ⟨seam, next, after, -⟩ := timed.block type fence fenced
    simp only [next, reached_some, decide_eq_true_eq] at due
    omega
  · intro late
    cases type : s.nextSeamType with
    | none => simp [timed.idle type] at fenced
    | segment =>
      have := (timed.segment type fence fenced).1
      omega
    | block =>
      obtain ⟨seam, next, -, by_then⟩ := timed.block type fence fenced
      refine ⟨rfl, ?_⟩
      simp only [next, reached_some, decide_eq_true_eq]
      omega

/-- Ticks pass while no segment seam is due. -/
theorem Seams.Timed.advance {s : Seams} {tick : Int} (timed : s.Timed tick)
    (quiet : s.takeSegment tick = false) : s.Timed (tick + 1) where
  block := timed.block
  idle := timed.idle
  segment := by
    intro type fence fenced
    obtain ⟨ahead, seam, next, early⟩ := timed.segment type fence fenced
    have waiting : tick < seam := by
      by_contra due
      have taken : s.takeSegment tick = true :=
        Seams.takeSegment_iff.mpr ⟨by simp [next]; omega, type⟩
      rw [taken] at quiet
      cases quiet
    exact ⟨by omega, seam, next, early⟩

/-- What keeps the fence at a later tick keeps it earlier. -/
theorem Seams.Timed.mono {s : Seams} {tick later : Int} (timed : s.Timed later)
    (le : tick ≤ later) : s.Timed tick where
  block := timed.block
  idle := timed.idle
  segment := by
    intro type fence fenced
    obtain ⟨ahead, early⟩ := timed.segment type fence fenced
    exact ⟨by omega, early⟩

/-- A seam that is already in the future is left alone. -/
theorem enforce_of_future {s : Seams} {tick : Int} (future : reached s.nextSeamFrame tick = false) :
    enforceNextSeamInvariant house s tick = s := by
  simp [enforceNextSeamInvariant, future]

/-- Enforcing with the fence ahead: a seam that was good, or any seam that was not in the future,
is good afterwards. -/
theorem timed_enforce_ahead {s : Seams} {fence tick : Int} (fenced : s.blockFenceFrame = some fence)
    (ahead : tick < fence)
    (good : reached s.nextSeamFrame tick = false → s.Timed (tick + 1)) :
    (enforceNextSeamInvariant house s tick).Timed (tick + 1) := by
  cases due : reached s.nextSeamFrame tick with
  | false =>
    rw [enforce_of_future house due]
    exact good due
  | true =>
    obtain ⟨later, capped⟩ := safeSeam_ahead house fenced ahead
    have corrected : max (safeSeam house s tick) (tick + 1) = safeSeam house s tick := by omega
    simp only [enforceNextSeamInvariant, due, if_true, corrected, fenced, before_some_some,
      decide_eq_true_eq]
    refine ⟨?_, ?_, ?_⟩
    · intro type bound same
      simp only [Option.some.injEq] at same
      subst same
      by_cases early : safeSeam house s tick < fence
      · simp [early] at type
      · exact ⟨_, rfl, by omega, by dsimp only; omega⟩
    · intro type bound same
      simp only [Option.some.injEq] at same
      subst same
      by_cases early : safeSeam house s tick < fence
      · exact ⟨by omega, _, rfl, early⟩
      · simp [early] at type
    · intro type
      by_cases early : safeSeam house s tick < fence <;> simp [early] at type

/-- Enforcing with the fence passed at the activation tick: good when the segment then due lasts
one frame. -/
theorem timed_enforce_overdue {s : Seams} {fence tick : Int}
    (fenced : s.blockFenceFrame = some fence) (overdue : fence ≤ tick)
    (due : reached s.nextSeamFrame tick = true) (activated : s.blockActivationFrame = tick)
    (brief : overdueFrames house s.liveParentBlock s.currentSegmentIndex = 1) :
    (enforceNextSeamInvariant house s tick).Timed (tick + 1) := by
  have safe := safeSeam_overdue house fenced overdue
  have corrected : max (safeSeam house s tick) (tick + 1) = tick + 1 := by omega
  have late : ¬ tick + 1 < fence := by omega
  simp only [enforceNextSeamInvariant, due, if_true, corrected, fenced, before_some_some, late,
    decide_false, Bool.false_eq_true, if_false]
  refine ⟨?_, ?_, ?_⟩
  · intro _ bound same
    simp only [Option.some.injEq] at same
    subst same
    exact ⟨_, rfl, by omega, by dsimp only; omega⟩
  · intro type
    cases type
  · intro type
    cases type

/-- After `UpdateNextSeamFrame` a seam in the future keeps the fence. -/
theorem timed_update {s : Seams} {tick : Int}
    (future : reached (updateNextSeamFrame s).nextSeamFrame tick = false) :
    (updateNextSeamFrame s).Timed (tick + 1) := by
  unfold updateNextSeamFrame at future ⊢
  split
  · rename_i early
    rw [if_pos early] at future
    refine ⟨?_, ?_, ?_⟩
    · intro type
      cases type
    · intro _ fence fenced
      dsimp only at fenced future ⊢
      rw [fenced] at early
      cases planned : s.plannedNext with
      | none => simp [planned] at early
      | some seam =>
        simp only [planned, before_some_some, decide_eq_true_eq, reached_some,
          decide_eq_false_iff_not] at early future
        exact ⟨by omega, seam, rfl, early⟩
    · intro type
      cases type
  · refine ⟨?_, ?_, ?_⟩
    · intro _ fence fenced
      exact ⟨fence, fenced, le_refl _, le_max_left _ _⟩
    · intro type
      cases type
    · intro type
      cases type

/-! What `UpdateNextSeamFrame` leaves alone. -/

@[simp] theorem update_fence (s : Seams) :
    (updateNextSeamFrame s).blockFenceFrame = s.blockFenceFrame := by
  unfold updateNextSeamFrame
  split <;> rfl

@[simp] theorem update_activation (s : Seams) :
    (updateNextSeamFrame s).blockActivationFrame = s.blockActivationFrame := by
  unfold updateNextSeamFrame
  split <;> rfl

@[simp] theorem update_block (s : Seams) :
    (updateNextSeamFrame s).liveParentBlock = s.liveParentBlock := by
  unfold updateNextSeamFrame
  split <;> rfl

@[simp] theorem update_index (s : Seams) :
    (updateNextSeamFrame s).currentSegmentIndex = s.currentSegmentIndex := by
  unfold updateNextSeamFrame
  split <;> rfl

@[simp] theorem update_planned (s : Seams) :
    (updateNextSeamFrame s).plannedSegmentSeamFrames = s.plannedSegmentSeamFrames := by
  unfold updateNextSeamFrame
  split <;> rfl

/-! What `EnforceNextSeamInvariant` leaves alone. -/

@[simp] theorem enforce_fence (s : Seams) (tick : Int) :
    (enforceNextSeamInvariant house s tick).blockFenceFrame = s.blockFenceFrame := by
  unfold enforceNextSeamInvariant
  split <;> rfl

@[simp] theorem enforce_activation (s : Seams) (tick : Int) :
    (enforceNextSeamInvariant house s tick).blockActivationFrame = s.blockActivationFrame := by
  unfold enforceNextSeamInvariant
  split <;> rfl

@[simp] theorem enforce_block (s : Seams) (tick : Int) :
    (enforceNextSeamInvariant house s tick).liveParentBlock = s.liveParentBlock := by
  unfold enforceNextSeamInvariant
  split <;> rfl

@[simp] theorem enforce_index (s : Seams) (tick : Int) :
    (enforceNextSeamInvariant house s tick).currentSegmentIndex = s.currentSegmentIndex := by
  unfold enforceNextSeamInvariant
  split <;> rfl

@[simp] theorem enforce_planned (s : Seams) (tick : Int) :
    (enforceNextSeamInvariant house s tick).plannedSegmentSeamFrames =
      s.plannedSegmentSeamFrames := by
  unfold enforceNextSeamInvariant
  split <;> rfl

/-! What an activation sets. -/

@[simp] theorem activate_activation (s : Seams) (tick : Int) (producer : TickProducer) :
    (activate house s tick producer).blockActivationFrame = tick := by
  simp [activate, computeSegmentSeamFrames]

@[simp] theorem activate_fence (s : Seams) (tick : Int) (producer : TickProducer) :
    (activate house s tick producer).blockFenceFrame =
      some (computeFenceFrame house s.fenceEpochUtcMs producer.block) := by
  simp [activate, computeSegmentSeamFrames]

@[simp] theorem activate_block (s : Seams) (tick : Int) (producer : TickProducer) :
    (activate house s tick producer).liveParentBlock = producer.block := by
  simp [activate, computeSegmentSeamFrames]

@[simp] theorem activate_index (s : Seams) (tick : Int) (producer : TickProducer) :
    (activate house s tick producer).currentSegmentIndex = 0 := by
  simp [activate, computeSegmentSeamFrames]

/-- A passed fence is always due after `UpdateNextSeamFrame`. -/
theorem update_due {s : Seams} {fence tick : Int} (fenced : s.blockFenceFrame = some fence)
    (overdue : fence ≤ tick) : reached (updateNextSeamFrame s).nextSeamFrame tick = true := by
  unfold updateNextSeamFrame
  split
  · rename_i early
    cases planned : s.plannedNext with
    | none => simp [planned] at early
    | some seam =>
      simp only [planned, fenced, before_some_some, decide_eq_true_eq] at early
      simp only [reached_some, decide_eq_true_eq]
      omega
  · simpa [fenced] using overdue

/-- **The first seam of a block keeps its fence** when the fence is still ahead, or when the segment
that is due lasts one frame. -/
theorem timed_settle {s : Seams} {fence tick : Int} (fenced : s.blockFenceFrame = some fence)
    (activated : s.blockActivationFrame = tick)
    (opened : tick < fence ∨ overdueFrames house s.liveParentBlock s.currentSegmentIndex = 1) :
    (enforceNextSeamInvariant house (updateNextSeamFrame s) tick).Timed (tick + 1) := by
  have fenced' : (updateNextSeamFrame s).blockFenceFrame = some fence := by rw [update_fence, fenced]
  by_cases ahead : tick < fence
  · exact timed_enforce_ahead house fenced' ahead timed_update
  · have overdue : fence ≤ tick := by omega
    refine timed_enforce_overdue house fenced' overdue (update_due fenced overdue) (by simpa) ?_
    simpa using opened.resolve_left ahead

/-- A block activated at `tick` keeps its fence: the fence is ahead, or the first segment lasts one
frame. -/
def OpensOnTime (house : RationalFps) (fenceEpochUtcMs tick : Int) (block : FedBlock) : Prop :=
  tick < computeFenceFrame house fenceEpochUtcMs block ∨ overdueFrames house block 0 = 1

instance (fenceEpochUtcMs tick : Int) (block : FedBlock) :
    Decidable (OpensOnTime house fenceEpochUtcMs tick block) :=
  inferInstanceAs (Decidable (_ ∨ _))

/-- The clock start settles the first block's seam again, on its new fence. -/
theorem timed_resync {s : Seams} {nowUtcMs : Int} {producer : TickProducer}
    (opened : OpensOnTime house nowUtcMs 0 producer.block) :
    (resync house (activate house s 0 producer) nowUtcMs (some producer)).Timed (0 + 1) := by
  refine timed_settle house rfl (by simp) ?_
  rwa [activate_block, activate_index]

theorem timed_activate {s : Seams} {tick : Int} {producer : TickProducer}
    (opened : OpensOnTime house s.fenceEpochUtcMs tick producer.block) :
    (activate house s tick producer).Timed (tick + 1) :=
  timed_settle house rfl rfl opened

/-- The last segment of a block, entered at `tick`, lasts to the fence. -/
def LastsToFence (house : RationalFps) (s : Seams) (tick : Int) : Prop :=
  s.liveParentBlock.segments.length ≤ s.currentSegmentIndex + 2 →
    before (s.computedSeam house (s.currentSegmentIndex + 1) tick) s.blockFenceFrame = false

instance (s : Seams) (tick : Int) : Decidable (LastsToFence house s tick) :=
  inferInstanceAs (Decidable (_ → _))

/-- The end of the segment entered at `tick` lies in the future. -/
theorem computedSeam_later {s : Seams} {index : Nat} {tick seam : Int}
    (computed : s.computedSeam house index tick = some seam) : tick < seam := by
  obtain ⟨segment, -, rfl⟩ := Option.map_eq_some_iff.mp computed
  have := one_le_segmentFrames house segment s.blockFenceFrame tick
  omega

/-- **A segment swap before the fence keeps it** when the last segment lasts to the fence. -/
theorem timed_rebase {s : Seams} {fence tick : Int} (fenced : s.blockFenceFrame = some fence)
    (ahead : tick < fence) (lasts : LastsToFence house s tick) :
    (rebase house s tick).Timed (tick + 1) := by
  unfold rebase Seams.enterSegment
  split
  · rename_i early
    have more : ¬ s.liveParentBlock.segments.length ≤ s.currentSegmentIndex + 1 + 1 := by
      intro last
      rw [lasts last] at early
      cases early
    obtain ⟨seam, computed⟩ : ∃ seam,
        s.computedSeam house (s.currentSegmentIndex + 1) tick = some seam := by
      cases computed : s.computedSeam house (s.currentSegmentIndex + 1) tick with
      | none => simp [computed] at early
      | some seam => exact ⟨seam, rfl⟩
    have later := computedSeam_later house computed
    rw [enforce_of_future house (by simp [computed, later])]
    simp only [computed, fenced, before_some_some, decide_eq_true_eq] at early
    refine ⟨?_, ?_, ?_⟩
    · intro type
      simp [more] at type
    · intro _ bound same
      rw [show bound = fence from Option.some.inj (same.symm.trans fenced)]
      exact ⟨by omega, seam, computed, early⟩
    · intro type
      simp [more] at type
  · rw [enforce_of_future house (by simp [fenced, ahead])]
    refine ⟨?_, ?_, ?_⟩
    · intro _ bound same
      exact ⟨bound, same, le_refl _, le_max_left _ _⟩
    · intro type
      cases type
    · intro type
      cases type

/-- A segment swap leaves the fence alone. -/
@[simp] theorem rebase_fence (s : Seams) (tick : Int) :
    (rebase house s tick).blockFenceFrame = s.blockFenceFrame := by
  unfold rebase Seams.enterSegment
  split <;> simp

/-- A segment swap stays in its block. -/
@[simp] theorem rebase_block (s : Seams) (tick : Int) :
    (rebase house s tick).liveParentBlock = s.liveParentBlock := by
  unfold rebase Seams.enterSegment
  split <;> simp

/-- A segment swap goes on to the next segment. -/
@[simp] theorem rebase_index (s : Seams) (tick : Int) :
    (rebase house s tick).currentSegmentIndex = s.currentSegmentIndex + 1 := by
  unfold rebase Seams.enterSegment
  split <;> simp

/-- Without a fence there is nothing to keep. -/
theorem timed_of_unfenced {s : Seams} (unfenced : s.blockFenceFrame = none) (tick : Int) :
    s.Timed tick where
  block := by simp [unfenced]
  segment := by simp [unfenced]
  idle := fun _ => unfenced

end Fence

/-! ### A segment seam has a next segment -/

section Pending

variable (house : RationalFps)

/-- A segment seam leads into another segment of the block. -/
def Seams.Pending (s : Seams) : Prop :=
  s.nextSeamType = .segment → s.currentSegmentIndex + 1 < s.liveParentBlock.segments.length

/-- `EnforceNextSeamInvariant` makes a segment seam only from a segment seam: otherwise the seam
was the fence, and the fence has passed. -/
theorem pending_enforce {s : Seams} {tick : Int} (pending : s.Pending)
    (block : s.nextSeamType ≠ .segment → reached s.nextSeamFrame tick = true →
      reached s.blockFenceFrame tick = true) :
    (enforceNextSeamInvariant house s tick).Pending := by
  unfold enforceNextSeamInvariant
  split
  · rename_i due
    intro type
    by_cases was : s.nextSeamType = .segment
    · exact pending was
    · have passed := block was due
      cases fenced : s.blockFenceFrame with
      | none => simp [fenced] at passed
      | some fence =>
        simp only [fenced, reached_some, decide_eq_true_eq] at passed
        have late : ¬ max (safeSeam house s tick) (tick + 1) < fence := by omega
        simp only [fenced, before_some_some, late, decide_false, Bool.false_eq_true,
          if_false] at type
        cases type
  · exact pending

theorem pending_settle {s : Seams} {tick : Int}
    (planned : s.plannedSegmentSeamFrames.length ≤ s.liveParentBlock.segments.length) :
    (enforceNextSeamInvariant house (updateNextSeamFrame s) tick).Pending := by
  apply pending_enforce
  · unfold updateNextSeamFrame
    split
    · rename_i early
      intro _
      dsimp only
      by_cases more : s.currentSegmentIndex + 1 < s.plannedSegmentSeamFrames.length
      · omega
      · simp [Seams.plannedNext, more] at early
    · intro type
      cases type
  · unfold updateNextSeamFrame
    split
    · intro other
      exact absurd rfl other
    · exact fun _ due => due

theorem pending_activate (s : Seams) (tick : Int) (producer : TickProducer) :
    (activate house s tick producer).Pending :=
  pending_settle house (by simpa using producer.boundaries_length_le)

theorem pending_rebase (s : Seams) (tick : Int) : (rebase house s tick).Pending := by
  unfold rebase Seams.enterSegment
  split
  · rename_i early
    rw [enforce_of_future]
    · intro type
      by_cases last : s.liveParentBlock.segments.length ≤ s.currentSegmentIndex + 1 + 1
      · simp [last] at type
      · exact Nat.lt_of_not_le last
    · cases computed : s.computedSeam house (s.currentSegmentIndex + 1) tick with
      | none => rfl
      | some seam =>
        have later := computedSeam_later house computed
        simp [later]
  · apply pending_enforce
    · intro type
      cases type
    · exact fun _ due => due

end Pending

end Retrovue.Air.Blockplan
