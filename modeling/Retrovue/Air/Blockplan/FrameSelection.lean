/-
**Frame selection** (`PipelineManager.cpp`): the buffers a tick can take its frame from, the
frame-selection cadence and the sticky state of the last good frame.

* `Cadence`: `frame_selection_cadence_*`; `initCadence`, `refreshCadence`, `Cadence.advance`;
* `Frames`: the buffers by the segment they stamp on their frames, the last good frame's origin, and
  the degraded-take state;
* `IncomingState`, `incomingState`, `IncomingState.eligible`: the segment swap gate
  (`GetIncomingSegmentState`, `IsIncomingSegmentEligibleForSwap`).

Buffer depths are not state here: the fill threads change them between any two reads, so every read
is an input of the step that makes it.
-/

import Mathlib
import Retrovue.Air.Blockplan.Types
import Retrovue.Air.Blockplan.SeamFrames

namespace Retrovue.Air.Blockplan

/-! ### Cadence -/

section CadenceSection

/-- `frame_selection_cadence_*` and `last_source_fps_`. -/
structure Cadence where
  enabled : Bool
  budgetNum : Int
  budgetDen : Int
  increment : Int
  lastSourceFps : RationalFps
  deriving DecidableEq, Repr

/-- The cadence as a session starts. -/
def Cadence.initial : Cadence := ⟨false, 0, 1, 0, .invalid⟩

/-- The rates of `SnapToStandardRationalFps` with the value each is matched by. -/
def standardRates : List (ℚ × RationalFps) :=
  [(23976 / 1000, .make 24000 1001), (24, .make 24 1), (25, .make 25 1),
    (2997 / 100, .make 30000 1001), (30, .make 30 1), (50, .make 50 1),
    (5994 / 100, .make 60000 1001), (60, .make 60 1)]

/-- `SnapToStandardRationalFps`: a rate within 0.01 of a standard one is that standard one. -/
def snapToStandardRationalFps (fps : RationalFps) : RationalFps :=
  if fps.isValid then
    match standardRates.find? fun entry => |(fps.num : ℚ) / fps.den - entry.1| < 1 / 100 with
    | some entry => entry.2
    | none => fps
  else fps

/-- The live source has no rate of its own to follow: pad, no decoder, or a rate that is invalid or
outside 10 to 120. -/
def cadenceSanitized (fps : RationalFps) (liveSegmentIsPad hasDecoder : Bool) : Bool :=
  !fps.isValid || fps == .make 1 1 ||
    decide (fps.num < 10 * fps.den) || decide (120 * fps.den < fps.num) ||
    liveSegmentIsPad || !hasDecoder

/-- The input rate of a producer; an empty one reports 1/1. -/
def inputRationalFps (live : Option TickProducer) : RationalFps :=
  match live with
  | none => .make 1 1
  | some producer => producer.inputFps

/-- `HasDecoder`. -/
def hasDecoder (live : Option TickProducer) : Bool :=
  match live with
  | none => false
  | some producer => producer.hasDecoder

variable (house : RationalFps)

/-- The cadence for a source rate: disabled for the house rate itself. -/
def Cadence.follow (cadence : Cadence) (source : RationalFps) : Cadence :=
  if source ≠ house ∧ source.isValid ∧ house.isValid then
    { enabled := true
      budgetNum := 0
      budgetDen := house.num * source.den
      increment := source.num * house.den
      lastSourceFps := source }
  else { cadence with enabled := false, lastSourceFps := source }

/-- The rate the live source counts as. -/
def sourceFps (s : Seams) (live : Option TickProducer) : RationalFps :=
  if cadenceSanitized (snapToStandardRationalFps (inputRationalFps live))
      (s.liveParentBlock.isPadAt s.currentSegmentIndex) (hasDecoder live) then house
  else snapToStandardRationalFps (inputRationalFps live)

/-- `InitFrameSelectionCadenceForLiveBlock`. -/
def initCadence (cadence : Cadence) (s : Seams) (live : Option TickProducer) : Cadence :=
  cadence.follow house (sourceFps house s live)

/-- `RefreshFrameSelectionCadenceFromLiveSource`: as above, but a source of unchanged rate keeps its
accumulator. -/
def refreshCadence (cadence : Cadence) (s : Seams) (live : Option TickProducer) : Cadence :=
  if !cadenceSanitized (snapToStandardRationalFps (inputRationalFps live))
        (s.liveParentBlock.isPadAt s.currentSegmentIndex) (hasDecoder live) &&
      snapToStandardRationalFps (inputRationalFps live) == cadence.lastSourceFps then cadence
  else cadence.follow house (sourceFps house s live)

/-- One tick of the accumulator: the new cadence, and whether the tick repeats. -/
def Cadence.advance (cadence : Cadence) : Cadence × Bool :=
  if cadence.budgetDen ≤ cadence.budgetNum + cadence.increment then
    ({ cadence with budgetNum := cadence.budgetNum + cadence.increment - cadence.budgetDen }, false)
  else ({ cadence with budgetNum := cadence.budgetNum + cadence.increment }, true)

end CadenceSection

/-! ### Buffers and sticky state -/

section Buffers

/-- A `VideoLookaheadBuffer`: the segment it stamps on its frames, negative when unstamped. -/
structure VideoBuffer where
  segmentOriginId : Int
  deriving DecidableEq, Repr

/-- A fresh buffer stamps nothing. -/
def VideoBuffer.fresh : VideoBuffer := ⟨-1⟩

/-- `segment_b_producer_`, `segment_b_video_buffer_` and `segment_b_audio_buffer_`: set and moved
together. -/
structure SegmentB where
  producer : TickProducer
  video : VideoBuffer
  deriving DecidableEq, Repr

/-- A prerolled content producer going live at a segment swap (SWAP_B_TO_A): the live block, the new
segment index, and the producer. -/
structure PrerolledSwap where
  liveBlockId : String
  segmentIndex : Nat
  producer : TickProducer
  deriving DecidableEq, Repr

/-- The producer was prepared for the segment it goes live for. -/
def PrerolledSwap.identified (swap : PrerolledSwap) : Prop :=
  swap.producer.block.blockId = swap.liveBlockId ∧
    swap.producer.logicalSegmentIndex = swap.segmentIndex

instance (swap : PrerolledSwap) : Decidable swap.identified :=
  inferInstanceAs (Decidable (_ ∧ _))

/-- One call of the authority check: the tick, the active segment, the frame's origin. -/
structure AuthorityCheck where
  tick : Int
  activeSegment : Nat
  frameOrigin : Int
  deriving DecidableEq, Repr

/-- `EmittedFrameMatchesAuthority`. -/
def AuthorityCheck.matches (check : AuthorityCheck) : Prop :=
  check.frameOrigin = check.activeSegment

instance (check : AuthorityCheck) : Decidable check.matches :=
  inferInstanceAs (Decidable (_ = _))

/-- The frame-selection state of `PipelineManager`. -/
structure Frames where
  videoBuffer : VideoBuffer
  previewVideoBuffer : Option VideoBuffer
  segmentB : Option SegmentB
  hasLastGoodVideoFrame : Bool
  lastGoodOriginSegment : Int
  firstRealFrameCommitted : Bool
  cadence : Cadence
  degradedTakeActive : Bool
  degradedEnteredFrameIndex : Int
  degradedEscalatedToStandby : Bool
  /-- Every call of the authority check, in order. -/
  authorityChecks : List AuthorityCheck
  /-- Every prerolled swap, in order. -/
  prerolledSwaps : List PrerolledSwap
  deriving DecidableEq, Repr

/-- The state as a session starts. -/
def Frames.initial : Frames where
  videoBuffer := .fresh
  previewVideoBuffer := none
  segmentB := none
  hasLastGoodVideoFrame := false
  lastGoodOriginSegment := -1
  firstRealFrameCommitted := false
  cadence := .initial
  degradedTakeActive := false
  degradedEnteredFrameIndex := -1
  degradedEscalatedToStandby := false
  authorityChecks := []
  prerolledSwaps := []

end Buffers

/-! ### The segment swap gate -/

section Gate

/-- One reading of the incoming buffers: `segment_b_*` and the persistent `pad_b_*`. -/
structure IncomingDepths where
  segmentBAudioMs : Nat
  segmentBVideoFrames : Nat
  padBAudioMs : Nat
  padBVideoFrames : Nat
  deriving DecidableEq, Repr

/-- `IncomingState`. -/
structure IncomingState where
  incomingAudioMs : Nat
  incomingVideoFrames : Nat
  isPad : Bool
  deriving DecidableEq, Repr

/-- `GetIncomingSegmentState`. The pad chain exists from session start on: a pad swap creates the
next one. -/
def incomingState (block : FedBlock) (toSeg : Nat) (segmentB : Option SegmentB)
    (depths : IncomingDepths) : Option IncomingState :=
  match block.typeAt toSeg with
  | none => none
  | some .pad => some ⟨depths.padBAudioMs, depths.padBVideoFrames, true⟩
  | some _ =>
    if segmentB.isSome then some ⟨depths.segmentBAudioMs, depths.segmentBVideoFrames, false⟩
    else none

/-- `IsIncomingSegmentEligibleForSwap`: 500 ms of audio, and two frames of video unless the segment
is a pad. -/
def IncomingState.eligible (incoming : IncomingState) : Bool :=
  decide (500 ≤ incoming.incomingAudioMs) &&
    (incoming.isPad || decide (2 ≤ incoming.incomingVideoFrames))

end Gate

end Retrovue.Air.Blockplan
