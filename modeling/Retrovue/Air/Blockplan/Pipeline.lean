/-
**The tick loop of `PipelineManager::Run`** as a state machine.

The tick thread goes through the phases of an iteration in order (`Phase`). Between any two of them
the session may feed blocks and the preparer's worker may take or finish a request; what the fill
threads, the decoders and the wall clock give is carried by the actions.

* `Pipeline`: the state; `Pipeline.initial`: a session before its first load;
* `loadFirst`, `activateFirst`: the session start; `preTake`, `sample`, `select`, `rotate`,
  `segmentPeek`, `segmentPostTake`, `loadNext`, `kickoff`: an iteration, in the source's order;
* `step`: one step of the tick thread, of the worker or of the feed.

`take_rotated` is false whenever it is read and is left out, as are PTS, audio, metrics, logging and
the reaper, which no step below reads.
-/

import Mathlib
import Retrovue.Foundation.Transition
import Retrovue.Air.Blockplan.SeamFrames
import Retrovue.Air.Blockplan.SeamPreparer
import Retrovue.Air.Blockplan.FrameSelection

namespace Retrovue.Air.Blockplan

/-! ### The state -/

section State

/-- `TakeDecision`. -/
inductive TakeDecision
  | contentA
  | contentB
  | repeat
  | hold
  | pad
  | standby
  deriving DecidableEq, Repr

/-- `v_src`. -/
inductive VideoSource
  | live
  | preview
  | segmentB
  | none
  deriving DecidableEq, Repr

/-- What a tick has read before its frame is selected. -/
structure Sampled where
  source : VideoSource
  /-- A pad with an empty buffer gives way to content: the incoming buffer is tried first. -/
  overrideWanted : Bool
  aPrimed : Bool
  /-- `EnsureIncomingBReadyForSeam` has peeked the incoming segment's result. -/
  peeked : Bool
  deriving DecidableEq, Repr

/-- What a tick has selected. -/
structure Selection where
  takeB : Bool
  takeSegment : Bool
  decision : TakeDecision
  frameOriginSegmentId : Int
  padSeam : Bool
  contentSeamOverride : Bool
  committedB : Bool
  deriving DecidableEq, Repr

/-- Where the tick thread stands. -/
inductive Phase
  | start
  | startKickoff
  | startActivate
  | preTake
  | sample
  | select (sampled : Sampled)
  | rotate (selection : Selection)
  | rotateKickoff (selection : Selection)
  | segmentPeek (selection : Selection)
  | segmentPostTake (selection : Selection) (peeked : Bool)
  | loadNext
  | loadKickoff
  | endKickoff
  | stopped
  deriving DecidableEq, Repr

/-- The selection of the tick in progress. -/
def Phase.selection : Phase → Option Selection
  | .rotate selection | .rotateKickoff selection | .segmentPeek selection
  | .segmentPostTake selection _ => some selection
  | _ => none

/-- The selection that POST-TAKE ROTATION is about to look at. -/
def Phase.rotating : Phase → Option Selection
  | .rotate selection => some selection
  | _ => none

/-- The selection that SEGMENT POST-TAKE is about to look at, and whether a result was peeked. -/
def Phase.postTaking : Phase → Option (Selection × Bool)
  | .segmentPostTake selection peeked => some (selection, peeked)
  | _ => none

/-- The state of a session. -/
structure Pipeline where
  phase : Phase
  /-- `session_frame_index`. -/
  tick : Int
  seams : Seams
  blocks : BlockFlow
  frames : Frames
  deriving DecidableEq, Repr

/-- A session before its first load. -/
def Pipeline.initial (sessionEpochUtcMs : Int) : Pipeline :=
  ⟨.start, 0, .initial sessionEpochUtcMs, .initial, .initial⟩

/-- `to_seg`: the segment after the current one. -/
def Pipeline.toSeg (p : Pipeline) : Nat := p.seams.currentSegmentIndex + 1

/-- The live block. -/
def Pipeline.block (p : Pipeline) : FedBlock := p.seams.liveParentBlock

end State

/-! ### Segment prep -/

section Prep

/-- The first segment from `next` on that is not a pad. -/
def prepTarget (block : FedBlock) (next : Nat) : Option (Segment × Nat) :=
  (block.segments.zipIdx.drop next).find? fun entry => entry.1.segmentType ≠ .pad

/-- `ArmSegmentPrep`: the next segment that needs a decoder is submitted, unless its result waits
already. -/
def armSegmentPrep (s : Seams) (preparer : SeamPreparer) : SeamPreparer :=
  if s.liveBoundaries.length ≤ 1 ∨ s.liveBoundaries.length ≤ s.currentSegmentIndex + 1 then preparer
  else
    match prepTarget s.liveParentBlock (s.currentSegmentIndex + 1) with
    | none => preparer
    | some (segment, target) =>
      if preparer.peekMatches s.liveParentBlock.blockId target then preparer
      else
        preparer.submit
          { type := .segment
            block := s.liveParentBlock.syntheticSegment target segment s.liveBoundaries
            seamFrame := s.plannedSegmentSeamFrames[target - 1]?
            parentBlockId := s.liveParentBlock.blockId
            segmentIndex := target
            ofParent := rfl }

/-- `ArmSegmentPrep` on the session. -/
def Pipeline.arm (p : Pipeline) : Pipeline :=
  { p with blocks := { p.blocks with preparer := armSegmentPrep p.seams p.blocks.preparer } }

/-- `EnsureIncomingBReadyForSeam` up to its peek: a content segment without a B chain whose result
waits. -/
def Pipeline.ensurePeek (p : Pipeline) : Bool :=
  p.frames.segmentB.isNone &&
    (match p.block.typeAt p.toSeg with
      | none => false
      | some type => type != .pad) &&
    p.blocks.preparer.peekMatches p.block.blockId p.toSeg

/-- `EnsureIncomingBReadyForSeam` after its peek: the result that is there now becomes the B chain,
its buffer stamped with the incoming segment. -/
def Pipeline.ensureTake (p : Pipeline) : Pipeline :=
  match p.blocks.preparer.segmentResult with
  | none => p
  | some result =>
    { p with
      blocks := { p.blocks with preparer := { p.blocks.preparer with segmentResult := none } }
      frames := { p.frames with segmentB := some ⟨result.producer, ⟨p.toSeg⟩⟩ } }

end Prep

/-! ### The session start -/

section Start

variable (house : RationalFps)

/-- `TryLoadLiveProducer` before the loop. -/
def loadFirst (p : Pipeline) (assets : AssetOutcome) : Pipeline :=
  { p with
    phase := .startKickoff
    blocks := p.blocks.loadLiveProducer p.seams.blockFenceFrame assets }

/-- A producer becomes the active block: seams, segment prep, `on_block_started`. -/
def Pipeline.activate (p : Pipeline) (producer : TickProducer) : Pipeline :=
  let activated : Pipeline :=
    { p with seams := Blockplan.activate house p.seams p.tick producer }
  { activated.arm with blocks := activated.arm.blocks.started producer.block }

/-- The cadence for the live producer. -/
def Pipeline.initCadence (p : Pipeline) : Pipeline :=
  { p with
    frames := { p.frames with
      cadence := Blockplan.initCadence house p.frames.cadence p.seams p.blocks.live } }

/-- The first block's activation, if one was loaded. -/
def Pipeline.activateLive (p : Pipeline) : Pipeline :=
  match p.blocks.live with
  | none => p
  | some producer => (p.activate house producer).initCadence house

/-- The first activation and the clock start with its re-anchored fence epoch. -/
def activateFirst (p : Pipeline) (nowUtcMs : Int) : Pipeline :=
  { p.activateLive house with
    phase := .preTake
    seams := resync house (p.activateLive house).seams nowUtcMs p.blocks.live }

end Start

/-! ### Before the frame -/

section PreTake

variable (house : RationalFps)

/-- Milliseconds to the fence; `-1` without a fence ahead. -/
def headroomMs (blockFenceFrame : FrameIndex) (tick : Int) : Int :=
  match blockFenceFrame with
  | none => -1
  | some fence =>
    if tick < fence ∧ house.isValid then
      ((fence - tick) * 1000 * house.den).tdiv house.num
    else -1

/-- A finished preload becomes the preview. -/
def Pipeline.adoptPreview (p : Pipeline) : Pipeline :=
  match p.blocks.preview with
  | some _ => p
  | none =>
    match p.blocks.takePreviewProducer (headroomMs house p.seams.blockFenceFrame p.tick)
        p.seams.blockFenceFrame with
    | none => p
    | some (producer, taken) => { p with blocks := { taken with preview := some producer } }

/-- PRE-TAKE: the preview is adopted and its buffer filled. -/
def preTake (p : Pipeline) : Pipeline :=
  let adopted := p.adoptPreview house
  { adopted with
    phase := .sample
    frames :=
      if adopted.blocks.preview.isSome && adopted.frames.previewVideoBuffer.isNone then
        { adopted.frames with previewVideoBuffer := some .fresh }
      else adopted.frames }

/-- The readings of the buffers before the cascade. -/
structure SampleReadings where
  aPrimed : Bool
  aDepth : Nat
  incoming : IncomingDepths
  deriving DecidableEq, Repr

/-- The incoming segment as one reading of its buffers shows it. -/
def Pipeline.incoming (p : Pipeline) (depths : IncomingDepths) : Option IncomingState :=
  incomingState p.block p.toSeg p.frames.segmentB depths

/-- The `v_src` gate: at a segment seam the incoming buffer is read only when it is eligible. -/
def Pipeline.videoSource (p : Pipeline) (depths : IncomingDepths) : VideoSource :=
  if p.seams.takeB p.tick then
    if p.frames.previewVideoBuffer.isSome then .preview else .none
  else if p.seams.takeSegment p.tick && p.frames.segmentB.isSome then
    match p.incoming depths with
    | none => .live
    | some incoming => if incoming.eligible then .segmentB else .live
  else .live

/-- `pad_seam_this_tick`. -/
def Pipeline.padSeam (p : Pipeline) : Bool :=
  p.seams.takeSegment p.tick && p.block.isPadAt p.toSeg

/-- The content seam override is looked for: an empty pad gives way to content. -/
def Pipeline.overrideWanted (p : Pipeline) (aDepth : Nat) : Bool :=
  p.seams.takeSegment p.tick && !p.padSeam &&
    p.block.isPadAt p.seams.currentSegmentIndex && aDepth == 0

/-- The decision phase's readings, and the peek of the promoted `EnsureIncomingBReadyForSeam`. -/
def sample (p : Pipeline) (readings : SampleReadings) : Pipeline :=
  { p with
    phase := .select
      { source := p.videoSource readings.incoming
        overrideWanted := p.overrideWanted readings.aDepth
        aPrimed := readings.aPrimed
        peeked := p.overrideWanted readings.aDepth && p.ensurePeek } }

end PreTake

/-! ### The frame -/

section Select

variable (house : RationalFps)

/-- Whether `TryPopFrame` gave a frame: on segment B for the override, on `v_src`. -/
structure PopOutcome where
  segmentB : Bool
  source : Bool
  deriving DecidableEq, Repr

/-- A frame chosen by the cascade. -/
structure Chosen where
  frames : Frames
  decision : TakeDecision
  committedB : Bool
  deriving DecidableEq, Repr

/-- The cadence of the tick: advanced unless a block TAKE is due or there is no source. -/
def Frames.tickCadence (frames : Frames) (takeB : Bool) (source : VideoSource) : Cadence × Bool :=
  if frames.cadence.enabled && !takeB && source != .none then frames.cadence.advance
  else (frames.cadence, false)

/-- The popped frame is the last good one. -/
def Frames.remember (frames : Frames) : Frames := { frames with hasLastGoodVideoFrame := true }

/-- DEGRADED_TAKE_MODE is entered, or goes on: after 5000 ms it escalates to standby. -/
def Frames.degrade (frames : Frames) (tick : Int) : Frames :=
  let entered := if frames.degradedTakeActive then frames.degradedEnteredFrameIndex else tick
  let elapsedMs := if house.isValid then ((tick - entered) * 1000 * house.den).tdiv house.num else 0
  { frames with
    degradedTakeActive := true
    degradedEnteredFrameIndex := entered
    degradedEscalatedToStandby :=
      (frames.degradedTakeActive && frames.degradedEscalatedToStandby) || decide (5000 ≤ elapsedMs) }

/-- The next block begins with content, as far as the tick thread knows. -/
def BlockFlow.nextFirstSegContent (flow : BlockFlow) : Bool :=
  match flow.preview with
  | some producer => producer.block.firstSegmentType != .pad
  | none => flow.expectedPrerollFirstSegContent && flow.lastSubmittedBlock.isSome

/-- A preview whose decoder failed. -/
def BlockFlow.previewHasNoDecoder (flow : BlockFlow) : Bool :=
  match flow.preview with
  | some producer => !producer.hasDecoder
  | none => false

/-- The block TAKE without a frame of B: held or standby while a content preload is pending, else
pad. -/
def Pipeline.takeWithoutB (p : Pipeline) (frames : Frames) : Chosen :=
  if p.blocks.nextFirstSegContent && p.blocks.preview.isNone then
    let degraded := frames.degrade house p.tick
    if degraded.degradedEscalatedToStandby then ⟨degraded, .standby, false⟩
    else if degraded.hasLastGoodVideoFrame then ⟨degraded, .hold, false⟩
    else ⟨degraded, .pad, false⟩
  else if frames.degradedTakeActive && p.blocks.previewHasNoDecoder then
    ⟨{ frames with degradedTakeActive := false }, .pad, false⟩
  else ⟨frames, .pad, false⟩

/-- The frame-selection cascade; `none` is the underflow that stops the session. -/
def Pipeline.cascade (p : Pipeline) (frames : Frames) (sampled : Sampled) (isRepeat : Bool)
    (pops : PopOutcome) : Option Chosen :=
  if p.padSeam then some ⟨frames, .pad, false⟩
  else if sampled.overrideWanted && frames.segmentB.isSome && pops.segmentB then
    some ⟨frames.remember, .contentA, false⟩
  else if isRepeat then
    some ⟨frames, if frames.hasLastGoodVideoFrame then .repeat else .pad, false⟩
  else if sampled.source != .none && pops.source then
    if p.seams.takeB p.tick then
      some ⟨{ frames.remember with degradedTakeActive := false }, .contentB, true⟩
    else some ⟨frames.remember, .contentA, false⟩
  else if p.seams.takeB p.tick then some (p.takeWithoutB house frames)
  else if p.seams.takeSegment p.tick && frames.hasLastGoodVideoFrame then
    some ⟨frames,
      if p.block.isPadAt p.seams.currentSegmentIndex && p.block.fadesInAt p.toSeg then .pad
      else .hold, false⟩
  else if sampled.source == .live && sampled.aPrimed && hasDecoder p.blocks.live then none
  else some ⟨frames, .pad, false⟩

/-- The stamp of the buffer a source pops from. -/
def Frames.stampOf (frames : Frames) : VideoSource → Int
  | .live => frames.videoBuffer.segmentOriginId
  | .preview => (frames.previewVideoBuffer.map VideoBuffer.segmentOriginId).getD (-1)
  | .segmentB => (frames.segmentB.map fun chain => chain.video.segmentOriginId).getD (-1)
  | .none => -1

/-- The origin of a frame popped from `v_src`: its stamp, else inferred from the source. -/
def Pipeline.poppedOrigin (p : Pipeline) (frames : Frames) (source : VideoSource) : Int :=
  if 0 ≤ frames.stampOf source then frames.stampOf source
  else if source = .segmentB then p.toSeg
  else p.seams.currentSegmentIndex

/-- `frame_origin_segment_id`; `-2` is outside the check. -/
def Pipeline.frameOrigin (p : Pipeline) (frames : Frames) (sampled : Sampled)
    (decision : TakeDecision) : Int :=
  if p.padSeam then p.toSeg
  else
    match decision with
    | .contentA =>
      if sampled.overrideWanted && frames.segmentB.isSome then p.toSeg
      else p.poppedOrigin frames sampled.source
    | .repeat | .hold => frames.lastGoodOriginSegment
    | .contentB | .pad | .standby => -2

/-- The decisions that put a real frame on air. -/
def TakeDecision.real : TakeDecision → Bool
  | .contentA | .contentB | .repeat | .hold => true
  | .pad | .standby => false

/-- Content-before-pad: a pad is not emitted while the live decoder may still produce the session's
first frame. -/
def Pipeline.skips (p : Pipeline) (frames : Frames) (sampled : Sampled) (decision : TakeDecision) :
    Bool :=
  !decision.real && !frames.firstRealFrameCommitted && hasDecoder p.blocks.live && !sampled.aPrimed

/-- The frame's origin is tracked and the tick goes on, or is retried. -/
def Pipeline.emit (p : Pipeline) (sampled : Sampled) (chosen : Chosen) : Pipeline :=
  let origin := p.frameOrigin chosen.frames sampled chosen.decision
  let tracked : Frames :=
    if p.padSeam || chosen.decision == .contentA then
      { chosen.frames with lastGoodOriginSegment := origin }
    else chosen.frames
  if p.skips chosen.frames sampled chosen.decision then
    { p with phase := .preTake, frames := tracked }
  else
    { p with
      phase := .rotate
        { takeB := p.seams.takeB p.tick
          takeSegment := p.seams.takeSegment p.tick
          decision := chosen.decision
          frameOriginSegmentId := origin
          padSeam := p.padSeam
          contentSeamOverride := sampled.overrideWanted && chosen.frames.segmentB.isSome
          committedB := chosen.committedB }
      frames := { tracked with
        firstRealFrameCommitted := tracked.firstRealFrameCommitted || chosen.decision.real } }

/-- The B chain the promoted `EnsureIncomingBReadyForSeam` makes. -/
def Pipeline.ensured (p : Pipeline) (peeked : Bool) : Pipeline :=
  if peeked then p.ensureTake else p

/-- The tick repeats: the cadence says so, and the incoming segment is not what it reads. -/
def Pipeline.repeats (p : Pipeline) (sampled : Sampled) : Bool :=
  (p.frames.tickCadence (p.seams.takeB p.tick) sampled.source).2 &&
    !(p.seams.takeSegment p.tick && sampled.source == .segmentB)

/-- The tick's cadence, advanced. -/
def Pipeline.withCadence (p : Pipeline) (sampled : Sampled) : Frames :=
  { p.frames with
    cadence := (p.frames.tickCadence (p.seams.takeB p.tick) sampled.source).1 }

/-- The cascade on the state that `EnsureIncomingBReadyForSeam` left. -/
def Pipeline.selectFrom (p : Pipeline) (sampled : Sampled) (pops : PopOutcome) : Pipeline :=
  match p.cascade house (p.withCadence sampled) sampled (p.repeats sampled) pops with
  | none => { p with phase := .stopped, frames := p.withCadence sampled }
  | some chosen => p.emit sampled chosen

/-- Cadence, cascade and frame origin. -/
def select (p : Pipeline) (sampled : Sampled) (pops : PopOutcome) : Pipeline :=
  (p.ensured sampled.peeked).selectFrom house sampled pops

end Select

/-! ### The block TAKE -/

section Rotate

variable (house : RationalFps)

/-- The producer that becomes live at the fence: the preview, a late preload, or the front of the
queue (INV-FENCE-FALLBACK-SYNC-001). -/
def BlockFlow.nextAtFence (flow : BlockFlow) (blockFenceFrame : FrameIndex)
    (assets : AssetOutcome) : Option (TickProducer × BlockFlow) :=
  match flow.preview with
  | some producer => some (producer, { flow with preview := none })
  | none =>
    match flow.takePreviewProducer (-1) blockFenceFrame with
    | some (producer, taken) => some (producer, taken)
    | none =>
      match flow.blockQueue with
      | [] => none
      | block :: rest => some (assignBlock block assets, { flow with blockQueue := rest })

/-- The buffers of the block that goes live: the preview's when it has them, else fresh ones. A
preview buffer without a preview is stale and dropped. -/
def Frames.rotateBuffers (frames : Frames) (hadPreview : Bool) : Frames :=
  match frames.previewVideoBuffer with
  | some buffer =>
    { frames with
      videoBuffer := if hadPreview then buffer else .fresh
      previewVideoBuffer := none }
  | none => { frames with videoBuffer := .fresh }

/-- POST-TAKE ROTATION, when the fence has fired. -/
def Pipeline.rotated (p : Pipeline) (selection : Selection) (assets : AssetOutcome) : Pipeline :=
  match p.blocks.nextAtFence p.seams.blockFenceFrame assets with
  | some (producer, taken) =>
    let swapped : Pipeline :=
      { p with
        phase := .rotateKickoff selection
        blocks := { taken with live := some producer }
        frames := p.frames.rotateBuffers p.blocks.preview.isSome }
    let completed : Pipeline :=
      { swapped.initCadence house with
        blocks := (swapped.initCadence house).blocks.completed p.block }
    completed.activate house producer
  | none =>
    let gap : Pipeline :=
      { p with
        phase := .segmentPeek selection
        seams := p.seams.enterPaddedGap
        blocks := { p.blocks with live := none }
        frames := p.frames.rotateBuffers p.blocks.preview.isSome }
    { gap.initCadence house with blocks := (gap.initCadence house).blocks.completed p.block }

/-- The rotation is due: B committed a frame, or it did not and nothing holds the take. -/
def rotate (p : Pipeline) (selection : Selection) (assets : AssetOutcome) : Pipeline :=
  if selection.takeB && (selection.committedB || !p.frames.degradedTakeActive) then
    p.rotated house selection assets
  else { p with phase := .segmentPeek selection }

end Rotate

/-! ### The segment TAKE -/

section SegmentPostTake

variable (house : RationalFps)

/-- The peek of `EnsureIncomingBReadyForSeam` in SEGMENT POST-TAKE. -/
def segmentPeek (p : Pipeline) (selection : Selection) : Pipeline :=
  { p with phase := .segmentPostTake selection (selection.takeSegment && p.ensurePeek) }

/-- The readings of SEGMENT POST-TAKE. -/
structure PostTakeReadings where
  activeVideoDepth : Nat
  incoming : IncomingDepths
  deriving DecidableEq, Repr

/-- `force_swap_for_frame_authority`. -/
def forceForFrameAuthority (activeVideoDepth : Nat) (incoming : IncomingState) : Bool :=
  activeVideoDepth == 0 && decide (0 < incoming.incomingVideoFrames) && !incoming.eligible

/-- `force_swap_for_pad_seam`. -/
def Selection.forceForPadSeam (selection : Selection) : Bool :=
  selection.padSeam && selection.decision == .pad

/-- `force_swap_for_content_seam`. -/
def Selection.forceForContentSeam (selection : Selection) : Bool :=
  selection.contentSeamOverride && selection.decision == .contentA

/-- One of the three forces is on. -/
def Selection.forced (selection : Selection) (activeVideoDepth : Nat) (incoming : IncomingState) :
    Bool :=
  forceForFrameAuthority activeVideoDepth incoming || selection.forceForPadSeam ||
    selection.forceForContentSeam

/-- The swap decision: an incoming segment that is eligible or forced, unless the emitted frame came
from the active segment and nothing forces the swap. -/
def Selection.swaps (selection : Selection) (activeSegment : Nat) (activeVideoDepth : Nat)
    (incoming : IncomingState) : Bool :=
  (incoming.eligible || selection.forced activeVideoDepth incoming) &&
    !(decide (selection.frameOriginSegmentId = activeSegment) &&
      !selection.forced activeVideoDepth incoming)

/-- The swap of buffers and producers in `PerformSegmentSwap`: the persistent pad chain, the B
chain, or a fresh empty chain (MISS). -/
def Pipeline.swapChains (p : Pipeline) : Pipeline :=
  if p.block.isPadAt p.toSeg then
    { p with
      blocks := { p.blocks with live := none }
      frames := { p.frames with videoBuffer := .fresh } }
  else
    match p.frames.segmentB with
    | some chain =>
      { p with
        blocks := { p.blocks with live := some chain.producer }
        frames := { p.frames with
          videoBuffer := chain.video
          segmentB := none
          prerolledSwaps :=
            p.frames.prerolledSwaps ++ [⟨p.block.blockId, p.toSeg, chain.producer⟩] } }
    | none =>
      { p with
        blocks := { p.blocks with live := none }
        frames := { p.frames with videoBuffer := ⟨p.toSeg⟩ } }

/-- `PerformSegmentSwap`. -/
def Pipeline.performSegmentSwap (p : Pipeline) : Pipeline :=
  { p.swapChains with seams := rebase house p.seams p.tick }.arm

/-- `RefreshFrameSelectionCadenceFromLiveSource`. -/
def Pipeline.refreshCadence (p : Pipeline) : Pipeline :=
  { p with
    frames := { p.frames with
      cadence := Blockplan.refreshCadence house p.frames.cadence p.seams p.blocks.live } }

/-- The swap, and after a swap forced by frame authority the restamp of the emitted frame: the new
state and the frame's origin. -/
def Pipeline.commitSwap (p : Pipeline) (selection : Selection) (restamp : Bool) :
    Pipeline × Int :=
  let swapped := p.performSegmentSwap house
  if restamp then
    ({ swapped with
        frames := { swapped.frames with
          lastGoodOriginSegment := swapped.seams.currentSegmentIndex } }.refreshCadence house,
      swapped.seams.currentSegmentIndex)
  else (swapped.refreshCadence house, selection.frameOriginSegmentId)

/-- The swap decision on one reading of the buffers. -/
def Pipeline.decideSwap (p : Pipeline) (selection : Selection) (readings : PostTakeReadings) :
    Pipeline × Int :=
  match p.incoming readings.incoming with
  | none => (p, selection.frameOriginSegmentId)
  | some incoming =>
    if selection.swaps p.seams.currentSegmentIndex readings.activeVideoDepth incoming then
      p.commitSwap house selection (forceForFrameAuthority readings.activeVideoDepth incoming)
    else (p, selection.frameOriginSegmentId)

/-- The post-swap authority check, skipped for a block TAKE and for a frame without an origin. -/
def Pipeline.checkAuthority (p : Pipeline) (takeB : Bool) (origin : Int) : Pipeline :=
  if 0 ≤ origin ∧ takeB = false then
    { p with
      frames := { p.frames with
        authorityChecks :=
          p.frames.authorityChecks ++ [⟨p.tick, p.seams.currentSegmentIndex, origin⟩] } }
  else p

/-- SEGMENT POST-TAKE and the authority check. -/
def segmentPostTake (p : Pipeline) (selection : Selection) (peeked : Bool)
    (readings : PostTakeReadings) : Pipeline :=
  let decided :=
    if selection.takeSegment then (p.ensured peeked).decideSwap house selection readings
    else (p, selection.frameOriginSegmentId)
  { decided.1.checkAuthority selection.takeB decided.2 with phase := .loadNext }

end SegmentPostTake

/-! ### The end of the tick -/

section EndOfTick

variable (house : RationalFps)

/-- PADDED_GAP exit: the loaded block becomes active. -/
def Pipeline.exitGap (p : Pipeline) (producer : TickProducer) : Pipeline :=
  let loaded : Pipeline :=
    { p with
      phase := .loadKickoff
      frames := { p.frames with previewVideoBuffer := none } }
  (loaded.initCadence house).activate house producer

/-- LOAD NEXT: without a live producer and without a fence a block is loaded. -/
def loadNext (p : Pipeline) (assets : AssetOutcome) : Pipeline :=
  if p.blocks.live.isNone && p.seams.blockFenceFrame.isNone then
    let loaded : Pipeline :=
      { p with blocks := p.blocks.loadLiveProducer p.seams.blockFenceFrame assets }
    match loaded.blocks.live with
    | none => { loaded with phase := .endKickoff }
    | some producer => loaded.exitGap house producer
  else { p with phase := .endKickoff }

/-- `TryKickoffBlockPreload` on the session. -/
def Pipeline.kickedOff (p : Pipeline) : Pipeline :=
  { p with blocks := p.blocks.kickoffBlockPreload p.seams.blockFenceFrame }

/-- The four calls of `TryKickoffBlockPreload`; the last ends the tick. -/
def kickoff (p : Pipeline) : Option Pipeline :=
  match p.phase with
  | .startKickoff => some { p.kickedOff with phase := .startActivate }
  | .rotateKickoff selection => some { p.kickedOff with phase := .segmentPeek selection }
  | .loadKickoff => some { p.kickedOff with phase := .endKickoff }
  | .endKickoff => some { p.kickedOff with phase := .preTake, tick := p.tick + 1 }
  | _ => none

end EndOfTick

/-! ### The step -/

section Step

variable (house : RationalFps)

/-- A step of the session, with what its environment gave. -/
inductive Action
  | feed (block : FedBlock)
  | workerStart
  | workerFinish (assets : AssetOutcome)
  | loadFirst (assets : AssetOutcome)
  | activateFirst (nowUtcMs : Int)
  | preTake
  | sample (readings : SampleReadings)
  | select (pops : PopOutcome)
  | rotate (assets : AssetOutcome)
  | segmentPeek
  | segmentPostTake (readings : PostTakeReadings)
  | loadNext (assets : AssetOutcome)
  | kickoff
  deriving DecidableEq, Repr

/-- The preparer's worker moved. -/
def Pipeline.withPreparer (p : Pipeline) (preparer : SeamPreparer) : Pipeline :=
  { p with blocks := { p.blocks with preparer := preparer } }

/-- One step; `none` when the action is not the tick thread's next, or the worker cannot move. -/
def step (p : Pipeline) : Action → Option Pipeline
  | .feed block => some { p with blocks := p.blocks.feed block }
  | .workerStart => p.blocks.preparer.workerStart.map p.withPreparer
  | .workerFinish assets => (p.blocks.preparer.workerFinish assets).map p.withPreparer
  | .loadFirst assets => if p.phase = .start then some (Blockplan.loadFirst p assets) else none
  | .activateFirst nowUtcMs =>
    if p.phase = .startActivate then some (Blockplan.activateFirst house p nowUtcMs) else none
  | .preTake => if p.phase = .preTake then some (Blockplan.preTake house p) else none
  | .sample readings => if p.phase = .sample then some (Blockplan.sample p readings) else none
  | .select pops =>
    match p.phase with
    | .select sampled => some (Blockplan.select house p sampled pops)
    | _ => none
  | .rotate assets =>
    match p.phase with
    | .rotate selection => some (Blockplan.rotate house p selection assets)
    | _ => none
  | .segmentPeek =>
    match p.phase with
    | .segmentPeek selection => some (Blockplan.segmentPeek p selection)
    | _ => none
  | .segmentPostTake readings =>
    match p.phase with
    | .segmentPostTake selection peeked =>
      some (Blockplan.segmentPostTake house p selection peeked readings)
    | _ => none
  | .loadNext assets =>
    if p.phase = .loadNext then some (Blockplan.loadNext house p assets) else none
  | .kickoff => Blockplan.kickoff p

/-- One iteration in which no block goes live. -/
def iteration (readings : SampleReadings) (pops : PopOutcome) (assets : AssetOutcome)
    (post : PostTakeReadings) : List Action :=
  [.preTake, .sample readings, .select pops, .rotate assets, .segmentPeek, .segmentPostTake post,
    .loadNext assets, .kickoff]

/-- One iteration in which the fence fires and a block goes live. -/
def fenceIteration (readings : SampleReadings) (pops : PopOutcome) (assets : AssetOutcome)
    (post : PostTakeReadings) : List Action :=
  [.preTake, .sample readings, .select pops, .rotate assets, .kickoff, .segmentPeek,
    .segmentPostTake post, .loadNext assets, .kickoff]

/-- 25 frames a second: 40 ms a frame. -/
def palFps : RationalFps := .make 25 1

/-- Buffers that are never short. -/
def fullDepths : IncomingDepths := ⟨1000, 10, 1000, 10⟩

/-- An iteration with full buffers in which no block goes live. -/
def fullIteration : List Action :=
  iteration ⟨true, 10, fullDepths⟩ ⟨true, true⟩ ⟨true, some palFps⟩ ⟨10, fullDepths⟩

/-- An iteration with full buffers in which a block goes live. -/
def fullFenceIteration : List Action :=
  fenceIteration ⟨true, 10, fullDepths⟩ ⟨true, true⟩ ⟨true, some palFps⟩ ⟨10, fullDepths⟩

/-- A session that starts at epoch 0 with one block, up to its first tick. -/
def sessionStart (block : FedBlock) : List Action :=
  [.feed block, .loadFirst ⟨true, some palFps⟩, .kickoff, .activateFirst 0]

end Step

end Retrovue.Air.Blockplan
