/-
**The seam preparer and the block preload** (`SeamPreparer.cpp`, and `TryLoadLiveProducer`,
`TryKickoffBlockPreload`, `TryTakePreviewProducer` of `PipelineManager.cpp`).

* `SeamPreparer`: the request queue, the request the worker is on, and the two result slots;
  `submit`, `workerStart`, `workerFinish`: its operations;
* `BlockFlow`: every place a fed block can be in before and while it is live;
* `BlockFlow.takePreviewProducer`, `loadLiveProducer`, `kickoffBlockPreload`: the three ways a block
  moves on towards the live slot.

The tick thread and the worker touch the preparer under its mutex, one operation at a time.
-/

import Mathlib
import Retrovue.Air.Blockplan.Types

namespace Retrovue.Air.Blockplan

/-! ### The preparer -/

section Preparer

/-- `SeamRequestType`. -/
inductive SeamRequestType
  | segment
  | block
  deriving DecidableEq, Repr

/-- `SeamRequest`: a whole block, or one segment as a block that keeps its parent's id. -/
structure SeamRequest where
  type : SeamRequestType
  block : FedBlock
  seamFrame : FrameIndex
  parentBlockId : String
  segmentIndex : Int
  ofParent : block.blockId = parentBlockId
  deriving DecidableEq, Repr

/-- `SeamResult`: its producer is never null, and was prepared for what the result names. -/
structure SeamResult where
  producer : TickProducer
  blockId : String
  segmentType : SegmentType
  parentBlockId : String
  parentSegmentIndex : Int
  ofParent : producer.block.blockId = parentBlockId ∧
    producer.logicalSegmentIndex = parentSegmentIndex
  deriving DecidableEq, Repr

/-- `SeamPreparer`. -/
structure SeamPreparer where
  queue : List SeamRequest
  working : Option SeamRequest
  segmentResult : Option SeamResult
  blockResult : Option SeamResult
  deriving DecidableEq, Repr

/-- An idle preparer. -/
def SeamPreparer.idle : SeamPreparer := ⟨[], none, none, none⟩

/-- `Submit`: before the first queued request that is not needed earlier (`std::lower_bound`). -/
def SeamPreparer.submit (preparer : SeamPreparer) (request : SeamRequest) : SeamPreparer :=
  let earlier := fun queued : SeamRequest => before queued.seamFrame request.seamFrame
  { preparer with
    queue := preparer.queue.takeWhile earlier ++ request :: preparer.queue.dropWhile earlier }

/-- `WorkerLoop`: the worker takes the front request. -/
def SeamPreparer.workerStart (preparer : SeamPreparer) : Option SeamPreparer :=
  match preparer.working, preparer.queue with
  | none, request :: rest => some { preparer with queue := rest, working := some request }
  | _, _ => none

/-- The result `ProcessRequest` builds for a request. -/
def SeamRequest.result (request : SeamRequest) (assets : AssetOutcome) : SeamResult where
  producer := (assignBlock request.block assets).setLogicalSegmentIndex request.segmentIndex
  blockId := request.block.blockId
  segmentType := request.block.firstSegmentType
  parentBlockId := request.parentBlockId
  parentSegmentIndex := request.segmentIndex
  ofParent := ⟨by simp [TickProducer.setLogicalSegmentIndex, request.ofParent], rfl⟩

/-- `ProcessRequest`: the worker publishes its result into the slot of its type. -/
def SeamPreparer.workerFinish (preparer : SeamPreparer) (assets : AssetOutcome) :
    Option SeamPreparer :=
  match preparer.working with
  | none => none
  | some request =>
    match request.type with
    | .segment =>
      some { preparer with working := none, segmentResult := some (request.result assets) }
    | .block =>
      some { preparer with working := none, blockResult := some (request.result assets) }

/-- The result or the request is for the segment at `index` of the block called `blockId`. -/
def SeamResult.isFor (result : SeamResult) (blockId : String) (index : Nat) : Prop :=
  result.parentBlockId = blockId ∧ result.parentSegmentIndex = index

instance (result : SeamResult) (blockId : String) (index : Nat) :
    Decidable (result.isFor blockId index) :=
  inferInstanceAs (Decidable (_ ∧ _))

/-- `PeekSegmentResult` names the segment at `index` of the block. -/
def SeamPreparer.peekMatches (preparer : SeamPreparer) (blockId : String) (index : Nat) : Bool :=
  match preparer.segmentResult with
  | none => false
  | some result => decide (result.isFor blockId index)

end Preparer

/-! ### The flow of blocks -/

section Flow

/-- A block event of the session's callbacks. -/
inductive BlockEvent
  | started (block : FedBlock)
  | completed (block : FedBlock)
  deriving DecidableEq, Repr

/-- Where the session's blocks are: `ctx_->block_queue`, the preparer, `preview_` and `live_`
(`none` is an empty producer), with what was submitted last. -/
structure BlockFlow where
  blockQueue : List FedBlock
  preparer : SeamPreparer
  preview : Option TickProducer
  live : Option TickProducer
  expectedPrerollFirstSegContent : Bool
  /-- `last_submitted_block_`, while `last_submitted_block_valid_`. -/
  lastSubmittedBlock : Option FedBlock
  retryAttemptedBlockId : String
  /-- Every block fed to the queue, in order. -/
  fed : List FedBlock
  /-- Every `on_block_started` and `on_block_completed`, in order. -/
  events : List BlockEvent
  deriving DecidableEq, Repr

/-- The flow as a session starts, with an empty queue. -/
def BlockFlow.initial : BlockFlow :=
  ⟨[], .idle, none, none, false, none, "", [], []⟩

/-- A block fed to the session's queue. -/
def BlockFlow.feed (flow : BlockFlow) (block : FedBlock) : BlockFlow :=
  { flow with blockQueue := flow.blockQueue ++ [block], fed := flow.fed ++ [block] }

/-- A block request of the session. -/
def blockRequest (block : FedBlock) (blockFenceFrame : FrameIndex) : SeamRequest :=
  ⟨.block, block, blockFenceFrame, block.blockId, -1, rfl⟩

/-- The result holds a content block that the worker could not open. -/
def SeamResult.decoderFailed (result : SeamResult) : Bool :=
  result.segmentType != .pad && !result.producer.hasDecoder

/-- PREROLL_RETRY: a content block that could not be opened is submitted once more when the fence is
at least two seconds away. -/
def BlockFlow.retries (flow : BlockFlow) (result : SeamResult) (headroomMs : Int) : Bool :=
  result.decoderFailed && decide (2000 ≤ headroomMs) &&
    (match flow.lastSubmittedBlock with
      | none => false
      | some block => block.blockId == result.blockId) &&
    result.blockId != flow.retryAttemptedBlockId

/-- The resubmission of a retry. -/
def BlockFlow.resubmit (flow : BlockFlow) (result : SeamResult) (blockFenceFrame : FrameIndex) :
    BlockFlow :=
  match flow.lastSubmittedBlock with
  | none => flow
  | some block =>
    { flow with
      retryAttemptedBlockId := result.blockId
      preparer := flow.preparer.submit (blockRequest block blockFenceFrame) }

/-- What `TryTakePreviewProducer` does besides handing over the producer of `result`. -/
def BlockFlow.afterTake (flow : BlockFlow) (result : SeamResult) (headroomMs : Int)
    (blockFenceFrame : FrameIndex) : BlockFlow :=
  if result.decoderFailed then
    if flow.retries result headroomMs then
      { flow.resubmit result blockFenceFrame with lastSubmittedBlock := none }
    else { flow with lastSubmittedBlock := none }
  else { flow with lastSubmittedBlock := none, retryAttemptedBlockId := "" }

/-- The flow with its block result taken. -/
def BlockFlow.takeBlockResult (flow : BlockFlow) : BlockFlow :=
  { flow with preparer := { flow.preparer with blockResult := none } }

/-- `TryTakePreviewProducer`. -/
def BlockFlow.takePreviewProducer (flow : BlockFlow) (headroomMs : Int)
    (blockFenceFrame : FrameIndex) : Option (TickProducer × BlockFlow) :=
  match flow.preparer.blockResult with
  | none => none
  | some result =>
    some (result.producer, flow.takeBlockResult.afterTake result headroomMs blockFenceFrame)

/-- The front of the queue, loaded synchronously. -/
def BlockFlow.loadFromQueue (flow : BlockFlow) (assets : AssetOutcome) : BlockFlow :=
  match flow.blockQueue with
  | [] => flow
  | block :: rest => { flow with blockQueue := rest, live := some (assignBlock block assets) }

/-- `TryLoadLiveProducer`: the preview, a finished preload, or the front of the queue. -/
def BlockFlow.loadLiveProducer (flow : BlockFlow) (blockFenceFrame : FrameIndex)
    (assets : AssetOutcome) : BlockFlow :=
  match flow.preview with
  | some producer => { flow with preview := none, live := some producer }
  | none =>
    match flow.takePreviewProducer (-1) blockFenceFrame with
    | some (producer, taken) => { taken with live := some producer }
    | none => flow.loadFromQueue assets

/-- The guards of `TryKickoffBlockPreload`: the live producer is ready and no block result waits to
be taken. -/
def BlockFlow.mayKickoff (flow : BlockFlow) : Bool :=
  flow.live.isSome && flow.preparer.blockResult.isNone

/-- `TryKickoffBlockPreload`. -/
def BlockFlow.kickoffBlockPreload (flow : BlockFlow) (blockFenceFrame : FrameIndex) : BlockFlow :=
  if flow.mayKickoff then
    match flow.blockQueue with
    | [] => flow
    | block :: rest =>
      { flow with
        blockQueue := rest
        expectedPrerollFirstSegContent := !block.segments.isEmpty && block.firstSegmentType != .pad
        lastSubmittedBlock := some block
        retryAttemptedBlockId :=
          if block.blockId = flow.retryAttemptedBlockId then flow.retryAttemptedBlockId else ""
        preparer := flow.preparer.submit (blockRequest block blockFenceFrame) }
  else flow

/-- `on_block_started`. -/
def BlockFlow.started (flow : BlockFlow) (block : FedBlock) : BlockFlow :=
  { flow with events := flow.events ++ [.started block] }

/-- `on_block_completed`. -/
def BlockFlow.completed (flow : BlockFlow) (block : FedBlock) : BlockFlow :=
  { flow with events := flow.events ++ [.completed block] }

end Flow

end Retrovue.Air.Blockplan
