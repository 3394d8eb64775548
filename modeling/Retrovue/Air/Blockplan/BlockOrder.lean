/-
**Block order and uniqueness in the tick loop.**

* `BlockFlow.pending`: the blocks fed and not yet live, in the order they are due: preview, block
  result, the worker's request, queued requests, the session's queue;
* `evidence`: the running block after a list of events, if starts and completions alternate;
* `OrderKept`: the condition on a step. The worker publishes into an empty block slot, a request is
  not put before a queued block request, the queue is loaded from directly only while the preparer
  holds no block, and no block is submitted a second time;
* `inOrder_step`: a step that meets it conserves fed = started ++ pending;
* `started_inOrder`: in every run whose steps meet it, the blocks started are a prefix of the blocks
  fed, and starts and completions alternate;
* `fourth_block_overtakes_third`: four blocks fed at once, and the third is never started.
-/

import Mathlib
import Retrovue.Air.Blockplan.Steps

namespace Retrovue.Air.Blockplan

open Retrovue.Foundation.Transition

/-! ### Blocks that are due -/

section Pending

/-- The block of a block request. -/
def SeamRequest.asBlock (request : SeamRequest) : Option FedBlock :=
  match request.type with
  | .segment => none
  | .block => some request.block

/-- The blocks in the preparer, in the order they are due. -/
def SeamPreparer.blocks (preparer : SeamPreparer) : List FedBlock :=
  (preparer.blockResult.map fun result => result.producer.block).toList ++
    (preparer.working.bind SeamRequest.asBlock).toList ++
    preparer.queue.filterMap SeamRequest.asBlock

/-- The blocks fed and not yet live. -/
def BlockFlow.pending (flow : BlockFlow) : List FedBlock :=
  (flow.preview.map TickProducer.block).toList ++ flow.preparer.blocks ++ flow.blockQueue

/-- No queued block request that a request for this frame would be put before. -/
def SeamPreparer.overtakesNone (preparer : SeamPreparer) (seamFrame : FrameIndex) : Prop :=
  (preparer.queue.dropWhile fun queued => before queued.seamFrame seamFrame).filterMap
    SeamRequest.asBlock = []

instance (preparer : SeamPreparer) (seamFrame : FrameIndex) :
    Decidable (preparer.overtakesNone seamFrame) :=
  inferInstanceAs (Decidable (_ = _))

/-- A segment request changes nothing for the blocks. -/
theorem blocks_submit_segment (preparer : SeamPreparer) {request : SeamRequest}
    (segment : request.asBlock = none) : (preparer.submit request).blocks = preparer.blocks := by
  simp only [SeamPreparer.blocks, SeamPreparer.submit, List.filterMap_append,
    List.filterMap_cons_none segment]
  rw [← List.filterMap_append, List.takeWhile_append_dropWhile]

/-- A block request that overtakes none is due last. -/
theorem blocks_submit_block (preparer : SeamPreparer) (block : FedBlock) (fence : FrameIndex)
    (last : preparer.overtakesNone fence) :
    (preparer.submit (blockRequest block fence)).blocks = preparer.blocks ++ [block] := by
  have queued : (preparer.queue.takeWhile fun queued => before queued.seamFrame fence).filterMap
      SeamRequest.asBlock = preparer.queue.filterMap SeamRequest.asBlock := by
    conv_rhs => rw [← List.takeWhile_append_dropWhile
      (p := fun queued : SeamRequest => before queued.seamFrame fence) (l := preparer.queue)]
    rw [List.filterMap_append, last, List.append_nil]
  simp only [SeamPreparer.blocks, SeamPreparer.submit, List.filterMap_append, blockRequest,
    List.append_assoc]
  rw [queued, List.filterMap_cons_some (by rfl), last]

theorem blocks_workerStart {preparer next : SeamPreparer}
    (moved : preparer.workerStart = some next) : next.blocks = preparer.blocks := by
  unfold SeamPreparer.workerStart at moved
  split at moved
  · rename_i idle queued
    cases moved
    simp only [SeamPreparer.blocks, idle, queued, List.filterMap_cons, Option.bind_some,
      Option.bind_none]
    split <;> simp_all
  · cases moved

/-- The worker publishes over nothing: a block it has finished finds its slot empty. -/
def SeamPreparer.publishesFresh (preparer : SeamPreparer) : Prop :=
  ∀ request ∈ preparer.working, request.type = .block → preparer.blockResult = none

instance (preparer : SeamPreparer) : Decidable preparer.publishesFresh :=
  inferInstanceAs (Decidable (∀ request ∈ preparer.working, _))

theorem blocks_workerFinish {preparer next : SeamPreparer} {assets : AssetOutcome}
    (moved : preparer.workerFinish assets = some next) (fresh : preparer.publishesFresh) :
    next.blocks = preparer.blocks := by
  unfold SeamPreparer.workerFinish at moved
  split at moved
  · cases moved
  · rename_i request working
    split at moved <;> rename_i type
    · cases moved
      simp [SeamPreparer.blocks, working, SeamRequest.asBlock, type]
    · cases moved
      have empty := fresh request (by simpa using working) type
      simp [SeamPreparer.blocks, working, SeamRequest.asBlock, type, empty, SeamRequest.result,
        TickProducer.setLogicalSegmentIndex]

/-- `ArmSegmentPrep` submits segments only. -/
@[simp] theorem blocks_armSegmentPrep (s : Seams) (preparer : SeamPreparer) :
    (armSegmentPrep s preparer).blocks = preparer.blocks := by
  unfold armSegmentPrep
  split
  · rfl
  · split
    · rfl
    · split
      · rfl
      · exact blocks_submit_segment preparer rfl

end Pending

/-! ### Taking and loading -/

section Loading

variable (flow : BlockFlow)

/-- The blocks fed, started and pending are the same. -/
structure BlockFlow.Keeps (flow next : BlockFlow) : Prop where
  pending : next.pending = flow.pending
  fed : next.fed = flow.fed
  events : next.events = flow.events

theorem BlockFlow.Keeps.trans {first second third : BlockFlow} (left : first.Keeps second)
    (right : second.Keeps third) : first.Keeps third :=
  ⟨right.pending.trans left.pending, right.fed.trans left.fed, right.events.trans left.events⟩

/-- A result taken without a retry. -/
theorem keeps_afterTake {result : SeamResult} {headroom : Int} (fence : FrameIndex)
    (once : flow.retries result headroom = false) :
    flow.Keeps (flow.afterTake result headroom fence) := by
  unfold BlockFlow.afterTake
  rw [once]
  split <;> exact ⟨rfl, rfl, rfl⟩

/-- What moving a block to the front of the line changes: it leaves the pending blocks, and the
history stays. -/
structure BlockFlow.Yields (flow next : BlockFlow) (block : FedBlock) : Prop where
  pending : flow.pending = block :: next.pending
  fed : next.fed = flow.fed
  events : next.events = flow.events

theorem takePreviewProducer_yields {headroom : Int} {fence : FrameIndex} {producer : TickProducer}
    {next : BlockFlow} (free : flow.preview = none)
    (once : ∀ result ∈ flow.preparer.blockResult, flow.retries result headroom = false)
    (taken : flow.takePreviewProducer headroom fence = some (producer, next)) :
    flow.Yields next producer.block := by
  unfold BlockFlow.takePreviewProducer at taken
  split at taken
  · cases taken
  · rename_i result found
    cases taken
    have kept : flow.takeBlockResult.retries result headroom = false :=
      once result (by simpa using found)
    have keeps := keeps_afterTake flow.takeBlockResult fence kept
    refine ⟨?_, keeps.fed, keeps.events⟩
    rw [keeps.pending]
    simp [BlockFlow.pending, BlockFlow.takeBlockResult, SeamPreparer.blocks, free, found]

/-- A preload taken leaves the preview slot alone. -/
theorem takePreviewProducer_preview {headroom : Int} {fence : FrameIndex} {producer : TickProducer}
    {next : BlockFlow} (taken : flow.takePreviewProducer headroom fence = some (producer, next)) :
    next.preview = flow.preview := by
  unfold BlockFlow.takePreviewProducer BlockFlow.afterTake BlockFlow.resubmit at taken
  split at taken
  · cases taken
  · cases taken
    split
    · split
      · split <;> rfl
      · rfl
    · rfl

/-- A retry needs two seconds of headroom. -/
theorem retries_headroom (result : SeamResult) : flow.retries result (-1) = false := by
  simp [BlockFlow.retries]

/-- The queue may be loaded from directly: it is empty, or nothing fed earlier is on its way. -/
def BlockFlow.queueIsNext (flow : BlockFlow) : Prop :=
  flow.preview = none → flow.preparer.blockResult = none → flow.blockQueue ≠ [] →
    flow.preparer.blocks = []

instance : Decidable flow.queueIsNext :=
  inferInstanceAs (Decidable (_ → _ → _ → _))

theorem nextAtFence_yields {fence : FrameIndex} {assets : AssetOutcome} {producer : TickProducer}
    {next : BlockFlow} (ordered : flow.queueIsNext)
    (found : flow.nextAtFence fence assets = some (producer, next)) :
    flow.Yields next producer.block := by
  unfold BlockFlow.nextAtFence at found
  split at found
  · rename_i preview
    cases found
    exact ⟨by simp [BlockFlow.pending, preview], rfl, rfl⟩
  · rename_i free
    split at found
    · rename_i taken
      cases found
      exact takePreviewProducer_yields flow free (fun _ _ => retries_headroom flow _) taken
    · rename_i missing
      have none : flow.preparer.blockResult = none := by
        unfold BlockFlow.takePreviewProducer at missing
        split at missing
        · assumption
        · cases missing
      split at found
      · cases found
      · rename_i queue
        cases found
        have empty := ordered free none (by simp [queue])
        exact ⟨by simp [BlockFlow.pending, free, empty, queue], rfl, rfl⟩

/-- `TryLoadLiveProducer` takes the block that is due next, or finds none and changes nothing. -/
theorem loadLiveProducer_cases (fence : FrameIndex) (assets : AssetOutcome)
    (ordered : flow.queueIsNext) :
    (∃ producer, (flow.loadLiveProducer fence assets).live = some producer ∧
        flow.Yields (flow.loadLiveProducer fence assets) producer.block) ∨
      flow.loadLiveProducer fence assets = flow := by
  unfold BlockFlow.loadLiveProducer
  split
  · rename_i producer preview
    exact .inl ⟨producer, rfl, by simp [BlockFlow.pending, preview], rfl, rfl⟩
  · rename_i free
    split
    · rename_i producer next taken
      have yields :=
        takePreviewProducer_yields flow free (fun _ _ => retries_headroom flow _) taken
      exact .inl ⟨producer, rfl, yields.pending, yields.fed, yields.events⟩
    · rename_i missing
      have none : flow.preparer.blockResult = none := by
        unfold BlockFlow.takePreviewProducer at missing
        split at missing
        · assumption
        · cases missing
      unfold BlockFlow.loadFromQueue
      split
      · exact .inr rfl
      · rename_i block rest queue
        have empty := ordered free none (by simp [queue])
        exact .inl ⟨_, rfl, by simp [BlockFlow.pending, free, empty, queue], rfl, rfl⟩

/-- A kickoff that overtakes none moves the front of the queue behind the blocks in the
preparer. -/
theorem keeps_kickoff {fence : FrameIndex}
    (last : flow.mayKickoff = true → flow.blockQueue ≠ [] → flow.preparer.overtakesNone fence) :
    flow.Keeps (flow.kickoffBlockPreload fence) ∧
      (flow.kickoffBlockPreload fence).live = flow.live := by
  unfold BlockFlow.kickoffBlockPreload
  split
  · rename_i may
    split
    · exact ⟨⟨rfl, rfl, rfl⟩, rfl⟩
    · rename_i block rest queue
      refine ⟨⟨?_, rfl, rfl⟩, rfl⟩
      have moved := blocks_submit_block flow.preparer block fence (last may (by simp [queue]))
      simp only [BlockFlow.pending, moved, queue, List.append_assoc, List.singleton_append]
  · exact ⟨⟨rfl, rfl, rfl⟩, rfl⟩

end Loading

/-! ### Starts and completions -/

section Events

/-- The block an event starts. -/
def BlockEvent.startedBlock : BlockEvent → Option FedBlock
  | .started block => some block
  | .completed _ => none

/-- The blocks started, in order. -/
def startedBlocks (events : List BlockEvent) : List FedBlock :=
  events.filterMap BlockEvent.startedBlock

/-- The block running after the events, from the block running before them: a block starts when
none runs, and only the running block completes. `none` when the events do not go like this. -/
def runningAfter : Option FedBlock → List BlockEvent → Option (Option FedBlock)
  | running, [] => some running
  | none, .started block :: rest => runningAfter (some block) rest
  | some running, .completed block :: rest =>
    if running = block then runningAfter none rest else none
  | _, _ => none

theorem runningAfter_append (running : Option FedBlock) (first second : List BlockEvent) :
    runningAfter running (first ++ second) =
      (runningAfter running first).bind fun middle => runningAfter middle second := by
  induction first generalizing running with
  | nil => cases running <;> cases second <;> rfl
  | cons event rest ih =>
    cases running with
    | none =>
      cases event with
      | started block => exact ih (some block)
      | completed block => rfl
    | some running =>
      cases event with
      | started block => rfl
      | completed block =>
        simp only [List.cons_append, runningAfter]
        split
        · exact ih none
        · rfl

end Events

/-! ### The condition on a step -/

variable (house : RationalFps)

section Condition

/-- A step keeps the order of the blocks. -/
def OrderKept (p : Pipeline) : Action → Prop
  | .workerFinish _ => p.blocks.preparer.publishesFresh
  | .preTake =>
    p.blocks.preview = none → ∀ result ∈ p.blocks.preparer.blockResult,
      p.blocks.retries result (headroomMs house p.seams.blockFenceFrame p.tick) = false
  | .rotate _ =>
    ∀ selection ∈ p.phase.rotating, p.rotates selection = true → p.blocks.queueIsNext
  | .loadNext _ => p.loadsNext = true → p.blocks.queueIsNext
  | .kickoff =>
    p.blocks.mayKickoff = true → p.blocks.blockQueue ≠ [] →
      p.blocks.preparer.overtakesNone p.seams.blockFenceFrame
  | _ => True

instance (p : Pipeline) (action : Action) : Decidable (OrderKept house p action) := by
  cases action <;> unfold OrderKept <;> infer_instance

end Condition

/-! ### One step -/

section OneStep

/-- The block loaded before the loop and not yet started. -/
def Pipeline.unstarted (p : Pipeline) : List FedBlock :=
  match p.phase with
  | .startKickoff | .startActivate => (p.blocks.live.map TickProducer.block).toList
  | _ => []

/-- The running block: the live block, outside PADDED_GAP. -/
def Pipeline.running (p : Pipeline) : Option FedBlock :=
  p.seams.blockFenceFrame.map fun _ => p.block

/-- The blocks in order: every fed block is started, about to be, or pending, in the order fed; the
block that runs is the live one as long as there is a fence; and nothing is loaded at the start. -/
structure InOrder (p : Pipeline) : Prop where
  accounted : p.blocks.fed = startedBlocks p.blocks.events ++ p.unstarted ++ p.blocks.pending
  alternates : runningAfter none p.blocks.events = some p.running
  fresh : p.phase = .start →
    p.blocks.preview = none ∧ p.blocks.live = none ∧ p.blocks.preparer = .idle

theorem inOrder_initial (sessionEpochUtcMs : Int) : InOrder (.initial sessionEpochUtcMs) where
  accounted := rfl
  alternates := rfl
  fresh := fun _ => ⟨rfl, rfl, rfl⟩

/-- A step into a later phase that keeps the order and the running block. -/
theorem InOrder.move {p next : Pipeline} (order : InOrder p) (keeps : p.blocks.Keeps next.blocks)
    (running : next.running = p.running) (unstarted : next.unstarted = p.unstarted)
    (later : next.phase ≠ .start) : InOrder next where
  accounted := by
    rw [keeps.fed, keeps.events, keeps.pending, unstarted]
    exact order.accounted
  alternates := by
    rw [keeps.events, running]
    exact order.alternates
  fresh := fun phase => absurd phase later

theorem inOrder_feed {p : Pipeline} (order : InOrder p) (block : FedBlock) :
    InOrder { p with blocks := p.blocks.feed block } where
  accounted := by
    show p.blocks.fed ++ [block] = _
    rw [order.accounted]
    simp only [BlockFlow.pending, BlockFlow.feed, List.append_assoc]
    rfl
  alternates := order.alternates
  fresh := order.fresh

/-- A step of the worker. -/
theorem inOrder_worker {p : Pipeline} {preparer : SeamPreparer} (order : InOrder p)
    (blocks : preparer.blocks = p.blocks.preparer.blocks) (busy : p.blocks.preparer ≠ .idle) :
    InOrder (p.withPreparer preparer) where
  accounted := by
    rw [show (p.withPreparer preparer).blocks.pending = p.blocks.pending from by
      simp only [BlockFlow.pending, Pipeline.withPreparer, blocks]]
    exact order.accounted
  alternates := order.alternates
  fresh := fun phase => absurd (order.fresh phase).2.2 busy

theorem inOrder_loadFirst {p : Pipeline} (order : InOrder p) (phase : p.phase = .start)
    (assets : AssetOutcome) : InOrder (loadFirst p assets) := by
  obtain ⟨-, live, idle⟩ := order.fresh phase
  have ordered : p.blocks.queueIsNext := fun _ _ _ => by
    simp [idle, SeamPreparer.idle, SeamPreparer.blocks]
  have accounted := order.accounted
  simp only [Pipeline.unstarted, phase, List.append_nil] at accounted
  rcases loadLiveProducer_cases p.blocks p.seams.blockFenceFrame assets
    ordered with ⟨producer, loaded, yields⟩ | same
  · refine ⟨?_, ?_, by simp [loadFirst]⟩
    · simp [loadFirst, Pipeline.unstarted, loaded, yields.fed, yields.events, accounted,
        yields.pending]
    · show runningAfter none (p.blocks.loadLiveProducer _ assets).events = _
      rw [yields.events]
      exact order.alternates
  · refine ⟨?_, ?_, by simp [loadFirst]⟩
    · simp [loadFirst, Pipeline.unstarted, same, accounted, live]
    · show runningAfter none (p.blocks.loadLiveProducer _ assets).events = _
      rw [same]
      exact order.alternates

/-- What an activation does to the blocks: its block starts. -/
theorem activate_blocks (p : Pipeline) (producer : TickProducer) :
    (p.activate house producer).blocks.pending = p.blocks.pending ∧
      (p.activate house producer).blocks.fed = p.blocks.fed ∧
      (p.activate house producer).blocks.events = p.blocks.events ++ [.started producer.block] := by
  refine ⟨?_, rfl, rfl⟩
  simp [Pipeline.activate, BlockFlow.started, BlockFlow.pending, Pipeline.arm]

/-- A block going live: the running block completes, and the next one due starts. -/
structure Pipeline.Opens (p next : Pipeline) (block : FedBlock) : Prop where
  due : p.unstarted ++ p.blocks.pending = block :: next.blocks.pending
  fed : next.blocks.fed = p.blocks.fed
  events : next.blocks.events =
    p.blocks.events ++ (p.running.map BlockEvent.completed).toList ++ [.started block]
  running : next.running = some block

theorem inOrder_opens {p next : Pipeline} (order : InOrder p) (block : FedBlock)
    (opens : p.Opens next block) (looping : ¬ next.phase.starts) : InOrder next := by
  have unstarted : next.unstarted = [] := by
    unfold Pipeline.unstarted
    split
    · exact absurd (.inr (.inl (by assumption))) looping
    · exact absurd (.inr (.inr (by assumption))) looping
    · rfl
  refine ⟨?accounted, ?alternates, fun phase => absurd (.inl phase) looping⟩
  case accounted =>
    have closed : startedBlocks (p.running.map BlockEvent.completed).toList = [] := by
      cases p.running <;> rfl
    rw [opens.fed, order.accounted, opens.events, unstarted, List.append_assoc, opens.due]
    simp only [startedBlocks, List.filterMap_append, List.append_nil] at closed ⊢
    simp [closed, BlockEvent.startedBlock]
  case alternates =>
    rw [opens.events, opens.running, List.append_assoc, runningAfter_append, order.alternates]
    cases p.running with
    | none => rfl
    | some running => simp [runningAfter]

theorem inOrder_activateFirst {p : Pipeline} (poised : Poised p) (order : InOrder p)
    (phase : p.phase = .startActivate) (nowUtcMs : Int) :
    InOrder (activateFirst house p nowUtcMs) := by
  have unfenced := poised.starting (.inr (.inr phase))
  cases loaded : p.blocks.live with
  | none =>
    have next : activateFirst house p nowUtcMs =
        { p with phase := .preTake, seams := { p.seams with fenceEpochUtcMs := nowUtcMs } } := by
      simp [activateFirst, Pipeline.activateLive, loaded, resync]
    rw [next]
    refine order.move ⟨rfl, rfl, rfl⟩ rfl ?_ (by simp)
    simp [Pipeline.unstarted, phase, loaded]
  | some producer =>
    have blocks : (activateFirst house p nowUtcMs).blocks = (p.activate house producer).blocks := by
      simp [activateFirst, Pipeline.activateLive, loaded, Pipeline.initCadence]
    have seams : (activateFirst house p nowUtcMs).seams =
        resync house (activate house p.seams p.tick producer) nowUtcMs (some producer) := by
      simp [activateFirst, Pipeline.activateLive, loaded, Pipeline.activate, Pipeline.initCadence]
    obtain ⟨pending, fed, events⟩ := activate_blocks house p producer
    refine inOrder_opens order producer.block ⟨?_, ?_, ?_, ?_⟩
      (by simp [activateFirst, Phase.starts])
    · simp [blocks, pending, Pipeline.unstarted, phase, loaded]
    · rw [blocks, fed]
    · simp [blocks, events, Pipeline.running, unfenced]
    · simp [Pipeline.running, Pipeline.block, seams, resync]

/-- The running block depends on the seams only. -/
theorem running_congr {p next : Pipeline} (seams : next.seams = p.seams) :
    next.running = p.running := by
  rw [Pipeline.running, Pipeline.running, Pipeline.block, Pipeline.block, seams]

theorem inOrder_preTake {p : Pipeline} (order : InOrder p) (phase : p.phase = .preTake)
    (kept : OrderKept house p .preTake) : InOrder (preTake house p) := by
  have blocks : p.blocks.Keeps (p.adoptPreview house).blocks := by
    unfold Pipeline.adoptPreview
    split
    · exact ⟨rfl, rfl, rfl⟩
    · rename_i free
      split
      · exact ⟨rfl, rfl, rfl⟩
      · rename_i taken
        have yields := takePreviewProducer_yields p.blocks free (kept free) taken
        have preview := (takePreviewProducer_preview p.blocks taken).trans free
        refine ⟨?_, yields.fed, yields.events⟩
        rw [yields.pending]
        simp [BlockFlow.pending, preview]
  refine order.move blocks (running_congr (preTake_seams house p)) ?_ (by simp [preTake])
  simp [Pipeline.unstarted, phase, preTake]

/-- Taking a segment result changes nothing for the blocks. -/
theorem keeps_ensured (p : Pipeline) (peeked : Bool) :
    p.blocks.Keeps (p.ensured peeked).blocks := by
  unfold Pipeline.ensured Pipeline.ensureTake
  split
  · split <;> exact ⟨rfl, rfl, rfl⟩
  · exact ⟨rfl, rfl, rfl⟩

theorem keeps_select (p : Pipeline) (sampled : Sampled) (pops : PopOutcome) :
    p.blocks.Keeps (select house p sampled pops).blocks := by
  have same : (select house p sampled pops).blocks = (p.ensured sampled.peeked).blocks := by
    unfold select Pipeline.selectFrom Pipeline.emit
    dsimp only
    split
    · rfl
    · split <;> rfl
  rw [same]
  exact keeps_ensured p sampled.peeked

theorem inOrder_select {p : Pipeline} (order : InOrder p) (sampled : Sampled)
    (phase : p.phase = .select sampled) (pops : PopOutcome) :
    InOrder (select house p sampled pops) := by
  have running := running_congr (select_seams house p sampled pops)
  refine order.move (keeps_select house p sampled pops) running ?_ ?_ <;>
    rcases select_phase house p sampled pops with next | next | ⟨selection, next, -⟩ <;>
    simp [Pipeline.unstarted, phase, next]

theorem inOrder_rotate {p : Pipeline} (poised : Poised p) (order : InOrder p)
    {selection : Selection} (phase : p.phase = .rotate selection) {assets : AssetOutcome}
    (kept : OrderKept house p (.rotate assets)) : InOrder (rotate house p selection assets) := by
  have idle : p.unstarted = [] := by simp [Pipeline.unstarted, phase]
  cases due : p.rotates selection with
  | false =>
    rw [rotate_of_not_rotates house due]
    exact order.move ⟨rfl, rfl, rfl⟩ rfl idle.symm (by simp)
  | true =>
    rw [rotate_of_rotates house due]
    have ordered := kept selection (by simp [phase, Phase.rotating]) due
    have taken : selection.takeB = true := by
      simp only [Pipeline.rotates, Bool.and_eq_true] at due
      exact due.1
    have running : p.running = some p.block := by
      obtain ⟨fence, fenced⟩ := Option.ne_none_iff_exists'.mp (poised.fenced_of_block phase taken).1
      simp [Pipeline.running, fenced]
    unfold Pipeline.rotated
    split
    · rename_i producer flow found
      have yields := nextAtFence_yields p.blocks ordered found
      refine inOrder_opens order producer.block ⟨?_, ?_, ?_, ?_⟩ ?_
      · rw [(activate_blocks house _ producer).1, idle, yields.pending]
        rfl
      · exact yields.fed
      · rw [(activate_blocks house _ producer).2.2, running, ← yields.events]
        rfl
      · simp [Pipeline.running, Pipeline.block, Pipeline.activate]
      · simp [Pipeline.activate, Pipeline.initCadence, Phase.starts]
    · refine ⟨?_, ?_, by simp [Pipeline.initCadence]⟩
      · have accounted := order.accounted
        rw [idle] at accounted
        show p.blocks.fed = startedBlocks (p.blocks.events ++ [.completed p.block]) ++ [] ++ _
        rw [accounted, startedBlocks, startedBlocks, List.filterMap_append]
        simp [BlockEvent.startedBlock]
        rfl
      · show runningAfter none (p.blocks.events ++ [.completed p.block]) = some none
        rw [runningAfter_append, order.alternates, running]
        simp [runningAfter]

/-- A segment swap changes nothing for the blocks. -/
theorem keeps_commitSwap (p : Pipeline) (selection : Selection) (restamp : Bool) :
    p.blocks.Keeps (p.commitSwap house selection restamp).1.blocks := by
  have swapped : p.blocks.Keeps (p.performSegmentSwap house).blocks := by
    have chains : p.blocks.Keeps p.swapChains.blocks := by
      unfold Pipeline.swapChains
      split
      · exact ⟨rfl, rfl, rfl⟩
      · split <;> exact ⟨rfl, rfl, rfl⟩
    refine ⟨?_, chains.fed, chains.events⟩
    rw [← chains.pending]
    simp [Pipeline.performSegmentSwap, Pipeline.arm, BlockFlow.pending]
  unfold Pipeline.commitSwap
  dsimp only
  split <;> exact swapped

theorem keeps_segmentPostTake (p : Pipeline) (selection : Selection) (peeked : Bool)
    (readings : PostTakeReadings) :
    p.blocks.Keeps (segmentPostTake house p selection peeked readings).blocks := by
  have checked (q : Pipeline) (takeB : Bool) (origin : Int) :
      (q.checkAuthority takeB origin).blocks = q.blocks := by
    unfold Pipeline.checkAuthority
    split <;> rfl
  have ensured := keeps_ensured p peeked
  unfold segmentPostTake
  dsimp only
  rw [checked]
  split
  · unfold Pipeline.decideSwap
    split
    · exact ensured
    · split
      · exact ensured.trans (keeps_commitSwap house _ _ _)
      · exact ensured
  · exact ⟨rfl, rfl, rfl⟩

theorem inOrder_segmentPostTake {p : Pipeline} (order : InOrder p) {selection : Selection}
    {peeked : Bool} (phase : p.phase = .segmentPostTake selection peeked)
    (readings : PostTakeReadings) :
    InOrder (segmentPostTake house p selection peeked readings) := by
  have running : (segmentPostTake house p selection peeked readings).running = p.running := by
    rw [Pipeline.running, Pipeline.running, Pipeline.block, Pipeline.block, segmentPostTake_seams]
    split
    · rw [rebase_fence, rebase_block]
    · rfl
  refine order.move (keeps_segmentPostTake house p selection peeked readings) running ?_ ?_ <;>
    simp [segmentPostTake, Pipeline.unstarted, phase]

theorem inOrder_loadNext {p : Pipeline} (order : InOrder p) (phase : p.phase = .loadNext)
    {assets : AssetOutcome} (kept : OrderKept house p (.loadNext assets)) :
    InOrder (loadNext house p assets) := by
  have idle : p.unstarted = [] := by simp [Pipeline.unstarted, phase]
  unfold loadNext
  split
  · rename_i loads
    simp only [Bool.and_eq_true, Option.isNone_iff_eq_none] at loads
    dsimp only
    rcases loadLiveProducer_cases p.blocks p.seams.blockFenceFrame assets
      (kept (by simp [Pipeline.loadsNext, loads])) with ⟨producer, loaded, yields⟩ | same
    · rw [loaded]
      unfold Pipeline.exitGap
      refine inOrder_opens order producer.block ⟨?_, ?_, ?_, ?_⟩ ?_
      · rw [(activate_blocks house _ producer).1, idle, yields.pending]
        rfl
      · exact yields.fed
      · rw [(activate_blocks house _ producer).2.2]
        simp [Pipeline.running, loads.2, ← yields.events, Pipeline.initCadence]
      · simp [Pipeline.running, Pipeline.block, Pipeline.activate]
      · simp [Pipeline.activate, Pipeline.initCadence, Phase.starts]
    · rw [same, loads.1]
      exact order.move ⟨rfl, rfl, rfl⟩ rfl idle.symm (by simp)
  · exact order.move ⟨rfl, rfl, rfl⟩ rfl idle.symm (by simp)

/-- **One step**: a step that meets the condition keeps the blocks in order. -/
theorem inOrder_step {p next : Pipeline} {action : Action} (poised : Poised p) (order : InOrder p)
    (kept : OrderKept house p action) (taken : step house p action = some next) :
    InOrder next := by
  cases stepped_of_step house taken with
  | feed block => exact inOrder_feed order block
  | workerStart preparer moved =>
    refine inOrder_worker order (blocks_workerStart moved) ?_
    intro idle
    simp [idle, SeamPreparer.idle, SeamPreparer.workerStart] at moved
  | workerFinish assets preparer moved =>
    refine inOrder_worker order (blocks_workerFinish moved kept) ?_
    intro idle
    simp [idle, SeamPreparer.idle, SeamPreparer.workerFinish] at moved
  | loadFirst assets phase => exact inOrder_loadFirst order phase assets
  | activateFirst nowUtcMs phase => exact inOrder_activateFirst house poised order phase nowUtcMs
  | preTake phase => exact inOrder_preTake house order phase kept
  | sample readings phase =>
    refine order.move ⟨rfl, rfl, rfl⟩ rfl ?_ ?_ <;> simp [Pipeline.unstarted, phase, sample]
  | select pops sampled phase => exact inOrder_select house order sampled phase pops
  | rotate assets selection phase => exact inOrder_rotate house poised order phase kept
  | segmentPeek selection phase =>
    refine order.move ⟨rfl, rfl, rfl⟩ rfl ?_ ?_ <;> simp [Pipeline.unstarted, phase, segmentPeek]
  | segmentPostTake readings selection peeked phase =>
    exact inOrder_segmentPostTake house order phase readings
  | loadNext assets phase => exact inOrder_loadNext house order phase kept
  | startKickoff phase =>
    obtain ⟨keeps, live⟩ := keeps_kickoff p.blocks kept
    refine order.move keeps rfl ?_ (by simp)
    simp only [Pipeline.unstarted, phase, Pipeline.kickedOff, live]
  | rotateKickoff selection phase | loadKickoff phase | endKickoff phase =>
    refine order.move (keeps_kickoff p.blocks kept).1 rfl ?_ (by simp)
    simp [Pipeline.unstarted, phase]

end OneStep

/-! ### The run -/

section Run

/-- **The blocks are kept in order in every run whose steps keep it**: in every state such a run
reaches, the blocks started are a prefix of the blocks fed, and starts and completions alternate,
each completion being of the block started last. -/
theorem started_inOrder (sessionEpochUtcMs : Int) (actions : List Action) (final : Pipeline)
    (kept : Along (step house) (OrderKept house) (.initial sessionEpochUtcMs) actions)
    (ran : runActions (step house) (.initial sessionEpochUtcMs) actions = some final) :
    startedBlocks final.blocks.events <+: final.blocks.fed ∧
      (runningAfter none final.blocks.events).isSome = true := by
  obtain ⟨-, order⟩ := invariant_along (step house) (fun p => Poised p ∧ InOrder p)
    (OrderKept house)
    (fun _ _ _ here kept taken =>
      ⟨poised_step house here.1 taken, inOrder_step house here.1 here.2 kept taken⟩) actions
    ⟨poised_initial sessionEpochUtcMs, inOrder_initial sessionEpochUtcMs⟩ kept ran
  constructor
  · rw [order.accounted, List.append_assoc]
    exact List.prefix_append _ _
  · rw [order.alternates]
    rfl

/-- A block of two frames of content. -/
def contentBlock (blockId : String) (startUtcMs : Int) : FedBlock :=
  ⟨blockId, startUtcMs, startUtcMs + 80, [⟨0, 80, .content, .none, 0⟩]⟩

/-- Four blocks fed before the start, with the first one live and the second one preloaded. -/
def fourFed : List Action :=
  [.feed (contentBlock "A" 0), .feed (contentBlock "B" 80), .feed (contentBlock "C" 160),
    .feed (contentBlock "D" 240), .loadFirst ⟨true, some palFps⟩, .kickoff, .activateFirst 0,
    .workerStart, .workerFinish ⟨true, some palFps⟩]

/-- The worker is still on the third block when the fourth is submitted, and publishes both before
the second block goes live. -/
def thirdOverwritten : List Action :=
  fullIteration ++ [.workerStart] ++ fullIteration ++
    [.workerFinish ⟨true, some palFps⟩, .workerStart, .workerFinish ⟨true, some palFps⟩] ++
    fullFenceIteration ++ fullIteration ++ fullFenceIteration

/-- The result slot holds one block: the third is overwritten by the fourth and never starts. -/
theorem fourth_block_overtakes_third :
    ∃ final, runActions (step palFps) (.initial 0) (fourFed ++ thirdOverwritten) = some final ∧
      (startedBlocks final.blocks.events).map FedBlock.blockId = ["A", "B", "D"] ∧
      final.blocks.fed.map FedBlock.blockId = ["A", "B", "C", "D"] ∧
      ¬ startedBlocks final.blocks.events <+: final.blocks.fed := by
  obtain ⟨final, ran, started, fed⟩ := exists_run (step palFps) (.initial 0)
    (fourFed ++ thirdOverwritten)
    (fun final => (startedBlocks final.blocks.events).map FedBlock.blockId = ["A", "B", "D"] ∧
      final.blocks.fed.map FedBlock.blockId = ["A", "B", "C", "D"]) (by decide +kernel)
  refine ⟨final, ran, started, fed, ?_⟩
  intro inOrder
  have ids := inOrder.map FedBlock.blockId
  rw [started, fed] at ids
  revert ids
  decide

/-- The worker publishes the third block before the second goes live, and the fourth after the
third is taken. -/
def thirdInTime : List Action :=
  fullIteration ++ [.workerStart] ++ fullIteration ++ [.workerFinish ⟨true, some palFps⟩] ++
    fullFenceIteration ++ fullIteration ++ [.workerStart, .workerFinish ⟨true, some palFps⟩] ++
    fullFenceIteration

/-- The same four blocks with a worker that is in time: the third block is the third to start. -/
theorem third_block_inOrder :
    ∃ final, runActions (step palFps) (.initial 0) (fourFed ++ thirdInTime) = some final ∧
      (startedBlocks final.blocks.events).map FedBlock.blockId = ["A", "B", "C"] ∧
      startedBlocks final.blocks.events <+: final.blocks.fed ∧
      (runningAfter none final.blocks.events).isSome = true := by
  obtain ⟨final, ran, started⟩ := exists_run (step palFps) (.initial 0) (fourFed ++ thirdInTime)
    (fun final => (startedBlocks final.blocks.events).map FedBlock.blockId = ["A", "B", "C"])
    (by decide +kernel)
  exact ⟨final, ran, started, started_inOrder palFps 0 _ final (by decide +kernel) ran⟩

end Run

end Retrovue.Air.Blockplan
