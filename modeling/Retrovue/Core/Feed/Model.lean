/-
**The feed protocol between the Core producer and AIR's block queue.**

Core's side is `BlockPlanProducer` (`runtime/channel_manager.py`) with its `PlayoutSession`
(`runtime/playout_session.py`), AIR's side is `PlayoutControlImpl` (`playout_service.cpp`).

* `Producer`: the feed controller's fields; `onBlockStarted`, `onBlockComplete`, `onPacedTick`,
  `onSessionEnd`, `stop`: its callbacks, each run under the producer's lock;
* `feedAhead`: the gates of `_feed_ahead` before its loop. The loop itself is a run of
  `World.feedIteration` steps, so that AIR can pop its queue between two feeds of one loop;
* `Air.feedBlockPlan`: the RPC handler, `PlayoutSession.feed` the client with its three replies;
* `World.step`: one step of the two parties and of the environment.

Block segments, logging and Prometheus metrics are read by no decision of the protocol and are
left out.
-/

import Mathlib

namespace Retrovue.Core.Feed

/-! ### Blocks and the schedule service -/

section Blocks

/-- `ScheduledBlock`: a block as the schedule service hands it out. -/
structure ScheduledBlock where
  blockId : String
  startUtcMs : Int
  endUtcMs : Int
  deriving DecidableEq, Repr

/-- `ScheduledBlock.duration_ms`. -/
def ScheduledBlock.durationMs (block : ScheduledBlock) : Int := block.endUtcMs - block.startUtcMs

/-- `BlockPlan`: the outbound block. -/
structure BlockPlan where
  blockId : String
  startUtcMs : Int
  endUtcMs : Int
  deriving DecidableEq, Repr

/-- `ScheduleService.get_block_at` for the producer's channel; `none` is a planning gap. -/
abbrev ScheduleService := Int → Option ScheduledBlock

/-- `_generate_next_block`: a join-in-progress offset moves the start forward inside the block. -/
def generateNextBlock (scheduled : ScheduledBlock) (jipOffsetMs nowUtcMs : Int) : BlockPlan :=
  let startMs :=
    if jipOffsetMs > 0 ∧ nowUtcMs > 0 then
      scheduled.startUtcMs + max 0 (min (nowUtcMs - scheduled.startUtcMs) scheduled.durationMs)
    else scheduled.startUtcMs
  ⟨scheduled.blockId, startMs, scheduled.endUtcMs⟩

end Blocks

/-! ### AIR -/

section AirSide

/-- AIR's `blockplan_session_`, with the history of what was pushed to its queue. -/
structure Air where
  active : Bool
  channelId : Int
  maxQueueDepth : Int
  blockQueue : List BlockPlan
  blocksFed : Nat
  /-- Every block pushed to `block_queue` since the session started, in order. -/
  appended : List BlockPlan
  deriving DecidableEq, Repr

/-- `FeedBlockPlanResponse`. -/
structure FeedResponse where
  success : Bool
  queueFull : Bool
  deriving DecidableEq, Repr

/-- The handler's checks before it looks at the queue. -/
def Air.hasSession (air : Air) (channelId : Int) : Bool :=
  air.active && air.channelId == channelId

/-- The capacity check. -/
def Air.full (air : Air) : Bool := decide (air.maxQueueDepth ≤ air.blockQueue.length)

/-- `push_back` on the block queue. -/
def Air.push (air : Air) (block : BlockPlan) : Air :=
  { air with
    blockQueue := air.blockQueue ++ [block]
    blocksFed := air.blocksFed + 1
    appended := air.appended ++ [block] }

/-- `PlayoutControlImpl::FeedBlockPlan`: neither contiguity nor duplicates are checked. -/
def Air.feedBlockPlan (air : Air) (channelId : Int) (block : BlockPlan) : Air × FeedResponse :=
  if !air.hasSession channelId then (air, ⟨false, false⟩)
  else if air.full then (air, ⟨false, true⟩)
  else (air.push block, ⟨true, false⟩)

/-- The execution thread takes the front block. -/
def Air.pop (air : Air) : Option (BlockPlan × Air) :=
  match air.blockQueue with
  | [] => none
  | block :: rest => some (block, { air with blockQueue := rest })

/-- `StartBlockPlanSession`: the seeded blocks must be contiguous; the depth is at least two. -/
def Air.startBlockPlanSession (channelId : Int) (blockA blockB : BlockPlan) (maxQueueDepth : Int) :
    Option Air :=
  if blockA.endUtcMs ≠ blockB.startUtcMs then none
  else some
    { active := true
      channelId := channelId
      maxQueueDepth := if maxQueueDepth ≥ 2 then maxQueueDepth else 2
      blockQueue := [blockA, blockB]
      blocksFed := 2
      appended := [blockA, blockB] }

end AirSide

/-! ### The RPC client -/

section Client

/-- `FeedResult`. -/
inductive FeedResult
  | accepted
  | queueFull
  | error
  deriving DecidableEq, Repr

/-- What the transport does with one `FeedBlockPlan` call. -/
inductive Delivery
  /-- The request is answered. -/
  | answered
  /-- `grpc.RpcError` before AIR has handled the request. -/
  | requestLost
  /-- `grpc.RpcError` after AIR has handled the request, such as an expired deadline. -/
  | replyLost
  deriving DecidableEq, Repr

/-- `PlayoutSession` with the two flags that `feed` checks. -/
structure PlayoutSession where
  channelIdInt : Int
  sessionEnded : Bool
  isRunning : Bool
  deriving DecidableEq, Repr

/-- The client's reading of a response. -/
def FeedResponse.result (response : FeedResponse) : FeedResult :=
  if response.success then .accepted
  else if response.queueFull then .queueFull
  else .error

/-- `PlayoutSession.feed`. -/
def PlayoutSession.feed (session : PlayoutSession) (delivery : Delivery) (air : Air)
    (block : BlockPlan) : Air × FeedResult :=
  if session.sessionEnded then (air, .error)
  else if !session.isRunning then (air, .error)
  else
    match delivery with
    | .answered =>
      let (air, response) := air.feedBlockPlan session.channelIdInt block
      (air, response.result)
    | .requestLost => (air, .error)
    | .replyLost => ((air.feedBlockPlan session.channelIdInt block).1, .error)

/-- AIR appends a block that this session sends now. -/
def PlayoutSession.appends (session : PlayoutSession) (air : Air) : Bool :=
  !session.sessionEnded && session.isRunning && air.hasSession session.channelIdInt && !air.full

/-- **What one feed can do**, the answer that Core gets and AIR's queue together. -/
theorem PlayoutSession.feed_cases (session : PlayoutSession) (delivery : Delivery) (air : Air)
    (block : BlockPlan) :
    (session.feed delivery air block = (air.push block, .accepted) ∧ air.full = false) ∨
    (session.feed delivery air block = (air, .queueFull) ∧ air.full = true) ∨
    session.feed delivery air block = (air, .error) ∨
    (session.feed delivery air block = (air.push block, .error) ∧ delivery = .replyLost ∧
      session.appends air = true) := by
  unfold PlayoutSession.feed
  by_cases ended : session.sessionEnded = true
  · simp [ended]
  by_cases running : session.isRunning = true
  · cases delivery with
    | requestLost => simp [ended, running]
    | answered =>
      by_cases known : air.hasSession session.channelIdInt = true <;>
        by_cases full : air.full = true <;>
        simp [ended, running, known, full, Air.feedBlockPlan, FeedResponse.result]
    | replyLost =>
      by_cases known : air.hasSession session.channelIdInt = true <;>
        by_cases full : air.full = true <;>
        simp [ended, running, known, full, Air.feedBlockPlan, PlayoutSession.appends]
  · simp [ended, running]

/-- `PlayoutSession.seed` checks contiguity before it calls AIR. -/
def PlayoutSession.seed (session : PlayoutSession) (blockA blockB : BlockPlan)
    (maxQueueDepth : Int) : Option Air :=
  if blockA.endUtcMs ≠ blockB.startUtcMs then none
  else Air.startBlockPlanSession session.channelIdInt blockA blockB maxQueueDepth

end Client

/-! ### The producer -/

section ProducerSide

/-- `_FeedState`. -/
inductive FeedState
  | created
  | seeded
  | running
  | draining
  deriving DecidableEq, Repr

/-- The producer's configuration; `_queue_depth` is at least two by construction. -/
structure Settings where
  queueDepth : Int
  two_le : 2 ≤ queueDepth
  feedAheadHorizonMs : Int
  preloadBudgetMs : Int

/-- `__init__`: the configured values or their defaults. -/
def Settings.ofConfiguration (queueDepth feedAheadHorizonMs preloadBudgetMs : Option Int) :
    Settings :=
  { queueDepth := max 2 (queueDepth.getD 3)
    two_le := Int.le_max_left _ _
    feedAheadHorizonMs := feedAheadHorizonMs.getD 20000
    preloadBudgetMs := preloadBudgetMs.getD 10000 }

/-- `_AsRunAnnotation` of type `missed_ready_by`, its only type here. -/
structure AsRunAnnotation where
  blockId : String
  timestampUtcMs : Int
  latenessMs : Int
  deriving DecidableEq, Repr

/-- The fields of `BlockPlanProducer` that the feed controller reads or writes. -/
structure Producer where
  session : Option PlayoutSession
  started : Bool
  sessionEnded : Bool
  sessionEndReason : Option String
  fedBlockIds : Finset String
  inFlightBlockIds : Finset String
  blockIndex : Nat
  nextBlockStartMs : Int
  pendingBlock : Option BlockPlan
  feedState : FeedState
  maxDeliveredEndUtcMs : Int
  blockStartedSupported : Bool
  feedTickCounter : Nat
  feedCredits : Int
  consecutiveFeedErrors : Nat
  errorBackoffRemaining : Nat
  readyByMissCount : Nat
  lateDecisionCount : Nat
  nextBlockFirstDueUtcMs : Int
  asrunAnnotations : List AsRunAnnotation
  deriving DecidableEq

/-- `ERROR_BACKOFF_BASE_TICKS`. -/
def errorBackoffBaseTicks : Nat := 4

/-- `ERROR_BACKOFF_MAX_TICKS`. -/
def errorBackoffMaxTicks : Nat := 112

/-- `FEED_AHEAD_TICK_DIVISOR`. -/
def feedAheadTickDivisor : Nat := 8

namespace Producer

variable (settings : Settings)

/-- `_advance_cursor`. -/
def advanceCursor (p : Producer) (block : BlockPlan) : Producer :=
  { p with blockIndex := p.blockIndex + 1, nextBlockStartMs := block.endUtcMs }

/-- `_try_feed_block` after the session has answered: what each result does to the controller. -/
def recordFeedResult (p : Producer) (block : BlockPlan) : FeedResult → Producer
  | .accepted =>
    { p.advanceCursor block with
      pendingBlock := none
      feedCredits := max 0 (p.feedCredits - 1)
      inFlightBlockIds := insert block.blockId p.inFlightBlockIds
      consecutiveFeedErrors := 0
      errorBackoffRemaining := 0 }
  | .queueFull => { p with pendingBlock := some block, feedCredits := 0 }
  | .error =>
    { p with
      pendingBlock := some block
      consecutiveFeedErrors := p.consecutiveFeedErrors + 1
      errorBackoffRemaining :=
        min (errorBackoffBaseTicks * 2 ^ p.consecutiveFeedErrors) errorBackoffMaxTicks }

/-- `_compute_runway_ms`. -/
def computeRunwayMs (p : Producer) (clockMs : Int) : Int :=
  if p.maxDeliveredEndUtcMs = 0 then 0 else max 0 (p.maxDeliveredEndUtcMs - clockMs)

/-- The start of the block that will be tried next: the pending one's, else the cursor. -/
def nextStartMs (p : Producer) : Int :=
  match p.pendingBlock with
  | some block => block.startUtcMs
  | none => p.nextBlockStartMs

/-- The deadline pre-evaluation of `_feed_ahead`, made before the credit gate. -/
def preEvaluateDeadline (p : Producer) (nowUtcMs : Int) : Producer :=
  if p.nextBlockFirstDueUtcMs = 0 ∧ p.nextStartMs > 0 ∧
      nowUtcMs ≥ p.nextStartMs - settings.preloadBudgetMs then
    { p with nextBlockFirstDueUtcMs := nowUtcMs }
  else p

/-- The loop of `_feed_ahead` in progress: its clock reading and its iterations left. -/
structure FeedLoop where
  nowUtcMs : Int
  remaining : Nat
  deriving DecidableEq, Repr

/-- `_feed_ahead` up to its loop; `none` is a return before it. -/
def feedAhead (p : Producer) (nowUtcMs : Int) : Producer × Option FeedLoop :=
  if p.feedState ≠ .running then (p, none)
  else if p.sessionEnded ∨ ¬ p.started ∨ p.session.isNone then (p, none)
  else if p.feedCredits ≤ 0 then (p.preEvaluateDeadline settings nowUtcMs, none)
  else (p.preEvaluateDeadline settings nowUtcMs,
    some ⟨nowUtcMs, (min p.feedCredits settings.queueDepth).toNat⟩)

/-- The block an iteration tries: the pending one, else the next of the schedule. -/
def candidate (schedule : ScheduleService) (p : Producer) : Option BlockPlan :=
  match p.pendingBlock with
  | some block => some block
  | none => (schedule p.nextBlockStartMs).map fun scheduled => generateNextBlock scheduled 0 0

/-- The three triggers of an iteration. -/
def feedTriggered (p : Producer) (nowUtcMs clockMs : Int) (block : BlockPlan) : Bool :=
  let deadlineDue := decide (nowUtcMs ≥ block.startUtcMs - settings.preloadBudgetMs)
  let runwayLow := decide (p.computeRunwayMs clockMs < settings.feedAheadHorizonMs)
  let fillToDepth := decide (p.feedCredits > 0)
  deadlineDue || runwayLow || fillToDepth

/-- When the block was first noticed to be due: the tracker, or now. -/
def firstDueUtcMs (p : Producer) (nowUtcMs : Int) : Int :=
  if p.nextBlockFirstDueUtcMs = 0 then nowUtcMs else p.nextBlockFirstDueUtcMs

/-- The miss policy: a miss or a late decision is counted and changes nothing else. -/
def recordMiss (p : Producer) (nowUtcMs clockMs : Int) (block : BlockPlan) : Producer :=
  if p.firstDueUtcMs nowUtcMs > block.startUtcMs then
    { p with
      readyByMissCount := p.readyByMissCount + 1
      asrunAnnotations :=
        p.asrunAnnotations ++ [⟨block.blockId, clockMs, nowUtcMs - block.startUtcMs⟩] }
  else if nowUtcMs > block.startUtcMs then
    { p with lateDecisionCount := p.lateDecisionCount + 1 }
  else p

/-- After an accepted feed: the first-due tracker is reset and the runway grows. -/
def recordDelivered (p : Producer) (block : BlockPlan) : Producer :=
  { p with
    nextBlockFirstDueUtcMs := 0
    maxDeliveredEndUtcMs := max p.maxDeliveredEndUtcMs block.endUtcMs }

/-- One more credit, never above the queue depth. -/
def grantCredit (p : Producer) : Producer :=
  { p with feedCredits := min (p.feedCredits + 1) settings.queueDepth }

/-- The transition `SEEDED → RUNNING`. -/
def enterRunning (p : Producer) : Producer :=
  if p.feedState = .seeded then { p with feedState := .running } else p

/-- AIR has shown that it emits BlockStarted. -/
def markBlockStartedSupported (p : Producer) : Producer := { p with blockStartedSupported := true }

/-- `_on_block_started`. -/
def onBlockStarted (p : Producer) (nowUtcMs : Int) : Producer × Option FeedLoop :=
  if p.sessionEnded ∨ ¬ p.started then (p, none)
  else feedAhead settings
    (enterRunning (grantCredit settings p.markBlockStartedSupported)) nowUtcMs

/-- The completed block moves from the in-flight ids to the fed ids. -/
def recordCompleted (p : Producer) (blockId : String) : Producer :=
  { p with
    fedBlockIds := insert blockId p.fedBlockIds
    inFlightBlockIds := p.inFlightBlockIds.erase blockId }

/-- The credit on completion, for an AIR that emits no BlockStarted. -/
def grantFallbackCredit (p : Producer) : Producer :=
  if p.blockStartedSupported then p else p.grantCredit settings

/-- AIR is responsive: the error state is cleared. -/
def clearFeedErrors (p : Producer) : Producer :=
  { p with consecutiveFeedErrors := 0, errorBackoffRemaining := 0 }

/-- `_on_block_complete`. -/
def onBlockComplete (p : Producer) (blockId : String) (nowUtcMs : Int) :
    Producer × Option FeedLoop :=
  if p.sessionEnded then (p, none)
  else if ¬ p.started ∨ p.session.isNone then (p, none)
  else if blockId ∈ p.fedBlockIds then (p, none)
  else if blockId ∉ p.inFlightBlockIds then (p, none)
  else feedAhead settings
    (clearFeedErrors (grantFallbackCredit settings (p.recordCompleted blockId).enterRunning))
    nowUtcMs

/-- `_on_session_end`. -/
def onSessionEnd (p : Producer) (reason : String) : Producer :=
  { p with sessionEnded := true, sessionEndReason := some reason, feedState := .draining }

/-- A tick is counted. -/
def countTick (p : Producer) : Producer := { p with feedTickCounter := p.feedTickCounter + 1 }

/-- One tick of the error backoff. -/
def backOff (p : Producer) : Producer :=
  { p with errorBackoffRemaining := p.errorBackoffRemaining - 1 }

/-- `on_paced_tick`; `tornDown` says that `_advance_teardown` consumed the tick. -/
def onPacedTick (p : Producer) (tornDown : Bool) (nowUtcMs : Int) : Producer × Option FeedLoop :=
  if tornDown then (p, none)
  else if p.countTick.feedTickCounter % feedAheadTickDivisor ≠ 0 then (p.countTick, none)
  else if p.countTick.errorBackoffRemaining > 0 then (p.countTick.backOff, none)
  else if p.countTick.feedState = .running then feedAhead settings p.countTick nowUtcMs
  else (p.countTick, none)

/-- The producer before `start` and after `_cleanup`. -/
def created (inFlightBlockIds : Finset String) : Producer :=
  { session := none
    started := false
    sessionEnded := false
    sessionEndReason := none
    fedBlockIds := ∅
    inFlightBlockIds := inFlightBlockIds
    blockIndex := 0
    nextBlockStartMs := 0
    pendingBlock := none
    feedState := .created
    maxDeliveredEndUtcMs := 0
    blockStartedSupported := false
    feedTickCounter := 0
    feedCredits := 0
    consecutiveFeedErrors := 0
    errorBackoffRemaining := 0
    readyByMissCount := 0
    lateDecisionCount := 0
    nextBlockFirstDueUtcMs := 0
    asrunAnnotations := [] }

/-- `stop`: `_cleanup` resets everything but the in-flight ids, which `start` clears. -/
def stop (p : Producer) : Producer :=
  if ¬ p.started then p else created p.inFlightBlockIds

end Producer

end ProducerSide

/-! ### The two parties together -/

section System

open Producer

/-- Core and AIR; `feeding` is the loop of `_feed_ahead` while it holds the producer's lock. -/
structure World where
  producer : Producer
  air : Air
  feeding : Option FeedLoop

/-- The producer after a successful `start`: the two seeded blocks are in AIR's queue. -/
def seededProducer (settings : Settings) (session : PlayoutSession) (blockA blockB : BlockPlan) :
    Producer :=
  { ((created ∅).advanceCursor blockA).advanceCursor blockB with
    session := some session
    started := true
    inFlightBlockIds := {blockA.blockId, blockB.blockId}
    feedState := .seeded
    maxDeliveredEndUtcMs := blockB.endUtcMs
    feedCredits := settings.queueDepth - 2 }

/-- `BlockPlanProducer.start`: two blocks are resolved, generated and seeded; `none` is a failed
start. Only the first block carries the join-in-progress offset. -/
def start (schedule : ScheduleService) (settings : Settings) (session : PlayoutSession)
    (joinUtcMs jipOffsetMs : Int) : Option World := do
  let currentEntry ← schedule joinUtcMs
  let blockA := generateNextBlock currentEntry jipOffsetMs joinUtcMs
  let nextEntry ← schedule blockA.endUtcMs
  let blockB := generateNextBlock nextEntry 0 0
  let air ← session.seed blockA blockB settings.queueDepth
  some ⟨seededProducer settings session blockA blockB, air, none⟩

namespace World

/-- `_try_feed_block`. -/
def tryFeedBlock (w : World) (delivery : Delivery) (block : BlockPlan) : World × FeedResult :=
  match w.producer.session with
  | none => (w, .error)
  | some session =>
    let answer := session.feed delivery w.air block
    ({ w with air := answer.1, producer := w.producer.recordFeedResult block answer.2 }, answer.2)

/-- The world with the miss policy applied to the block about to be tried. -/
def noteMiss (w : World) (nowUtcMs clockMs : Int) (block : BlockPlan) : World :=
  { w with producer := w.producer.recordMiss nowUtcMs clockMs block }

/-- The loop after an accepted feed: the credit re-check, then the end of the range. -/
def continueLoop (loop : FeedLoop) (w : World) : World :=
  { w with
    feeding :=
      if w.producer.feedCredits ≤ 0 ∨ loop.remaining ≤ 1 then none
      else some { loop with remaining := loop.remaining - 1 } }

/-- One iteration of the loop of `_feed_ahead`; each `return` of the body releases the lock. -/
def feedIteration (schedule : ScheduleService) (settings : Settings) (clockMs : Int)
    (delivery : Delivery) (loop : FeedLoop) (w : World) : World :=
  match w.producer.candidate schedule with
  | none => { w with feeding := none }
  | some block =>
    if !w.producer.feedTriggered settings loop.nowUtcMs clockMs block then
      { w with feeding := none }
    else
      let tried := (w.noteMiss loop.nowUtcMs clockMs block).tryFeedBlock delivery block
      if tried.2 ≠ .accepted then { tried.1 with feeding := none }
      else continueLoop loop { tried.1 with producer := tried.1.producer.recordDelivered block }

/-- **What one iteration can do.** -/
inductive Iterated (schedule : ScheduleService) (clockMs : Int) (delivery : Delivery)
    (loop : FeedLoop) (w : World) : World → Prop
  /-- No block, or no trigger. -/
  | idle : Iterated schedule clockMs delivery loop w { w with feeding := none }
  /-- There is no session to feed. -/
  | unsent (block : BlockPlan) : w.producer.session = none →
      Iterated schedule clockMs delivery loop w
        { w.noteMiss loop.nowUtcMs clockMs block with feeding := none }
  | accepted (block : BlockPlan) : w.producer.session.isSome = true →
      w.producer.candidate schedule = some block → w.air.full = false →
      Iterated schedule clockMs delivery loop w
        (continueLoop loop
          { w with
            air := w.air.push block
            producer := ((w.producer.recordMiss loop.nowUtcMs clockMs block).recordFeedResult
              block .accepted).recordDelivered block })
  | queueFull (block : BlockPlan) : w.producer.session.isSome = true →
      w.producer.candidate schedule = some block → w.air.full = true →
      Iterated schedule clockMs delivery loop w
        { w with
          producer :=
            (w.producer.recordMiss loop.nowUtcMs clockMs block).recordFeedResult block .queueFull
          feeding := none }
  | error (block : BlockPlan) : w.producer.session.isSome = true →
      w.producer.candidate schedule = some block →
      Iterated schedule clockMs delivery loop w
        { w with
          producer :=
            (w.producer.recordMiss loop.nowUtcMs clockMs block).recordFeedResult block .error
          feeding := none }
  /-- AIR has appended the block and Core has read an error. -/
  | unacknowledged (block : BlockPlan) (session : PlayoutSession) :
      w.producer.candidate schedule = some block → w.producer.session = some session →
      delivery = .replyLost → session.appends w.air = true →
      Iterated schedule clockMs delivery loop w
        { w with
          air := w.air.push block
          producer :=
            (w.producer.recordMiss loop.nowUtcMs clockMs block).recordFeedResult block .error
          feeding := none }

theorem noteMiss_session (w : World) (nowUtcMs clockMs : Int) (block : BlockPlan) :
    (w.noteMiss nowUtcMs clockMs block).producer.session = w.producer.session := by
  unfold noteMiss recordMiss
  split
  · rfl
  · split <;> rfl

/-- **Every iteration is one of these.** -/
theorem feedIteration_cases (schedule : ScheduleService) (settings : Settings) (clockMs : Int)
    (delivery : Delivery) (loop : FeedLoop) (w : World) :
    Iterated schedule clockMs delivery loop w
      (w.feedIteration schedule settings clockMs delivery loop) := by
  unfold feedIteration
  cases found : w.producer.candidate schedule with
  | none => exact .idle
  | some block =>
    dsimp only
    split
    · exact .idle
    unfold tryFeedBlock
    rw [noteMiss_session]
    cases alive : w.producer.session with
    | none => exact .unsent block alive
    | some session =>
      have live : w.producer.session.isSome = true := by rw [alive]; rfl
      dsimp only
      have air : (w.noteMiss loop.nowUtcMs clockMs block).air = w.air := rfl
      rw [air]
      rcases session.feed_cases delivery w.air block with
        ⟨answer, room⟩ | ⟨answer, full⟩ | answer | ⟨answer, lost, appends⟩
      · simp only [answer]
        exact .accepted block live found room
      · simp only [answer]
        exact .queueFull block live found full
      · simp only [answer]
        exact .error block live found
      · simp only [answer]
        exact .unacknowledged block session found alive lost appends

end World

/-- What can happen next. The callbacks, the tick and `stop` wait for the lock; AIR does not. -/
inductive Action
  | blockStarted (blockId : String) (nowUtcMs : Int)
  | blockCompleted (blockId : String) (nowUtcMs : Int)
  | sessionEnd (reason : String)
  | pacedTick (tornDown : Bool) (nowUtcMs : Int)
  | stop
  | feed (clockMs : Int) (delivery : Delivery)
  | sessionFlags (sessionEnded isRunning : Bool)
  | airPop
  | airStop
  deriving DecidableEq, Repr

namespace World

variable (schedule : ScheduleService) (settings : Settings)

/-- A callback runs when no loop holds the lock. -/
def callback (w : World) (result : Producer × Option FeedLoop) : Option World :=
  match w.feeding with
  | some _ => none
  | none => some { w with producer := result.1, feeding := result.2 }

/-- One step. -/
def step (w : World) : Action → Option World
  | .blockStarted _ nowUtcMs => w.callback (w.producer.onBlockStarted settings nowUtcMs)
  | .blockCompleted blockId nowUtcMs =>
    w.callback (w.producer.onBlockComplete settings blockId nowUtcMs)
  | .sessionEnd reason => w.callback (w.producer.onSessionEnd reason, none)
  | .pacedTick tornDown nowUtcMs => w.callback (w.producer.onPacedTick settings tornDown nowUtcMs)
  | .stop => w.callback (w.producer.stop, none)
  | .feed clockMs delivery =>
    w.feeding.map fun loop => w.feedIteration schedule settings clockMs delivery loop
  | .sessionFlags sessionEnded isRunning =>
    some { w with
      producer.session := w.producer.session.map fun session =>
        { session with sessionEnded := sessionEnded, isRunning := isRunning } }
  | .airPop => w.air.pop.map fun (_, air) => { w with air := air }
  | .airStop => some { w with air.active := false }

end World

end System

end Retrovue.Core.Feed
