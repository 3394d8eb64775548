/-
**The horizon manager** (`runtime/horizon_manager.py`), over the execution window store.

Times are epoch milliseconds, dates are proleptic ordinals, the clock is UTC. The planning pipeline
is a parameter: what it plans for a date, and which of its calls raise.

* `Policy.broadcastDateFor`, `Policy.dayStart`: broadcast days;
* `extendEpg`, `extendExecution`, `checkNextBlockReady`, `checkSeamContiguity`,
  `checkProactiveExtend`, `evaluateOnce`: the routines, with the attempt log they keep.
-/

import Retrovue.Core.Horizon.ExecutionWindowStore

namespace Retrovue.Core.Horizon

variable {Segment : Type}

/-! ### The parts -/

section Parts

/-- `ExecutionDayResult`. -/
structure ExecutionDayResult (Segment : Type) where
  endUtcMs : Int
  entries : List (ExecutionEntry Segment)

/-- The planning pipeline: its plan for each date, and the error code its n-th call raises with. -/
structure PlanningPipeline (Segment : Type) where
  plan : Date → ExecutionDayResult Segment
  raises : Nat → Option String

/-- `extend_execution_day`, at the n-th call. -/
def PlanningPipeline.extendExecutionDay (pipeline : PlanningPipeline Segment) (call : Nat)
    (date : Date) : Except String (ExecutionDayResult Segment) :=
  match pipeline.raises call with
  | some code => .error code
  | none => .ok (pipeline.plan date)

/-- What a manager is built with. -/
structure Policy (Segment : Type) where
  minEpgDays : Int := 3
  minExecutionHours : Int := 6
  programmingDayStartHour : Fin 24 := 6
  lockedWindowMs : Int := 0
  proactiveExtendThresholdMs : Int := 0
  pipeline : PlanningPipeline Segment

/-- `error_code` of an attempt. -/
inductive AttemptError
  /-- The code of the pipeline's exception. -/
  | pipeline (code : String)
  /-- `INV-HORIZON-LOCKED-IMMUTABLE-001-VIOLATED`. -/
  | lockedImmutable
  /-- `PIPELINE_EXHAUSTED`. -/
  | exhausted
  /-- The code of a rejected publish. -/
  | publish (code : Option PublishError)
  deriving DecidableEq, Repr

/-- `ExtensionAttempt`. -/
structure ExtensionAttempt where
  attemptId : String
  nowUtcMs : Int
  windowEndBeforeMs : Int
  windowEndAfterMs : Int
  reasonCode : String := "REASON_TIME_THRESHOLD"
  triggeredBy : String := "SCHED_MGR_POLICY"
  errorCode : Option AttemptError
  deriving DecidableEq, Repr

/-- `success`. -/
def ExtensionAttempt.success (attempt : ExtensionAttempt) : Bool := attempt.errorCode.isNone

/-- `SeamViolation`. -/
structure SeamViolation where
  leftBlockId : String
  leftEndUtcMs : Int
  rightBlockId : String
  rightStartUtcMs : Int
  deltaMs : Int
  deriving DecidableEq, Repr

/-- `HorizonManager`. -/
structure HorizonManager (Segment : Type) where
  epgFarthestDate : Option Date := none
  executionWindowEndUtcMs : Int := 0
  lastEvaluationUtcMs : Int := 0
  nextBlockCompliant : Bool := true
  coverageCompliant : Bool := true
  seamViolations : List SeamViolation := []
  proactiveExtensionTriggered : Bool := false
  nextGenerationId : Int := 0
  extensionAttemptCount : Nat := 0
  extensionSuccessCount : Nat := 0
  extensionAttemptLog : List ExtensionAttempt := []
  executionStore : Store Segment

end Parts

/-! ### Broadcast days -/

section Days

/-- The start of a broadcast day. -/
def Policy.dayStart (policy : Policy Segment) (date : Date) : Int :=
  (date - 719163) * 86400000 + (policy.programmingDayStartHour.val : Int) * 3600000

/-- `_day_end_utc_ms`: the next calendar day at the start hour. -/
def Policy.dayEndUtcMs (policy : Policy Segment) (date : Date) : Int := policy.dayStart (date + 1)

/-- `_broadcast_date_for`. -/
def Policy.broadcastDateFor (policy : Policy Segment) (utcMs : Int) : Date :=
  let date := utcMs / 86400000 + 719163
  if utcMs % 86400000 / 3600000 < (policy.programmingDayStartHour.val : Int) then date - 1 else date

/-- **A broadcast day holds the times from its start to the next one's.** -/
theorem Policy.broadcastDateFor_bounds (policy : Policy Segment) (utcMs : Int) :
    policy.dayStart (policy.broadcastDateFor utcMs) ≤ utcMs ∧
      utcMs < policy.dayStart (policy.broadcastDateFor utcMs + 1) := by
  have early := policy.programmingDayStartHour.isLt
  unfold Policy.broadcastDateFor Policy.dayStart
  dsimp only
  split <;> omega

theorem Policy.dayStart_lt_iff (policy : Policy Segment) (first second : Int) :
    policy.dayStart first < policy.dayStart second ↔ first < second := by
  unfold Policy.dayStart
  constructor <;> intro <;> omega

/-- The day that holds a time. -/
theorem Policy.broadcastDateFor_eq (policy : Policy Segment) {utcMs date : Int}
    (from_ : policy.dayStart date ≤ utcMs) (until_ : utcMs < policy.dayStart (date + 1)) :
    policy.broadcastDateFor utcMs = date := by
  have bounds := policy.broadcastDateFor_bounds utcMs
  have low := (policy.dayStart_lt_iff date (policy.broadcastDateFor utcMs + 1)).mp
    (from_.trans_lt bounds.2)
  have high := (policy.dayStart_lt_iff (policy.broadcastDateFor utcMs) (date + 1)).mp
    (bounds.1.trans_lt until_)
  exact le_antisymm (Int.lt_add_one_iff.mp high) (Int.lt_add_one_iff.mp low)

end Days

/-! ### The routines -/

section Routines

variable (policy : Policy Segment)

namespace HorizonManager

/-- The next attempt is counted. -/
def counted (manager : HorizonManager Segment) : HorizonManager Segment :=
  { manager with extensionAttemptCount := manager.extensionAttemptCount + 1 }

/-- The record of the attempt that is counted last, from the window end it began with. -/
def attempt (manager : HorizonManager Segment) (nowMs windowEndBefore : Int)
    (error : Option AttemptError) : ExtensionAttempt where
  attemptId := "ext-" ++ toString manager.extensionAttemptCount
  nowUtcMs := nowMs
  windowEndBeforeMs := windowEndBefore
  windowEndAfterMs := manager.executionWindowEndUtcMs
  errorCode := error

/-- An attempt is logged. -/
def logged (manager : HorizonManager Segment) (nowMs windowEndBefore : Int)
    (error : Option AttemptError) : HorizonManager Segment :=
  { manager with
    extensionAttemptLog :=
      manager.extensionAttemptLog ++ [manager.attempt nowMs windowEndBefore error] }

/-- A success is counted. -/
def succeeded (manager : HorizonManager Segment) : HorizonManager Segment :=
  { manager with extensionSuccessCount := manager.extensionSuccessCount + 1 }

/-- The window end follows a day that ends later. -/
def reaching (manager : HorizonManager Segment) (endMs : Int) : HorizonManager Segment :=
  if endMs > manager.executionWindowEndUtcMs then
    { manager with executionWindowEndUtcMs := endMs }
  else manager

/-- The day of the counted attempt is in the store: the window end follows. -/
def stored (manager : HorizonManager Segment) (store : Store Segment) (endMs : Int) :
    HorizonManager Segment :=
  reaching { manager with executionStore := store } endMs

/-- `epg_window_end_utc_ms`. -/
def epgWindowEndUtcMs (manager : HorizonManager Segment) : Int :=
  match manager.epgFarthestDate with
  | none => 0
  | some date => policy.dayEndUtcMs date

/-- What the schedule manager does for an EPG day: it exists, it is extended, or that raises. -/
inductive EpgDay
  | exists_
  | extended
  | raises

/-- The loop of `_extend_epg`; `false` when the extension raises. -/
def extendEpgLoop (targetEndMs : Int) (epg : Date → EpgDay) :
    Nat → Date → HorizonManager Segment → HorizonManager Segment × Bool
  | 0, _, manager => (manager, true)
  | days + 1, next, manager =>
    if manager.epgWindowEndUtcMs policy < targetEndMs then
      match epg next with
      | .raises => (manager, false)
      | _ => extendEpgLoop targetEndMs epg days (next + 1)
          { manager with epgFarthestDate := some next }
    else (manager, true)

/-- `_extend_epg`. -/
def extendEpg (manager : HorizonManager Segment) (currentBd : Date) (nowMs : Int)
    (epg : Date → EpgDay) : HorizonManager Segment × Bool :=
  extendEpgLoop policy (nowMs + policy.minEpgDays * 24 * 3600000) epg 30
    (match manager.epgFarthestDate with
      | some date => date + 1
      | none => currentBd) manager

/-- The day after the window end, and today while nothing is generated. -/
def nextDate (manager : HorizonManager Segment) (currentBd : Date) : Date :=
  if manager.executionWindowEndUtcMs > 0 then
    let next := policy.broadcastDateFor manager.executionWindowEndUtcMs
    if policy.dayEndUtcMs next ≤ manager.executionWindowEndUtcMs then next + 1 else next
  else currentBd

/-- The loop of `_extend_execution`; `false` when the store raises. -/
def extendExecutionLoop (nowMs targetEndMs : Int) :
    Nat → Date → HorizonManager Segment → HorizonManager Segment × Bool
  | 0, _, manager => (manager, true)
  | days + 1, next, manager =>
    if manager.executionWindowEndUtcMs < targetEndMs then
      let before := manager.executionWindowEndUtcMs
      match policy.pipeline.extendExecutionDay manager.counted.extensionAttemptCount next with
      | .error code => (manager.counted.logged nowMs before (some (.pipeline code)), true)
      | .ok result =>
        match manager.executionStore.addEntries result.entries with
        | .error _ => (manager.counted, false)
        | .ok store =>
          extendExecutionLoop nowMs targetEndMs days (next + 1)
            ((manager.counted.stored store result.endUtcMs).succeeded.logged nowMs before none)
    else (manager, true)

/-- `_extend_execution`, of at most thirty days. -/
def extendExecution (manager : HorizonManager Segment) (currentBd : Date) (nowMs : Int) :
    HorizonManager Segment × Bool :=
  extendExecutionLoop policy nowMs (nowMs + policy.minExecutionHours * 3600000) 30
    (manager.nextDate policy currentBd) manager

/-- `get_entry_at`: the first entry at a time, if it is locked. -/
def entryAt (store : Store Segment) (utcMs : Int) : Option (ExecutionEntry Segment) :=
  (store.entries.find? fun entry => entry.startUtcMs ≤ utcMs ∧ utcMs < entry.endUtcMs).filter
    fun entry => entry.isLocked

/-- `_check_next_block_ready`; `false` when the store raises. -/
def checkNextBlockReady (manager : HorizonManager Segment) (nowMs : Int) (currentBd : Date) :
    HorizonManager Segment × Bool :=
  if (entryAt manager.executionStore nowMs).isSome then
    ({ manager with nextBlockCompliant := true }, true)
  else
    let before := manager.executionWindowEndUtcMs
    if policy.lockedWindowMs > 0 then
      ({ manager.counted.logged nowMs before (some .lockedImmutable) with
        nextBlockCompliant := false }, true)
    else
      match policy.pipeline.extendExecutionDay manager.counted.extensionAttemptCount currentBd with
      | .error _ =>
        ({ manager.counted.logged nowMs before (some .exhausted) with
          nextBlockCompliant := false }, true)
      | .ok result =>
        match manager.executionStore.addEntries result.entries with
        | .error _ => (manager.counted, false)
        | .ok store =>
          let filled := manager.counted.stored store result.endUtcMs
          if (entryAt store nowMs).isSome then
            ({ filled.succeeded.logged nowMs before none with nextBlockCompliant := true }, true)
          else
            ({ filled.logged nowMs before (some .exhausted) with nextBlockCompliant := false },
              true)

/-- The seams between adjacent entries that do not meet. -/
def seamsOf : List (ExecutionEntry Segment) → List SeamViolation
  | left :: right :: rest =>
    let seams := seamsOf (right :: rest)
    if right.startUtcMs - left.endUtcMs = 0 then seams
    else
      { leftBlockId := left.blockId
        leftEndUtcMs := left.endUtcMs
        rightBlockId := right.blockId
        rightStartUtcMs := right.startUtcMs
        deltaMs := right.startUtcMs - left.endUtcMs } :: seams
  | _ => []

/-- `_check_seam_contiguity`. -/
def checkSeamContiguity (manager : HorizonManager Segment) : HorizonManager Segment :=
  let seams := seamsOf manager.executionStore.entries
  { manager with seamViolations := seams, coverageCompliant := seams.isEmpty }

/-- `_check_proactive_extend`; `storeNow` is what the store's own clock tells. -/
def checkProactiveExtend (manager : HorizonManager Segment) (nowMs : Int) (currentBd : Date)
    (storeNow : Int) : HorizonManager Segment :=
  if policy.proactiveExtendThresholdMs ≤ 0 then manager
  else if manager.executionWindowEndUtcMs - nowMs > policy.proactiveExtendThresholdMs then manager
  else
    let triggered : HorizonManager Segment :=
      counted { manager with proactiveExtensionTriggered := true }
    let before := manager.executionWindowEndUtcMs
    match policy.pipeline.extendExecutionDay triggered.extensionAttemptCount
        (manager.nextDate policy currentBd) with
    | .error code => triggered.logged nowMs before (some (.pipeline code))
    | .ok result =>
      match result.entries with
      | [] => (triggered.reaching result.endUtcMs).succeeded.logged nowMs before none
      | first :: _ =>
        let generation : Int := triggered.nextGenerationId + 1
        let published := triggered.executionStore.publishAtomicReplace storeNow false
          first.startUtcMs result.endUtcMs result.entries generation "REASON_TIME_THRESHOLD" false
        let allocated : HorizonManager Segment := { triggered with nextGenerationId := generation }
        if published.2.ok then
          (allocated.stored published.1 result.endUtcMs).succeeded.logged nowMs before none
        else
          logged { allocated with executionStore := published.1 } nowMs before
            (some (.publish published.2.errorCode))

/-- The part of `evaluate_once` after the execution depth. -/
def evaluateChecks (manager : HorizonManager Segment) (nowMs : Int) (currentBd : Date)
    (storeNow : Int) : HorizonManager Segment × Bool :=
  match manager.checkNextBlockReady policy nowMs currentBd with
  | (checked, false) => (checked, false)
  | (checked, true) =>
    (checked.checkSeamContiguity.checkProactiveExtend policy nowMs currentBd storeNow, true)

/-- The part of `evaluate_once` up to the execution depth. -/
def evaluateDepths (manager : HorizonManager Segment) (nowMs : Int) (epg : Date → EpgDay) :
    HorizonManager Segment × Bool :=
  let currentBd := policy.broadcastDateFor nowMs
  let begun :=
    { manager with lastEvaluationUtcMs := nowMs, proactiveExtensionTriggered := false }
  let epgDone :=
    if max 0 (begun.epgWindowEndUtcMs policy - nowMs) < policy.minEpgDays * 24 * 3600000 then
      begun.extendEpg policy currentBd nowMs epg
    else (begun, true)
  if epgDone.2 then
    if max 0 (epgDone.1.executionWindowEndUtcMs - nowMs) < policy.minExecutionHours * 3600000 then
      epgDone.1.extendExecution policy currentBd nowMs
    else (epgDone.1, true)
  else epgDone

/-- **`evaluate_once`**; `false` when it raises. -/
def evaluateOnce (manager : HorizonManager Segment) (nowMs : Int) (epg : Date → EpgDay)
    (storeNow : Int) : HorizonManager Segment × Bool :=
  match manager.evaluateDepths policy nowMs epg with
  | (extended, false) => (extended, false)
  | (extended, true) =>
    extended.evaluateChecks policy nowMs (policy.broadcastDateFor nowMs) storeNow

end HorizonManager

end Routines

end Retrovue.Core.Horizon
