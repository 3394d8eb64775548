/-
**The horizon manager's books** (`runtime/horizon_manager.py`): attempts counted, attempts logged,
generations handed out.

The pipeline may raise at any attempt, answer with the end of a day alone, or with entries; the store
may be absent, and any of its calls may raise.

* `Books`: the manager, with the generation ids it has handed to the store and the calls it has made;
* `Books.evaluateOnce`: `evaluate_once`; `evaluateOnce_outcome`: with entries planned and a store that
  does not fail by itself, it is the evaluation of `HorizonManager`;
* `Books.Balanced`: what the books say of each other at any time, with some attempts still open;
* `Books.Exact`: what they should say between evaluations;
* `books_exact_iff`: they do exactly when the store has taken every call.

An attempt is counted before the pipeline is asked, and logged after the store has its entries. A store
that raises leaves it counted and not logged.
-/

import Retrovue.Core.Horizon.StoreIntegrity
import Retrovue.Core.Horizon.HorizonManager

namespace Retrovue.Core.Horizon

variable {Segment : Type}

/-! ### Answers and calls -/

section Answers

/-- What the pipeline does: it raises, or answers with the end of a day, alone or with an `entries`
attribute. -/
inductive PipelineAnswer (Segment : Type)
  | raises (code : String)
  | legacy (endUtcMs : Int)
  | day (endUtcMs : Int) (entries : Option (List (ExecutionEntry Segment)))

/-- The end of the day and its entries, if there are any. -/
def PipelineAnswer.result :
    PipelineAnswer Segment → Except String (Int × Option (List (ExecutionEntry Segment)))
  | .raises code => .error code
  | .legacy endUtcMs => .ok (endUtcMs, none)
  | .day endUtcMs entries => .ok (endUtcMs, entries)

/-- What an evaluation meets: its time, the schedule manager, the pipeline and the store's failures by
the number of the attempt, and the store's clock. -/
structure Evaluation (Segment : Type) where
  nowMs : Int
  epg : Date → HorizonManager.EpgDay
  answers : Nat → Date → PipelineAnswer Segment
  storeRaises : Nat → Bool
  storeNow : Int

/-- A call of the store with the entries of an attempt: `add_entries`, or a publish, which checks none
of them. -/
structure StoreCall (Segment : Type) where
  checks : Bool
  entries : List (ExecutionEntry Segment)
  raises : Bool

/-- An entry with its lineage. -/
def ExecutionEntry.Derived (enforce : Bool) (entry : ExecutionEntry Segment) : Prop :=
  (enforce = true → entry.isOperatorOverride = true ∨ entry.transmissionLogRef ≠ none) ∧
    entry.channelId ≠ "" ∧ entry.programmingDayDate ≠ none

instance (enforce : Bool) (entry : ExecutionEntry Segment) : Decidable (entry.Derived enforce) :=
  inferInstanceAs (Decidable (_ ∧ _ ∧ _))

/-- **A call that the store takes.** -/
def StoreCall.Taken (enforce : Bool) (call : StoreCall Segment) : Prop :=
  call.raises = false ∧ (call.checks = true → ∀ entry ∈ call.entries, entry.Derived enforce)

instance (enforce : Bool) (call : StoreCall Segment) : Decidable (call.Taken enforce) :=
  inferInstanceAs (Decidable (_ ∧ _))

/-- The check of the store is about lineage. -/
theorem checkEntry_ok_iff (store : Store Segment) (entry : ExecutionEntry Segment) :
    store.checkEntry entry = .ok () ↔ entry.Derived store.enforceDerivationFromPlaylist := by
  unfold Store.checkEntry ExecutionEntry.Derived
  split_ifs with derived lineage
  · simp only [false_iff]
    tauto
  · simp only [false_iff]
    tauto
  · simp only [true_iff]
    tauto

end Answers

/-! ### The books -/

section Routines

/-- **The manager's books**: the manager, the generation ids handed to the store, and the calls of the
store. -/
structure Books (Segment : Type) where
  manager : HorizonManager Segment
  handed : List Int := []
  calls : List (StoreCall Segment) := []

variable (policy : Policy Segment) (hasStore : Bool) (e : Evaluation Segment)

namespace Books

/-- A change of the manager. -/
def on (b : Books Segment) (change : HorizonManager Segment → HorizonManager Segment) :
    Books Segment :=
  { b with manager := change b.manager }

/-- The entries of the last counted attempt are added; `false` when that raises. -/
def added (b : Books Segment) : Option (List (ExecutionEntry Segment)) → Books Segment × Bool
  | none => (b, true)
  | some entries =>
    let raises := e.storeRaises b.manager.extensionAttemptCount
    let called : Books Segment := { b with calls := b.calls ++ [⟨true, entries, raises⟩] }
    if raises then (called, false)
    else
      match b.manager.executionStore.addEntries entries with
      | .error _ => (called, false)
      | .ok store => (called.on fun m => { m with executionStore := store }, true)

/-- The entries of the last counted attempt are published; `none` when that raises. -/
def published (b : Books Segment) (endMs : Int) (first : ExecutionEntry Segment)
    (entries : List (ExecutionEntry Segment)) : Books Segment × Option PublishResult :=
  let raises := e.storeRaises b.manager.extensionAttemptCount
  let generation : Int := b.manager.nextGenerationId + 1
  let called : Books Segment :=
    { manager := { b.manager with nextGenerationId := generation }
      handed := b.handed ++ [generation]
      calls := b.calls ++ [⟨false, entries, raises⟩] }
  if raises then (called, none)
  else
    let result := b.manager.executionStore.publishAtomicReplace e.storeNow false first.startUtcMs
      endMs entries generation "REASON_TIME_THRESHOLD" false
    (called.on fun m => { m with executionStore := result.1 }, some result.2)

/-- The loop of `_extend_execution`; `false` when the store raises. -/
def extendExecutionLoop (targetEndMs : Int) : Nat → Date → Books Segment → Books Segment × Bool
  | 0, _, b => (b, true)
  | days + 1, next, b =>
    if b.manager.executionWindowEndUtcMs < targetEndMs then
      let before := b.manager.executionWindowEndUtcMs
      let begun := b.on HorizonManager.counted
      match (e.answers begun.manager.extensionAttemptCount next).result with
      | .error code => (begun.on fun m => m.logged e.nowMs before (some (.pipeline code)), true)
      | .ok (endMs, entries) =>
        match begun.added e (if hasStore then entries else none) with
        | (called, false) => (called, false)
        | (called, true) => extendExecutionLoop targetEndMs days (next + 1)
            (called.on fun m => (m.reaching endMs).succeeded.logged e.nowMs before none)
    else (b, true)

/-- `_extend_execution`. -/
def extendExecution (b : Books Segment) (currentBd : Date) : Books Segment × Bool :=
  b.extendExecutionLoop hasStore e (e.nowMs + policy.minExecutionHours * 3600000) 30
    (b.manager.nextDate policy currentBd)

/-- `_check_next_block_ready`; `false` when the store raises. -/
def checkNextBlockReady (b : Books Segment) (currentBd : Date) : Books Segment × Bool :=
  if (HorizonManager.entryAt b.manager.executionStore e.nowMs).isSome then
    (b.on fun m => { m with nextBlockCompliant := true }, true)
  else
    let before := b.manager.executionWindowEndUtcMs
    let begun := b.on HorizonManager.counted
    if policy.lockedWindowMs > 0 then
      ((begun.on fun m => m.logged e.nowMs before (some .lockedImmutable)).on
        fun m => { m with nextBlockCompliant := false }, true)
    else
      match (e.answers begun.manager.extensionAttemptCount currentBd).result with
      | .error _ =>
        ((begun.on fun m => m.logged e.nowMs before (some .exhausted)).on
          fun m => { m with nextBlockCompliant := false }, true)
      | .ok (endMs, entries) =>
        match begun.added e entries with
        | (called, false) => (called, false)
        | (called, true) =>
          let filled := called.on fun m => m.reaching endMs
          if (HorizonManager.entryAt filled.manager.executionStore e.nowMs).isSome then
            ((filled.on fun m => m.succeeded.logged e.nowMs before none).on
              fun m => { m with nextBlockCompliant := true }, true)
          else
            ((filled.on fun m => m.logged e.nowMs before (some .exhausted)).on
              fun m => { m with nextBlockCompliant := false }, true)

/-- The end of `_check_proactive_extend`, once the day is in the store. -/
def extended (b : Books Segment) (before endMs : Int) : Books Segment :=
  b.on fun m => (m.reaching endMs).succeeded.logged e.nowMs before none

/-- `_check_proactive_extend`; `false` when the store raises. -/
def checkProactiveExtend (b : Books Segment) (currentBd : Date) : Books Segment × Bool :=
  if policy.proactiveExtendThresholdMs ≤ 0 then (b, true)
  else if b.manager.executionWindowEndUtcMs - e.nowMs > policy.proactiveExtendThresholdMs then
    (b, true)
  else
    let before := b.manager.executionWindowEndUtcMs
    let triggered :=
      (b.on fun m => { m with proactiveExtensionTriggered := true }).on HorizonManager.counted
    match (e.answers triggered.manager.extensionAttemptCount
        (b.manager.nextDate policy currentBd)).result with
    | .error code => (triggered.on fun m => m.logged e.nowMs before (some (.pipeline code)), true)
    | .ok (endMs, entries) =>
      match if hasStore then entries.getD [] else [] with
      | [] => (triggered.extended e before endMs, true)
      | first :: rest =>
        match triggered.published e endMs first (first :: rest) with
        | (called, none) => (called, false)
        | (called, some result) =>
          if result.ok then (called.extended e before endMs, true)
          else
            (called.on fun m => m.logged e.nowMs before (some (.publish result.errorCode)), true)

/-- What follows a part that has not raised. -/
def followedBy (done : Books Segment × Bool) (next : Books Segment → Books Segment × Bool) :
    Books Segment × Bool :=
  if done.2 then next done.1 else done

/-- `_extend_epg`. -/
def extendEpg (b : Books Segment) (currentBd : Date) : Books Segment × Bool :=
  let done := b.manager.extendEpg policy currentBd e.nowMs e.epg
  (b.on fun _ => done.1, done.2)

/-- The part of `evaluate_once` up to the EPG depth. -/
def evaluateEpg (b : Books Segment) (currentBd : Date) : Books Segment × Bool :=
  let begun :=
    b.on fun m => { m with lastEvaluationUtcMs := e.nowMs, proactiveExtensionTriggered := false }
  if max 0 (begun.manager.epgWindowEndUtcMs policy - e.nowMs) < policy.minEpgDays * 24 * 3600000 then
    begun.extendEpg policy e currentBd
  else (begun, true)

/-- The part of `evaluate_once` about the execution depth. -/
def evaluateExecution (b : Books Segment) (currentBd : Date) : Books Segment × Bool :=
  if max 0 (b.manager.executionWindowEndUtcMs - e.nowMs) < policy.minExecutionHours * 3600000 then
    b.extendExecution policy hasStore e currentBd
  else (b, true)

/-- The part of `evaluate_once` about the store. -/
def evaluateStore (b : Books Segment) (currentBd : Date) : Books Segment × Bool :=
  if hasStore then
    followedBy (b.checkNextBlockReady policy e currentBd) fun checked =>
      (checked.on HorizonManager.checkSeamContiguity, true)
  else (b, true)

/-- **`evaluate_once`**; `false` when it raises. -/
def evaluateOnce (b : Books Segment) : Books Segment × Bool :=
  let currentBd := policy.broadcastDateFor e.nowMs
  followedBy (b.evaluateEpg policy e currentBd) fun planned =>
    followedBy (planned.evaluateExecution policy hasStore e currentBd) fun deep =>
      followedBy (deep.evaluateStore policy hasStore e currentBd) fun checked =>
        checked.checkProactiveExtend policy hasStore e currentBd

/-- The books of a new manager. -/
def opened (store : Store Segment) : Books Segment := { manager := { executionStore := store } }

/-- **`_run_loop`**, or whoever evaluates: an evaluation that raises is followed by the next one. -/
def run (store : Store Segment) (evaluations : List (Evaluation Segment)) : Books Segment :=
  evaluations.foldl (fun b e => (b.evaluateOnce policy hasStore e).1) (opened store)

end Books

end Routines

/-! ### The manager of the books -/

section Refinement

variable (policy : Policy Segment) (nowMs : Int) (epg : Date → HorizonManager.EpgDay) (storeNow : Int)

/-- What an evaluation meets when the pipeline plans entries and the store does not fail by itself. -/
def Evaluation.ofPipeline : Evaluation Segment where
  nowMs := nowMs
  epg := epg
  answers call date :=
    match policy.pipeline.extendExecutionDay call date with
    | .error code => .raises code
    | .ok result => .day result.endUtcMs (some result.entries)
  storeRaises _ := false
  storeNow := storeNow

@[simp] theorem ofPipeline_nowMs :
    (Evaluation.ofPipeline policy nowMs epg storeNow).nowMs = nowMs := rfl

/-- What a part leaves of the books that is the manager's. -/
abbrev Books.outcome (done : Books Segment × Bool) : HorizonManager Segment × Bool :=
  (done.1.manager, done.2)

variable (b : Books Segment)

/-- The answer is the pipeline's. -/
theorem ofPipeline_cases (call : Nat) (date : Date) :
    (∃ code, policy.pipeline.extendExecutionDay call date = .error code ∧
        ((Evaluation.ofPipeline policy nowMs epg storeNow).answers call date).result = .error code) ∨
      ∃ day, policy.pipeline.extendExecutionDay call date = .ok day ∧
        ((Evaluation.ofPipeline policy nowMs epg storeNow).answers call date).result =
          .ok (day.endUtcMs, some day.entries) := by
  unfold Evaluation.ofPipeline
  dsimp only
  cases policy.pipeline.extendExecutionDay call date with
  | error code => exact .inl ⟨code, rfl, rfl⟩
  | ok day => exact .inr ⟨day, rfl, rfl⟩

/-- Adding the entries of a counted attempt is the store's `add_entries`. -/
theorem added_cases (entries : List (ExecutionEntry Segment)) :
    (∃ error called, b.manager.executionStore.addEntries entries = .error error ∧
        (b.on HorizonManager.counted).added (Evaluation.ofPipeline policy nowMs epg storeNow)
          (some entries) = (called, false) ∧
        called.manager = b.manager.counted) ∨
      ∃ store called, b.manager.executionStore.addEntries entries = .ok store ∧
        (b.on HorizonManager.counted).added (Evaluation.ofPipeline policy nowMs epg storeNow)
          (some entries) = (called, true) ∧
        called.manager = { b.manager.counted with executionStore := store } := by
  unfold Books.added
  dsimp only [Evaluation.ofPipeline, Books.on, HorizonManager.counted]
  cases b.manager.executionStore.addEntries entries with
  | error error => exact .inl ⟨error, _, rfl, rfl, rfl⟩
  | ok store => exact .inr ⟨store, _, rfl, rfl, rfl⟩

/-- **The execution loop is the manager's.** -/
theorem extendExecutionLoop_outcome (target : Int) (days : Nat) (next : Date) :
    Books.outcome (b.extendExecutionLoop true (Evaluation.ofPipeline policy nowMs epg storeNow)
        target days next) =
      b.manager.extendExecutionLoop policy nowMs target days next := by
  induction days generalizing next b with
  | zero => rfl
  | succ days ih =>
    unfold Books.extendExecutionLoop HorizonManager.extendExecutionLoop
    by_cases short : b.manager.executionWindowEndUtcMs < target
    · rw [if_pos short, if_pos short]
      dsimp only
      rcases ofPipeline_cases policy nowMs epg storeNow b.manager.counted.extensionAttemptCount next
        with ⟨code, planned, answered⟩ | ⟨day, planned, answered⟩
      · rw [planned, Books.on, answered]
        rfl
      rw [planned, Books.on, answered]
      simp only [if_true, ofPipeline_nowMs]
      rcases added_cases policy nowMs epg storeNow b day.entries with
        ⟨error, called, raised, added, same⟩ | ⟨store, called, stored, added, same⟩
      · rw [Books.on] at added
        rw [raised, added]
        exact congrArg (·, false) same
      · rw [Books.on] at added
        rw [stored, added]
        dsimp only
        rw [ih, Books.on, same]
        rfl
    · rw [if_neg short, if_neg short]

/-- **The next block's check is the manager's.** -/
theorem checkNextBlockReady_outcome (currentBd : Date) :
    Books.outcome (b.checkNextBlockReady policy (Evaluation.ofPipeline policy nowMs epg storeNow)
        currentBd) =
      b.manager.checkNextBlockReady policy nowMs currentBd := by
  unfold Books.checkNextBlockReady HorizonManager.checkNextBlockReady
  rw [ofPipeline_nowMs]
  by_cases present : (HorizonManager.entryAt b.manager.executionStore nowMs).isSome = true
  · rw [if_pos present, if_pos present]
    rfl
  rw [if_neg present, if_neg present]
  dsimp only
  by_cases locked : policy.lockedWindowMs > 0
  · rw [if_pos locked, if_pos locked]
    rfl
  rw [if_neg locked, if_neg locked]
  rcases ofPipeline_cases policy nowMs epg storeNow b.manager.counted.extensionAttemptCount currentBd
    with ⟨code, planned, answered⟩ | ⟨day, planned, answered⟩
  · rw [planned, Books.on, answered]
    rfl
  rw [planned, Books.on, answered]
  dsimp only
  rcases added_cases policy nowMs epg storeNow b day.entries with
    ⟨error, called, raised, added, same⟩ | ⟨store, called, stored, added, same⟩
  · rw [Books.on] at added
    rw [raised, added]
    exact congrArg (·, false) same
  · rw [Books.on] at added
    rw [stored, added]
    have kept : (called.manager.reaching day.endUtcMs).executionStore = store := by
      rw [same, HorizonManager.reaching]
      split_ifs <;> rfl
    simp only [Books.on, kept]
    split_ifs <;> simp only [Books.outcome, same] <;> rfl

/-- **The proactive extension is the manager's.** -/
theorem checkProactiveExtend_outcome (currentBd : Date) :
    Books.outcome (b.checkProactiveExtend policy true
        (Evaluation.ofPipeline policy nowMs epg storeNow) currentBd) =
      (b.manager.checkProactiveExtend policy nowMs currentBd storeNow, true) := by
  unfold Books.checkProactiveExtend HorizonManager.checkProactiveExtend
  rw [ofPipeline_nowMs]
  by_cases disabled : policy.proactiveExtendThresholdMs ≤ 0
  · rw [if_pos disabled, if_pos disabled]
  rw [if_neg disabled, if_neg disabled]
  by_cases far : b.manager.executionWindowEndUtcMs - nowMs > policy.proactiveExtendThresholdMs
  · rw [if_pos far, if_pos far]
  rw [if_neg far, if_neg far]
  dsimp only
  rcases ofPipeline_cases policy nowMs epg storeNow b.manager.counted.extensionAttemptCount
      (b.manager.nextDate policy currentBd) with
    ⟨code, planned, answered⟩ | ⟨day, planned, answered⟩
  · simp only [HorizonManager.counted] at planned answered
    simp only [Books.on, HorizonManager.counted, planned, answered]
  · simp only [HorizonManager.counted] at planned answered
    simp only [Books.on, HorizonManager.counted, planned, answered, if_true, Option.getD_some]
    cases day.entries with
    | nil => rfl
    | cons first rest =>
      simp only [Books.published, Evaluation.ofPipeline, Bool.false_eq_true, if_false]
      by_cases accepted : (b.manager.executionStore.publishAtomicReplace storeNow false
          first.startUtcMs day.endUtcMs (first :: rest) (b.manager.nextGenerationId + 1)
          "REASON_TIME_THRESHOLD" false).2.ok = true
      · simp only [accepted, if_true]
        rfl
      · simp only [accepted, Bool.false_eq_true, if_false]
        rfl

/-- The part up to the EPG depth. -/
theorem evaluateEpg_outcome (currentBd : Date) :
    Books.outcome (b.evaluateEpg policy (Evaluation.ofPipeline policy nowMs epg storeNow) currentBd) =
      let begun : HorizonManager Segment :=
        { b.manager with lastEvaluationUtcMs := nowMs, proactiveExtensionTriggered := false }
      if max 0 (begun.epgWindowEndUtcMs policy - nowMs) < policy.minEpgDays * 24 * 3600000 then
        begun.extendEpg policy currentBd nowMs epg
      else (begun, true) :=
  apply_ite Books.outcome _ _ _

/-- The part about the execution depth. -/
theorem evaluateExecution_outcome (currentBd : Date) :
    Books.outcome (b.evaluateExecution policy true (Evaluation.ofPipeline policy nowMs epg storeNow)
        currentBd) =
      if max 0 (b.manager.executionWindowEndUtcMs - nowMs) < policy.minExecutionHours * 3600000 then
        b.manager.extendExecution policy currentBd nowMs
      else (b.manager, true) := by
  unfold Books.evaluateExecution
  rw [apply_ite Books.outcome, Books.extendExecution, extendExecutionLoop_outcome]
  rfl

/-- **An evaluation of the books is one of the manager.** -/
theorem evaluateOnce_outcome :
    Books.outcome (b.evaluateOnce policy true (Evaluation.ofPipeline policy nowMs epg storeNow)) =
      b.manager.evaluateOnce policy nowMs epg storeNow := by
  unfold Books.evaluateOnce HorizonManager.evaluateOnce HorizonManager.evaluateDepths
    HorizonManager.evaluateChecks
  dsimp only [ofPipeline_nowMs]
  generalize policy.broadcastDateFor nowMs = today
  rw [← evaluateEpg_outcome policy nowMs epg storeNow b today]
  cases b.evaluateEpg policy (Evaluation.ofPipeline policy nowMs epg storeNow) today with
  | mk planned went =>
  cases went with
  | false => rfl
  | true =>
    simp only [Books.followedBy, Books.outcome, if_true]
    rw [← evaluateExecution_outcome policy nowMs epg storeNow planned today]
    cases planned.evaluateExecution policy true (Evaluation.ofPipeline policy nowMs epg storeNow)
      today with
    | mk deep went =>
    cases went with
    | false => rfl
    | true =>
      simp only [Books.evaluateStore, Books.followedBy, if_true]
      rw [← checkNextBlockReady_outcome policy nowMs epg storeNow deep today]
      cases deep.checkNextBlockReady policy (Evaluation.ofPipeline policy nowMs epg storeNow)
        today with
      | mk checked went =>
      cases went with
      | false => rfl
      | true => exact checkProactiveExtend_outcome policy nowMs epg storeNow _ today

end Refinement

/-! ### Balanced books -/

section Balance

variable {enforce : Bool} {pending : Nat} {b : Books Segment}

/-- The id of an attempt. -/
def attemptIdOf (number : Nat) : String := "ext-" ++ toString (number + 1)

/-- The calls that the store did not take. -/
def Books.untaken (enforce : Bool) (b : Books Segment) : Nat :=
  b.calls.countP fun call => ¬ call.Taken enforce

/-- **What the books say of each other**, while some attempts are still open: every attempt is logged,
lost in a call that the store did not take, or open. -/
structure Books.Balanced (enforce : Bool) (pending : Nat) (b : Books Segment) : Prop where
  counted : b.manager.extensionAttemptCount =
    b.manager.extensionAttemptLog.length + b.untaken enforce + pending
  successes : b.manager.extensionSuccessCount =
    b.manager.extensionAttemptLog.countP ExtensionAttempt.success
  named : b.untaken enforce = 0 → b.manager.extensionAttemptLog.map ExtensionAttempt.attemptId =
    (List.range b.manager.extensionAttemptLog.length).map attemptIdOf
  handed : b.handed.Pairwise (· < ·)
  latest : ∀ generation ∈ b.handed, generation ≤ b.manager.nextGenerationId
  enforces : b.manager.executionStore.enforceDerivationFromPlaylist = enforce

/-- Two managers with the same records. -/
structure HorizonManager.SameRecords (before after : HorizonManager Segment) : Prop where
  attempts : after.extensionAttemptCount = before.extensionAttemptCount
  successes : after.extensionSuccessCount = before.extensionSuccessCount
  log : after.extensionAttemptLog = before.extensionAttemptLog
  generation : after.nextGenerationId = before.nextGenerationId
  enforces : after.executionStore.enforceDerivationFromPlaylist =
    before.executionStore.enforceDerivationFromPlaylist

namespace Books.Balanced

/-- The books of a new manager are balanced. -/
theorem opened (store : Store Segment) :
    (Books.opened store).Balanced store.enforceDerivationFromPlaylist 0 where
  counted := rfl
  successes := rfl
  named _ := rfl
  handed := .nil
  latest _ among := absurd among List.not_mem_nil
  enforces := rfl

/-- What leaves the records alone leaves the books balanced. -/
theorem of_same {manager : HorizonManager Segment} (balanced : b.Balanced enforce pending)
    (same : b.manager.SameRecords manager) :
    Books.Balanced enforce pending { b with manager := manager } where
  counted := by rw [same.attempts, same.log]; exact balanced.counted
  successes := by rw [same.successes, same.log]; exact balanced.successes
  named := by rw [same.log]; exact balanced.named
  handed := balanced.handed
  latest := by rw [same.generation]; exact balanced.latest
  enforces := same.enforces.trans balanced.enforces

/-- An attempt is counted, and open. -/
theorem begun (balanced : b.Balanced enforce pending) :
    (b.on HorizonManager.counted).Balanced enforce (pending + 1) :=
  { balanced with counted := congrArg (· + 1) balanced.counted }

/-- The log with one more attempt. -/
theorem named_snoc {log : List ExtensionAttempt} {attempt : ExtensionAttempt}
    (named : log.map ExtensionAttempt.attemptId = (List.range log.length).map attemptIdOf)
    (next : attempt.attemptId = attemptIdOf log.length) :
    (log ++ [attempt]).map ExtensionAttempt.attemptId =
      (List.range (log ++ [attempt]).length).map attemptIdOf := by
  rw [List.length_append, List.length_singleton, List.range_succ, List.map_append, List.map_append,
    named, List.map_singleton, List.map_singleton, next]

/-- The open attempt has the number after those logged, when none is lost. -/
theorem attempt_next (balanced : b.Balanced enforce 1) (none_ : b.untaken enforce = 0) :
    "ext-" ++ toString b.manager.extensionAttemptCount =
      attemptIdOf b.manager.extensionAttemptLog.length := by
  rw [attemptIdOf, balanced.counted, none_]

/-- **A failure is logged.** -/
theorem failed (balanced : b.Balanced enforce 1) (nowMs before : Int) (error : AttemptError) :
    (b.on fun m => m.logged nowMs before (some error)).Balanced enforce 0 where
  counted := by
    have counted := balanced.counted
    simp only [Books.on, HorizonManager.logged, Books.untaken, List.length_append,
      List.length_singleton] at counted ⊢
    omega
  successes := by
    simp only [Books.on, HorizonManager.logged, List.countP_append, List.countP_singleton,
      HorizonManager.attempt, ExtensionAttempt.success, Option.isNone_some, Bool.false_eq_true,
      if_false, Nat.add_zero]
    exact balanced.successes
  named none_ := named_snoc (balanced.named none_) (balanced.attempt_next none_)
  handed := balanced.handed
  latest := balanced.latest
  enforces := balanced.enforces

/-- **A success is counted and logged.** -/
theorem succeeded (balanced : b.Balanced enforce 1) (nowMs before : Int) :
    (b.on fun m => m.succeeded.logged nowMs before none).Balanced enforce 0 where
  counted := by
    have counted := balanced.counted
    simp only [Books.on, HorizonManager.logged, HorizonManager.succeeded, Books.untaken,
      List.length_append, List.length_singleton] at counted ⊢
    omega
  successes := by
    simp only [Books.on, HorizonManager.logged, HorizonManager.succeeded, List.countP_append,
      List.countP_singleton, HorizonManager.attempt, ExtensionAttempt.success, Option.isNone_none,
      if_true]
    exact congrArg (· + 1) balanced.successes
  named none_ := named_snoc (balanced.named none_) (balanced.attempt_next none_)
  handed := balanced.handed
  latest := balanced.latest
  enforces := balanced.enforces

/-- Records after the window end moved. -/
theorem reaching (balanced : b.Balanced enforce pending) (endMs : Int) :
    (b.on fun m => m.reaching endMs).Balanced enforce pending := by
  refine balanced.of_same ?_
  show b.manager.SameRecords (b.manager.reaching endMs)
  unfold HorizonManager.reaching
  split_ifs <;> exact ⟨rfl, rfl, rfl, rfl, rfl⟩

end Books.Balanced

end Balance

/-! ### The store is called -/

section Calls

variable {enforce : Bool} {pending : Nat} {b : Books Segment} (e : Evaluation Segment)

/-- A batch leaves the store's guard as it is. -/
theorem addEntries_enforces {store next : Store Segment} {entries : List (ExecutionEntry Segment)}
    (added : store.addEntries entries = .ok next) :
    next.enforceDerivationFromPlaylist = store.enforceDerivationFromPlaylist := by
  unfold Store.addEntries at added
  cases checked : entries.forM store.checkEntry with
  | error reason =>
    rw [checked] at added
    cases added
  | ok _ =>
    rw [checked] at added
    simp only [bind, Except.bind] at added
    split at added <;> cases added <;> rfl

/-- A publish without an override leaves the guard as it is. -/
theorem publishAtomicReplace_enforces (store : Store Segment) (now low high : Int)
    (new : List (ExecutionEntry Segment)) (generation : Int) (reason : String) :
    (store.publishAtomicReplace now false low high new generation reason
      false).1.enforceDerivationFromPlaylist = store.enforceDerivationFromPlaylist := by
  rcases publish_outcome store now false low high new generation reason false with
    ⟨-, error, outcome⟩ | ⟨-, recorded, -, -, unchanged, outcome⟩
  · rw [outcome]
  · have same : recorded = store := unchanged.mpr (.inl rfl)
    rw [outcome, same]
    split_ifs <;> rfl

namespace Books

/-- The calls not taken, with one more. -/
theorem untaken_snoc (b : Books Segment) (call : StoreCall Segment) :
    (b.calls ++ [call]).countP (fun call => ¬ call.Taken enforce) =
      b.untaken enforce + if call.Taken enforce then 0 else 1 := by
  rw [List.countP_append, List.countP_singleton, untaken]
  split_ifs with first second second <;> simp_all

/-- The open attempt of a call that the store does not take is lost. -/
theorem Balanced.lost {call : StoreCall Segment} (balanced : b.Balanced enforce 1)
    (refused : ¬ call.Taken enforce) :
    Books.Balanced enforce 0 { b with calls := b.calls ++ [call] } where
  counted := by
    have counted := balanced.counted
    simp only [Books.untaken, untaken_snoc, if_neg refused] at counted ⊢
    omega
  successes := balanced.successes
  named none_ := by
    simp only [Books.untaken, untaken_snoc, if_neg refused] at none_
    omega
  handed := balanced.handed
  latest := balanced.latest
  enforces := balanced.enforces

/-- A call that the store takes changes no count. -/
theorem Balanced.called {call : StoreCall Segment} (balanced : b.Balanced enforce pending)
    (taken : call.Taken enforce) :
    Books.Balanced enforce pending { b with calls := b.calls ++ [call] } := by
  have same : Books.untaken enforce { b with calls := b.calls ++ [call] } = b.untaken enforce := by
    rw [Books.untaken, untaken_snoc, if_pos taken, Nat.add_zero]
  exact { balanced with
    counted := by rw [same]; exact balanced.counted
    named := by rw [same]; exact balanced.named }

/-- **Adding entries**: the attempt stays open, or it is lost with the raise. -/
theorem Balanced.added (balanced : b.Balanced enforce 1)
    (entries : Option (List (ExecutionEntry Segment))) :
    (b.added e entries).1.Balanced enforce (if (b.added e entries).2 then 1 else 0) := by
  cases entries with
  | none => exact balanced
  | some entries =>
    unfold Books.added
    cases raises : e.storeRaises b.manager.extensionAttemptCount with
    | true =>
      exact balanced.lost fun taken => Bool.noConfusion taken.1
    | false =>
      have passes := fun entry => checkEntry_ok_iff b.manager.executionStore entry
      rw [balanced.enforces] at passes
      rcases addEntries_cases b.manager.executionStore entries with
        ⟨error, raised, failed⟩ | ⟨passed, next, went, -⟩
      · simp only [raised, Bool.false_eq_true, if_false]
        exact balanced.lost fun taken =>
          failed fun entry among => (passes entry).mpr (taken.2 rfl entry among)
      · simp only [went, Bool.false_eq_true, if_false, if_true]
        have taken : (⟨true, entries, false⟩ : StoreCall Segment).Taken enforce :=
          ⟨rfl, fun _ entry among => (passes entry).mp (passed entry among)⟩
        exact (balanced.called taken).of_same
          ⟨rfl, rfl, rfl, rfl, addEntries_enforces went⟩

/-- A generation is handed out. -/
theorem Balanced.allocated (balanced : b.Balanced enforce pending) :
    Books.Balanced enforce pending
      { b with
        manager := { b.manager with nextGenerationId := b.manager.nextGenerationId + 1 }
        handed := b.handed ++ [b.manager.nextGenerationId + 1] } :=
  { balanced with
    handed := by
      refine List.pairwise_append.mpr ⟨balanced.handed, List.pairwise_singleton _ _, ?_⟩
      intro earlier among later single
      rw [List.mem_singleton.mp single]
      exact Int.lt_add_one_iff.mpr (balanced.latest earlier among)
    latest := by
      intro generation among
      rcases List.mem_append.mp among with earlier | single
      · exact (balanced.latest generation earlier).trans (Int.le_add_one le_rfl)
      · exact (List.mem_singleton.mp single).le }

/-- **Publishing**: the attempt stays open, or it is lost with the raise. -/
theorem Balanced.published (balanced : b.Balanced enforce 1) (endMs : Int)
    (first : ExecutionEntry Segment) (entries : List (ExecutionEntry Segment)) :
    (b.published e endMs first entries).1.Balanced enforce
      (if (b.published e endMs first entries).2.isSome then 1 else 0) := by
  unfold Books.published
  cases raises : e.storeRaises b.manager.extensionAttemptCount with
  | true => exact balanced.allocated.lost fun taken => Bool.noConfusion taken.1
  | false =>
    have taken : (⟨false, entries, false⟩ : StoreCall Segment).Taken enforce :=
      ⟨rfl, fun checks => Bool.noConfusion checks⟩
    exact (balanced.allocated.called taken).of_same
      ⟨rfl, rfl, rfl, rfl, publishAtomicReplace_enforces _ _ _ _ _ _ _⟩

end Books

end Calls

/-! ### The routines keep the balance -/

section Evaluations

variable (policy : Policy Segment) (hasStore : Bool) (e : Evaluation Segment)
variable {enforce : Bool} {b : Books Segment}

/-- The EPG loop leaves the records alone. -/
theorem extendEpgLoop_same (target : Int) (epg : Date → HorizonManager.EpgDay) (days : Nat)
    (next : Date) (manager : HorizonManager Segment) :
    manager.SameRecords (HorizonManager.extendEpgLoop policy target epg days next manager).1 := by
  induction days generalizing next manager with
  | zero => exact ⟨rfl, rfl, rfl, rfl, rfl⟩
  | succ days ih =>
    unfold HorizonManager.extendEpgLoop
    split_ifs with short
    · cases epg next with
      | raises => exact ⟨rfl, rfl, rfl, rfl, rfl⟩
      | exists_ | extended =>
        have rest := ih (next + 1) { manager with epgFarthestDate := some next }
        exact ⟨rest.attempts, rest.successes, rest.log, rest.generation, rest.enforces⟩
    · exact ⟨rfl, rfl, rfl, rfl, rfl⟩

namespace Books.Balanced

/-- A success of an open attempt whose day is in the store. -/
theorem extended (balanced : b.Balanced enforce 1) (before endMs : Int) :
    (b.extended e before endMs).Balanced enforce 0 :=
  (balanced.reaching endMs).succeeded e.nowMs before

/-- The execution loop keeps the balance. -/
theorem extendExecutionLoop (target : Int) (days : Nat) (next : Date)
    (balanced : b.Balanced enforce 0) :
    (b.extendExecutionLoop hasStore e target days next).1.Balanced enforce 0 := by
  induction days generalizing next b with
  | zero => exact balanced
  | succ days ih =>
    unfold Books.extendExecutionLoop
    by_cases short : b.manager.executionWindowEndUtcMs < target
    · have begun := balanced.begun
      rw [if_pos short]
      dsimp only
      cases (e.answers (b.on HorizonManager.counted).manager.extensionAttemptCount next).result with
      | error code => exact begun.failed e.nowMs _ (.pipeline code)
      | ok answer =>
        obtain ⟨endMs, entries⟩ := answer
        dsimp only
        generalize (if hasStore = true then entries else none) = given
        have added := begun.added e given
        cases stored : (b.on HorizonManager.counted).added e given with
        | mk called went =>
          rw [stored] at added
          cases went with
          | false => exact added
          | true => exact ih (next + 1) ((added.reaching endMs).succeeded e.nowMs _)
    · rw [if_neg short]
      exact balanced

/-- **The next block's check** keeps the balance. -/
theorem checkNextBlockReady (balanced : b.Balanced enforce 0) (currentBd : Date) :
    (b.checkNextBlockReady policy e currentBd).1.Balanced enforce 0 := by
  have begun := balanced.begun
  unfold Books.checkNextBlockReady
  split_ifs with present locked
  · exact balanced.of_same ⟨rfl, rfl, rfl, rfl, rfl⟩
  · exact (begun.failed e.nowMs _ .lockedImmutable).of_same ⟨rfl, rfl, rfl, rfl, rfl⟩
  · dsimp only
    cases (e.answers (b.on HorizonManager.counted).manager.extensionAttemptCount
        currentBd).result with
    | error code => exact (begun.failed e.nowMs _ .exhausted).of_same ⟨rfl, rfl, rfl, rfl, rfl⟩
    | ok answer =>
      obtain ⟨endMs, entries⟩ := answer
      dsimp only
      have added := begun.added e entries
      cases stored : (b.on HorizonManager.counted).added e entries with
      | mk called went =>
        rw [stored] at added
        cases went with
        | false => exact added
        | true =>
          have filled := added.reaching endMs
          dsimp only
          split_ifs with ready
          · exact (filled.succeeded e.nowMs _).of_same ⟨rfl, rfl, rfl, rfl, rfl⟩
          · exact (filled.failed e.nowMs _ .exhausted).of_same ⟨rfl, rfl, rfl, rfl, rfl⟩

theorem marked (balanced : b.Balanced enforce 0) :
    (b.on fun m => { m with proactiveExtensionTriggered := true }).Balanced enforce 0 :=
  balanced.of_same ⟨rfl, rfl, rfl, rfl, rfl⟩

/-- **The proactive extension** keeps the balance. -/
theorem checkProactiveExtend (balanced : b.Balanced enforce 0) (currentBd : Date) :
    (b.checkProactiveExtend policy hasStore e currentBd).1.Balanced enforce 0 := by
  unfold Books.checkProactiveExtend
  by_cases disabled : policy.proactiveExtendThresholdMs ≤ 0
  · rw [if_pos disabled]
    exact balanced
  by_cases far : b.manager.executionWindowEndUtcMs - e.nowMs > policy.proactiveExtendThresholdMs
  · rw [if_neg disabled, if_pos far]
    exact balanced
  · rw [if_neg disabled, if_neg far]
    have triggered : ((b.on fun m => { m with proactiveExtensionTriggered := true }).on
        HorizonManager.counted).Balanced enforce 1 :=
      begun (marked balanced)
    dsimp only
    generalize (b.on fun m => { m with proactiveExtensionTriggered := true }).on
      HorizonManager.counted = begun at triggered ⊢
    cases (e.answers begun.manager.extensionAttemptCount
        (b.manager.nextDate policy currentBd)).result with
    | error code => exact triggered.failed e.nowMs _ (.pipeline code)
    | ok answer =>
      obtain ⟨endMs, entries⟩ := answer
      dsimp only
      generalize (if hasStore = true then entries.getD [] else []) = given
      cases given with
      | nil => exact triggered.extended e _ endMs
      | cons first rest =>
        dsimp only
        have published := triggered.published e endMs first (first :: rest)
        cases stored : begun.published e endMs first (first :: rest) with
        | mk called result =>
          rw [stored] at published
          cases result with
          | none => exact published
          | some result =>
            dsimp only
            split_ifs with accepted
            · exact published.extended e _ endMs
            · exact published.failed e.nowMs _ (.publish result.errorCode)

/-- What follows a part that has not raised keeps the balance. -/
theorem followedBy {done : Books Segment × Bool} {next : Books Segment → Books Segment × Bool}
    (balanced : done.1.Balanced enforce 0)
    (step : ∀ b : Books Segment, b.Balanced enforce 0 → (next b).1.Balanced enforce 0) :
    (Books.followedBy done next).1.Balanced enforce 0 := by
  unfold Books.followedBy
  split_ifs with went
  · exact step _ balanced
  · exact balanced

/-- The part up to the EPG depth keeps the balance. -/
theorem evaluateEpg (balanced : b.Balanced enforce 0) (currentBd : Date) :
    (b.evaluateEpg policy e currentBd).1.Balanced enforce 0 := by
  have begun : (b.on fun m => { m with
      lastEvaluationUtcMs := e.nowMs
      proactiveExtensionTriggered := false }).Balanced enforce 0 :=
    balanced.of_same ⟨rfl, rfl, rfl, rfl, rfl⟩
  unfold Books.evaluateEpg
  dsimp only
  split_ifs with short
  · exact begun.of_same (extendEpgLoop_same policy _ e.epg 30 _ _)
  · exact begun

/-- The part about the execution depth keeps the balance. -/
theorem evaluateExecution (balanced : b.Balanced enforce 0) (currentBd : Date) :
    (b.evaluateExecution policy hasStore e currentBd).1.Balanced enforce 0 := by
  unfold Books.evaluateExecution
  split_ifs with short
  · exact balanced.extendExecutionLoop hasStore e _ 30 _
  · exact balanced

/-- The part about the store keeps the balance. -/
theorem evaluateStore (balanced : b.Balanced enforce 0) (currentBd : Date) :
    (b.evaluateStore policy hasStore e currentBd).1.Balanced enforce 0 := by
  unfold Books.evaluateStore
  split_ifs with present
  · exact followedBy (balanced.checkNextBlockReady policy e currentBd) fun checked balanced =>
      balanced.of_same ⟨rfl, rfl, rfl, rfl, rfl⟩
  · exact balanced

/-- **An evaluation keeps the balance**, whether it raises or not. -/
theorem evaluateOnce (balanced : b.Balanced enforce 0) :
    (b.evaluateOnce policy hasStore e).1.Balanced enforce 0 :=
  followedBy (balanced.evaluateEpg policy e _) fun _ planned =>
    followedBy (planned.evaluateExecution policy hasStore e _) fun _ deep =>
      followedBy (deep.evaluateStore policy hasStore e _) fun _ checked =>
        checked.checkProactiveExtend policy hasStore e _

/-- **A run keeps the balance.** -/
theorem run (store : Store Segment) (evaluations : List (Evaluation Segment)) :
    (Books.run policy hasStore store evaluations).Balanced
      store.enforceDerivationFromPlaylist 0 :=
  evaluations.foldlRecOn _ (opened store) fun _ balanced e _ =>
    balanced.evaluateOnce policy hasStore e

end Books.Balanced

end Evaluations

/-! ### Exact books -/

section Exactness

/-- **Exact books**: every attempt that started is logged once, in order, the successes are those
logged, and the generations handed out increase. -/
structure Books.Exact (b : Books Segment) : Prop where
  attempts : b.manager.extensionAttemptCount = b.manager.extensionAttemptLog.length
  successes : b.manager.extensionSuccessCount =
    b.manager.extensionAttemptLog.countP ExtensionAttempt.success
  once : b.manager.extensionAttemptLog.map ExtensionAttempt.attemptId =
    (List.range b.manager.extensionAttemptCount).map attemptIdOf
  generations : b.handed.Pairwise (· < ·)

/-- Balanced books with nothing open are exact when no call was lost. -/
theorem Books.Balanced.exact_iff {enforce : Bool} {b : Books Segment}
    (balanced : b.Balanced enforce 0) :
    b.Exact ↔ ∀ call ∈ b.calls, call.Taken enforce := by
  have lost : (∀ call ∈ b.calls, call.Taken enforce) ↔ b.untaken enforce = 0 := by
    simp [Books.untaken, List.countP_eq_zero]
  rw [lost]
  have counted := balanced.counted
  constructor
  · intro exact
    have attempts := exact.attempts
    omega
  · intro none_
    have attempts : b.manager.extensionAttemptCount = b.manager.extensionAttemptLog.length := by
      omega
    exact ⟨attempts, balanced.successes, by rw [attempts]; exact balanced.named none_,
      balanced.handed⟩

/-- **The books are exact after a run exactly when the store has taken every call of it**: an attempt
whose entries the store raises on stays counted, and is never logged. -/
theorem books_exact_iff (policy : Policy Segment) (hasStore : Bool) (store : Store Segment)
    (evaluations : List (Evaluation Segment)) :
    (Books.run policy hasStore store evaluations).Exact ↔
      ∀ call ∈ (Books.run policy hasStore store evaluations).calls,
        call.Taken store.enforceDerivationFromPlaylist :=
  (Books.Balanced.run policy hasStore store evaluations).exact_iff

theorem morningHour_lt : 6 < 24 := by decide

/-- A policy whose pipeline plans, for any date, a day with one entry that names no channel. -/
def unnamedPolicy : Policy Unit where
  programmingDayStartHour := ⟨6, morningHour_lt⟩
  pipeline :=
    { plan := fun _ => ⟨86400000, [{ lineageEntry "b" 0 86400000 with channelId := "" }]⟩
      raises := fun _ => none }

/-- **An entry that names no channel**: `add_entries` raises on it, and the attempt that brought it is
counted and not logged. -/
theorem unnamed_attempt_is_not_logged :
    let b := Books.run unnamedPolicy true guardedStore
      [Evaluation.ofPipeline unnamedPolicy 0 (fun _ => .exists_) 0]
    b.manager.extensionAttemptCount = 1 ∧ b.manager.extensionAttemptLog = [] ∧ ¬ b.Exact := by
  have counted : (Books.run unnamedPolicy true guardedStore [Evaluation.ofPipeline unnamedPolicy 0
      (fun _ => .exists_) 0]).manager.extensionAttemptCount = 1 := by decide
  have unlogged : (Books.run unnamedPolicy true guardedStore [Evaluation.ofPipeline unnamedPolicy 0
      (fun _ => .exists_) 0]).manager.extensionAttemptLog = [] := by decide
  refine ⟨counted, unlogged, fun exact => ?_⟩
  have attempts := exact.attempts
  rw [counted, unlogged] at attempts
  exact absurd attempts (by decide)

end Exactness

end Retrovue.Core.Horizon
