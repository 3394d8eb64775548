/-
**The threads that end fill threads** (`blockplan/PipelineManager.cpp`).

* `Job`: a fill thread with the producer and the buffers it uses;
* `Reaping`: the slot for one deferred job, the reaper's and the closer's queues, and where the tick
  thread, the reaper and the closer are; `Reaping.step`: their steps, from the block and segment swaps
  that hand jobs over to the end of `Stop`. Fill threads end, and a thread that waits for a condition
  wakes when it is notified;
* `Accounted`, `Phased`: every job is at one place, is joined before it is closed, and what each phase of
  the teardown has reached; `reaped_of_run`: so in every run, and when `Stop` is done all are closed;
* `Heard`: a notification that is sent without the mutex does not come between the predicate and the
  wait; `drains_of_heard`: such runs never block before `Stop` is done, and where the one of the teardown
  comes there, `Run` never returns.
-/

import Mathlib
import Retrovue.Foundation.Transition

namespace Retrovue.Air.Blockplan

open Retrovue.Foundation.Transition

/-! ### The threads -/

section Threads

/-- `ReapJob`. -/
structure Job where
  jobId : ℕ
  joinable : Bool
  deriving DecidableEq, Repr

/-- A job whose thread has been joined. -/
def Job.joined (job : Job) : Job := { job with joinable := false }

/-- Where the tick thread is, and after `Run` the one that called `Stop`. -/
inductive MainPhase
  | ticking
  /-- The deferred slot was taken, so the job goes to the reaper directly. -/
  | handing (job : Job)
  /-- `RequestDeferredFillCleanup` between its flag and its notification. -/
  | requested
  | tearing
  | tearingRequested
  /-- `WaitForReaperDrain`, before its predicate. -/
  | draining
  | drainBlocked
  /-- `Run` has returned. -/
  | ran
  /-- `reaper_shutdown_` is stored. -/
  | reaperShut
  | joiningReaper
  /-- `close_shutdown_` is stored. -/
  | closerShut
  | joiningCloser
  | stopped
  deriving DecidableEq, Repr

/-- Where the reaper is in `ReaperLoop`, with the job it popped. -/
inductive ReaperPhase
  | top
  /-- The predicate was false; it holds the mutex up to the wait. -/
  | unready
  | blocked
  | awake (hand : Option Job)
  /-- In `PerformDeferredFillCleanupBlocking`. -/
  | taking (hand : Option Job)
  | joiningDeferred (job : Job) (hand : Option Job)
  | holding (hand : Option Job)
  | bottom
  | exited
  deriving DecidableEq, Repr

/-- Where the closer is in `CloseLoop`. -/
inductive CloserPhase
  | top
  /-- The predicate was false; it holds the mutex up to the wait. -/
  | unready
  | blocked
  | deferring (job : Job)
  | exited
  deriving DecidableEq, Repr

/-- The manager, what concerns its fill threads. `submitted` are the jobs it was given, `closed` those
that have been destroyed; `auditFailed` is the error that `Stop` logs. -/
structure Reaping where
  deferred : Option Job := none
  cleanupRequested : Bool := false
  reaperQueue : List Job := []
  reaperShutdown : Bool := false
  closeQueue : List Job := []
  closeShutdown : Bool := false
  main : MainPhase := .ticking
  reaper : ReaperPhase := .top
  closer : CloserPhase := .top
  submitted : List Job := []
  closed : List Job := []
  auditFailed : Bool := false
  deriving DecidableEq, Repr

/-- What happens: the tick thread's swaps, calls and teardown, and a step of each thread. -/
inductive ReapAction
  | takeOff (job : Job)
  | handOff (job : Job)
  | request
  | teardown
  | main
  | reaper
  | closer
  deriving DecidableEq, Repr

namespace Reaping

/-- `deferred_fill_thread_.joinable()`. -/
def deferredJoinable (s : Reaping) : Bool := s.deferred.any Job.joinable

/-- `reaper_cv_.notify_one()`. -/
def notifyReaper (s : Reaping) : Reaping :=
  if s.reaper = .blocked then { s with reaper := .top } else s

/-- `close_cv_.notify_one()`. -/
def notifyCloser (s : Reaping) : Reaping :=
  if s.closer = .blocked then { s with closer := .top } else s

/-- `HandOffToReaper`: it takes the mutex, and drops a job without a thread. -/
def handOffToReaper (s : Reaping) (job : Job) : Option Reaping :=
  if job.joinable = false then some { s with closed := s.closed ++ [job] }
  else if s.reaper = .unready then none
  else some { s.notifyReaper with reaperQueue := s.reaperQueue ++ [job] }

/-- The push into the closer's queue: it takes the closer's mutex. -/
def handToCloser (s : Reaping) (job : Job) : Option Reaping :=
  if s.closer = .unready then none
  else some { s.notifyCloser with closeQueue := s.closeQueue ++ [job] }

/-- The outgoing buffers of a block swap: into the deferred slot, or to the reaper when the slot still
has a thread. What stood in the slot without one goes. -/
def takeOff (s : Reaping) (job : Job) : Reaping :=
  if s.deferredJoinable then { s with main := .handing job, submitted := s.submitted ++ [job] }
  else
    { s with
      deferred := some job
      submitted := s.submitted ++ [job]
      closed := s.closed ++ s.deferred.toList }

/-- `RequestDeferredFillCleanup` up to its notification. -/
def requestCleanup (s : Reaping) (notifying passed : MainPhase) : Reaping :=
  if s.deferredJoinable then { s with cleanupRequested := true, main := notifying }
  else { s with main := passed }

/-- A step of the tick thread, and of `Stop`. -/
def mainStep (s : Reaping) : Option Reaping :=
  match s.main with
  | .ticking | .drainBlocked | .stopped => none
  | .handing job => ({ s with main := .ticking } : Reaping).handOffToReaper job
  | .requested => some { s.notifyReaper with main := .ticking }
  | .tearing => some (s.requestCleanup .tearingRequested .draining)
  | .tearingRequested => some { s.notifyReaper with main := .draining }
  | .draining =>
    if s.reaper = .unready then none
    else if s.reaperQueue = [] ∧ s.deferredJoinable = false then some { s with main := .ran }
    else some { s with main := .drainBlocked }
  | .ran => some { s with reaperShutdown := true, main := .reaperShut }
  | .reaperShut => some { s.notifyReaper with main := .joiningReaper }
  | .joiningReaper =>
    if s.reaper = .exited then
      some { s with
        reaperQueue := []
        closed := s.closed ++ s.reaperQueue.map Job.joined
        closeShutdown := true
        main := .closerShut }
    else none
  | .closerShut => some { s.notifyCloser with main := .joiningCloser }
  | .joiningCloser =>
    if s.closer = .exited then
      some { s with
        closeQueue := []
        closed := s.closed ++ s.closeQueue
        auditFailed := s.deferredJoinable
        deferred := s.deferred.map Job.joined
        main := .stopped }
    else none

/-- The reaper behind its wait, with the mutex: it ends, or pops a job. -/
def wakeReaper (s : Reaping) : Reaping :=
  if s.reaperShutdown ∧ s.reaperQueue = [] ∧ s.cleanupRequested = false then
    { s with reaper := .exited }
  else { s with reaper := .awake s.reaperQueue.head?, reaperQueue := s.reaperQueue.tail }

/-- A step of `ReaperLoop`. -/
def reaperStep (s : Reaping) : Option Reaping :=
  match s.reaper with
  | .top =>
    if s.reaperShutdown ∨ s.reaperQueue ≠ [] ∨ s.cleanupRequested then some s.wakeReaper
    else some { s with reaper := .unready }
  | .unready => some { s with reaper := .blocked }
  | .blocked | .exited => none
  | .awake hand =>
    some { s with reaper := if s.cleanupRequested then .taking hand else .holding hand }
  | .taking hand =>
    match s.deferred with
    | none => some { s with reaper := .holding hand }
    | some job =>
      if s.cleanupRequested = false ∨ job.joinable = false then
        some { s with reaper := .holding hand }
      else
        some { s with
          deferred := none, cleanupRequested := false, reaper := .joiningDeferred job hand }
  | .joiningDeferred job hand =>
    ({ s with reaper := .holding hand } : Reaping).handToCloser job.joined
  | .holding none => some { s with reaper := .bottom }
  | .holding (some job) => ({ s with reaper := .bottom } : Reaping).handToCloser job.joined
  | .bottom =>
    some { s with
      reaper := .top
      main :=
        if s.reaperQueue = [] ∧ s.deferredJoinable = false ∧ s.main = .drainBlocked then .draining
        else s.main }

/-- A step of `CloseLoop`. -/
def closerStep (s : Reaping) : Option Reaping :=
  match s.closer with
  | .top =>
    match s.closeQueue with
    | [] => some { s with closer := if s.closeShutdown then .exited else .unready }
    | job :: rest => some { s with closer := .deferring job, closeQueue := rest }
  | .unready => some { s with closer := .blocked }
  | .blocked | .exited => none
  | .deferring job => some { s with closer := .top, closed := s.closed ++ [job] }

/-- A step. -/
def step (s : Reaping) : ReapAction → Option Reaping
  | .takeOff job => if s.main = .ticking then some (s.takeOff job) else none
  | .handOff job =>
    if s.main = .ticking then
      ({ s with submitted := s.submitted ++ [job] } : Reaping).handOffToReaper job
    else none
  | .request => if s.main = .ticking then some (s.requestCleanup .requested .ticking) else none
  | .teardown => if s.main = .ticking then some { s with main := .tearing } else none
  | .main => s.mainStep
  | .reaper => s.reaperStep
  | .closer => s.closerStep

end Reaping

end Threads

/-! ### Where the jobs are -/

section Places

/-- How often an id is among some jobs. -/
def held (jobs : List Job) (jobId : ℕ) : ℕ := (jobs.map Job.jobId).count jobId

@[simp] theorem held_nil (jobId : ℕ) : held [] jobId = 0 := rfl

@[simp] theorem held_append (first second : List Job) (jobId : ℕ) :
    held (first ++ second) jobId = held first jobId + held second jobId := by
  rw [held, List.map_append, List.count_append]
  rfl

theorem held_cons (job : Job) (rest : List Job) (jobId : ℕ) :
    held (job :: rest) jobId = held [job] jobId + held rest jobId :=
  held_append [job] rest jobId

@[simp] theorem held_joined (job : Job) (jobId : ℕ) : held [job.joined] jobId = held [job] jobId :=
  rfl

@[simp] theorem held_map_joined (jobs : List Job) (jobId : ℕ) :
    held (jobs.map Job.joined) jobId = held jobs jobId := by
  rw [held, List.map_map]
  rfl

/-- The job in the hand of the tick thread. -/
def MainPhase.hand : MainPhase → List Job
  | .handing job => [job]
  | _ => []

/-- The jobs in the hand of the reaper. -/
def ReaperPhase.hand : ReaperPhase → List Job
  | .awake hand => hand.toList
  | .taking hand => hand.toList
  | .joiningDeferred job hand => job :: hand.toList
  | .holding hand => hand.toList
  | _ => []

/-- The job in the hand of the closer. -/
def CloserPhase.hand : CloserPhase → List Job
  | .deferring job => [job]
  | _ => []

namespace Reaping

/-- The jobs behind the join. -/
def behindJoin (s : Reaping) : List Job := s.closeQueue ++ (s.closer.hand ++ s.closed)

/-- The jobs before it. -/
def beforeJoin (s : Reaping) : List Job :=
  s.deferred.toList ++ (s.main.hand ++ (s.reaperQueue ++ s.reaper.hand))

/-- **Where the jobs are**: each that was submitted is at one place, and behind the join no thread is
left to join. -/
structure Accounted (s : Reaping) : Prop where
  everyJob : ∀ jobId, held s.beforeJoin jobId + held s.behindJoin jobId = held s.submitted jobId
  joined : ∀ job ∈ s.behindJoin, job.joinable = false

theorem accounted_init : (({} : Reaping)).Accounted where
  everyJob := fun _ => rfl
  joined := fun _ member => absurd member List.not_mem_nil

variable {s next : Reaping}

/-- A notification moves no job. -/
theorem Accounted.notifyReaper (accounted : s.Accounted) : s.notifyReaper.Accounted := by
  unfold Reaping.notifyReaper
  split_ifs with blocked
  · refine ⟨fun jobId => ?_, accounted.joined⟩
    rw [← accounted.everyJob jobId, beforeJoin, beforeJoin, blocked]
    rfl
  · exact accounted

theorem Accounted.notifyCloser (accounted : s.Accounted) : s.notifyCloser.Accounted := by
  unfold Reaping.notifyCloser
  split_ifs with blocked
  · have same : ({ s with closer := .top } : Reaping).behindJoin = s.behindJoin := by
      rw [behindJoin, behindJoin, blocked]
      rfl
    refine ⟨fun jobId => ?_, ?_⟩
    · rw [same]
      exact accounted.everyJob jobId
    · rw [same]
      exact accounted.joined
  · exact accounted

@[simp] theorem notifyReaper_hand (s : Reaping) : s.notifyReaper.reaper.hand = s.reaper.hand := by
  unfold Reaping.notifyReaper
  split_ifs with blocked
  · rw [blocked]
    rfl
  · rfl

@[simp] theorem notifyCloser_hand (s : Reaping) : s.notifyCloser.closer.hand = s.closer.hand := by
  unfold Reaping.notifyCloser
  split_ifs with blocked
  · rw [blocked]
    rfl
  · rfl

/-- What a notification of the reaper leaves alone. -/
theorem notifyReaper_same (s : Reaping) :
    s.notifyReaper = { s with reaper := s.notifyReaper.reaper } := by
  unfold Reaping.notifyReaper
  split_ifs <;> rfl

theorem notifyCloser_same (s : Reaping) :
    s.notifyCloser = { s with closer := s.notifyCloser.closer } := by
  unfold Reaping.notifyCloser
  split_ifs <;> rfl

/-- A job that the reaper is handed: it is submitted or in some hand, and the rest stays. -/
theorem accounted_handOff {job : Job} (handed : s.handOffToReaper job = some next)
    (everyJob : ∀ jobId, held s.beforeJoin jobId + held s.behindJoin jobId + held [job] jobId =
      held s.submitted jobId)
    (joined : ∀ job ∈ s.behindJoin, job.joinable = false) : next.Accounted := by
  unfold handOffToReaper at handed
  split_ifs at handed with threadless
  · cases handed
    refine ⟨fun jobId => ?_, fun other member => ?_⟩
    · rw [← everyJob jobId]
      simp only [beforeJoin, behindJoin, held_append]
      omega
    · rcases List.mem_append.mp member with old | rest
      · exact joined other (List.mem_append_left _ old)
      · rcases List.mem_append.mp rest with hand | closed
        · exact joined other (List.mem_append_right _ (List.mem_append_left _ hand))
        · rcases List.mem_append.mp closed with before | here
          · exact joined other (List.mem_append_right _ (List.mem_append_right _ before))
          · rw [List.mem_singleton.mp here]
            exact threadless
  · cases handed
    rw [notifyReaper_same]
    refine ⟨fun jobId => ?_, joined⟩
    rw [← everyJob jobId]
    simp only [beforeJoin, behindJoin, held_append, notifyReaper_hand]
    omega

/-- A joined job that the closer is handed. -/
theorem accounted_handToCloser {job : Job} (handed : s.handToCloser job.joined = some next)
    (everyJob : ∀ jobId, held s.beforeJoin jobId + held s.behindJoin jobId + held [job] jobId =
      held s.submitted jobId)
    (joined : ∀ job ∈ s.behindJoin, job.joinable = false) : next.Accounted := by
  unfold handToCloser at handed
  split_ifs at handed
  cases handed
  rw [notifyCloser_same]
  refine ⟨fun jobId => ?_, fun other member => ?_⟩
  · rw [← everyJob jobId]
    simp only [beforeJoin, behindJoin, held_append, notifyCloser_hand, held_joined]
    omega
  · simp only [behindJoin, notifyCloser_hand, List.append_assoc, List.mem_append,
      List.mem_singleton] at member joined
    rcases member with queued | rfl | hand | closed
    · exact joined other (.inl queued)
    · rfl
    · exact joined other (.inr (.inl hand))
    · exact joined other (.inr (.inr closed))

/-- The jobs before the join change places. -/
theorem Accounted.of_before (accounted : s.Accounted) (same : next.behindJoin = s.behindJoin)
    (submitted : next.submitted = s.submitted)
    (moved : ∀ jobId, held next.beforeJoin jobId = held s.beforeJoin jobId) : next.Accounted := by
  refine ⟨fun jobId => ?_, ?_⟩
  · rw [moved, same, submitted]
    exact accounted.everyJob jobId
  · rw [same]
    exact accounted.joined

theorem accounted_requestCleanup (accounted : s.Accounted) {notifying passed : MainPhase}
    (noHand : notifying.hand = s.main.hand ∧ passed.hand = s.main.hand) :
    (s.requestCleanup notifying passed).Accounted := by
  unfold requestCleanup
  split_ifs
  · refine accounted.of_before rfl rfl fun jobId => ?_
    simp only [beforeJoin, noHand.1]
  · refine accounted.of_before rfl rfl fun jobId => ?_
    simp only [beforeJoin, noHand.2]

theorem accounted_takeOff (accounted : s.Accounted) (ticking : s.main = .ticking) (job : Job) :
    (s.takeOff job).Accounted := by
  unfold takeOff
  split_ifs with taken
  · refine ⟨fun jobId => ?_, accounted.joined⟩
    have before := accounted.everyJob jobId
    simp only [beforeJoin, behindJoin, held_append, ticking, MainPhase.hand, held_nil] at before ⊢
    omega
  · refine ⟨fun jobId => ?_, fun other member => ?_⟩
    · have before := accounted.everyJob jobId
      simp only [beforeJoin, behindJoin, held_append, Option.toList_some] at before ⊢
      omega
    · simp only [behindJoin, List.mem_append] at member
      have joined := accounted.joined other
      simp only [behindJoin, List.mem_append] at joined
      rcases member with queued | hand | closed | dropped
      · exact joined (.inl queued)
      · exact joined (.inr (.inl hand))
      · exact joined (.inr (.inr closed))
      · rw [deferredJoinable, Bool.not_eq_true, Option.any_eq_false] at taken
        exact Bool.eq_false_iff.mpr (by simpa using taken other (Option.mem_toList.mp dropped))

/-- **A step of the tick thread or of `Stop`** loses no job. -/
theorem accounted_mainStep (accounted : s.Accounted) (taken : s.mainStep = some next) :
    next.Accounted := by
  have stays : ∀ phase : MainPhase, phase.hand = s.main.hand →
      ({ s with main := phase } : Reaping).Accounted := fun phase noHand =>
    accounted.of_before rfl rfl fun jobId => by simp only [beforeJoin, noHand]
  unfold mainStep at taken
  cases phase : s.main <;> simp only [phase] at taken
  case ticking | drainBlocked | stopped => cases taken
  case handing job =>
    refine accounted_handOff taken (fun jobId => ?_) accounted.joined
    have before := accounted.everyJob jobId
    simp only [beforeJoin, behindJoin, held_append, phase, MainPhase.hand, held_nil] at before ⊢
    omega
  case requested | tearingRequested | reaperShut =>
    cases taken
    refine accounted.notifyReaper.of_before rfl rfl fun jobId => ?_
    rw [notifyReaper_same]
    simp only [beforeJoin, phase]
    rfl
  case tearing =>
    cases taken
    exact accounted_requestCleanup accounted (by rw [phase]; exact ⟨rfl, rfl⟩)
  case draining =>
    split_ifs at taken
    · cases taken
      exact stays .ran (by rw [phase]; rfl)
    · cases taken
      exact stays .drainBlocked (by rw [phase]; rfl)
  case ran =>
    cases taken
    refine accounted.of_before rfl rfl fun jobId => ?_
    simp only [beforeJoin, phase]
    rfl
  case joiningReaper =>
    split_ifs at taken with exited
    cases taken
    refine ⟨fun jobId => ?_, fun other member => ?_⟩
    · have before := accounted.everyJob jobId
      simp only [beforeJoin, behindJoin, held_append, phase, MainPhase.hand, held_nil,
        held_map_joined] at before ⊢
      omega
    · simp only [behindJoin, List.mem_append, List.mem_map] at member
      have joined := accounted.joined other
      simp only [behindJoin, List.mem_append] at joined
      rcases member with queued | hand | closed | ⟨job, _, rfl⟩
      · exact joined (.inl queued)
      · exact joined (.inr (.inl hand))
      · exact joined (.inr (.inr closed))
      · rfl
  case closerShut =>
    cases taken
    refine accounted.notifyCloser.of_before rfl rfl fun jobId => ?_
    rw [notifyCloser_same]
    simp only [beforeJoin, phase]
    rfl
  case joiningCloser =>
    split_ifs at taken with exited
    cases taken
    refine ⟨fun jobId => ?_, fun other member => accounted.joined other ?_⟩
    · have before := accounted.everyJob jobId
      have sameIds : held (s.deferred.map Job.joined).toList jobId = held s.deferred.toList jobId := by
        cases s.deferred <;> rfl
      simp only [beforeJoin, behindJoin, held_append, phase, MainPhase.hand, held_nil,
        sameIds] at before ⊢
      omega
    · simp only [behindJoin, List.mem_append, List.not_mem_nil, false_or] at member ⊢
      rcases member with hand | closed | queued
      · exact .inr (.inl hand)
      · exact .inr (.inr closed)
      · exact .inl queued

/-- **A step of the reaper** loses no job, and joins before it hands over. -/
theorem accounted_reaperStep (accounted : s.Accounted) (taken : s.reaperStep = some next) :
    next.Accounted := by
  have stays : ∀ phase : ReaperPhase, phase.hand = s.reaper.hand →
      ({ s with reaper := phase } : Reaping).Accounted := fun phase sameHand =>
    accounted.of_before rfl rfl fun jobId => by simp only [beforeJoin, sameHand]
  unfold reaperStep at taken
  cases phase : s.reaper <;> simp only [phase] at taken
  case blocked | exited => cases taken
  case top =>
    split_ifs at taken
    · cases taken
      unfold wakeReaper
      split_ifs
      · exact stays .exited (by rw [phase]; rfl)
      · refine accounted.of_before rfl rfl fun jobId => ?_
        cases queued : s.reaperQueue with
        | nil =>
          simp only [beforeJoin, phase, queued]
          rfl
        | cons job rest =>
          simp only [beforeJoin, phase, queued, held_append, ReaperPhase.hand, List.head?_cons,
            List.tail_cons, Option.toList_some, held_cons job rest, held_nil]
          omega
    · cases taken
      exact stays .unready (by rw [phase]; rfl)
  case unready =>
    cases taken
    exact stays .blocked (by rw [phase]; rfl)
  case awake hand =>
    cases taken
    refine stays _ ?_
    rw [phase]
    split_ifs <;> rfl
  case taking hand =>
    split at taken
    · cases taken
      exact stays (.holding hand) (by rw [phase]; rfl)
    · rename_i job here
      split_ifs at taken
      · cases taken
        exact stays (.holding hand) (by rw [phase]; rfl)
      · cases taken
        refine accounted.of_before rfl rfl fun jobId => ?_
        simp only [beforeJoin, phase, here, held_append, ReaperPhase.hand, Option.toList_some,
          Option.toList_none, held_nil, held_cons job hand.toList]
        omega
  case joiningDeferred job hand =>
    refine accounted_handToCloser taken (fun jobId => ?_) accounted.joined
    have before := accounted.everyJob jobId
    simp only [beforeJoin, behindJoin, phase, held_append, ReaperPhase.hand,
      held_cons job hand.toList] at before ⊢
    omega
  case holding hand =>
    cases hand with
    | none =>
      cases taken
      exact stays .bottom (by rw [phase]; rfl)
    | some job =>
      refine accounted_handToCloser taken (fun jobId => ?_) accounted.joined
      have before := accounted.everyJob jobId
      simp only [beforeJoin, behindJoin, phase, held_append, ReaperPhase.hand,
        Option.toList_some, held_nil] at before ⊢
      omega
  case bottom =>
    cases taken
    refine accounted.of_before rfl rfl fun jobId => ?_
    split_ifs with drained
    · simp only [beforeJoin, phase, drained.2.2]
      rfl
    · simp only [beforeJoin, phase]
      rfl

/-- **A step of the closer** loses no job. -/
theorem accounted_closerStep (accounted : s.Accounted) (taken : s.closerStep = some next) :
    next.Accounted := by
  have keeps : next.beforeJoin = s.beforeJoin → next.submitted = s.submitted →
      next.behindJoin.Perm s.behindJoin → next.Accounted := fun before submitted permuted => by
    refine ⟨fun jobId => ?_, fun job member => accounted.joined job (permuted.mem_iff.mp member)⟩
    rw [before, submitted, ← accounted.everyJob jobId]
    exact congrArg _ ((permuted.map Job.jobId).count_eq jobId)
  unfold closerStep at taken
  cases phase : s.closer <;> simp only [phase] at taken
  case blocked | exited => cases taken
  case top =>
    split at taken
    · rename_i none
      cases taken
      refine keeps rfl rfl ?_
      rw [behindJoin, behindJoin, phase]
      split_ifs <;> exact List.Perm.refl _
    · rename_i job rest queued
      cases taken
      refine keeps rfl rfl ?_
      rw [behindJoin, behindJoin, phase, queued]
      exact List.perm_middle
  case unready =>
    cases taken
    refine keeps rfl rfl ?_
    rw [behindJoin, behindJoin, phase]
    exact List.Perm.refl _
  case deferring job =>
    cases taken
    refine keeps rfl rfl ?_
    rw [behindJoin, behindJoin, phase]
    show (s.closeQueue ++ (s.closed ++ [job])).Perm (s.closeQueue ++ ([job] ++ s.closed))
    exact List.perm_append_comm.append_left s.closeQueue

/-- **Every step** loses no job, and closes none with a thread. -/
theorem accounted_step {action : ReapAction} (accounted : s.Accounted)
    (taken : s.step action = some next) : next.Accounted := by
  cases action with
  | takeOff job =>
    simp only [step] at taken
    split_ifs at taken with ticking
    cases taken
    exact accounted_takeOff accounted ticking job
  | handOff job =>
    simp only [step] at taken
    split_ifs at taken with ticking
    refine accounted_handOff taken (fun jobId => ?_) accounted.joined
    show held s.beforeJoin jobId + held s.behindJoin jobId + held [job] jobId =
      held (s.submitted ++ [job]) jobId
    rw [held_append, ← accounted.everyJob jobId]
  | request =>
    simp only [step] at taken
    split_ifs at taken with ticking
    cases taken
    exact accounted_requestCleanup accounted (by rw [ticking]; exact ⟨rfl, rfl⟩)
  | teardown =>
    simp only [step] at taken
    split_ifs at taken with ticking
    cases taken
    refine accounted.of_before rfl rfl fun jobId => ?_
    simp only [beforeJoin, ticking]
    rfl
  | main => exact accounted_mainStep accounted taken
  | reaper => exact accounted_reaperStep accounted taken
  | closer => exact accounted_closerStep accounted taken

end Reaping

end Places

/-! ### How far the teardown is -/

section Phases

/-- How far the teardown is: it takes the phases in this order. -/
def MainPhase.rank : MainPhase → ℕ
  | .ticking => 0
  | .handing _ => 0
  | .requested => 0
  | .tearing => 1
  | .tearingRequested => 2
  | .draining => 3
  | .drainBlocked => 3
  | .ran => 4
  | .reaperShut => 5
  | .joiningReaper => 6
  | .closerShut => 7
  | .joiningCloser => 8
  | .stopped => 9

/-- The reaper is between its wait and its notification of the drain. -/
def ReaperPhase.busy : ReaperPhase → Bool
  | .awake _ => true
  | .taking _ => true
  | .joiningDeferred _ _ => true
  | .holding _ => true
  | .bottom => true
  | _ => false

namespace Reaping

/-- **What each phase of the teardown has reached.** -/
structure Phased (s : Reaping) : Prop where
  requested : s.cleanupRequested = true → s.deferredJoinable = true
  tearing : 2 ≤ s.main.rank → s.main.rank ≤ 3 → s.deferredJoinable = true →
    s.cleanupRequested = true
  drainBusy : s.main = .drainBlocked → s.reaperQueue = [] → s.deferredJoinable = false →
    s.reaper.busy = true
  drained : 4 ≤ s.main.rank → s.reaperQueue = [] ∧ s.deferredJoinable = false
  reaperShut : s.reaperShutdown = true ↔ 5 ≤ s.main.rank
  closerShut : s.closeShutdown = true ↔ 7 ≤ s.main.rank
  reaperExited : s.reaper = .exited → s.reaperShutdown = true
  closerExited : s.closer = .exited → s.closeShutdown = true
  reaperJoined : 7 ≤ s.main.rank → s.reaper = .exited
  closerJoined : 9 ≤ s.main.rank → s.closer = .exited ∧ s.closeQueue = []
  audit : s.auditFailed = false

theorem phased_init : (({} : Reaping)).Phased where
  requested := nofun
  tearing := fun late => absurd late (by decide)
  drainBusy := nofun
  drained := fun late => absurd late (by decide)
  reaperShut := by decide
  closerShut := by decide
  reaperExited := nofun
  closerExited := nofun
  reaperJoined := fun late => absurd late (by decide)
  closerJoined := fun late => absurd late (by decide)
  audit := rfl

variable {s next : Reaping}

theorem Phased.notifyReaper (phased : s.Phased) : s.notifyReaper.Phased := by
  unfold Reaping.notifyReaper
  split_ifs with blocked
  · exact { phased with
      drainBusy := fun draining none empty => by
        have busy := phased.drainBusy draining none empty
        rw [blocked] at busy
        cases busy
      reaperExited := nofun
      reaperJoined := fun late => by
        have exited := phased.reaperJoined late
        rw [blocked] at exited
        cases exited }
  · exact phased

theorem Phased.notifyCloser (phased : s.Phased) : s.notifyCloser.Phased := by
  unfold Reaping.notifyCloser
  split_ifs with blocked
  · exact { phased with
      closerExited := nofun
      closerJoined := fun late => by
        have exited := (phased.closerJoined late).1
        rw [blocked] at exited
        cases exited }
  · exact phased

/-- A phase that is no further, and not that of the drain. -/
theorem Phased.at_phase (phased : s.Phased) {phase : MainPhase} (same : phase.rank = s.main.rank)
    (notDrain : phase ≠ .drainBlocked) : ({ s with main := phase } : Reaping).Phased :=
  { phased with
    tearing := by
      rw [same]
      exact phased.tearing
    drainBusy := fun draining => absurd draining notDrain
    drained := by
      rw [same]
      exact phased.drained
    reaperShut := by
      rw [same]
      exact phased.reaperShut
    closerShut := by
      rw [same]
      exact phased.closerShut
    reaperJoined := by
      rw [same]
      exact phased.reaperJoined
    closerJoined := by
      rw [same]
      exact phased.closerJoined }

/-- A phase up to the drain, from one up to the drain. -/
theorem Phased.early (phased : s.Phased) (before : s.main.rank ≤ 3) {phase : MainPhase}
    (after : phase.rank ≤ 3)
    (tearing : 2 ≤ phase.rank → s.deferredJoinable = true → s.cleanupRequested = true)
    (busy : phase = .drainBlocked → s.reaperQueue = [] → s.deferredJoinable = false →
      s.reaper.busy = true) : ({ s with main := phase } : Reaping).Phased where
  requested := phased.requested
  tearing := fun late _ => tearing late
  drainBusy := busy
  drained := fun late => absurd (show 4 ≤ phase.rank from late) (by omega)
  reaperShut := by
    have shut := phased.reaperShut
    show s.reaperShutdown = true ↔ 5 ≤ phase.rank
    rw [shut]
    constructor <;> intro late <;> omega
  closerShut := by
    have shut := phased.closerShut
    show s.closeShutdown = true ↔ 7 ≤ phase.rank
    rw [shut]
    constructor <;> intro late <;> omega
  reaperExited := phased.reaperExited
  closerExited := phased.closerExited
  reaperJoined := fun late => absurd (show 7 ≤ phase.rank from late) (by omega)
  closerJoined := fun late => absurd (show 9 ≤ phase.rank from late) (by omega)
  audit := phased.audit

/-- The push into the reaper's queue, before the drain. -/
theorem phased_handOff {job : Job} (handed : s.handOffToReaper job = some next) (phased : s.Phased)
    (early : s.main.rank = 0) : next.Phased := by
  unfold handOffToReaper at handed
  split_ifs at handed
  · cases handed
    exact { phased with }
  · cases handed
    have notified := phased.notifyReaper
    rw [notifyReaper_same] at notified ⊢
    exact { notified with
      drainBusy := fun _ queued => absurd queued (by simp)
      drained := fun late => absurd late (by
        show ¬ 4 ≤ s.main.rank
        omega) }

/-- The push into the closer's queue, before the closer has ended. -/
theorem phased_handToCloser {job : Job} (handed : s.handToCloser job = some next)
    (phased : s.Phased) (early : s.main.rank < 9) : next.Phased := by
  unfold handToCloser at handed
  split_ifs at handed
  cases handed
  have notified := phased.notifyCloser
  rw [notifyCloser_same] at notified ⊢
  exact { notified with
    closerJoined := fun late => absurd late (by
      show ¬ 9 ≤ s.main.rank
      omega) }

theorem phased_takeOff (phased : s.Phased) (ticking : s.main = .ticking) (job : Job) :
    (s.takeOff job).Phased := by
  have rank : s.main.rank = 0 := by rw [ticking]; rfl
  unfold takeOff
  split_ifs with taken
  · have handing := phased.at_phase (show (MainPhase.handing job).rank = s.main.rank by
      rw [rank]; rfl) nofun
    exact { handing with }
  · have notRequested : s.cleanupRequested = false :=
      Bool.eq_false_iff.mpr fun asked => taken (phased.requested asked)
    exact { phased with
      requested := fun asked => absurd (notRequested.symm.trans asked) nofun
      tearing := fun late => absurd late (by show ¬ 2 ≤ s.main.rank; omega)
      drainBusy := fun draining => absurd (ticking.symm.trans draining) nofun
      drained := fun late => absurd late (by show ¬ 4 ≤ s.main.rank; omega) }

/-- **A step of the tick thread or of `Stop`** takes the next phase. -/
theorem phased_mainStep (phased : s.Phased) (taken : s.mainStep = some next) : next.Phased := by
  unfold mainStep at taken
  cases phase : s.main <;> simp only [phase] at taken
  case ticking | drainBlocked | stopped => cases taken
  case handing job =>
    exact phased_handOff taken (phased.at_phase (by rw [phase]; rfl) nofun) rfl
  case requested =>
    cases taken
    refine phased.notifyReaper.at_phase ?_ nofun
    rw [notifyReaper_same, phase]
    rfl
  case tearing =>
    cases taken
    have rank : s.main.rank ≤ 3 := by rw [phase]; decide
    unfold requestCleanup
    split_ifs with waiting
    · have asked : ({ s with cleanupRequested := true } : Reaping).Phased :=
        { phased with requested := fun _ => waiting, tearing := fun _ _ _ => rfl }
      exact asked.early rank (by decide) (fun _ _ => rfl) nofun
    · exact phased.early rank (by decide) (fun _ joinable => absurd joinable waiting) nofun
  case tearingRequested =>
    cases taken
    have rank : s.main.rank = 2 := by rw [phase]; rfl
    have notified := phased.notifyReaper
    rw [notifyReaper_same] at notified ⊢
    refine notified.early ?_ (by decide) (fun _ => phased.tearing ?_ ?_) nofun <;>
      simp only [rank] <;> decide
  case draining =>
    have rank : s.main.rank = 3 := by rw [phase]; rfl
    have notShut : ¬ s.reaperShutdown = true := fun shut => by
      have late := phased.reaperShut.mp shut
      omega
    have notClosed : ¬ s.closeShutdown = true := fun shut => by
      have late := phased.closerShut.mp shut
      omega
    split_ifs at taken with _ empty
    · cases taken
      exact { phased with
        tearing := fun _ late => absurd late (show ¬ 4 ≤ 3 by decide)
        drainBusy := nofun
        drained := fun _ => empty
        reaperShut := iff_of_false notShut (show ¬ 5 ≤ 4 by decide)
        closerShut := iff_of_false notClosed (show ¬ 7 ≤ 4 by decide)
        reaperJoined := fun late => absurd late (show ¬ 7 ≤ 4 by decide)
        closerJoined := fun late => absurd late (show ¬ 9 ≤ 4 by decide) }
    · cases taken
      exact phased.early rank.le (by decide) (fun _ => phased.tearing (by omega) (by omega))
        fun _ none joined => absurd ⟨none, joined⟩ empty
  case ran =>
    cases taken
    have rank : s.main.rank = 4 := by rw [phase]; rfl
    exact { phased with
      tearing := fun _ late => absurd late (show ¬ 5 ≤ 3 by decide)
      drainBusy := nofun
      drained := fun _ => phased.drained (by omega)
      reaperShut := iff_of_true rfl (show 5 ≤ 5 by decide)
      closerShut := iff_of_false (fun shut => by
        have late := phased.closerShut.mp shut
        omega) (show ¬ 7 ≤ 5 by decide)
      reaperExited := fun _ => rfl
      reaperJoined := fun late => absurd late (show ¬ 7 ≤ 5 by decide)
      closerJoined := fun late => absurd late (show ¬ 9 ≤ 5 by decide) }
  case reaperShut =>
    cases taken
    have notified := phased.notifyReaper
    rw [notifyReaper_same] at notified ⊢
    have rank : s.main.rank = 5 := by rw [phase]; rfl
    exact { notified with
      tearing := fun _ late => absurd late (show ¬ 6 ≤ 3 by decide)
      drainBusy := nofun
      drained := fun _ => phased.drained (by omega)
      reaperShut := iff_of_true (phased.reaperShut.mpr (by omega)) (show 5 ≤ 6 by decide)
      closerShut := iff_of_false (fun shut => by
        have late := phased.closerShut.mp shut
        omega) (show ¬ 7 ≤ 6 by decide)
      reaperJoined := fun late => absurd late (show ¬ 7 ≤ 6 by decide)
      closerJoined := fun late => absurd late (show ¬ 9 ≤ 6 by decide) }
  case joiningReaper =>
    have rank : s.main.rank = 6 := by rw [phase]; rfl
    split_ifs at taken with exited
    cases taken
    exact { phased with
      tearing := fun _ late => absurd late (show ¬ 7 ≤ 3 by decide)
      drainBusy := nofun
      drained := fun _ => ⟨rfl, (phased.drained (by omega)).2⟩
      reaperShut := iff_of_true (phased.reaperShut.mpr (by omega)) (show 5 ≤ 7 by decide)
      closerShut := iff_of_true rfl (show 7 ≤ 7 by decide)
      closerExited := fun _ => rfl
      reaperJoined := fun _ => exited
      closerJoined := fun late => absurd late (show ¬ 9 ≤ 7 by decide) }
  case closerShut =>
    cases taken
    have notified := phased.notifyCloser
    rw [notifyCloser_same] at notified ⊢
    have rank : s.main.rank = 7 := by rw [phase]; rfl
    exact { notified with
      tearing := fun _ late => absurd late (show ¬ 8 ≤ 3 by decide)
      drainBusy := nofun
      drained := fun _ => phased.drained (by omega)
      reaperShut := iff_of_true (phased.reaperShut.mpr (by omega)) (show 5 ≤ 8 by decide)
      closerShut := iff_of_true (phased.closerShut.mpr (by omega)) (show 7 ≤ 8 by decide)
      reaperJoined := fun _ => phased.reaperJoined (by omega)
      closerJoined := fun late => absurd late (show ¬ 9 ≤ 8 by decide) }
  case joiningCloser =>
    have rank : s.main.rank = 8 := by rw [phase]; rfl
    split_ifs at taken with exited
    cases taken
    obtain ⟨none, joined⟩ := phased.drained (by omega)
    have stillJoined : (s.deferred.map Job.joined).any Job.joinable = false := by
      cases s.deferred <;> rfl
    exact { phased with
      requested := fun asked => absurd ((phased.requested asked).symm.trans joined) nofun
      tearing := fun _ late => absurd late (show ¬ 9 ≤ 3 by decide)
      drainBusy := nofun
      drained := fun _ => ⟨none, stillJoined⟩
      reaperShut := iff_of_true (phased.reaperShut.mpr (by omega)) (show 5 ≤ 9 by decide)
      closerShut := iff_of_true (phased.closerShut.mpr (by omega)) (show 7 ≤ 9 by decide)
      reaperJoined := fun _ => phased.reaperJoined (by omega)
      closerJoined := fun _ => ⟨exited, rfl⟩
      audit := joined }

/-- The reaper moves on, nothing else. -/
theorem Phased.of_reaper (phased : s.Phased) {reaper : ReaperPhase}
    (notExited : s.reaper ≠ .exited)
    (exits : reaper = .exited → s.reaperShutdown = true)
    (busy : s.main = .drainBlocked → s.reaperQueue = [] → s.deferredJoinable = false →
      reaper.busy = true) : ({ s with reaper := reaper } : Reaping).Phased :=
  { phased with
    drainBusy := busy
    reaperExited := exits
    reaperJoined := fun late => absurd (phased.reaperJoined late) notExited }

/-- **A step of the reaper** stays in the phase, or ends the drain. -/
theorem phased_reaperStep (phased : s.Phased) (taken : s.reaperStep = some next) :
    next.Phased := by
  have early : s.reaper ≠ .exited → s.main.rank < 7 := fun alive =>
    Nat.lt_of_not_le fun late => alive (phased.reaperJoined late)
  unfold reaperStep at taken
  cases phase : s.reaper <;> simp only [phase] at taken
  case blocked | exited => cases taken
  case top =>
    have alive : s.reaper ≠ .exited := by rw [phase]; nofun
    have notBlocked : s.main = .drainBlocked → s.reaperQueue = [] → s.deferredJoinable = false →
        False := fun draining none joined => by
      have busy := phased.drainBusy draining none joined
      rw [phase] at busy
      cases busy
    split_ifs at taken
    · cases taken
      unfold wakeReaper
      split_ifs with ends
      · exact phased.of_reaper alive (fun _ => ends.1) fun draining none joined =>
          (notBlocked draining none joined).elim
      · exact { phased with
          drainBusy := fun _ _ _ => rfl
          drained := fun late => ⟨by
            show s.reaperQueue.tail = []
            rw [(phased.drained late).1]
            rfl, (phased.drained late).2⟩
          reaperExited := nofun
          reaperJoined := fun late => absurd (phased.reaperJoined late) alive }
    · cases taken
      exact phased.of_reaper alive nofun fun draining none joined =>
        (notBlocked draining none joined).elim
  case unready =>
    cases taken
    refine phased.of_reaper (by rw [phase]; nofun) nofun fun draining none joined => ?_
    have busy := phased.drainBusy draining none joined
    rw [phase] at busy
    cases busy
  case awake hand =>
    cases taken
    refine phased.of_reaper (by rw [phase]; nofun) (fun exits => ?_) fun _ _ _ => ?_
    · split_ifs at exits
    · split_ifs <;> rfl
  case taking hand =>
    have alive : s.reaper ≠ .exited := by rw [phase]; nofun
    split at taken
    · cases taken
      exact phased.of_reaper alive nofun fun _ _ _ => rfl
    · rename_i job here
      split_ifs at taken
      · cases taken
        exact phased.of_reaper alive nofun fun _ _ _ => rfl
      · cases taken
        exact { phased with
          requested := nofun
          tearing := nofun
          drainBusy := fun _ _ _ => rfl
          drained := fun late => ⟨(phased.drained late).1, rfl⟩
          reaperExited := nofun
          reaperJoined := fun late => absurd (phased.reaperJoined late) alive }
  case joiningDeferred job hand =>
    have alive : s.reaper ≠ .exited := by rw [phase]; nofun
    exact phased_handToCloser taken (phased.of_reaper alive nofun fun _ _ _ => rfl)
      (lt_trans (early alive) (by decide))
  case holding hand =>
    have alive : s.reaper ≠ .exited := by rw [phase]; nofun
    have moved : ({ s with reaper := .bottom } : Reaping).Phased :=
      phased.of_reaper alive nofun fun _ _ _ => rfl
    cases hand with
    | none =>
      cases taken
      exact moved
    | some job => exact phased_handToCloser taken moved (lt_trans (early alive) (by decide))
  case bottom =>
    cases taken
    have alive : s.reaper ≠ .exited := by rw [phase]; nofun
    split_ifs with drains
    · have atDrain := phased.at_phase (show MainPhase.draining.rank = s.main.rank by
        rw [drains.2.2]; rfl) nofun
      exact atDrain.of_reaper alive nofun fun draining => absurd draining nofun
    · exact phased.of_reaper alive nofun fun draining none joined =>
        absurd ⟨none, joined, draining⟩ drains

/-- **A step of the closer** stays in the phase. -/
theorem phased_closerStep (phased : s.Phased) (taken : s.closerStep = some next) :
    next.Phased := by
  unfold closerStep at taken
  cases phase : s.closer <;> simp only [phase] at taken
  case blocked | exited => cases taken
  case top =>
    have alive : s.closer ≠ .exited := by rw [phase]; nofun
    split at taken
    · cases taken
      exact { phased with
        closerExited := fun exits => by
          change (if s.closeShutdown = true then CloserPhase.exited else .unready) = _ at exits
          split_ifs at exits with shut
          exact shut
        closerJoined := fun late => absurd (phased.closerJoined late).1 alive }
    · cases taken
      exact { phased with
        closerExited := nofun
        closerJoined := fun late => absurd (phased.closerJoined late).1 alive }
  case unready | deferring =>
    cases taken
    exact { phased with
      closerExited := nofun
      closerJoined := fun late => absurd (phased.closerJoined late).1 (by rw [phase]; nofun) }

/-- **Every step** keeps what the phases have reached. -/
theorem phased_step {action : ReapAction} (phased : s.Phased)
    (taken : s.step action = some next) : next.Phased := by
  cases action with
  | takeOff job =>
    simp only [step] at taken
    split_ifs at taken with ticking
    cases taken
    exact phased_takeOff phased ticking job
  | handOff job =>
    simp only [step] at taken
    split_ifs at taken with ticking
    exact phased_handOff taken { phased with } (by
      show s.main.rank = 0
      rw [ticking]
      rfl)
  | request =>
    simp only [step] at taken
    split_ifs at taken with ticking
    cases taken
    unfold requestCleanup
    split_ifs with waiting
    · have asked := phased.at_phase (show MainPhase.requested.rank = s.main.rank by
        rw [ticking]; rfl) nofun
      exact { asked with
        requested := fun _ => waiting
        tearing := fun _ _ _ => rfl }
    · exact phased.at_phase (by rw [ticking]) nofun
  | teardown =>
    simp only [step] at taken
    split_ifs at taken with ticking
    cases taken
    exact phased.early (by rw [ticking]; decide) (by decide) (fun late => absurd late (by decide))
      nofun
  | main => exact phased_mainStep phased taken
  | reaper => exact phased_reaperStep phased taken
  | closer => exact phased_closerStep phased taken

end Reaping

end Phases

/-! ### Runs -/

section Runs

namespace Reaping

/-- What every run keeps. -/
theorem phased_run {actions : List ReapAction} {final : Reaping}
    (ran : runActions step {} actions = some final) : final.Accounted ∧ final.Phased :=
  invariant_along step (fun s => s.Accounted ∧ s.Phased) (fun _ _ => True)
    (fun _ _ _ here _ taken => ⟨accounted_step here.1 taken, phased_step here.2 taken⟩) actions
    ⟨accounted_init, phased_init⟩ (along_of_forall step (fun _ _ => trivial) actions _) ran

/-- Ids occur equally often in two lists of jobs. -/
theorem perm_of_held {first second : List Job} (same : ∀ jobId, held first jobId = held second jobId) :
    (first.map Job.jobId).Perm (second.map Job.jobId) :=
  List.perm_iff_count.mpr same

end Reaping

/-- **No fill thread is lost**, however the threads come between each other: every job that was
submitted is at one place, none is closed with a thread to join, and `Stop` finds none in its defensive
drain of the reaper's queue or in its audit. When it is done all are closed, but one without a thread
that may be left in the slot. -/
theorem reaped_of_run {actions : List ReapAction} {final : Reaping}
    (ran : runActions Reaping.step {} actions = some final) :
    ((final.beforeJoin ++ final.behindJoin).map Job.jobId).Perm (final.submitted.map Job.jobId) ∧
      (∀ job ∈ final.behindJoin, job.joinable = false) ∧
      (final.main = .joiningReaper → final.reaperQueue = []) ∧ final.auditFailed = false ∧
      (final.main = .stopped →
        ((final.deferred.toList ++ final.closed).map Job.jobId).Perm
          (final.submitted.map Job.jobId) ∧ final.deferredJoinable = false) := by
  obtain ⟨accounted, phased⟩ := Reaping.phased_run ran
  have everywhere : ((final.beforeJoin ++ final.behindJoin).map Job.jobId).Perm
      (final.submitted.map Job.jobId) := Reaping.perm_of_held fun jobId => by
    rw [held_append, accounted.everyJob]
  refine ⟨everywhere, accounted.joined, ?_, phased.audit, ?_⟩
  · intro joining
    exact (phased.drained (by rw [joining]; decide)).1
  · intro stopped
    have rank : final.main.rank = 9 := by rw [stopped]; rfl
    obtain ⟨noneQueued, noneDeferred⟩ := phased.drained (by omega)
    obtain ⟨closerExited, noneClosing⟩ := phased.closerJoined (by omega)
    rw [Reaping.beforeJoin, Reaping.behindJoin, stopped, noneQueued, phased.reaperJoined (by omega),
      closerExited, noneClosing] at everywhere
    refine ⟨?_, noneDeferred⟩
    simpa [MainPhase.hand, ReaperPhase.hand, CloserPhase.hand] using everywhere

/-- Two swaps, the second while the slot is full, and a stop. -/
def twoSwaps : List ReapAction :=
  [.takeOff ⟨1, true⟩, .takeOff ⟨2, true⟩, .main, .reaper, .reaper, .request, .main, .reaper, .reaper,
    .closer, .closer, .reaper, .reaper, .reaper, .reaper, .reaper, .teardown, .main, .main, .main,
    .main, .reaper, .reaper, .main, .closer, .closer, .closer, .main, .main]

theorem reaped_of_twoSwaps :
    ∃ final : Reaping, runActions Reaping.step {} twoSwaps = some final ∧ final.main = .stopped ∧
      ((final.deferred.toList ++ final.closed).map Job.jobId).Perm
        (final.submitted.map Job.jobId) := by
  obtain ⟨final, ran, stopped⟩ := exists_run Reaping.step {} twoSwaps
    (fun final => final.main = .stopped) (by decide)
  exact ⟨final, ran, stopped, ((reaped_of_run ran).2.2.2.2 stopped).1⟩

end Runs

/-! ### Notifications without the mutex -/

section Notifications

/-- Between the predicate and the end of the wait. -/
def ReaperPhase.resting : ReaperPhase → Bool
  | .unready => true
  | .blocked => true
  | _ => false

def CloserPhase.resting : CloserPhase → Bool
  | .unready => true
  | .blocked => true
  | _ => false

/-- The phases that end in a notification of the reaper, sent without its mutex. -/
def MainPhase.notifiesReaper : MainPhase → Bool
  | .requested => true
  | .tearingRequested => true
  | .reaperShut => true
  | _ => false

namespace Reaping

/-- A notification that is sent without the mutex does not come between its thread's predicate and
wait. -/
def Heard (s : Reaping) (action : ReapAction) : Prop :=
  action = .main → (s.main.notifiesReaper = true → s.reaper ≠ .unready) ∧
    (s.main = .closerShut → s.closer ≠ .unready)

instance (s : Reaping) (action : ReapAction) : Decidable (s.Heard action) :=
  inferInstanceAs (Decidable (action = .main →
    (s.main.notifiesReaper = true → s.reaper ≠ .unready) ∧
      (s.main = .closerShut → s.closer ≠ .unready)))

/-- **No thread rests on what it should have heard**: what it waits for has not come, or the
notification is still to be sent. -/
structure Alert (s : Reaping) : Prop where
  reaper : s.reaper.resting = true → s.reaperQueue = [] ∧
    (s.cleanupRequested = true → s.main = .requested ∨ s.main = .tearingRequested) ∧
    (s.reaperShutdown = true → s.main = .reaperShut)
  closer : s.closer.resting = true → s.closeQueue = [] ∧
    (s.closeShutdown = true → s.main = .closerShut)

theorem alert_init : (({} : Reaping)).Alert where
  reaper := nofun
  closer := nofun

variable {s next : Reaping}

/-- A notification that is heard leaves no reaper resting. -/
theorem not_resting_notifyReaper (heard : s.reaper ≠ .unready) :
    s.notifyReaper.reaper.resting = false := by
  unfold notifyReaper
  split_ifs with blocked
  · rfl
  · cases phase : s.reaper with
    | unready => exact absurd phase heard
    | blocked => exact absurd phase blocked
    | top | awake | taking | joiningDeferred | holding | bottom | exited => rfl

theorem not_resting_notifyCloser (heard : s.closer ≠ .unready) :
    s.notifyCloser.closer.resting = false := by
  unfold notifyCloser
  split_ifs with blocked
  · rfl
  · cases phase : s.closer with
    | unready => exact absurd phase heard
    | blocked => exact absurd phase blocked
    | top | deferring | exited => rfl

/-- A phase in which nothing is set that the threads wait for. -/
theorem Alert.at_phase (alert : s.Alert) {phase : MainPhase}
    (quiet : s.main ≠ .requested ∧ s.main ≠ .tearingRequested ∧ s.main ≠ .reaperShut ∧
      s.main ≠ .closerShut) : ({ s with main := phase } : Reaping).Alert where
  reaper := fun resting => by
    obtain ⟨none, asked, shut⟩ := alert.reaper resting
    refine ⟨none, fun isAsked => ?_, fun isShut => absurd (shut isShut) quiet.2.2.1⟩
    rcases asked isAsked with same | same
    · exact absurd same quiet.1
    · exact absurd same quiet.2.1
  closer := fun resting =>
    ⟨(alert.closer resting).1, fun shut => absurd ((alert.closer resting).2 shut) quiet.2.2.2⟩

/-- A notification of the reaper that is heard, and the phase after it. -/
theorem Alert.notifyReaper (alert : s.Alert) (heard : s.reaper ≠ .unready)
    (notClosing : s.main ≠ .closerShut) {phase : MainPhase} :
    ({ s.notifyReaper with main := phase } : Reaping).Alert := by
  have awake := not_resting_notifyReaper heard
  rw [notifyReaper_same] at awake ⊢
  exact
    { reaper := fun resting => absurd (resting.symm.trans awake) nofun
      closer := fun resting =>
        ⟨(alert.closer resting).1, fun shut => absurd ((alert.closer resting).2 shut) notClosing⟩ }

theorem alert_handOff {job : Job} (handed : s.handOffToReaper job = some next) (alert : s.Alert) :
    next.Alert := by
  unfold handOffToReaper at handed
  split_ifs at handed with _ holds
  · cases handed
    exact { alert with }
  · cases handed
    have awake := not_resting_notifyReaper holds
    rw [notifyReaper_same] at awake ⊢
    exact { alert with reaper := fun resting => absurd (resting.symm.trans awake) nofun }

theorem alert_handToCloser {job : Job} (handed : s.handToCloser job = some next) (alert : s.Alert) :
    next.Alert := by
  unfold handToCloser at handed
  split_ifs at handed with holds
  cases handed
  have awake := not_resting_notifyCloser holds
  rw [notifyCloser_same] at awake ⊢
  exact { alert with closer := fun resting => absurd (resting.symm.trans awake) nofun }

theorem alert_requestCleanup (alert : s.Alert) {notifying passed : MainPhase}
    (asks : notifying = .requested ∨ notifying = .tearingRequested)
    (quiet : s.main ≠ .requested ∧ s.main ≠ .tearingRequested ∧ s.main ≠ .reaperShut ∧
      s.main ≠ .closerShut) : (s.requestCleanup notifying passed).Alert := by
  unfold requestCleanup
  split_ifs
  · have noted : ({ s with main := notifying } : Reaping).Alert := alert.at_phase quiet
    exact { noted with
      reaper := fun resting => ⟨(alert.reaper resting).1, fun _ => asks, (noted.reaper resting).2.2⟩ }
  · exact alert.at_phase quiet

/-- **A step of the tick thread or of `Stop`** whose notification is heard. -/
theorem alert_mainStep (alert : s.Alert) (phased : s.Phased) (heard : s.Heard .main)
    (taken : s.mainStep = some next) : next.Alert := by
  obtain ⟨hearsReaper, hearsCloser⟩ := heard rfl
  unfold mainStep at taken
  cases phase : s.main <;> simp only [phase] at taken
  case ticking | drainBlocked | stopped => cases taken
  case handing job =>
    exact alert_handOff taken (alert.at_phase (by rw [phase]; exact ⟨nofun, nofun, nofun, nofun⟩))
  case requested | tearingRequested | reaperShut =>
    cases taken
    exact alert.notifyReaper (hearsReaper (by rw [phase]; rfl)) (by rw [phase]; nofun)
  case tearing =>
    cases taken
    exact alert_requestCleanup alert (.inr rfl) (by rw [phase]; exact ⟨nofun, nofun, nofun, nofun⟩)
  case draining =>
    have quiet : s.main ≠ .requested ∧ s.main ≠ .tearingRequested ∧ s.main ≠ .reaperShut ∧
        s.main ≠ .closerShut := by rw [phase]; exact ⟨nofun, nofun, nofun, nofun⟩
    split_ifs at taken
    · cases taken
      exact alert.at_phase quiet
    · cases taken
      exact alert.at_phase quiet
  case ran =>
    cases taken
    have shut : ({ s with main := .reaperShut } : Reaping).Alert :=
      alert.at_phase (by rw [phase]; exact ⟨nofun, nofun, nofun, nofun⟩)
    exact { shut with
      reaper := fun resting => ⟨(alert.reaper resting).1, (shut.reaper resting).2.1, fun _ => rfl⟩ }
  case joiningReaper =>
    split_ifs at taken with exited
    cases taken
    exact
      { reaper := fun resting => by
          rw [show s.reaper = .exited from exited] at resting
          cases resting
        closer := fun resting => ⟨(alert.closer resting).1, fun _ => rfl⟩ }
  case closerShut =>
    cases taken
    have awake := not_resting_notifyCloser (hearsCloser phase)
    have exited := phased.reaperJoined (by rw [phase]; decide)
    rw [notifyCloser_same] at awake ⊢
    exact
      { reaper := fun resting => by
          rw [show s.reaper = .exited from exited] at resting
          cases resting
        closer := fun resting => absurd (resting.symm.trans awake) nofun }
  case joiningCloser =>
    split_ifs at taken with exited
    cases taken
    have reaperExited := phased.reaperJoined (by rw [phase]; decide)
    exact
      { reaper := fun resting => by
          rw [show s.reaper = .exited from reaperExited] at resting
          cases resting
        closer := fun resting => by
          rw [show s.closer = .exited from exited] at resting
          cases resting }

/-- A step of the reaper: it rests only where it has found nothing to do. -/
theorem alert_reaperStep (alert : s.Alert) (taken : s.reaperStep = some next) : next.Alert := by
  have goes : ∀ phase : ReaperPhase, phase.resting = false →
      ({ s with reaper := phase } : Reaping).Alert := fun phase notResting =>
    { alert with reaper := fun resting => absurd (resting.symm.trans notResting) nofun }
  unfold reaperStep at taken
  cases phase : s.reaper <;> simp only [phase] at taken
  case blocked | exited => cases taken
  case top =>
    split_ifs at taken with found
    · cases taken
      unfold wakeReaper
      split_ifs
      · exact goes .exited rfl
      · exact { alert with reaper := nofun }
    · cases taken
      rw [not_or, not_or, not_not] at found
      exact { alert with
        reaper := fun _ => ⟨found.2.1, fun asked => absurd asked found.2.2,
          fun shut => absurd shut found.1⟩ }
  case unready =>
    cases taken
    exact { alert with reaper := fun _ => alert.reaper (by rw [phase]; rfl) }
  case awake hand =>
    cases taken
    refine goes _ ?_
    split_ifs <;> rfl
  case taking hand =>
    split at taken
    · cases taken
      exact goes (.holding hand) rfl
    · split_ifs at taken
      · cases taken
        exact goes (.holding hand) rfl
      · cases taken
        exact { alert with reaper := nofun }
  case joiningDeferred job hand =>
    exact alert_handToCloser taken (goes (.holding hand) rfl)
  case holding hand =>
    cases hand with
    | none =>
      cases taken
      exact goes .bottom rfl
    | some job => exact alert_handToCloser taken (goes .bottom rfl)
  case bottom =>
    cases taken
    refine { alert with reaper := nofun, closer := fun resting => ⟨(alert.closer resting).1, ?_⟩ }
    intro shut
    have closing := (alert.closer resting).2 shut
    rw [if_neg (by rw [closing]; exact fun drains => nomatch drains.2.2)]
    exact closing

/-- A step of the closer: it rests only where it has found nothing to do. -/
theorem alert_closerStep (alert : s.Alert) (taken : s.closerStep = some next) : next.Alert := by
  unfold closerStep at taken
  cases phase : s.closer <;> simp only [phase] at taken
  case blocked | exited => cases taken
  case top =>
    split at taken
    · rename_i none
      cases taken
      refine { alert with closer := fun resting => ⟨none, fun shut => ?_⟩ }
      change (if s.closeShutdown = true then CloserPhase.exited else .unready).resting = true
        at resting
      rw [if_pos shut] at resting
      cases resting
    · cases taken
      exact { alert with closer := nofun }
  case unready =>
    cases taken
    exact { alert with closer := fun _ => alert.closer (by rw [phase]; rfl) }
  case deferring =>
    cases taken
    exact { alert with closer := nofun }

/-- **Every step whose notification is heard** leaves no thread resting on what it should have heard. -/
theorem alert_step {action : ReapAction} (alert : s.Alert) (phased : s.Phased)
    (heard : s.Heard action) (taken : s.step action = some next) : next.Alert := by
  cases action with
  | takeOff job =>
    simp only [step] at taken
    split_ifs at taken with ticking
    cases taken
    have quiet : s.main ≠ .requested ∧ s.main ≠ .tearingRequested ∧ s.main ≠ .reaperShut ∧
        s.main ≠ .closerShut := by rw [ticking]; exact ⟨nofun, nofun, nofun, nofun⟩
    unfold takeOff
    split_ifs
    · have handing : ({ s with main := .handing job } : Reaping).Alert := alert.at_phase quiet
      exact { handing with }
    · exact { alert with }
  | handOff job =>
    simp only [step] at taken
    split_ifs at taken with ticking
    exact alert_handOff taken { alert with }
  | request =>
    simp only [step] at taken
    split_ifs at taken with ticking
    cases taken
    exact alert_requestCleanup alert (.inl rfl) (by
      rw [ticking]; exact ⟨nofun, nofun, nofun, nofun⟩)
  | teardown =>
    simp only [step] at taken
    split_ifs at taken with ticking
    cases taken
    exact alert.at_phase (by rw [ticking]; exact ⟨nofun, nofun, nofun, nofun⟩)
  | main => exact alert_mainStep alert phased heard taken
  | reaper => exact alert_reaperStep alert taken
  | closer => exact alert_closerStep alert taken

/-- Some thread can move. -/
def Goes (s : Reaping) : Prop := ∃ action, (s.step action).isSome = true

theorem goes_of_closer (atMutex : s.closer = .unready) : s.Goes :=
  ⟨.closer, by simp only [step, closerStep, atMutex, Option.isSome_some]⟩

/-- A reaper that is not waiting for a notification moves, or the closer does. -/
theorem goes_of_reaper (notBlocked : s.reaper ≠ .blocked) (notExited : s.reaper ≠ .exited) :
    s.Goes := by
  have hands : ∀ (moved : Reaping) (job : Job), moved.closer = s.closer →
      s.Goes ∨ ∃ next, moved.handToCloser job = some next := fun moved job same => by
    unfold handToCloser
    rw [same]
    by_cases atMutex : s.closer = .unready
    · exact .inl (goes_of_closer atMutex)
    · exact .inr ⟨_, if_neg atMutex⟩
  cases phase : s.reaper with
  | blocked => exact absurd phase notBlocked
  | exited => exact absurd phase notExited
  | top =>
    refine ⟨.reaper, ?_⟩
    simp only [step, reaperStep, phase]
    split_ifs <;> rfl
  | unready => exact ⟨.reaper, by simp only [step, reaperStep, phase, Option.isSome_some]⟩
  | awake hand => exact ⟨.reaper, by simp only [step, reaperStep, phase, Option.isSome_some]⟩
  | taking hand =>
    refine ⟨.reaper, ?_⟩
    simp only [step, reaperStep, phase]
    split
    · rfl
    · split_ifs <;> rfl
  | joiningDeferred job hand =>
    rcases hands { s with reaper := .holding hand } job.joined rfl with goes | ⟨next, handed⟩
    · exact goes
    · exact ⟨.reaper, by simp only [step, reaperStep, phase, handed, Option.isSome_some]⟩
  | holding hand =>
    cases hand with
    | none => exact ⟨.reaper, by simp only [step, reaperStep, phase, Option.isSome_some]⟩
    | some job =>
      rcases hands { s with reaper := .bottom } job.joined rfl with goes | ⟨next, handed⟩
      · exact goes
      · exact ⟨.reaper, by simp only [step, reaperStep, phase, handed, Option.isSome_some]⟩
  | bottom => exact ⟨.reaper, by simp only [step, reaperStep, phase, Option.isSome_some]⟩

/-- **No deadlock** where every notification is heard. -/
theorem goes_of_alert (phased : s.Phased) (alert : s.Alert) (unfinished : s.main ≠ .stopped) :
    s.Goes := by
  have notExited : s.main.rank < 5 → s.reaper ≠ .exited := fun early exited => by
    have late := phased.reaperShut.mp (phased.reaperExited exited)
    omega
  cases phase : s.main with
  | ticking => exact ⟨.request, by simp only [step, phase, if_true, Option.isSome_some]⟩
  | handing job =>
    by_cases holds : s.reaper = .unready
    · exact goes_of_reaper (by rw [holds]; nofun) (by rw [holds]; nofun)
    · refine ⟨.main, ?_⟩
      simp only [step, mainStep, phase, handOffToReaper, if_neg holds]
      split_ifs <;> rfl
  | requested | tearing | tearingRequested | ran | reaperShut | closerShut =>
    exact ⟨.main, by simp only [step, mainStep, phase, Option.isSome_some]⟩
  | draining =>
    by_cases holds : s.reaper = .unready
    · exact goes_of_reaper (by rw [holds]; nofun) (by rw [holds]; nofun)
    · refine ⟨.main, ?_⟩
      simp only [step, mainStep, phase, if_neg holds]
      split_ifs <;> rfl
  | drainBlocked =>
    refine goes_of_reaper (fun blocked => ?_) (notExited (by rw [phase]; decide))
    -- a blocked reaper has nothing queued and no request, so the drain would have ended
    obtain ⟨none, asked, _⟩ := alert.reaper (by rw [blocked]; rfl)
    have notAsked : ¬ s.cleanupRequested = true := fun isAsked => by
      rcases asked isAsked with same | same <;> exact nomatch phase.symm.trans same
    have joined : s.deferredJoinable = false := Bool.eq_false_iff.mpr fun joinable =>
      notAsked (phased.tearing (by rw [phase]; decide) (by rw [phase]; decide) joinable)
    have busy := phased.drainBusy phase none joined
    rw [blocked] at busy
    cases busy
  | joiningReaper =>
    by_cases exited : s.reaper = .exited
    · exact ⟨.main, by simp only [step, mainStep, phase, exited, if_true, Option.isSome_some]⟩
    · refine goes_of_reaper (fun blocked => ?_) exited
      have shut := phased.reaperShut.mpr (by rw [phase]; decide)
      exact nomatch phase.symm.trans ((alert.reaper (by rw [blocked]; rfl)).2.2 shut)
  | joiningCloser =>
    cases closing : s.closer with
    | exited => exact ⟨.main, by simp only [step, mainStep, phase, closing, if_true, Option.isSome_some]⟩
    | blocked =>
      have shut := phased.closerShut.mpr (by rw [phase]; decide)
      exact nomatch phase.symm.trans ((alert.closer (by rw [closing]; rfl)).2 shut)
    | unready => exact goes_of_closer closing
    | top =>
      refine ⟨.closer, ?_⟩
      simp only [step, closerStep, closing]
      split <;> rfl
    | deferring => exact ⟨.closer, by simp only [step, closerStep, closing, Option.isSome_some]⟩
  | stopped => exact absurd phase unfinished

/-- The teardown waits for a reaper that waits. -/
structure Hung (s : Reaping) : Prop where
  main : s.main = .draining ∨ s.main = .drainBlocked
  reaper : s.reaper = .unready ∨ s.reaper = .blocked
  joinable : s.deferredJoinable = true

/-- **Nothing ends it.** -/
theorem hung_step {action : ReapAction} (hung : s.Hung) (taken : s.step action = some next) :
    next.Hung := by
  have notTicking : s.main ≠ .ticking := by
    rcases hung.main with phase | phase <;> rw [phase] <;> nofun
  cases action with
  | takeOff | handOff | request | teardown =>
    simp only [step, if_neg notTicking] at taken
    cases taken
  | main =>
    rcases hung.main with phase | phase
    · simp only [step, mainStep, phase] at taken
      split_ifs at taken with _ empty
      · exact absurd (hung.joinable.symm.trans empty.2) nofun
      · cases taken
        exact ⟨.inr rfl, hung.reaper, hung.joinable⟩
    · simp only [step, mainStep, phase] at taken
      cases taken
  | reaper =>
    rcases hung.reaper with phase | phase
    · simp only [step, reaperStep, phase] at taken
      cases taken
      exact ⟨hung.main, .inr rfl, hung.joinable⟩
    · simp only [step, reaperStep, phase] at taken
      cases taken
  | closer =>
    simp only [step, closerStep] at taken
    split at taken
    · split at taken <;> cases taken <;> exact ⟨hung.main, hung.reaper, hung.joinable⟩
    · cases taken
      exact ⟨hung.main, hung.reaper, hung.joinable⟩
    · cases taken
    · cases taken
    · cases taken
      exact ⟨hung.main, hung.reaper, hung.joinable⟩

end Reaping

/-- **The teardown ends where its notifications are heard.** In every run in which none of those sent
without the mutex comes between a predicate and its wait, some thread can move until `Stop` is done.
Where the one of the teardown does come there, with the request standing, `Run` never returns. -/
theorem drains_of_heard {actions : List ReapAction} {final : Reaping}
    (ran : runActions Reaping.step {} actions = some final) :
    (Along Reaping.step Reaping.Heard {} actions → final.main ≠ .stopped → final.Goes) ∧
      (final.main = .tearingRequested → final.reaper = .unready → final.cleanupRequested = true →
        ∀ later next, runActions Reaping.step final (.main :: later) = some next →
          next.main = .draining ∨ next.main = .drainBlocked) := by
  constructor
  · intro heard unfinished
    have kept : final.Phased ∧ final.Alert :=
      invariant_along Reaping.step (fun s => s.Phased ∧ s.Alert) Reaping.Heard
        (fun _ _ _ here hears taken =>
          ⟨Reaping.phased_step here.1 taken, Reaping.alert_step here.2 here.1 hears taken⟩)
        actions ⟨Reaping.phased_init, Reaping.alert_init⟩ heard ran
    exact Reaping.goes_of_alert kept.1 kept.2 unfinished
  · intro tearing unready asked later next goesOn
    obtain ⟨middle, notified, rest⟩ := (runActions_cons_some Reaping.step).mp goesOn
    have joinable := (Reaping.phased_run ran).2.requested asked
    have isMiddle : some { final with main := .draining } = some middle := by
      rw [← notified]
      simp only [Reaping.step, Reaping.mainStep, tearing, Reaping.notifyReaper, unready,
        reduceCtorEq, if_false]
    cases isMiddle
    have hung : ({ final with main := .draining } : Reaping).Hung :=
      ⟨.inl rfl, .inl unready, joinable⟩
    exact (invariant_along Reaping.step Reaping.Hung (fun _ _ => True)
      (fun _ _ _ here _ taken => Reaping.hung_step here taken) later hung
      (along_of_forall Reaping.step (fun _ _ => trivial) later _) rest).main

/-- A stop whose notifications are heard, and one whose request comes when the reaper has found nothing
to do and does not wait yet. -/
theorem drains_of_twoSwaps :
    (∃ final : Reaping, runActions Reaping.step {} (twoSwaps.take 20) = some final ∧ final.Goes) ∧
      ∃ final : Reaping,
        runActions Reaping.step {} [.takeOff ⟨1, true⟩, .reaper, .teardown, .main] = some final ∧
          ∀ later next, runActions Reaping.step final (.main :: later) = some next →
            next.main = .draining ∨ next.main = .drainBlocked := by
  constructor
  · obtain ⟨final, ran, unfinished⟩ := exists_run Reaping.step {} (twoSwaps.take 20)
      (fun final => final.main ≠ .stopped) (by decide)
    exact ⟨final, ran, (drains_of_heard ran).1 (by decide) unfinished⟩
  · obtain ⟨final, ran, tearing, unready, asked⟩ := exists_run Reaping.step {}
      [.takeOff ⟨1, true⟩, .reaper, .teardown, .main]
      (fun final => final.main = .tearingRequested ∧ final.reaper = .unready ∧
        final.cleanupRequested = true) (by decide)
    exact ⟨final, ran, (drains_of_heard ran).2 tearing unready asked⟩

end Notifications

end Retrovue.Air.Blockplan
