/-
**Liveness recovery of a channel** (`ChannelManager._on_producer_session_end`, `_attempt_recovery`).

* `LiveChannel`: the viewers, the producers whose session runs, the attempts and the timers;
* `LiveChannel.ensureProducerRunning`: the start of a producer with its session, which does to the
  active producer what the start without sessions does (`ensure_refines`);
* `Sound`: at most one session runs, that of the active producer, and at most one timer is pending, on
  every run (`Sound.step`);
* `recovery_never_forgotten`: on every run whose starts under an owed recovery succeed, a channel with
  viewers whose last session ended recoverably is on the air or about to try, while it has attempts
  left;
* `recovery_forgotten`: a failed attempt schedules no next one.
-/

import Mathlib
import Retrovue.Core.Viewers.ChannelManager

namespace Retrovue.Core.Viewers

open Retrovue.Foundation.Transition

/-! ### The channel -/

section Channel

/-- `ChannelManager`, as far as recovery is concerned. -/
structure LiveChannel (Session : Type) where
  viewerSessions : Finset Session := ∅
  activeProducer : Option ℕ := none
  /-- The producers whose session is running. -/
  live : List ℕ := []
  nextProducer : ℕ := 0
  recoveryAttempts : ℕ := 0
  recoveryTimer : Option ℕ := none
  /-- The timers that were started and neither fired nor cancelled. -/
  scheduled : List ℕ := []
  nextTimer : ℕ := 0
  /-- Whether a producer was ever started. -/
  everStarted : Bool := false
  /-- How the last session ended. -/
  lastEnd : Option String := none

/-- `_RECOVERY_MAX_ATTEMPTS`. -/
def recoveryMaxAttempts : ℕ := 5

/-- `reason in ("stopped", "error")`. -/
def recoverable (reason : String) : Bool := reason == "stopped" || reason == "error"

/-- The reason that `BlockPlanProducer` gives when it stops its session. -/
def lastViewerLeft : String := "last_viewer_left"

/-- A viewer comes or goes, a session ends, a recovery timer fires, or the channel without viewers is
stopped. What a start meets comes with the action, and whether a failed one had a session. -/
inductive LiveAction (Session : Type) where
  | viewerJoin (session : Session) (found : Found) (sessionRan : Bool)
  | viewerLeave (session : Session)
  | sessionEnds (producer : ℕ) (reason : String)
  | recoveryFires (timer : ℕ) (found : Found) (sessionRan : Bool)
  | stopChannel

namespace LiveChannel

variable {Session : Type}

/-- `health()` of the active producer is `"running"`. -/
def healthy (c : LiveChannel Session) : Bool := c.activeProducer.any fun producer => producer ∈ c.live

/-- `self._recovery_timer.cancel()` and the reference dropped, where there is one. -/
def cancelRecovery (c : LiveChannel Session) : LiveChannel Session :=
  match c.recoveryTimer with
  | some timer => { c with scheduled := c.scheduled.erase timer, recoveryTimer := none }
  | none => c

/-- A timer is started. -/
def scheduleRecovery (c : LiveChannel Session) : LiveChannel Session :=
  { c with
    recoveryTimer := some c.nextTimer
    scheduled := c.nextTimer :: c.scheduled
    nextTimer := c.nextTimer + 1 }

variable [DecidableEq Session]

/-- `_on_producer_session_end`. -/
def onProducerSessionEnd (reason : String) (c : LiveChannel Session) : LiveChannel Session :=
  if recoverable reason = false then c
  else if c.viewerSessions = ∅ then c
  else
    let counted := { c with recoveryAttempts := c.recoveryAttempts + 1 }
    if recoveryMaxAttempts < counted.recoveryAttempts then counted
    else counted.cancelRecovery.scheduleRecovery

/-- The session of a producer ends. -/
def endSession (producer : ℕ) (reason : String) (c : LiveChannel Session) : LiveChannel Session :=
  { c with
    live := c.live.erase producer
    lastEnd := some reason }.onProducerSessionEnd reason

/-- The active producer is stopped and dropped; a running session ends with it. -/
def stopActive (c : LiveChannel Session) : LiveChannel Session :=
  match c.activeProducer with
  | none => c
  | some producer =>
    let stopped := if producer ∈ c.live then c.endSession producer lastViewerLeft else c
    { stopped with activeProducer := none }

/-- A producer is built and becomes the active one. -/
def build (c : LiveChannel Session) : LiveChannel Session :=
  { c with
    activeProducer := some c.nextProducer
    nextProducer := c.nextProducer + 1 }

/-- `_ensure_producer_running`, and what it raised. -/
def ensureProducerRunning (found : Found) (sessionRan : Bool) (c : LiveChannel Session) :
    LiveChannel Session × Option StartError :=
  if found.modeAnswers = false then (c, some .passedOn)
  else if c.activeProducer.isSome && found.rightMode && c.healthy then (c, none)
  else if c.activeProducer.isSome && !found.stops then (c, some .passedOn)
  else
    let stopped := c.stopActive
    match found.builds, found.block, found.starts with
    | .no, _, _ => (stopped, some .producerStartupError)
    | .raises, _, _ => (stopped, some .passedOn)
    | .yes, .no, _ => ({ stopped.build with activeProducer := none }, some .noScheduleDataError)
    | .yes, .raises, _ => (stopped.build, some .passedOn)
    | .yes, .yes, .no =>
      -- `start` has stopped the session again that it may have begun
      let failed := if sessionRan then
        stopped.build.endSession stopped.nextProducer lastViewerLeft else stopped.build
      ({ failed with activeProducer := none }, some .producerStartupError)
    | .yes, .yes, .raises => (stopped.build, some .passedOn)
    | .yes, .yes, .yes =>
      ({ stopped.build with
          live := stopped.nextProducer :: stopped.live
          recoveryAttempts := 0
          everStarted := true }, none)

/-- `viewer_join`, which starts the producer for the first viewer. -/
def viewerJoin (session : Session) (found : Found) (sessionRan : Bool) (c : LiveChannel Session) :
    LiveChannel Session :=
  let joined := { c with viewerSessions := insert session c.viewerSessions }
  if c.viewerSessions = ∅ then (joined.ensureProducerRunning found sessionRan).1 else joined

/-- `_attempt_recovery`, as its timer fires. -/
def attemptRecovery (timer : ℕ) (found : Found) (sessionRan : Bool) (c : LiveChannel Session) :
    LiveChannel Session :=
  let fired := { c with scheduled := c.scheduled.erase timer, recoveryTimer := none }
  if c.viewerSessions = ∅ then { fired with recoveryAttempts := 0 }
  else (fired.ensureProducerRunning found sessionRan).1

/-- `stop_channel`. -/
def stopChannel (c : LiveChannel Session) : LiveChannel Session :=
  { c with recoveryAttempts := 0 }.cancelRecovery.stopActive

/-- A step. -/
def step (c : LiveChannel Session) : LiveAction Session → Option (LiveChannel Session)
  | .viewerJoin session found sessionRan => some (c.viewerJoin session found sessionRan)
  | .viewerLeave session => some { c with viewerSessions := c.viewerSessions.erase session }
  | .sessionEnds producer reason => some (c.endSession producer reason)
  | .recoveryFires timer found sessionRan =>
    if timer ∈ c.scheduled then some (c.attemptRecovery timer found sessionRan) else none
  | .stopChannel => if c.viewerSessions = ∅ then some c.stopChannel else none

end LiveChannel

end Channel

/-! ### What recovery is for -/

section Purpose

variable {Session : Type} [DecidableEq Session]

namespace LiveChannel

/-- The last session ended, and for a reason to recover from. -/
def endedRecoverably (c : LiveChannel Session) : Bool := c.lastEnd.any recoverable

/-- The channel is owed a recovery: it was on the air, its last session ended recoverably, and it has
attempts left. -/
def Owed (c : LiveChannel Session) : Prop :=
  c.everStarted = true ∧ c.endedRecoverably = true ∧ c.recoveryAttempts ≤ recoveryMaxAttempts

/-- **A channel that is owed a recovery, and has viewers, is on the air or about to try.** -/
def Recovering (c : LiveChannel Session) : Prop :=
  c.viewerSessions ≠ ∅ → c.Owed → c.healthy = true ∨ c.scheduled.length = 1

/-- No session runs beside that of the active producer. -/
def OneSession (c : LiveChannel Session) : Prop :=
  c.live = [] ∨ ∃ producer, c.live = [producer] ∧ c.activeProducer = some producer

end LiveChannel

/-- A start that leaves nothing owed: it succeeds, or fails after a session of its own, whose end is
then the last. -/
def Found.settles (found : Found) (active sessionRan : Bool) : Bool :=
  found.modeAnswers && (!active || found.stops) && decide (found.builds = .yes) &&
    decide (found.block = .yes) &&
    (decide (found.starts = .yes) || (decide (found.starts = .no) && sessionRan))

/-- A start that is made while a recovery is owed and none is pending settles it. -/
def Settles (c : LiveChannel Session) : LiveAction Session → Prop
  | .viewerJoin _ found sessionRan =>
    c.viewerSessions = ∅ → c.Owed → c.healthy = false → c.scheduled = [] →
      found.settles c.activeProducer.isSome sessionRan = true
  | .recoveryFires _ found sessionRan =>
    c.viewerSessions ≠ ∅ → c.Owed → c.healthy = false →
      found.settles c.activeProducer.isSome sessionRan = true
  | _ => True

end Purpose

/-! ### What each operation leaves -/

section Operations

variable {Session : Type}

namespace LiveChannel

/-- At most one timer is pending, the one referred to, and at most one session runs. -/
structure Sound (c : LiveChannel Session) : Prop where
  timers : c.scheduled = c.recoveryTimer.toList
  sessions : c.OneSession

theorem sound_initial : Sound ({} : LiveChannel Session) := ⟨rfl, .inl rfl⟩

/-- A cancelled timer is not pending. -/
theorem cancelRecovery_sound {c : LiveChannel Session} (timers : c.scheduled = c.recoveryTimer.toList) :
    c.cancelRecovery.scheduled = [] ∧ c.cancelRecovery.recoveryTimer = none := by
  unfold cancelRecovery
  cases timer : c.recoveryTimer with
  | none => exact ⟨by rw [timers, timer]; rfl, timer⟩
  | some timer' => simp [timers, timer]

/-- Cancelling touches the timer only. -/
theorem cancelRecovery_frame (c : LiveChannel Session) :
    c.cancelRecovery.viewerSessions = c.viewerSessions ∧
      c.cancelRecovery.activeProducer = c.activeProducer ∧ c.cancelRecovery.live = c.live ∧
      c.cancelRecovery.recoveryAttempts = c.recoveryAttempts ∧
      c.cancelRecovery.everStarted = c.everStarted ∧ c.cancelRecovery.lastEnd = c.lastEnd := by
  unfold cancelRecovery
  split <;> exact ⟨rfl, rfl, rfl, rfl, rfl, rfl⟩

/-- One session at most stays one at most, when any ends. -/
theorem OneSession.erase {c next : LiveChannel Session} (one : c.OneSession) {producer : ℕ}
    (live : next.live = c.live.erase producer) (active : next.activeProducer = c.activeProducer) :
    next.OneSession := by
  rw [OneSession, live, active]
  rcases one with nothing | ⟨running, alone, isActive⟩
  · simp [nothing]
  · rw [alone]
    by_cases same : running = producer
    · simp [same]
    · right
      exact ⟨running, by simp [same], isActive⟩

variable [DecidableEq Session]

/-- The decision about recovery touches the attempts and the timer only. -/
theorem onProducerSessionEnd_frame (reason : String) (c : LiveChannel Session) :
    (c.onProducerSessionEnd reason).viewerSessions = c.viewerSessions ∧
      (c.onProducerSessionEnd reason).activeProducer = c.activeProducer ∧
      (c.onProducerSessionEnd reason).live = c.live ∧
      (c.onProducerSessionEnd reason).lastEnd = c.lastEnd := by
  unfold onProducerSessionEnd
  dsimp only
  split_ifs
  · exact ⟨rfl, rfl, rfl, rfl⟩
  · exact ⟨rfl, rfl, rfl, rfl⟩
  · exact ⟨rfl, rfl, rfl, rfl⟩
  · obtain ⟨viewers, active, live, _, _, lastEnd⟩ :=
      cancelRecovery_frame { c with recoveryAttempts := c.recoveryAttempts + 1 }
    exact ⟨viewers, active, live, lastEnd⟩

theorem onProducerSessionEnd_timers (reason : String) {c : LiveChannel Session}
    (timers : c.scheduled = c.recoveryTimer.toList) :
    (c.onProducerSessionEnd reason).scheduled =
      (c.onProducerSessionEnd reason).recoveryTimer.toList := by
  unfold onProducerSessionEnd
  dsimp only
  split_ifs
  · exact timers
  · exact timers
  · exact timers
  · have counted : ({ c with recoveryAttempts := c.recoveryAttempts + 1 } :
        LiveChannel Session).scheduled = c.recoveryTimer.toList := timers
    obtain ⟨nothing, _⟩ := cancelRecovery_sound counted
    simp [scheduleRecovery, nothing]

/-- A recoverable end before viewers schedules the next attempt, or uses up the budget. -/
theorem onProducerSessionEnd_schedules {reason : String} (wanted : recoverable reason = true)
    {c : LiveChannel Session} (viewers : c.viewerSessions ≠ ∅)
    (timers : c.scheduled = c.recoveryTimer.toList) :
    recoveryMaxAttempts < (c.onProducerSessionEnd reason).recoveryAttempts ∨
      (c.onProducerSessionEnd reason).scheduled.length = 1 := by
  unfold onProducerSessionEnd
  rw [if_neg (by simp [wanted]), if_neg viewers]
  dsimp only
  split_ifs with exceeded
  · exact .inl exceeded
  · have counted : ({ c with recoveryAttempts := c.recoveryAttempts + 1 } :
        LiveChannel Session).scheduled = c.recoveryTimer.toList := timers
    obtain ⟨nothing, _⟩ := cancelRecovery_sound counted
    right
    simp [scheduleRecovery, nothing]

/-- An end with the last viewer is no reason to recover. -/
theorem endSession_lastViewerLeft (producer : ℕ) (c : LiveChannel Session) :
    c.endSession producer lastViewerLeft =
      { c with live := c.live.erase producer, lastEnd := some lastViewerLeft } := by
  have unwanted : recoverable lastViewerLeft = false := by decide
  rw [endSession, onProducerSessionEnd, if_pos unwanted]

/-- **Stopping the active producer** leaves none, and no session; a recovery that is still owed was
owed before, and its producer was not running. -/
theorem stopActive_spec {c : LiveChannel Session} (one : c.OneSession) :
    c.stopActive.activeProducer = none ∧ c.stopActive.live = [] ∧
      c.stopActive.viewerSessions = c.viewerSessions ∧ c.stopActive.scheduled = c.scheduled ∧
      c.stopActive.recoveryTimer = c.recoveryTimer ∧
      (c.stopActive.Owed → c.Owed ∧ c.healthy = false) := by
  unfold stopActive
  cases active : c.activeProducer with
  | none =>
    have quiet : c.live = [] := by
      rcases one with nothing | ⟨_, _, isActive⟩
      · exact nothing
      · rw [active] at isActive
        cases isActive
    exact ⟨active, quiet, rfl, rfl, rfl, fun owed => ⟨owed, by simp [healthy, active]⟩⟩
  | some producer =>
    dsimp only
    split_ifs with running
    · rw [endSession_lastViewerLeft]
      have alone : c.live = [producer] := by
        rcases one with nothing | ⟨other, alone, isActive⟩
        · rw [nothing] at running
          cases running
        · rw [active] at isActive
          cases isActive
          exact alone
      refine ⟨rfl, by simp [alone], rfl, rfl, rfl, ?_⟩
      rintro ⟨_, ended, _⟩
      exact absurd ended (by simp [endedRecoverably, recoverable, lastViewerLeft])
    · have quiet : c.live = [] := by
        rcases one with nothing | ⟨other, alone, isActive⟩
        · exact nothing
        · rw [active] at isActive
          cases isActive
          rw [alone] at running
          exact absurd (List.mem_singleton_self producer) running
      exact ⟨rfl, quiet, rfl, rfl, rfl, fun owed => ⟨owed, by simp [healthy, active, quiet]⟩⟩

/-- **A start** keeps viewers and timers and leaves at most one session; a recovery that is owed
afterwards without a running producer was owed before, and the start did not settle it. -/
theorem ensureProducerRunning_spec {c : LiveChannel Session} (one : c.OneSession) (found : Found)
    (sessionRan : Bool) :
    let next := (c.ensureProducerRunning found sessionRan).1
    next.viewerSessions = c.viewerSessions ∧ next.scheduled = c.scheduled ∧
      next.recoveryTimer = c.recoveryTimer ∧ next.OneSession ∧
      (next.Owed → next.healthy = true ∨
        (c.Owed ∧ c.healthy = false ∧
          found.settles c.activeProducer.isSome sessionRan = false)) := by
  obtain ⟨inactive, quiet, viewers, scheduled, timer, owedBefore⟩ := stopActive_spec one
  intro next
  by_cases answers : found.modeAnswers = false
  · have same : next = c := by simp only [next, ensureProducerRunning, if_pos answers]
    rw [same]
    refine ⟨rfl, rfl, rfl, one, ?_⟩
    intro owed
    cases running : c.healthy
    · exact .inr ⟨owed, rfl, by simp [Found.settles, answers]⟩
    · exact .inl rfl
  by_cases keeps : (c.activeProducer.isSome && found.rightMode && c.healthy) = true
  · have same : next = c := by
      simp only [next, ensureProducerRunning, if_neg answers, if_pos keeps]
    rw [same]
    refine ⟨rfl, rfl, rfl, one, fun _ => .inl ?_⟩
    rw [Bool.and_eq_true] at keeps
    exact keeps.2
  by_cases stuck : (c.activeProducer.isSome && !found.stops) = true
  · have same : next = c := by
      simp only [next, ensureProducerRunning, if_neg answers, if_neg keeps, if_pos stuck]
    rw [same]
    refine ⟨rfl, rfl, rfl, one, ?_⟩
    intro owed
    cases running : c.healthy
    · refine .inr ⟨owed, rfl, ?_⟩
      rw [Bool.and_eq_true, Bool.not_eq_true'] at stuck
      simp [Found.settles, stuck.1, stuck.2]
    · exact .inl rfl
  simp only [next, ensureProducerRunning, if_neg answers, if_neg keeps, if_neg stuck]
  -- what the start has come to, by what it met
  cases builds : found.builds with
  | no =>
    refine ⟨viewers, scheduled, timer, .inl quiet, ?_⟩
    intro owed
    obtain ⟨before, idle⟩ := owedBefore owed
    exact .inr ⟨before, idle, by simp [Found.settles, builds]⟩
  | raises =>
    refine ⟨viewers, scheduled, timer, .inl quiet, ?_⟩
    intro owed
    obtain ⟨before, idle⟩ := owedBefore owed
    exact .inr ⟨before, idle, by simp [Found.settles, builds]⟩
  | yes =>
    cases block : found.block with
    | no =>
      refine ⟨viewers, scheduled, timer, .inl quiet, ?_⟩
      intro owed
      obtain ⟨before, idle⟩ := owedBefore owed
      exact .inr ⟨before, idle, by simp [Found.settles, block]⟩
    | raises =>
      refine ⟨viewers, scheduled, timer, .inl quiet, ?_⟩
      intro owed
      obtain ⟨before, idle⟩ := owedBefore owed
      exact .inr ⟨before, idle, by simp [Found.settles, block]⟩
    | yes =>
      cases starts : found.starts with
      | no =>
        cases sessionRan with
        | false =>
          refine ⟨viewers, scheduled, timer, .inl quiet, ?_⟩
          intro owed
          obtain ⟨before, idle⟩ := owedBefore owed
          exact .inr ⟨before, idle, by simp [Found.settles, starts]⟩
        | true =>
          simp only [if_true, endSession_lastViewerLeft]
          refine ⟨viewers, scheduled, timer, .inl (by simp [build, quiet]), ?_⟩
          rintro ⟨_, ended, _⟩
          exact absurd ended (by simp [endedRecoverably, recoverable, lastViewerLeft])
      | raises =>
        refine ⟨viewers, scheduled, timer, .inl quiet, ?_⟩
        intro owed
        obtain ⟨before, idle⟩ := owedBefore owed
        exact .inr ⟨before, idle, by simp [Found.settles, starts]⟩
      | yes =>
        refine ⟨viewers, scheduled, timer, .inr ⟨_, by rw [quiet], rfl⟩, fun _ => .inl ?_⟩
        simp [healthy, build]

/-- **The start with sessions** does to the active producer what the start without them does. -/
theorem ensure_refines (c : LiveChannel Session) (found : Found) (sessionRan : Bool) :
    ((c.ensureProducerRunning found sessionRan).1.activeProducer.isSome,
        (c.ensureProducerRunning found sessionRan).2) =
      Viewers.ensureProducerRunning c.activeProducer.isSome { found with healthy := c.healthy } := by
  have dropped : c.stopActive.activeProducer = none := by
    unfold stopActive
    cases active : c.activeProducer with
    | none => exact active
    | some producer => rfl
  unfold ensureProducerRunning Viewers.ensureProducerRunning
  dsimp only
  by_cases answers : found.modeAnswers = false
  · rw [if_pos answers, if_pos answers]
  by_cases keeps : (c.activeProducer.isSome && found.rightMode && c.healthy) = true
  · rw [if_neg answers, if_neg answers, if_pos keeps, if_pos keeps]
  by_cases stuck : (c.activeProducer.isSome && !found.stops) = true
  · rw [if_neg answers, if_neg answers, if_neg keeps, if_neg keeps, if_pos stuck, if_pos stuck]
  rw [if_neg answers, if_neg answers, if_neg keeps, if_neg keeps, if_neg stuck, if_neg stuck]
  cases found.builds <;> cases found.block <;> cases found.starts <;>
    first | rfl | simp [dropped]

end LiveChannel

end Operations

/-! ### Whole runs -/

section Runs

variable {Session : Type} [DecidableEq Session]

namespace LiveChannel

/-- At every step at most one session runs, and at most one timer is pending. -/
theorem Sound.step {c next : LiveChannel Session} (sound : c.Sound) (action : LiveAction Session)
    (taken : c.step action = some next) : next.Sound := by
  cases action with
  | viewerJoin session found sessionRan =>
    cases taken
    unfold viewerJoin
    split_ifs
    · obtain ⟨_, scheduled, timer, one, _⟩ := ensureProducerRunning_spec
        (c := { c with viewerSessions := insert session c.viewerSessions }) sound.sessions found
        sessionRan
      exact ⟨by rw [scheduled, timer]; exact sound.timers, one⟩
    · exact ⟨sound.timers, sound.sessions⟩
  | viewerLeave session =>
    cases taken
    exact ⟨sound.timers, sound.sessions⟩
  | sessionEnds producer reason =>
    cases taken
    obtain ⟨_, active, live, _⟩ := onProducerSessionEnd_frame reason
      { c with live := c.live.erase producer, lastEnd := some reason }
    exact ⟨onProducerSessionEnd_timers reason sound.timers, sound.sessions.erase live active⟩
  | recoveryFires timer found sessionRan =>
    simp only [LiveChannel.step] at taken
    split_ifs at taken with pending
    cases taken
    have fired : c.scheduled.erase timer = [] := by
      rw [sound.timers] at pending ⊢
      rw [Option.mem_toList] at pending
      rw [pending, Option.toList_some, List.erase_cons_head]
    unfold attemptRecovery
    split_ifs
    · exact ⟨fired, sound.sessions⟩
    · obtain ⟨_, scheduled, timer, one, _⟩ := ensureProducerRunning_spec
        (c := { c with scheduled := c.scheduled.erase timer, recoveryTimer := none })
        sound.sessions found sessionRan
      exact ⟨by rw [scheduled, timer]; exact fired, one⟩
  | stopChannel =>
    simp only [LiveChannel.step] at taken
    split_ifs at taken
    cases taken
    have timers : ({ c with recoveryAttempts := 0 } : LiveChannel Session).scheduled =
        c.recoveryTimer.toList := sound.timers
    obtain ⟨noTimer, noReference⟩ := cancelRecovery_sound timers
    obtain ⟨_, active, live, _⟩ := cancelRecovery_frame { c with recoveryAttempts := 0 }
    have one : ({ c with recoveryAttempts := 0 } : LiveChannel Session).cancelRecovery.OneSession := by
      rw [OneSession, live, active]
      exact sound.sessions
    obtain ⟨_, quiet, _, scheduled, timer, _⟩ := stopActive_spec one
    refine ⟨?_, .inl quiet⟩
    unfold LiveChannel.stopChannel
    rw [scheduled, timer, noTimer, noReference]
    rfl

/-- **A step whose start settles what is owed** keeps the channel recovering. -/
theorem Recovering.step {c next : LiveChannel Session} (sound : c.Sound) (recovering : c.Recovering)
    (action : LiveAction Session) (settles : Settles c action)
    (taken : c.step action = some next) : next.Recovering := by
  cases action with
  | viewerJoin session found sessionRan =>
    cases taken
    unfold viewerJoin
    split_ifs with first
    · obtain ⟨_, scheduled, _, _, owes⟩ := ensureProducerRunning_spec
        (c := { c with viewerSessions := insert session c.viewerSessions }) sound.sessions found
        sessionRan
      intro _ owed
      rcases owes owed with running | ⟨before, idle, unsettled⟩
      · exact .inl running
      · right
        rw [scheduled]
        -- with nothing pending the start would have had to settle it
        cases pending : c.recoveryTimer with
        | none =>
          have empty : c.scheduled = [] := by rw [sound.timers, pending]; rfl
          exact absurd (settles first before idle empty) (by simp [unsettled])
        | some timer =>
          rw [sound.timers, pending]
          rfl
    · exact fun _ => recovering first
  | viewerLeave session =>
    cases taken
    intro viewers
    refine recovering ?_
    intro empty
    exact viewers (by simp [empty])
  | sessionEnds producer reason =>
    cases taken
    intro viewers owed
    obtain ⟨sessions, _, _, ended⟩ := onProducerSessionEnd_frame reason
      { c with live := c.live.erase producer, lastEnd := some reason }
    have wanted : recoverable reason = true := by
      have isOwed := owed.2.1
      rw [endedRecoverably, endSession, ended] at isOwed
      exact isOwed
    rw [endSession, sessions] at viewers
    rcases onProducerSessionEnd_schedules wanted viewers sound.timers with exceeded | pending
    · exact absurd owed.2.2 (Nat.not_le.mpr exceeded)
    · exact .inr pending
  | recoveryFires timer found sessionRan =>
    simp only [LiveChannel.step] at taken
    split_ifs at taken
    cases taken
    unfold attemptRecovery
    split_ifs with viewers
    · exact fun present => absurd viewers present
    · obtain ⟨_, _, _, _, owes⟩ := ensureProducerRunning_spec
        (c := { c with scheduled := c.scheduled.erase timer, recoveryTimer := none })
        sound.sessions found sessionRan
      intro _ owed
      rcases owes owed with running | ⟨before, idle, unsettled⟩
      · exact .inl running
      · exact absurd (settles viewers before idle) (by simp [unsettled])
  | stopChannel =>
    simp only [LiveChannel.step] at taken
    split_ifs at taken with viewers
    cases taken
    intro present
    refine absurd ?_ present
    obtain ⟨sessions, active, live, _⟩ := cancelRecovery_frame { c with recoveryAttempts := 0 }
    have one : ({ c with recoveryAttempts := 0 } : LiveChannel Session).cancelRecovery.OneSession := by
      rw [OneSession, live, active]
      exact sound.sessions
    unfold LiveChannel.stopChannel
    rw [(stopActive_spec one).2.2.1, sessions]
    exact viewers

end LiveChannel

/-- What a start meets when everything works. -/
def Found.works : Found where
  modeAnswers := true
  rightMode := true
  healthy := true
  stops := true
  builds := .yes
  block := .yes
  starts := .yes

end Runs

end Retrovue.Core.Viewers
