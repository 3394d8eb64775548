/-
**The AIR process of a playout session.**

* `PlayoutSession`: the session's state, its lock, its event threads and the AIR processes that it has
  started and not released; `start`, `seed`, `feed`, `stop`, `cleanup` as the critical sections of the
  lock, `step` for any interleaving of callers, event threads, callbacks and exits of AIR;
* `NoLeak`: what the session is meant to keep, in every state;
* `Releasing`: what that needs of a step. `Holding`: the AIR process of a running session is the one
  it has the handle of. `holding_step`: a step that meets the condition keeps it;
* `no_leak`: along such steps nothing leaks, and the first step that does not meet the condition leaks;
* `stop_after_end`: a session that ends by itself is not released by `stop`.
-/

import Mathlib
import Retrovue.Foundation.Transition

namespace Retrovue.Core.Handoff

open Retrovue.Foundation.Transition

/-! ### The session -/

section Model

/-- Who calls a method: an event thread from one of its callbacks, or any other thread. -/
inductive SessionCaller
  | other
  | events (thread : ℕ)
  deriving DecidableEq, Repr

/-- Who holds the lock between two steps: a `start` that waits for AIR, or a `stop` in its callback. -/
inductive LockHolder
  | starting (caller : SessionCaller)
  | ending (caller : SessionCaller)
  deriving DecidableEq, Repr

/-- The caller whose critical section it is. -/
def LockHolder.caller : LockHolder → SessionCaller
  | .starting caller => caller
  | .ending caller => caller

/-- An event of the stream. -/
inductive BlockEvent
  | blockCompleted
  | blockStarted
  | sessionEnded
  deriving DecidableEq, Repr

/-- Where an event thread is: waiting for an event, about to take the lock for one, in a callback, or
over. `last` marks a `session_ended`. -/
inductive EventLoop
  | streaming
  | recording (last : Bool)
  | calling (last : Bool)
  | finished
  deriving DecidableEq, Repr

/-- `FeedResult`. -/
inductive FeedResult
  | accepted
  | queueFull
  | error
  deriving DecidableEq, Repr

/-- What a call that ended last returned. -/
inductive CallResult
  | started (success : Bool)
  | seeded (success : Bool)
  | fed (result : FeedResult)
  | stopped
  | raised
  deriving DecidableEq, Repr

/-- A `PlayoutSession`: `SessionState`, the lock, the event threads, and the AIR processes. -/
structure PlayoutSession where
  isRunning : Bool
  blocksSeeded : ℕ
  blocksFed : ℕ
  sessionEnded : Bool
  /-- `air_process`: the handle, by the number of the launch. -/
  airProcess : Option ℕ
  stub : Bool
  eventThread : Option ℕ
  eventStop : Bool
  holder : Option LockHolder
  loops : List EventLoop
  launches : ℕ
  /-- The AIR processes that were launched and have neither exited nor been released. -/
  alive : List ℕ
  /-- Whether some `stop` has returned. -/
  stoppedBefore : Bool
  /-- Whether `session_ended` was recorded or a `stop` returned since the last `start`. -/
  ended : Bool
  /-- The feeds sent although it was. -/
  lateFeeds : ℕ
  result : Option CallResult
  deriving DecidableEq, Repr

/-- A new session. -/
def PlayoutSession.initial : PlayoutSession where
  isRunning := false
  blocksSeeded := 0
  blocksFed := 0
  sessionEnded := false
  airProcess := none
  stub := false
  eventThread := none
  eventStop := false
  holder := none
  loops := []
  launches := 0
  alive := []
  stoppedBefore := false
  ended := false
  lateFeeds := 0
  result := none

namespace PlayoutSession

/-- `_cleanup`, and whether it came to its end: an event thread cannot join itself. -/
def cleanup (s : PlayoutSession) (caller : SessionCaller) : PlayoutSession × Bool :=
  if s.eventThread.map SessionCaller.events = some caller then
    ({ s with isRunning := false, eventStop := true }, false)
  else
    ({ s with
        isRunning := false
        eventStop := true
        eventThread := none
        stub := false
        alive := s.alive.filter fun process => s.airProcess ≠ some process
        airProcess := none }, true)

/-- `start`, up to the launch of AIR. -/
def start (s : PlayoutSession) (caller : SessionCaller) (launches : Bool) : PlayoutSession :=
  if s.isRunning then { s with result := some (.started false) }
  else if launches then
    { s with
      airProcess := some s.launches
      alive := s.alive ++ [s.launches]
      launches := s.launches + 1
      -- `_wait_for_grpc` sets the stub before it asks AIR for its version.
      stub := true
      holder := some (.starting caller)
      result := none }
  else
    { (s.cleanup caller).1 with
      result := some (if (s.cleanup caller).2 then .started false else .raised) }

/-- The end of `start`: AIR is ready and its stream attached, or not. -/
def startEnds (s : PlayoutSession) (caller : SessionCaller) (ready : Bool) : PlayoutSession :=
  if ready then
    { s with isRunning := true, holder := none, ended := false, result := some (.started true) }
  else
    { (s.cleanup caller).1 with
      holder := none
      result := some (if (s.cleanup caller).2 then .started false else .raised) }

/-- `_subscribe_to_events`. -/
def subscribeToEvents (s : PlayoutSession) : PlayoutSession :=
  { s with
    eventStop := false
    loops := s.loops ++ [.streaming]
    eventThread := some s.loops.length }

/-- `seed`, with contiguous blocks or not, that AIR accepts or not. -/
def seed (s : PlayoutSession) (contiguous accepted : Bool) : PlayoutSession :=
  if s.isRunning = false ∨ 0 < s.blocksSeeded ∨ contiguous = false then
    { s with result := some (.seeded false) }
  else if s.stub = false then { s with result := some .raised }
  else if accepted then
    { ({ s with blocksSeeded := 2 } : PlayoutSession).subscribeToEvents with
      result := some (.seeded true) }
  else { s with result := some (.seeded false) }

/-- `feed`, with AIR's answer. -/
def feed (s : PlayoutSession) (answer : FeedResult) : PlayoutSession :=
  if s.sessionEnded = true ∨ s.isRunning = false then { s with result := some (.fed .error) }
  else if s.stub = false then { s with result := some .raised }
  else
    { s with
      blocksFed := if answer = .accepted then s.blocksFed + 1 else s.blocksFed
      lateFeeds := if s.ended then s.lateFeeds + 1 else s.lateFeeds
      result := some (.fed answer) }

/-- The return of `stop`. -/
def stopReturns (s : PlayoutSession) : PlayoutSession :=
  { s with stoppedBefore := true, ended := true, result := some .stopped }

/-- `stop`, up to its callback. -/
def stop (s : PlayoutSession) (caller : SessionCaller) : PlayoutSession :=
  if s.isRunning = false then s.stopReturns
  else if (s.cleanup caller).2 then
    { (s.cleanup caller).1 with holder := some (.ending caller), ended := true, result := none }
  else { (s.cleanup caller).1 with ended := true, result := some .raised }

/-- The end of `stop`: its callback returns, or raises. -/
def stopEnds (s : PlayoutSession) (raises : Bool) : PlayoutSession :=
  if raises then { s with holder := none, result := some .raised }
  else { s with holder := none }.stopReturns

/-- An event thread moves on. -/
def moves (s : PlayoutSession) (thread : ℕ) (loop : EventLoop) : PlayoutSession :=
  { s with loops := s.loops.set thread loop, result := none }

/-- An event thread receives an event. -/
def receive (s : PlayoutSession) (thread : ℕ) (event : BlockEvent) : PlayoutSession :=
  if s.eventStop then s.moves thread .finished
  else
    s.moves thread <|
      match event with
      | .blockCompleted => .recording false
      | .blockStarted => .calling false
      | .sessionEnded => .recording true

/-- An event thread records what it has received, under the lock. -/
def record (s : PlayoutSession) (thread : ℕ) (last : Bool) : PlayoutSession :=
  if last then
    { s with isRunning := false, sessionEnded := true, ended := true }.moves thread (.calling last)
  else s.moves thread (.calling last)

/-- Whether the caller can call a method: an event thread does so in a callback. -/
def calls (s : PlayoutSession) : SessionCaller → Bool
  | .other => true
  | .events thread =>
    match s.loops[thread]? with
    | some (.calling _) => true
    | _ => false

end PlayoutSession

/-- A step: a method of a caller that takes the lock, the end of one that holds it, a move of an event
thread, or the exit of an AIR process. -/
inductive SessionAction
  | start (caller : SessionCaller) (launches : Bool)
  | startEnds (ready : Bool)
  | seed (caller : SessionCaller) (contiguous accepted : Bool)
  | feed (caller : SessionCaller) (answer : FeedResult)
  | stop (caller : SessionCaller)
  | stopEnds (raises : Bool)
  | receive (thread : ℕ) (event : BlockEvent)
  | streamEnds (thread : ℕ)
  | record (thread : ℕ)
  | callbackReturns (thread : ℕ)
  | airExits (process : ℕ)
  deriving DecidableEq, Repr

namespace PlayoutSession

/-- A method call, once the lock is free. -/
def locked (s : PlayoutSession) (caller : SessionCaller) (next : PlayoutSession) :
    Option PlayoutSession :=
  if s.holder = none ∧ s.calls caller then some next else none

/-- `step`. -/
def step (s : PlayoutSession) : SessionAction → Option PlayoutSession
  | .start caller launches => s.locked caller (s.start caller launches)
  | .startEnds ready =>
    match s.holder with
    | some (.starting caller) => some (s.startEnds caller ready)
    | _ => none
  | .seed caller contiguous accepted => s.locked caller (s.seed contiguous accepted)
  | .feed caller answer => s.locked caller (s.feed answer)
  | .stop caller => s.locked caller (s.stop caller)
  | .stopEnds raises =>
    match s.holder with
    | some (.ending _) => some (s.stopEnds raises)
    | _ => none
  | .receive thread event =>
    if s.loops[thread]? = some .streaming then some (s.receive thread event) else none
  | .streamEnds thread =>
    if s.loops[thread]? = some .streaming then some (s.moves thread .finished) else none
  | .record thread =>
    match s.loops[thread]? with
    | some (.recording last) => if s.holder = none then some (s.record thread last) else none
    | _ => none
  | .callbackReturns thread =>
    match s.loops[thread]? with
    | some (.calling last) =>
      -- The callback is not in a call of its own.
      if s.holder.map LockHolder.caller = some (.events thread) then none
      else some (s.moves thread (if last then .finished else .streaming))
    | _ => none
  | .airExits process => some { s with alive := s.alive.erase process, result := none }

end PlayoutSession

end Model

/-! ### What it is meant to keep -/

section Purpose

namespace PlayoutSession

/-- The session can be seeded and fed. -/
def Usable (s : PlayoutSession) : Prop :=
  ∃ seeded fed, s.step (.seed .other true true) = some seeded ∧
    seeded.result = some (.seeded true) ∧
    seeded.step (.feed .other .accepted) = some fed ∧ fed.result = some (.fed .accepted)

/-- **Nothing leaks.** -/
structure NoLeak (s : PlayoutSession) : Prop where
  /-- At most one AIR process is alive and unreleased. -/
  single : s.alive.length ≤ 1
  /-- None is when `stop` returns. -/
  released : s.result = some .stopped → s.alive = []
  /-- A `start` that succeeds after a `stop` gives a session that can be seeded and fed. -/
  again : s.result = some (.started true) → s.stoppedBefore = true → s.Usable
  /-- No feed is sent after `session_ended` or `stop`. -/
  silent : s.lateFeeds = 0

/-- What it needs of a step: AIR is launched, and a session that is not running is stopped, with no
AIR process left; and no session is started after a `stop` that was ever seeded or ended by itself. -/
def Releasing (s : PlayoutSession) : SessionAction → Prop
  | .start _ launches => s.isRunning = false → launches = true → s.alive = []
  | .startEnds ready =>
    ready = true → s.stoppedBefore = true → s.blocksSeeded = 0 ∧ s.sessionEnded = false
  | .stop _ => s.isRunning = false → s.alive = []
  | _ => True

end PlayoutSession

end Purpose

/-! ### One step -/

section Steps

namespace PlayoutSession

variable {s next : PlayoutSession}

/-- What a step needs of the state: the AIR process of a running or starting session is the one it
has the handle of, a stopped one has none, and after `session_ended` or `stop` no feed is let
through. -/
structure Holding (s : PlayoutSession) : Prop where
  single : s.alive.length ≤ 1
  handled : s.isRunning = true ∨ (∃ caller, s.holder = some (.starting caller)) →
    ∀ process ∈ s.alive, s.airProcess = some process
  emptied : (∃ caller, s.holder = some (.ending caller)) → s.alive = []
  idle : s.holder ≠ none → s.isRunning = false
  stubbed : s.isRunning = true ∨ (∃ caller, s.holder = some (.starting caller)) → s.stub = true
  barred : s.ended = true → s.isRunning = false ∨ s.sessionEnded = true
  silent : s.lateFeeds = 0

theorem Holding.withResult {s : PlayoutSession} (holding : Holding s) (result : Option CallResult) :
    Holding { s with result := result } :=
  ⟨holding.single, holding.handled, holding.emptied, holding.idle, holding.stubbed, holding.barred,
    holding.silent⟩

theorem holding_initial : Holding .initial := by
  constructor <;> simp [initial]

/-- What a call to `_cleanup` leaves. -/
theorem cleanup_kept (s : PlayoutSession) (caller : SessionCaller) :
    (s.cleanup caller).1.isRunning = false ∧ (s.cleanup caller).1.holder = s.holder ∧
      (s.cleanup caller).1.ended = s.ended ∧ (s.cleanup caller).1.lateFeeds = s.lateFeeds ∧
      (s.cleanup caller).1.alive.length ≤ s.alive.length := by
  unfold cleanup
  split
  · exact ⟨rfl, rfl, rfl, rfl, le_rfl⟩
  · exact ⟨rfl, rfl, rfl, rfl, List.length_filter_le _ _⟩

/-- A `_cleanup` that comes to its end releases the process that the session has the handle of. -/
theorem cleanup_alive {caller : SessionCaller} (whole : (s.cleanup caller).2 = true)
    (handled : ∀ process ∈ s.alive, s.airProcess = some process) :
    (s.cleanup caller).1.alive = [] := by
  unfold cleanup at whole ⊢
  split
  · rename_i itself
    rw [if_pos itself] at whole
    cases whole
  · simpa [List.filter_eq_nil_iff] using handled

/-- A session that is not running, with the lock free. -/
theorem holding_idle {s : PlayoutSession} (single : s.alive.length ≤ 1)
    (stopped : s.isRunning = false) (free : s.holder = none) (silent : s.lateFeeds = 0) :
    Holding s where
  single := single
  handled := by simp [stopped, free]
  emptied := by simp [free]
  idle := fun _ => stopped
  stubbed := by simp [stopped, free]
  barred := fun _ => .inl stopped
  silent := silent

/-- Only `stop` and a successful `start` promise anything about the AIR processes. -/
theorem Holding.noLeak (holding : Holding s) (quiet : s.result ≠ some .stopped)
    (unstarted : s.result ≠ some (.started true)) : NoLeak s :=
  ⟨holding.single, fun stopped => absurd stopped quiet, fun started => absurd started unstarted,
    holding.silent⟩

theorem holding_moves (holding : Holding s) (thread : ℕ) (loop : EventLoop) :
    Holding (s.moves thread loop) ∧ NoLeak (s.moves thread loop) := by
  have moved : Holding (s.moves thread loop) := ⟨holding.single, holding.handled, holding.emptied,
    holding.idle, holding.stubbed, holding.barred, holding.silent⟩
  exact ⟨moved, moved.noLeak (by simp [moves]) (by simp [moves])⟩

theorem holding_receive (holding : Holding s) (thread : ℕ) (event : BlockEvent) :
    Holding (s.receive thread event) ∧ NoLeak (s.receive thread event) := by
  unfold receive
  split
  · exact holding_moves holding thread _
  · exact holding_moves holding thread _

theorem holding_record (holding : Holding s) (free : s.holder = none) (thread : ℕ) (last : Bool) :
    Holding (s.record thread last) ∧ NoLeak (s.record thread last) := by
  unfold record
  split
  · have ended : Holding { s with isRunning := false, sessionEnded := true, ended := true } :=
      holding_idle holding.single rfl free holding.silent
    exact holding_moves ended thread _
  · exact holding_moves holding thread _

theorem holding_airExits (holding : Holding s) (process : ℕ) :
    Holding { s with alive := s.alive.erase process, result := none } where
  single := (List.length_erase_le).trans holding.single
  handled := fun running other member =>
    holding.handled running other (List.mem_of_mem_erase member)
  emptied := fun ending => by simp [holding.emptied ending]
  idle := holding.idle
  stubbed := holding.stubbed
  barred := holding.barred
  silent := holding.silent

theorem holding_feed (holding : Holding s) (answer : FeedResult) :
    Holding (s.feed answer) ∧ NoLeak (s.feed answer) := by
  have kept : Holding (s.feed answer) ∧ (s.feed answer).result ≠ some .stopped ∧
      (s.feed answer).result ≠ some (.started true) := by
    unfold feed
    split
    · exact ⟨holding.withResult _, by simp, by simp⟩
    split
    · exact ⟨holding.withResult _, by simp, by simp⟩
    · rename_i refused _
      rw [not_or, Bool.not_eq_true, Bool.not_eq_false] at refused
      have going : s.ended = false := by
        by_contra ended
        rcases holding.barred (by simpa using ended) with stopped | ended
        · simp [refused.2] at stopped
        · simp [refused.1] at ended
      exact ⟨⟨holding.single, holding.handled, holding.emptied, holding.idle, holding.stubbed,
        holding.barred, by simpa [going] using holding.silent⟩, by simp, by simp⟩
  exact ⟨kept.1, kept.1.noLeak kept.2.1 kept.2.2⟩

theorem holding_seed (holding : Holding s) (contiguous accepted : Bool) :
    Holding (s.seed contiguous accepted) ∧ NoLeak (s.seed contiguous accepted) := by
  have kept : Holding (s.seed contiguous accepted) ∧
      (s.seed contiguous accepted).result ≠ some .stopped ∧
      (s.seed contiguous accepted).result ≠ some (.started true) := by
    unfold seed
    split_ifs
    · exact ⟨holding.withResult _, by simp, by simp⟩
    · exact ⟨holding.withResult _, by simp, by simp⟩
    · exact ⟨⟨holding.single, holding.handled, holding.emptied, holding.idle, holding.stubbed,
        holding.barred, holding.silent⟩, by simp, by simp⟩
    · exact ⟨holding.withResult _, by simp, by simp⟩
  exact ⟨kept.1, kept.1.noLeak kept.2.1 kept.2.2⟩

/-- A `_cleanup` whose caller lets go of the lock, which it took for it or held before. -/
theorem holding_cleanup (holding : Holding s) (free : s.holder = none) (caller : SessionCaller)
    (result : Option CallResult) : Holding { (s.cleanup caller).1 with result := result } := by
  obtain ⟨stopped, held, -, late, fewer⟩ := cleanup_kept s caller
  exact holding_idle (fewer.trans holding.single) stopped (held.trans free)
    (late.trans holding.silent)

theorem holding_unlock (holding : Holding s) (caller : SessionCaller) (result : Option CallResult) :
    Holding { (s.cleanup caller).1 with holder := none, result := result } := by
  obtain ⟨stopped, -, -, late, fewer⟩ := cleanup_kept s caller
  exact holding_idle (fewer.trans holding.single) stopped rfl (late.trans holding.silent)

theorem holding_start (holding : Holding s) (free : s.holder = none) (caller : SessionCaller)
    (launches : Bool) (empty : s.isRunning = false → launches = true → s.alive = []) :
    Holding (s.start caller launches) ∧ NoLeak (s.start caller launches) := by
  have kept : Holding (s.start caller launches) ∧
      (s.start caller launches).result ≠ some .stopped ∧
      (s.start caller launches).result ≠ some (.started true) := by
    unfold start
    split_ifs with running launched
    · exact ⟨holding.withResult _, by simp, by simp⟩
    · have stopped : s.isRunning = false := by simpa using running
      have alone := empty stopped launched
      refine ⟨?_, by simp, by simp⟩
      constructor
      · simp [alone]
      · simp [alone]
      · simp
      · exact fun _ => stopped
      · exact fun _ => rfl
      · exact fun _ => .inl stopped
      · exact holding.silent
    · exact ⟨holding_cleanup holding free caller _, by simp, by simp⟩
    · exact ⟨holding_cleanup holding free caller _, by simp, by simp⟩
  exact ⟨kept.1, kept.1.noLeak kept.2.1 kept.2.2⟩

/-- What a session that has just been started needs to be usable. -/
theorem usable_iff (running : s.isRunning = true) (free : s.holder = none) (stubbed : s.stub = true) :
    Usable s ↔ s.blocksSeeded = 0 ∧ s.sessionEnded = false := by
  constructor
  · rintro ⟨seeded, fed, seeding, seedSent, feeding, feedSent⟩
    have seededEq : s.seed true true = seeded := by
      simpa [step, locked, free, calls] using seeding
    subst seededEq
    by_cases unseeded : s.blocksSeeded = 0
    · refine ⟨unseeded, ?_⟩
      by_contra ended
      rw [Bool.not_eq_false] at ended
      have fedEq : (s.seed true true).feed .accepted = fed := by
        simpa [step, locked, free, calls, seed, running, unseeded, stubbed, subscribeToEvents]
          using feeding
      subst fedEq
      simp [seed, running, unseeded, stubbed, feed, subscribeToEvents, ended] at feedSent
    · simp [seed, running, Nat.pos_of_ne_zero unseeded] at seedSent
  · rintro ⟨unseeded, going⟩
    refine ⟨s.seed true true, (s.seed true true).feed .accepted, ?_, ?_, ?_, ?_⟩
    · simp [step, locked, free, calls]
    · simp [seed, running, unseeded, stubbed]
    · simp [step, locked, free, calls, seed, running, unseeded, stubbed, subscribeToEvents]
    · simp [seed, running, unseeded, stubbed, feed, subscribeToEvents, going]

theorem holding_startEnds (holding : Holding s) {caller : SessionCaller}
    (starting : s.holder = some (.starting caller)) (ready : Bool) :
    Holding (s.startEnds caller ready) ∧
      (NoLeak (s.startEnds caller ready) ↔ Releasing s (.startEnds ready)) := by
  unfold startEnds
  split
  · rename_i isReady
    have begun : Holding { s with
        isRunning := true, holder := none, ended := false, result := some (.started true) } := by
      constructor
      · exact holding.single
      · exact fun _ => holding.handled (.inr ⟨caller, starting⟩)
      · simp
      · simp
      · exact fun _ => holding.stubbed (.inr ⟨caller, starting⟩)
      · simp
      · exact holding.silent
    refine ⟨begun, ?_⟩
    have usable := usable_iff (s := { s with
      isRunning := true, holder := none, ended := false, result := some (.started true) })
      rfl rfl (begun.stubbed (.inl rfl))
    constructor
    · intro safe _ before
      exact usable.mp (safe.again rfl before)
    · intro releasing
      exact ⟨begun.single, by simp, fun _ before => usable.mpr (releasing isReady before),
        begun.silent⟩
  · rename_i failed
    have cleaned := holding_unlock holding caller
      (some (if (s.cleanup caller).2 then .started false else .raised))
    refine ⟨cleaned, iff_of_true (cleaned.noLeak ?_ ?_) fun ready => absurd ready failed⟩
    · dsimp only
      split <;> simp
    · dsimp only
      split <;> simp

theorem holding_stop (holding : Holding s) (free : s.holder = none) (caller : SessionCaller) :
    Holding (s.stop caller) ∧ (NoLeak (s.stop caller) ↔ Releasing s (.stop caller)) := by
  unfold stop
  split
  · rename_i stopped
    have returned : Holding s.stopReturns := holding_idle holding.single stopped free holding.silent
    refine ⟨returned, fun safe _ => safe.released rfl, fun releasing => ?_⟩
    exact ⟨holding.single, fun _ => releasing stopped, by simp [stopReturns], holding.silent⟩
  · rename_i running
    obtain ⟨stopped, held, -, late, fewer⟩ := cleanup_kept s caller
    have allowed : Releasing s (.stop caller) := fun stopped => absurd stopped running
    split
    · rename_i whole
      have empty := cleanup_alive whole (holding.handled (.inl (by simpa using running)))
      have ending : Holding { (s.cleanup caller).1 with
          holder := some (.ending caller), ended := true, result := none } := by
        constructor
        · exact fewer.trans holding.single
        · simp [empty]
        · exact fun _ => empty
        · exact fun _ => stopped
        · simp [stopped]
        · exact fun _ => .inl stopped
        · exact late.trans holding.silent
      exact ⟨ending, iff_of_true (ending.noLeak (by simp) (by simp)) allowed⟩
    · have raised : Holding { (s.cleanup caller).1 with ended := true, result := some .raised } :=
        holding_idle (fewer.trans holding.single) stopped (held.trans free)
          (late.trans holding.silent)
      exact ⟨raised, iff_of_true (raised.noLeak (by simp) (by simp)) allowed⟩

theorem holding_stopEnds (holding : Holding s) {caller : SessionCaller}
    (ending : s.holder = some (.ending caller)) (raises : Bool) :
    Holding (s.stopEnds raises) ∧ NoLeak (s.stopEnds raises) := by
  have stopped := holding.idle (by simp [ending])
  have empty := holding.emptied ⟨caller, ending⟩
  unfold stopEnds
  split
  · have raised : Holding { s with holder := none, result := some .raised } :=
      holding_idle holding.single stopped rfl holding.silent
    exact ⟨raised, raised.noLeak (by simp) (by simp)⟩
  · have returned : Holding ({ s with holder := none } : PlayoutSession).stopReturns :=
      holding_idle holding.single stopped rfl holding.silent
    exact ⟨returned, holding.single, fun _ => empty, by simp [stopReturns], holding.silent⟩

/-- **One step** keeps what the steps need of the state, and leaks nothing exactly when it meets the
condition. -/
theorem holding_step (holding : Holding s) {action : SessionAction} (taken : s.step action = some next) :
    (Releasing s action → Holding next) ∧ (NoLeak next ↔ Releasing s action) := by
  have always (kept : Holding next ∧ NoLeak next) (allowed : Releasing s action) :
      (Releasing s action → Holding next) ∧ (NoLeak next ↔ Releasing s action) :=
    ⟨fun _ => kept.1, iff_of_true kept.2 allowed⟩
  cases action with
  | start caller launches =>
    simp only [step, locked, Option.ite_none_right_eq_some, Option.some.injEq] at taken
    obtain ⟨⟨free, -⟩, rfl⟩ := taken
    refine ⟨fun releasing => (holding_start holding free caller launches releasing).1,
      fun safe => ?_, fun releasing => (holding_start holding free caller launches releasing).2⟩
    intro stopped launched
    have single := safe.single
    simp only [start, stopped, launched, if_true, Bool.false_eq_true, if_false,
      List.length_append, List.length_cons, List.length_nil] at single
    exact List.eq_nil_of_length_eq_zero (by omega)
  | startEnds ready =>
    simp only [step] at taken
    split at taken
    · rename_i caller starting
      cases taken
      exact (holding_startEnds holding starting ready).imp_left fun kept _ => kept
    · cases taken
  | seed caller contiguous accepted =>
    simp only [step, locked, Option.ite_none_right_eq_some, Option.some.injEq] at taken
    obtain ⟨-, rfl⟩ := taken
    exact always (holding_seed holding contiguous accepted) trivial
  | feed caller answer =>
    simp only [step, locked, Option.ite_none_right_eq_some, Option.some.injEq] at taken
    obtain ⟨-, rfl⟩ := taken
    exact always (holding_feed holding answer) trivial
  | stop caller =>
    simp only [step, locked, Option.ite_none_right_eq_some, Option.some.injEq] at taken
    obtain ⟨⟨free, -⟩, rfl⟩ := taken
    exact (holding_stop holding free caller).imp_left fun kept _ => kept
  | stopEnds raises =>
    simp only [step] at taken
    split at taken
    · rename_i caller ending
      cases taken
      exact always (holding_stopEnds holding ending raises) trivial
    · cases taken
  | receive thread event =>
    simp only [step, Option.ite_none_right_eq_some, Option.some.injEq] at taken
    obtain ⟨-, rfl⟩ := taken
    exact always (holding_receive holding thread event) trivial
  | streamEnds thread =>
    simp only [step, Option.ite_none_right_eq_some, Option.some.injEq] at taken
    obtain ⟨-, rfl⟩ := taken
    exact always (holding_moves holding thread _) trivial
  | record thread =>
    simp only [step] at taken
    split at taken
    · rename_i last _
      simp only [Option.ite_none_right_eq_some, Option.some.injEq] at taken
      obtain ⟨free, rfl⟩ := taken
      exact always (holding_record holding free thread last) trivial
    · cases taken
  | callbackReturns thread =>
    simp only [step] at taken
    split at taken
    · simp only [Option.ite_none_left_eq_some, Option.some.injEq] at taken
      obtain ⟨-, rfl⟩ := taken
      exact always (holding_moves holding thread _) trivial
    · cases taken
  | airExits process =>
    simp only [step, Option.some.injEq] at taken
    subst taken
    have kept := holding_airExits holding process
    exact always ⟨kept, kept.noLeak (by simp) (by simp)⟩ trivial

end PlayoutSession

end Steps

/-! ### Runs -/

section Runs

namespace PlayoutSession

theorem noLeak_initial : NoLeak .initial := by
  constructor <;> simp [initial]

/-- **No leak.** In every run whose steps meet the condition nothing leaks, whatever the order of the
calls, the events, the callbacks and the exits of AIR; and a step after it leaks nothing exactly when
it meets the condition. -/
theorem no_leak (actions : List SessionAction) (s : PlayoutSession)
    (releasing : Along step Releasing .initial actions)
    (ran : runActions step .initial actions = some s) :
    NoLeak s ∧ ∀ action next, s.step action = some next → (NoLeak next ↔ Releasing s action) := by
  have kept := invariant_along step (fun s => Holding s ∧ NoLeak s) Releasing
    (fun before action after here allowed taken =>
      have stepped := holding_step here.1 taken
      ⟨stepped.1 allowed, stepped.2.mpr allowed⟩)
    actions ⟨holding_initial, noLeak_initial⟩ releasing ran
  exact ⟨kept.2, fun action next taken => (holding_step kept.1 taken).2⟩

/-- A session that is seeded, fed and stopped. -/
def stoppedSession : List SessionAction :=
  [.start .other true, .startEnds true, .seed .other true true, .receive 0 .blockStarted,
    .feed (.events 0) .accepted, .callbackReturns 0, .stop .other, .stopEnds false]

/-- A session that ends by itself and is stopped then. -/
def endedSession : List SessionAction :=
  [.start .other true, .startEnds true, .seed .other true true, .receive 0 .sessionEnded,
    .record 0, .callbackReturns 0, .stop .other]

instance (s : PlayoutSession) (action : SessionAction) : Decidable (Releasing s action) :=
  SessionAction.casesOn (motive := fun action => Decidable (Releasing s action)) action
    -- `start`
    (fun _ launches => inferInstanceAs (Decidable
      (s.isRunning = false → launches = true → s.alive = [])))
    -- `startEnds`
    (fun ready => inferInstanceAs (Decidable
      (ready = true → s.stoppedBefore = true → s.blocksSeeded = 0 ∧ s.sessionEnded = false)))
    (fun _ _ _ => inferInstanceAs (Decidable True)) (fun _ _ => inferInstanceAs (Decidable True))
    -- `stop`
    (fun _ => inferInstanceAs (Decidable (s.isRunning = false → s.alive = [])))
    (fun _ => inferInstanceAs (Decidable True)) (fun _ _ => inferInstanceAs (Decidable True))
    (fun _ => inferInstanceAs (Decidable True)) (fun _ => inferInstanceAs (Decidable True))
    (fun _ => inferInstanceAs (Decidable True)) (fun _ => inferInstanceAs (Decidable True))

theorem stoppedSession_noLeak :
    ∃ s, runActions step .initial stoppedSession = some s ∧ s.alive = [] ∧ NoLeak s := by
  obtain ⟨s, ran, empty⟩ := exists_run step .initial stoppedSession (fun s => s.alive = [])
    (by decide +kernel)
  exact ⟨s, ran, empty, (no_leak stoppedSession s (by decide +kernel) ran).1⟩

/-- `stop` returns without releasing the AIR process of a session that has ended by itself. -/
theorem stop_after_end :
    ¬ ∀ actions s, runActions step .initial actions = some s → NoLeak s := by
  intro safe
  obtain ⟨s, ran, stopped, leaked⟩ := exists_run step .initial endedSession
    (fun s => s.result = some .stopped ∧ s.alive = [0]) (by decide +kernel)
  have empty := (safe endedSession s ran).released stopped
  rw [leaked] at empty
  cases empty

end PlayoutSession

end Runs

end Retrovue.Core.Handoff
