/-
**Commands and events of the playout control** (`runtime/PlayoutControl.cpp`).

* `PlayoutControl`: the phase, the position, the ids of the commands that were delivered, the counters;
* `deliver`: a command or an event, with the answer of a command; `Admits`: when a command is accepted;
* `deliver_fresh`, `deliver_again`: what delivering an id for the first time and again does;
* `Idempotent`: what a run owes to retries; `idempotent_iff`: it gives it exactly when every command that
  is delivered again was accepted at first.

An id is registered before its command is checked, and the answer is not remembered.
-/

import Mathlib

namespace Retrovue.Air.Runtime

/-! ### The control -/

section Control

/-- `RuntimePhase`. -/
inductive RuntimePhase
  | idle
  | buffering
  | ready
  | playing
  | paused
  | stopping
  | error
  deriving DecidableEq, Repr

/-- `TimingLoop::BackPressureEvent`. -/
inductive BackPressureEvent
  | underrun
  | overrun
  | stall
  deriving DecidableEq, Repr

/-- **`PlayoutControl`**: what its commands and events read and write. Latencies are in milliseconds. -/
structure PlayoutControl where
  state : RuntimePhase := .idle
  processedCommands : List String := []
  currentPtsUs : ℤ := 0
  transitions : RuntimePhase → RuntimePhase → ℕ := fun _ _ => 0
  illegalTransitionTotal : ℕ := 0
  latencyViolationTotal : ℕ := 0
  timeoutTotal : ℕ := 0
  queueOverflowTotal : ℕ := 0
  recoverTotal : ℕ := 0
  lateSeekTotal : ℕ := 0
  pauseLatenciesMs : List ℚ := []
  resumeLatenciesMs : List ℚ := []
  seekLatenciesMs : List ℚ := []
  stopLatenciesMs : List ℚ := []
  pauseDeviationMs : List ℚ := []

/-- `kReadinessThresholdFrames`. -/
def kReadinessThresholdFrames : ℕ := 3

/-- `MicrosecondsToMilliseconds`. -/
def microsecondsToMilliseconds (deltaUs : ℤ) : ℚ := deltaUs / 1000

namespace PlayoutControl

variable (c : PlayoutControl)

/-- `transitions_[{from, to}]++`. -/
def countTransition (from_ to_ : RuntimePhase) : RuntimePhase → RuntimePhase → ℕ := fun a b =>
  if a = from_ ∧ b = to_ then c.transitions a b + 1 else c.transitions a b

/-- `TransitionLocked`. -/
def transitionLocked (to_ : RuntimePhase) : PlayoutControl :=
  if c.state = to_ then c
  else { c with state := to_, transitions := c.countTransition c.state to_ }

/-- `RecordIllegalTransitionLocked`. -/
def recordIllegalTransitionLocked (attemptedTo : RuntimePhase) : PlayoutControl :=
  { c with
    illegalTransitionTotal := c.illegalTransitionTotal + 1
    transitions := c.countTransition c.state attemptedTo }

/-- A latency over its threshold. -/
def violateLatency (latencyMs threshold : ℚ) : PlayoutControl :=
  if latencyMs > threshold then { c with latencyViolationTotal := c.latencyViolationTotal + 1 } else c

/-- `RegisterCommandLocked`: an empty id is not remembered. -/
def registerCommandLocked (commandId : String) : PlayoutControl × Bool :=
  if commandId = "" then (c, true)
  else if commandId ∈ c.processedCommands then (c, false)
  else ({ c with processedCommands := commandId :: c.processedCommands }, true)

/-- A command: a registered id is acknowledged. -/
def once (commandId : String) (body : PlayoutControl → PlayoutControl × Bool) :
    PlayoutControl × Bool :=
  let (c, isNew) := c.registerCommandLocked commandId
  if isNew then body c else (c, true)

/-- `BeginSession`. -/
def beginSession (commandId : String) : PlayoutControl × Bool :=
  c.once commandId fun c =>
    if c.state ≠ .idle then (c.recordIllegalTransitionLocked .buffering, false)
    else (c.transitionLocked .buffering, true)

/-- `Pause`. -/
def pause (commandId : String) (requestUtcUs effectiveUtcUs : ℤ) (boundaryDeviationMs : ℚ) :
    PlayoutControl × Bool :=
  c.once commandId fun c =>
    if c.state ≠ .playing then (c.recordIllegalTransitionLocked .paused, false)
    else
      let latencyMs := microsecondsToMilliseconds (effectiveUtcUs - requestUtcUs)
      let c := { c with
        pauseLatenciesMs := c.pauseLatenciesMs ++ [latencyMs]
        pauseDeviationMs := c.pauseDeviationMs ++ [boundaryDeviationMs] }
      ((c.violateLatency latencyMs 33).transitionLocked .paused, true)

/-- `Resume`. -/
def resume (commandId : String) (requestUtcUs effectiveUtcUs : ℤ) : PlayoutControl × Bool :=
  c.once commandId fun c =>
    if c.state ≠ .paused then (c.recordIllegalTransitionLocked .playing, false)
    else
      let latencyMs := microsecondsToMilliseconds (effectiveUtcUs - requestUtcUs)
      let c := { c with resumeLatenciesMs := c.resumeLatenciesMs ++ [latencyMs] }
      ((c.violateLatency latencyMs 50).transitionLocked .playing, true)

/-- `Seek`: a target behind the position counts as late, whatever the phase. -/
def seek (commandId : String) (requestUtcUs targetPtsUs effectiveUtcUs : ℤ) :
    PlayoutControl × Bool :=
  c.once commandId fun c =>
    if targetPtsUs < c.currentPtsUs then ({ c with lateSeekTotal := c.lateSeekTotal + 1 }, false)
    else if c.state ≠ .playing ∧ c.state ≠ .paused then
      (c.recordIllegalTransitionLocked .buffering, false)
    else
      let latencyMs := microsecondsToMilliseconds (effectiveUtcUs - requestUtcUs)
      let c := { c with seekLatenciesMs := c.seekLatenciesMs ++ [latencyMs] }
      let c := (((c.violateLatency latencyMs 250).transitionLocked .buffering).transitionLocked
        .ready).transitionLocked .playing
      ({ c with currentPtsUs := targetPtsUs }, true)

/-- `Stop`. -/
def stop (commandId : String) (requestUtcUs effectiveUtcUs : ℤ) : PlayoutControl × Bool :=
  c.once commandId fun c =>
    if c.state = .idle then (c.recordIllegalTransitionLocked .stopping, false)
    else
      let latencyMs := microsecondsToMilliseconds (effectiveUtcUs - requestUtcUs)
      let c := { c with stopLatenciesMs := c.stopLatenciesMs ++ [latencyMs] }
      (((c.violateLatency latencyMs 500).transitionLocked .stopping).transitionLocked .idle, true)

/-- `Recover`. -/
def recover (commandId : String) : PlayoutControl × Bool :=
  c.once commandId fun c =>
    if c.state ≠ .error then (c.recordIllegalTransitionLocked .buffering, false)
    else
      let c := c.transitionLocked .buffering
      ({ c with recoverTotal := c.recoverTotal + 1 }, true)

/-- `OnBufferDepth`. -/
def onBufferDepth (depth capacity : ℕ) : PlayoutControl :=
  if capacity = 0 then c
  else if c.state = .buffering ∧ depth ≥ kReadinessThresholdFrames then
    (c.transitionLocked .ready).transitionLocked .playing
  else if c.state = .playing ∧ depth = 0 then c.transitionLocked .buffering
  else c

/-- `OnBackPressureEvent`: an overrun is only counted. -/
def onBackPressureEvent (event : BackPressureEvent) : PlayoutControl :=
  match event with
  | .underrun => if c.state = .playing then c.transitionLocked .buffering else c
  | .overrun => { c with queueOverflowTotal := c.queueOverflowTotal + 1 }
  | .stall => c

/-- `OnBackPressureCleared`. -/
def onBackPressureCleared : PlayoutControl :=
  if c.state = .buffering then (c.transitionLocked .ready).transitionLocked .playing else c

/-- `OnExternalTimeout`. -/
def onExternalTimeout : PlayoutControl :=
  { c with timeoutTotal := c.timeoutTotal + 1 }.transitionLocked .error

/-- `OnQueueOverflow`. -/
def onQueueOverflow : PlayoutControl := { c with queueOverflowTotal := c.queueOverflowTotal + 1 }

end PlayoutControl

end Control

/-! ### Runs -/

section Runs

/-- A command or an event. Times of events are not read. -/
inductive Delivery
  | beginSession (commandId : String)
  | pause (commandId : String) (requestUtcUs effectiveUtcUs : ℤ) (boundaryDeviationMs : ℚ)
  | resume (commandId : String) (requestUtcUs effectiveUtcUs : ℤ)
  | seek (commandId : String) (requestUtcUs targetPtsUs effectiveUtcUs : ℤ)
  | stop (commandId : String) (requestUtcUs effectiveUtcUs : ℤ)
  | recover (commandId : String)
  | bufferDepth (depth capacity : ℕ)
  | backPressure (event : BackPressureEvent)
  | backPressureCleared
  | externalTimeout
  | queueOverflow
  deriving DecidableEq

/-- The id of a command; an empty one is none. -/
def Delivery.commandId : Delivery → Option String
  | .beginSession commandId => some commandId
  | .pause commandId _ _ _ => some commandId
  | .resume commandId _ _ => some commandId
  | .seek commandId _ _ _ => some commandId
  | .stop commandId _ _ => some commandId
  | .recover commandId => some commandId
  | _ => none

namespace PlayoutControl

variable (c : PlayoutControl)

/-- **What a delivery does**, and the answer of a command. -/
def deliver : Delivery → PlayoutControl × Option Bool
  | .beginSession commandId => (c.beginSession commandId).map id some
  | .pause commandId request effective deviation =>
    (c.pause commandId request effective deviation).map id some
  | .resume commandId request effective => (c.resume commandId request effective).map id some
  | .seek commandId request target effective =>
    (c.seek commandId request target effective).map id some
  | .stop commandId request effective => (c.stop commandId request effective).map id some
  | .recover commandId => (c.recover commandId).map id some
  | .bufferDepth depth capacity => (c.onBufferDepth depth capacity, none)
  | .backPressure event => (c.onBackPressureEvent event, none)
  | .backPressureCleared => (c.onBackPressureCleared, none)
  | .externalTimeout => (c.onExternalTimeout, none)
  | .queueOverflow => (c.onQueueOverflow, none)

/-- **A command is accepted** in its phases, and a seek only from its target on. -/
def Admits : Delivery → Prop
  | .beginSession _ => c.state = .idle
  | .pause _ _ _ _ => c.state = .playing
  | .resume _ _ _ => c.state = .paused
  | .seek _ _ targetPtsUs _ =>
    c.currentPtsUs ≤ targetPtsUs ∧ (c.state = .playing ∨ c.state = .paused)
  | .stop _ _ _ => c.state ≠ .idle
  | .recover _ => c.state = .error
  | _ => True

end PlayoutControl

/-- One delivery of a run. -/
structure Step where
  before : PlayoutControl
  delivery : Delivery
  after : PlayoutControl
  answer : Option Bool

/-- **A run**: deliveries, one after the other. -/
def run : PlayoutControl → List Delivery → List Step
  | _, [] => []
  | c, delivery :: rest =>
    ⟨c, delivery, (c.deliver delivery).1, (c.deliver delivery).2⟩ :: run (c.deliver delivery).1 rest

/-- The first delivery of an id. -/
def firstOf (commandId : String) (steps : List Step) : Option Step :=
  steps.find? fun step => step.delivery.commandId = some commandId

/-- **What a run owes to retries.** -/
structure Idempotent (steps : List Step) : Prop where
  /-- A command that was delivered before changes nothing, and gets the answer it got first. -/
  again : ∀ earlier step later, steps = earlier ++ step :: later → ∀ commandId ≠ "",
    step.delivery.commandId = some commandId → ∀ first ∈ firstOf commandId earlier,
      step.after = step.before ∧ step.answer = first.answer
  /-- A phase change is the work of an event, or of a command that is accepted and was not delivered
  before. -/
  changes : ∀ earlier step later, steps = earlier ++ step :: later →
    step.after.state ≠ step.before.state → step.delivery.commandId = none ∨
      step.answer = some true ∧ ∀ commandId ≠ "", step.delivery.commandId = some commandId →
        firstOf commandId earlier = none
  /-- A command that is rejected leaves the phase and the position. -/
  rejected : ∀ step ∈ steps, step.answer = some false →
    step.after.state = step.before.state ∧ step.after.currentPtsUs = step.before.currentPtsUs

/-- **When retries get their answer**: what is delivered again was accepted at first. -/
def RetriesAdmitted (steps : List Step) : Prop :=
  ∀ earlier step later, steps = earlier ++ step :: later → ∀ commandId ≠ "",
    step.delivery.commandId = some commandId → ∀ first ∈ firstOf commandId earlier,
      first.before.Admits first.delivery

end Runs

/-! ### One delivery -/

section Delivering

namespace PlayoutControl

variable {c : PlayoutControl}

@[simp] theorem transitionLocked_state (to_ : RuntimePhase) :
    (c.transitionLocked to_).state = to_ := by
  unfold transitionLocked
  split_ifs with same
  · exact same
  · rfl

@[simp] theorem transitionLocked_processed (to_ : RuntimePhase) :
    (c.transitionLocked to_).processedCommands = c.processedCommands := by
  unfold transitionLocked
  split_ifs <;> rfl

@[simp] theorem transitionLocked_position (to_ : RuntimePhase) :
    (c.transitionLocked to_).currentPtsUs = c.currentPtsUs := by
  unfold transitionLocked
  split_ifs <;> rfl

@[simp] theorem violateLatency_processed (latencyMs threshold : ℚ) :
    (c.violateLatency latencyMs threshold).processedCommands = c.processedCommands := by
  unfold violateLatency
  split_ifs <;> rfl

/-- A control that remembers an id. -/
def registered (c : PlayoutControl) (commandId : String) : PlayoutControl :=
  if commandId = "" then c
  else { c with processedCommands := commandId :: c.processedCommands }

@[simp] theorem registered_state (commandId : String) :
    (c.registered commandId).state = c.state := by
  unfold registered
  split_ifs <;> rfl

@[simp] theorem registered_position (commandId : String) :
    (c.registered commandId).currentPtsUs = c.currentPtsUs := by
  unfold registered
  split_ifs <;> rfl

theorem mem_registered {commandId other : String} :
    other ∈ (c.registered commandId).processedCommands ↔
      other ∈ c.processedCommands ∨ other = commandId ∧ other ≠ "" := by
  unfold registered
  split_ifs with empty
  · subst empty
    simp
  · rw [List.mem_cons]
    constructor
    · rintro (rfl | member)
      · exact .inr ⟨rfl, empty⟩
      · exact .inl member
    · rintro (member | ⟨rfl, -⟩)
      · exact .inr member
      · exact .inl rfl

theorem once_again {commandId : String} (named : commandId ≠ "")
    (member : commandId ∈ c.processedCommands) (body : PlayoutControl → PlayoutControl × Bool) :
    c.once commandId body = (c, true) := by
  unfold once registerCommandLocked
  rw [if_neg named, if_pos member]
  rfl

theorem once_fresh {commandId : String} (fresh : commandId ≠ "" → commandId ∉ c.processedCommands)
    (body : PlayoutControl → PlayoutControl × Bool) :
    c.once commandId body = body (c.registered commandId) := by
  unfold once registerCommandLocked registered
  split_ifs with empty member
  · rfl
  · exact absurd member (fresh empty)
  · rfl

/-- **A command whose id was registered** changes nothing, and is acknowledged. -/
theorem deliver_again {delivery : Delivery} {commandId : String} (named : commandId ≠ "")
    (command : delivery.commandId = some commandId) (member : commandId ∈ c.processedCommands) :
    c.deliver delivery = (c, some true) := by
  cases delivery <;> cases command <;>
    simp only [deliver, beginSession, pause, resume, seek, stop, recover, once_again named member] <;>
    rfl

/-- What delivering a command for the first time does. -/
structure Taken (c : PlayoutControl) (delivery : Delivery) (commandId : String)
    (out : PlayoutControl × Option Bool) : Prop where
  answer : out.2 = some true ↔ c.Admits delivery
  refused : ¬ c.Admits delivery → out.2 = some false ∧ out.1.state = c.state ∧
    out.1.currentPtsUs = c.currentPtsUs
  remembers : ∀ other, other ∈ out.1.processedCommands ↔
    other ∈ c.processedCommands ∨ other = commandId ∧ other ≠ ""

theorem Taken.of_accepted {delivery : Delivery} {commandId : String}
    {out : PlayoutControl × Option Bool} (admits : c.Admits delivery) (answer : out.2 = some true)
    (kept : out.1.processedCommands = (c.registered commandId).processedCommands) :
    Taken c delivery commandId out where
  answer := iff_of_true answer admits
  refused refuses := absurd admits refuses
  remembers _ := by rw [kept, mem_registered]

theorem Taken.of_refused {delivery : Delivery} {commandId : String}
    {out : PlayoutControl × Option Bool} (refuses : ¬ c.Admits delivery)
    (answer : out.2 = some false) (state : out.1.state = c.state)
    (position : out.1.currentPtsUs = c.currentPtsUs)
    (kept : out.1.processedCommands = (c.registered commandId).processedCommands) :
    Taken c delivery commandId out where
  answer := iff_of_false (by simp [answer]) refuses
  refused _ := ⟨answer, state, position⟩
  remembers _ := by rw [kept, mem_registered]

/-- **A command whose id is new** is accepted exactly when the control admits it. -/
theorem deliver_fresh {delivery : Delivery} {commandId : String}
    (fresh : commandId ≠ "" → commandId ∉ c.processedCommands)
    (command : delivery.commandId = some commandId) :
    Taken c delivery commandId (c.deliver delivery) := by
  cases delivery with
  | beginSession id =>
    cases command
    simp only [deliver, beginSession, once_fresh fresh, registered_state]
    split_ifs with busy
    · exact .of_refused busy rfl (registered_state commandId) (registered_position commandId) rfl
    · exact .of_accepted (not_not.mp busy) rfl (transitionLocked_processed _)
  | pause id request effective deviation =>
    cases command
    simp only [deliver, pause, once_fresh fresh, registered_state]
    split_ifs with idle
    · exact .of_refused idle rfl (registered_state commandId) (registered_position commandId) rfl
    · exact .of_accepted (not_not.mp idle) rfl (by simp)
  | resume id request effective =>
    cases command
    simp only [deliver, resume, once_fresh fresh, registered_state]
    split_ifs with idle
    · exact .of_refused idle rfl (registered_state commandId) (registered_position commandId) rfl
    · exact .of_accepted (not_not.mp idle) rfl (by simp)
  | seek id request target effective =>
    cases command
    simp only [deliver, seek, once_fresh fresh, registered_state, registered_position]
    split_ifs with behind idle
    · exact .of_refused (fun admits => not_le.mpr behind admits.1) rfl rfl rfl rfl
    · refine .of_refused (fun admits => ?_) rfl (registered_state commandId) (registered_position commandId) rfl
      exact admits.2.elim idle.1 idle.2
    · refine .of_accepted ⟨not_lt.mp behind, ?_⟩ rfl (by simp)
      by_contra neither
      exact idle (not_or.mp neither)
  | stop id request effective =>
    cases command
    simp only [deliver, stop, once_fresh fresh, registered_state]
    split_ifs with idle
    · exact .of_refused (not_not.mpr idle) rfl (registered_state commandId) (registered_position commandId) rfl
    · exact .of_accepted idle rfl (by simp)
  | recover id =>
    cases command
    simp only [deliver, recover, once_fresh fresh, registered_state]
    split_ifs with sound
    · exact .of_refused sound rfl (registered_state commandId) (registered_position commandId) rfl
    · exact .of_accepted (not_not.mp sound) rfl (by simp)
  | _ => cases command

/-- An event has no answer, and registers nothing. -/
theorem deliver_event {delivery : Delivery} (isEvent : delivery.commandId = none) :
    (c.deliver delivery).2 = none ∧
      (c.deliver delivery).1.processedCommands = c.processedCommands := by
  cases delivery with
  | bufferDepth depth capacity =>
    refine ⟨rfl, ?_⟩
    simp only [deliver, onBufferDepth]
    split_ifs <;> simp
  | backPressure event =>
    refine ⟨rfl, ?_⟩
    cases event with
    | underrun =>
      simp only [deliver, onBackPressureEvent]
      split_ifs <;> simp
    | _ => rfl
  | backPressureCleared =>
    refine ⟨rfl, ?_⟩
    simp only [deliver, onBackPressureCleared]
    split_ifs <;> simp
  | externalTimeout => exact ⟨rfl, transitionLocked_processed _⟩
  | queueOverflow => exact ⟨rfl, rfl⟩
  | _ => cases isEvent

/-- **The ids that are remembered** are those that were delivered. -/
theorem mem_deliver (delivery : Delivery) (other : String) :
    other ∈ (c.deliver delivery).1.processedCommands ↔
      other ∈ c.processedCommands ∨ delivery.commandId = some other ∧ other ≠ "" := by
  cases command : delivery.commandId with
  | none => rw [(deliver_event command).2]; simp
  | some commandId =>
    by_cases member : commandId ≠ "" ∧ commandId ∈ c.processedCommands
    · rw [deliver_again member.1 command member.2]
      refine (or_iff_left_of_imp ?_).symm
      rintro ⟨same, -⟩
      rw [← Option.some.inj same]
      exact member.2
    · rw [(deliver_fresh (fun named isMember => member ⟨named, isMember⟩) command).remembers,
        Option.some.injEq, eq_comm]

end PlayoutControl

end Delivering

/-! ### Retries -/

section Retries

open PlayoutControl

variable {c : PlayoutControl} {deliveries : List Delivery} {steps earlier later : List Step}
  {step : Step}

/-- **A step of a run** delivers to a control that remembers the ids delivered before. -/
theorem run_step (split : run c deliveries = earlier ++ step :: later) :
    step.before.deliver step.delivery = (step.after, step.answer) ∧
      ∀ commandId, commandId ∈ step.before.processedCommands ↔
        commandId ∈ c.processedCommands ∨
          ∃ prior ∈ earlier, prior.delivery.commandId = some commandId ∧ commandId ≠ "" := by
  induction earlier generalizing c deliveries with
  | nil =>
    cases deliveries with
    | nil => cases split
    | cons delivery rest =>
      obtain ⟨rfl, -⟩ := List.cons.inj split
      exact ⟨rfl, fun commandId => by simp⟩
  | cons prior earlier ih =>
    cases deliveries with
    | nil => cases split
    | cons delivery rest =>
      obtain ⟨rfl, tail⟩ := List.cons.inj split
      obtain ⟨delivers, remembers⟩ := ih tail
      refine ⟨delivers, fun commandId => ?_⟩
      rw [remembers, mem_deliver, List.exists_mem_cons_iff, or_assoc]

theorem firstOf_eq_none {commandId : String} :
    firstOf commandId earlier = none ↔
      ∀ prior ∈ earlier, prior.delivery.commandId ≠ some commandId := by
  simp [firstOf, List.find?_eq_none]

/-- **The first delivery of an id** is a step of the run, and its id is new to the control. -/
theorem first_fresh {commandId : String} {first : Step}
    (split : run {} deliveries = earlier ++ step :: later)
    (isFirst : firstOf commandId earlier = some first) :
    first ∈ earlier ∧ first.delivery.commandId = some commandId ∧
      Taken first.before first.delivery commandId (first.after, first.answer) := by
  obtain ⟨isCommand, before, between, shape, others⟩ := List.find?_eq_some_iff_append.mp isFirst
  have command : first.delivery.commandId = some commandId := of_decide_eq_true isCommand
  rw [shape, List.append_assoc, List.cons_append] at split
  obtain ⟨delivers, remembers⟩ := run_step split
  refine ⟨by rw [shape]; simp, command, delivers ▸ deliver_fresh (fun _ member => ?_) command⟩
  rcases (remembers commandId).mp member with initial | ⟨prior, listed, same, -⟩
  · cases initial
  · have differs := others prior listed
    rw [same] at differs
    simp at differs

/-- A step of a command is its first delivery, or the control remembers its id. -/
theorem step_command {commandId : String} (split : run {} deliveries = earlier ++ step :: later)
    (command : step.delivery.commandId = some commandId) :
    (commandId ≠ "" ∧ (∃ first, firstOf commandId earlier = some first) ∧
        step.after = step.before ∧ step.answer = some true) ∨
      ((commandId ≠ "" → firstOf commandId earlier = none) ∧
        Taken step.before step.delivery commandId (step.after, step.answer)) := by
  obtain ⟨delivers, remembers⟩ := run_step split
  have known : commandId ∈ step.before.processedCommands ↔
      commandId ≠ "" ∧ ∃ first, firstOf commandId earlier = some first := by
    rw [remembers, ← Option.ne_none_iff_exists', ne_eq (firstOf _ _), firstOf_eq_none]
    push Not
    constructor
    · rintro (initial | ⟨prior, listed, same, named⟩)
      · cases initial
      · exact ⟨named, prior, listed, same⟩
    · rintro ⟨named, prior, listed, same⟩
      exact .inr ⟨prior, listed, same, named⟩
  by_cases member : commandId ≠ "" ∧ ∃ first, firstOf commandId earlier = some first
  · left
    rw [deliver_again member.1 command (known.mpr member)] at delivers
    obtain ⟨after, answer⟩ := Prod.mk.inj delivers
    exact ⟨member.1, member.2, after.symm, answer.symm⟩
  · right
    refine ⟨fun named => ?_, delivers ▸ deliver_fresh (fun named isMember =>
      member (known.mp isMember)) command⟩
    by_contra some_
    exact member ⟨named, Option.ne_none_iff_exists'.mp some_⟩

/-- **Retries get their answer**: along every run, exactly when every command that is delivered again
was accepted at first. -/
theorem idempotent_iff (deliveries : List Delivery) :
    Idempotent (run {} deliveries) ↔ RetriesAdmitted (run {} deliveries) := by
  constructor
  · intro idempotent earlier step later split commandId named command first isFirst
    obtain ⟨-, -, taken⟩ := first_fresh split isFirst
    obtain ⟨-, same⟩ := idempotent.again earlier step later split commandId named command first isFirst
    rcases step_command split command with ⟨-, -, -, answer⟩ | ⟨none_, -⟩
    · exact taken.answer.mp (same.symm.trans answer)
    · exact absurd ((none_ named).symm.trans isFirst) (by simp)
  · intro admitted
    refine ⟨?_, ?_, ?_⟩
    · intro earlier step later split commandId named command first isFirst
      obtain ⟨-, -, taken⟩ := first_fresh split isFirst
      have accepted := taken.answer.mpr
        (admitted earlier step later split commandId named command first isFirst)
      rcases step_command split command with ⟨-, -, after, answer⟩ | ⟨none_, -⟩
      · exact ⟨after, answer.trans accepted.symm⟩
      · exact absurd ((none_ named).symm.trans isFirst) (by simp)
    · intro earlier step later split changed
      cases command : step.delivery.commandId with
      | none => exact .inl rfl
      | some commandId =>
        right
        rcases step_command split command with ⟨-, -, after, -⟩ | ⟨none_, taken⟩
        · exact absurd (congrArg PlayoutControl.state after) changed
        · have admits : step.before.Admits step.delivery := by
            by_contra refuses
            exact changed (taken.refused refuses).2.1
          refine ⟨taken.answer.mpr admits, fun other named same => ?_⟩
          obtain rfl := Option.some.inj same
          exact none_ named
    · intro step member rejected
      obtain ⟨earlier, later, split⟩ := List.append_of_mem member
      cases command : step.delivery.commandId with
      | none =>
        have none_ := (deliver_event (c := step.before) command).1
        rw [(run_step split).1] at none_
        exact absurd (none_.symm.trans rejected) (by simp)
      | some commandId =>
        rcases step_command split command with ⟨-, -, -, answer⟩ | ⟨-, taken⟩
        · exact absurd (answer.symm.trans rejected) (by simp)
        · have refuses : ¬ step.before.Admits step.delivery := fun admits =>
            absurd ((taken.answer.mpr admits).symm.trans rejected) (by simp)
          exact (taken.refused refuses).2

/-- **A rejected pause is acknowledged when it is retried**: the control is idle both times. -/
theorem rejected_pause_is_acknowledged :
    let steps := run {} [.pause "p1" 0 1000 0, .pause "p1" 0 1000 0]
    steps.map Step.answer = [some false, some true] ∧
      steps.map (fun step => step.after.state) = [.idle, .idle] ∧ ¬ Idempotent steps := by
  refine ⟨by decide, by decide, fun idempotent => ?_⟩
  have same := (idempotent.again [_] _ [] rfl "p1" (by decide) rfl _ rfl).2
  exact absurd same (by decide)

end Retries

end Retrovue.Air.Runtime
