/-
**Runs of a partial step function.**

A system is `step : State → Action → Option State`: the action carries whatever the environment
chose, `none` means that the action is not possible in that state.

* `runActions`: the run of a list of actions, and `runActions_append`: runs compose;
* `Along`: every step of a run meets a condition on the state before it and its action;
* `invariant_along`: an invariant that every step meeting the condition keeps, holds at the end of
  every run whose steps all meet it;
* `along_of_invariant`: what the invariant shows of a step holds of every step of such a run;
  `along_congr_of_invariant`: conditions that it makes the same hold along the same runs;
* `Reachable`, `invariant_reachable`: the same for all steps, from a set of start states;
* `simulation_run`: a run of a concrete system is, step by step, a run of an abstract one, along
  the abstract condition that its steps meet.
-/

import Mathlib

namespace Retrovue.Foundation.Transition

section Runs

variable {State Action : Type*} (step : State → Action → Option State)

/-- The state after a list of actions, if every one of them was possible. -/
def runActions : State → List Action → Option State
  | state, [] => some state
  | state, action :: rest => (step state action).bind fun next => runActions next rest

@[simp] theorem runActions_nil (state : State) : runActions step state [] = some state := rfl

theorem runActions_cons (state : State) (action : Action) (rest : List Action) :
    runActions step state (action :: rest) =
      (step state action).bind fun next => runActions step next rest := rfl

/-- A run that begins with an action is one step and the run of the rest. -/
theorem runActions_cons_some {state final : State} {action : Action} {rest : List Action} :
    runActions step state (action :: rest) = some final ↔
      ∃ next, step state action = some next ∧ runActions step next rest = some final := by
  rw [runActions_cons, Option.bind_eq_some_iff]

/-- **Runs compose.** -/
theorem runActions_append (state : State) (first second : List Action) :
    runActions step state (first ++ second) =
      (runActions step state first).bind fun middle => runActions step middle second := by
  induction first generalizing state with
  | nil => rfl
  | cons action rest ih =>
    rw [List.cons_append, runActions_cons, runActions_cons, Option.bind_assoc]
    congr 1
    funext next
    exact ih next

/-- A run that is evaluated: it ends in a state with a decidable property. -/
theorem exists_run (state : State) (actions : List Action) (holds : State → Prop)
    [DecidablePred holds]
    (evaluated : (runActions step state actions).any (fun final => decide (holds final)) = true) :
    ∃ final, runActions step state actions = some final ∧ holds final := by
  obtain ⟨final, ran, good⟩ := (Option.any_eq_true _ _).mp evaluated
  exact ⟨final, ran, of_decide_eq_true good⟩

/-- Every step of the run meets `ok`, a condition on the state before it and on its action. -/
def Along (ok : State → Action → Prop) : State → List Action → Prop
  | _, [] => True
  | state, action :: rest =>
    ok state action ∧ ∀ next, step state action = some next → Along ok next rest

@[simp] theorem along_nil (ok : State → Action → Prop) (state : State) :
    Along step ok state [] := trivial

instance alongDecidable (ok : State → Action → Prop) [∀ state action, Decidable (ok state action)] :
    ∀ (state : State) (actions : List Action), Decidable (Along step ok state actions)
  | _, [] => inferInstanceAs (Decidable True)
  | state, action :: rest =>
    match taken : step state action with
    | none => decidable_of_iff (ok state action) (by simp [Along, taken])
    | some next =>
      haveI := alongDecidable ok next rest
      decidable_of_iff (ok state action ∧ Along step ok next rest) (by simp [Along, taken])

/-- A condition that holds of every step holds along every run. -/
theorem along_of_forall {ok : State → Action → Prop} (all : ∀ state action, ok state action) :
    ∀ (actions : List Action) (state : State), Along step ok state actions
  | [], _ => trivial
  | action :: rest, state => ⟨all state action, fun next _ => along_of_forall all rest next⟩

/-- **The run rule**: what every step meeting `ok` keeps holds at the end of every run whose steps
all meet `ok`. -/
theorem invariant_along (invariant : State → Prop) (ok : State → Action → Prop)
    (kept : ∀ state action next, invariant state → ok state action →
      step state action = some next → invariant next) :
    ∀ (actions : List Action) {state final : State}, invariant state →
      Along step ok state actions → runActions step state actions = some final → invariant final
  | [], state, final, here, _, ran => by
    cases ran
    exact here
  | action :: rest, state, final, here, along, ran => by
    obtain ⟨next, taken, ran⟩ := (runActions_cons_some step).mp ran
    exact invariant_along invariant ok kept rest (kept state action next here along.1 taken)
      (along.2 next taken) ran

/-- **The run rule for steps**: what an invariant and `ok` show of a step holds of every step of a run
whose steps all meet `ok`. -/
theorem along_of_invariant (invariant : State → Prop) (ok shown : State → Action → Prop)
    (kept : ∀ state action next, invariant state → ok state action →
      step state action = some next → invariant next)
    (shows : ∀ state action, invariant state → ok state action → shown state action) :
    ∀ (actions : List Action) {state : State}, invariant state →
      Along step ok state actions → Along step shown state actions
  | [], _, _, _ => trivial
  | action :: rest, state, here, along =>
    ⟨shows state action here along.1, fun next taken =>
      along_of_invariant invariant ok shown kept shows rest
        (kept state action next here along.1 taken) (along.2 next taken)⟩

/-- **Two conditions that an invariant makes the same**, hold along the same runs. -/
theorem along_congr_of_invariant (invariant : State → Prop) (ok shown : State → Action → Prop)
    (kept : ∀ state action next, invariant state → ok state action →
      step state action = some next → invariant next)
    (agree : ∀ state action, invariant state → (ok state action ↔ shown state action)) :
    ∀ (actions : List Action) {state : State}, invariant state →
      (Along step ok state actions ↔ Along step shown state actions)
  | [], _, _ => Iff.rfl
  | action :: rest, state, here => by
    have rests : ok state action → ∀ next, step state action = some next →
        (Along step ok next rest ↔ Along step shown next rest) := fun allowed next taken =>
      along_congr_of_invariant invariant ok shown kept agree rest
        (kept state action next here allowed taken)
    constructor
    · rintro ⟨allowed, later⟩
      exact ⟨(agree state action here).mp allowed,
        fun next taken => (rests allowed next taken).mp (later next taken)⟩
    · rintro ⟨seen, later⟩
      have allowed := (agree state action here).mpr seen
      exact ⟨allowed, fun next taken => (rests allowed next taken).mpr (later next taken)⟩

/-- A weaker condition holds along the same runs. -/
theorem Along.mono {ok shown : State → Action → Prop}
    (weaker : ∀ state action, ok state action → shown state action) {actions : List Action}
    {state : State} (along : Along step ok state actions) : Along step shown state actions :=
  along_of_invariant step (fun _ => True) ok shown (fun _ _ _ _ _ _ => trivial)
    (fun state action _ => weaker state action) actions trivial along

/-- The states that some run from a start state ends in. -/
def Reachable (start : State → Prop) (state : State) : Prop :=
  ∃ first actions, start first ∧ runActions step first actions = some state

/-- **The invariant rule**: what holds at the start and is kept by every step holds in every
reachable state. -/
theorem invariant_reachable {start invariant : State → Prop}
    (initially : ∀ state, start state → invariant state)
    (kept : ∀ state action next, invariant state → step state action = some next → invariant next)
    {state : State} (reachable : Reachable step start state) : invariant state := by
  obtain ⟨first, actions, started, ran⟩ := reachable
  exact invariant_along step invariant (fun _ _ => True)
    (fun state action next here _ taken => kept state action next here taken) actions
    (initially first started) (along_of_forall step (fun _ _ => trivial) actions first) ran

end Runs

section Simulation

variable {Concrete Abstract Action Label : Type*}
variable (step : Concrete → Action → Option Concrete)
variable (abstractStep : Abstract → Label → Option Abstract)

/-- **Simulation**: when every concrete step either leaves the abstract state alone or is an
abstract step meeting `ok`, a concrete run is an abstract run along `ok`. -/
theorem simulation_run (project : Concrete → Abstract) (ok : Abstract → Label → Prop)
    (simulates : ∀ state action next, step state action = some next →
      project next = project state ∨
        ∃ label, ok (project state) label ∧
          abstractStep (project state) label = some (project next)) :
    ∀ (actions : List Action) {state final : Concrete},
      runActions step state actions = some final →
        ∃ labels, Along abstractStep ok (project state) labels ∧
          runActions abstractStep (project state) labels = some (project final)
  | [], state, final, ran => by
    cases ran
    exact ⟨[], trivial, rfl⟩
  | action :: rest, state, final, ran => by
    obtain ⟨next, taken, ran⟩ := (runActions_cons_some step).mp ran
    obtain ⟨labels, along, tail⟩ := simulation_run project ok simulates rest ran
    rcases simulates state action next taken with same | ⟨label, allowed, visible⟩
    · rw [same] at along tail
      exact ⟨labels, along, tail⟩
    · refine ⟨label :: labels, ⟨allowed, ?_⟩, ?_⟩
      · intro reached here
        rw [visible] at here
        cases here
        exact along
      · rw [runActions_cons, visible]
        exact tail

end Simulation

end Retrovue.Foundation.Transition
