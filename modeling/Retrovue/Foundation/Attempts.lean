/-
**Computations that change a state and may raise**: what was changed before the exception stays.

* `Attempt`: such a computation; `catching`, `ensuring`: `except` and `finally`;
* `After`: a condition on what it returns or raises, and on the state it leaves;
* `after_bind`, `after_catching`, `after_ensuring`: one rule for each way to put computations together;
* `after_foldlM`: the rule for a loop with an accumulator.
-/

import Mathlib

namespace Retrovue.Foundation.Attempts

variable {ε State α β : Type}

/-- **A computation that may raise**: what it returns, or the exception, and the state it leaves. -/
def Attempt (ε State α : Type) : Type := State → Except ε α × State

namespace Attempt

/-- One computation, and one that depends on what it returned. -/
def andThen (first : Attempt ε State β) (next : β → Attempt ε State α) : Attempt ε State α :=
  fun state =>
    match first state with
    | (.ok b, left) => next b left
    | (.error e, left) => (.error e, left)

instance : Monad (Attempt ε State) where
  pure a := fun state => (.ok a, state)
  bind := andThen

/-- An exception. -/
def raise (e : ε) : Attempt ε State α := fun state => (.error e, state)

/-- A look at the state. -/
def look (read : State → α) : Attempt ε State α := fun state => (.ok (read state), state)

/-- A change of the state. -/
def change (update : State → State) : Attempt ε State Unit := fun state => (.ok (), update state)

/-- `try: body except Exception as e: handler`. -/
def catching (body : Attempt ε State α) (handler : ε → Attempt ε State α) : Attempt ε State α :=
  fun state =>
    match body state with
    | (.ok a, left) => (.ok a, left)
    | (.error e, left) => handler e left

/-- `try: body finally: cleanup`. -/
def ensuring (body : Attempt ε State α) (cleanup : Attempt ε State Unit) : Attempt ε State α :=
  fun state =>
    match body state with
    | (result, left) =>
      match cleanup left with
      | (.ok _, clean) => (result, clean)
      | (.error e, clean) => (.error e, clean)

end Attempt

open Attempt

/-! ### What a computation leaves -/

section Rules

/-- **After the computation** `returns` holds of what it returned and of the state, or `raises` of the
exception and of the state. -/
def After (body : Attempt ε State α) (returns : α → State → Prop) (raises : ε → State → Prop)
    (state : State) : Prop :=
  (∀ a, (body state).1 = .ok a → returns a (body state).2) ∧
    ∀ e, (body state).1 = .error e → raises e (body state).2

variable {returns : α → State → Prop} {raises : ε → State → Prop} {state : State}

theorem after_pure {a : α} :
    After (pure a : Attempt ε State α) returns raises state ↔ returns a state := by
  constructor
  · intro after
    exact after.1 a rfl
  · intro holds
    refine ⟨fun b same => ?_, nofun⟩
    rw [← Except.ok.inj same]
    exact holds

theorem after_raise {e : ε} : After (raise e) returns raises state ↔ raises e state := by
  constructor
  · intro after
    exact after.2 e rfl
  · intro holds
    refine ⟨nofun, fun d same => ?_⟩
    rw [← Except.error.inj same]
    exact holds

theorem after_look {read : State → α} :
    After (look read) returns raises state ↔ returns (read state) state := by
  constructor
  · intro after
    exact after.1 _ rfl
  · intro holds
    refine ⟨fun b same => ?_, nofun⟩
    rw [← Except.ok.inj same]
    exact holds

theorem after_change {update : State → State} {returns : Unit → State → Prop} :
    After (change update) returns raises state ↔ returns () (update state) :=
  ⟨fun after => after.1 () rfl, fun holds => ⟨fun _ _ => holds, nofun⟩⟩

/-- **One computation after another.** -/
theorem after_bind {first : Attempt ε State β} {next : β → Attempt ε State α} :
    After (first >>= next) returns raises state ↔
      After first (fun b => After (next b) returns raises) raises state := by
  have sequence : (first >>= next) state = andThen first next state := rfl
  unfold After
  rw [sequence]
  unfold andThen
  rcases first state with ⟨result, left⟩
  cases result with
  | error e => simp
  | ok b => simp

theorem after_catching {body : Attempt ε State α} {handler : ε → Attempt ε State α} :
    After (catching body handler) returns raises state ↔
      After body returns (fun e => After (handler e) returns raises) state := by
  unfold After catching
  rcases body state with ⟨result, left⟩
  cases result with
  | error e => simp
  | ok a => simp

theorem after_ensuring {body : Attempt ε State α} {cleanup : Attempt ε State Unit} :
    After (ensuring body cleanup) returns raises state ↔
      After body (fun a => After cleanup (fun _ => returns a) raises)
        (fun e => After cleanup (fun _ => raises e) raises) state := by
  unfold After ensuring
  rcases body state with ⟨result, left⟩
  dsimp only
  rcases cleanup left with ⟨done, clean⟩
  cases result with
  | error e => cases done <;> simp
  | ok a => cases done <;> simp

/-- What follows from the conditions holds as well. -/
theorem After.mono {body : Attempt ε State α} {returns' : α → State → Prop}
    {raises' : ε → State → Prop} (after : After body returns raises state)
    (returned : ∀ a left, returns a left → returns' a left)
    (raised : ∀ e left, raises e left → raises' e left) : After body returns' raises' state :=
  ⟨fun a same => returned a _ (after.1 a same), fun e same => raised e _ (after.2 e same)⟩

/-- Both conditions hold after a computation when each does. -/
theorem After.and {body : Attempt ε State α} {returns' : α → State → Prop}
    {raises' : ε → State → Prop} (after : After body returns raises state)
    (after' : After body returns' raises' state) :
    After body (fun a left => returns a left ∧ returns' a left)
      (fun e left => raises e left ∧ raises' e left) state :=
  ⟨fun a same => ⟨after.1 a same, after'.1 a same⟩, fun e same => ⟨after.2 e same, after'.2 e same⟩⟩

/-- What a computation returns or raises is what it does. -/
theorem after_self {body : Attempt ε State α} :
    After body (fun a left => body state = (.ok a, left)) (fun e left => body state = (.error e, left))
      state :=
  ⟨fun _ same => Prod.ext same rfl, fun _ same => Prod.ext same rfl⟩

/-- **The rule for loops**: what holds of the items to come, of the accumulator and of the state before
the loop, and what each step keeps, holds behind the loop of no items. -/
theorem after_foldlM {acc : Type} {step : acc → β → Attempt ε State acc}
    (invariant : List β → acc → State → Prop) :
    ∀ {items : List β} {start : acc} {state : State},
      (∀ item rest, item ∈ items → ∀ current left, invariant (item :: rest) current left →
        After (step current item) (invariant rest) raises left) →
      invariant items start state → After (items.foldlM step start) (invariant []) raises state
  | [], _, _, _, here => after_pure.mpr here
  | item :: rest, start, state, steps, here => by
    rw [List.foldlM_cons, after_bind]
    have first := steps item rest List.mem_cons_self start state here
    exact first.mono
      (fun current left holds => after_foldlM invariant
        (fun item rest member => steps item rest (List.mem_cons_of_mem _ member)) holds)
      fun _ _ raised => raised

/-- The state that a computation leaves. -/
theorem After.left {holds : State → Prop} {body : Attempt ε State α}
    (after : After body (fun _ => holds) (fun _ => holds) state) : holds (body state).2 := by
  cases result : (body state).1 with
  | error e => exact after.2 e result
  | ok a => exact after.1 a result

end Rules

end Retrovue.Foundation.Attempts
