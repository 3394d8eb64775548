/-
**Computations that may raise**, as sequences of `Except` steps.

* `bind_eq_ok`: a sequence returns exactly when its first step returns and the rest does;
* `bind_unit_ok`: checks in sequence all pass;
* `decidableForallOk`: what holds of a returned value can be decided.
-/

namespace Retrovue.Foundation.Fallible

variable {ε α β : Type _}

/-- **A sequence of steps returns** exactly when each of them does. -/
theorem bind_eq_ok {first : Except ε α} {next : α → Except ε β} {b : β} :
    (first >>= next) = .ok b ↔ ∃ a, first = .ok a ∧ next a = .ok b := by
  cases first with
  | error reason =>
    constructor
    · intro raised
      cases raised
    · rintro ⟨a, returned, -⟩
      cases returned
  | ok a =>
    constructor
    · intro rest
      exact ⟨a, rfl, rest⟩
    · rintro ⟨b, returned, rest⟩
      cases returned
      exact rest

/-- Two checks pass exactly when both do. -/
theorem bind_unit_ok {first second : Except ε Unit} :
    (first >>= fun _ => second) = .ok () ↔ first = .ok () ∧ second = .ok () := by
  rw [bind_eq_ok]
  constructor
  · rintro ⟨⟨⟩, passed, rest⟩
    exact ⟨passed, rest⟩
  · rintro ⟨passed, rest⟩
    exact ⟨(), passed, rest⟩

theorem forall_ok_iff {a : α} {p : α → Prop} :
    (∀ b, (Except.ok a : Except ε α) = .ok b → p b) ↔ p a := by
  constructor
  · intro each
    exact each a rfl
  · intro holds b same
    rwa [← Except.ok.inj same]

theorem forall_error {reason : ε} {p : α → Prop} :
    ∀ b, (Except.error reason : Except ε α) = .ok b → p b := by
  intro b returned
  cases returned

/-- What holds of a returned value can be decided by running the computation. -/
instance decidableForallOk (computation : Except ε α) (p : α → Prop) [DecidablePred p] :
    Decidable (∀ a, computation = .ok a → p a) :=
  match computation with
  | .ok a => decidable_of_iff (p a) forall_ok_iff.symm
  | .error _ => .isTrue forall_error

end Retrovue.Foundation.Fallible
