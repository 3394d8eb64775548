/-
**Assets and the session that holds them** (`domain/entities.py`, `infra/db.py`).

* `AssetState`, `validateStateTransition`: the lifecycle and its check;
* `Asset`: a row, with the duration that was probed since the asset last left `ready`;
* `Session`: the rows as the session has them, as the transaction has them and as they are committed;
* `flush`, `commit`, `rollback`: moving rows from one to the next, or losing the transaction;
* `Choice`: what the rest of the world does, one choice for each time that it is asked;
* `after_query`, `after_flush`, `after_commit`: what each of them leaves, in a whole session and in a broken
  one.
-/

import Retrovue.Foundation.Attempts

namespace Retrovue.Core.Assets

open Retrovue.Foundation.Attempts Attempt

/-! ### The lifecycle -/

section States

/-- The values of `asset_state`, and any other text. -/
inductive AssetState where
  | new
  | enriching
  | ready
  | retired
  | other (text : String)
  deriving DecidableEq, Repr

namespace AssetState

def name : AssetState → String
  | new => "new"
  | enriching => "enriching"
  | ready => "ready"
  | retired => "retired"
  | other text => text

/-- `_LEGAL_STATE_TRANSITIONS`. -/
def legalStateTransitions : AssetState → List AssetState
  | new => [enriching, retired]
  | enriching => [ready, new, retired]
  | ready => [retired]
  | retired => []
  | other _ => []

/-- The column takes the value. -/
def known : AssetState → Bool
  | other _ => false
  | _ => true

end AssetState

/-- What is raised. -/
inductive Fault where
  | value (message : String)
  | database
  | other
  deriving DecidableEq

abbrev AssetId := Nat

abbrev CollectionId := Nat

/-- **An asset.** `probedMs` is the last positive duration that was probed since the asset last left
`ready`; the code has no such column. -/
structure Asset where
  collection : CollectionId
  uri : String
  state : AssetState
  approvedForBroadcast : Bool := false
  durationMs : Option Int := none
  probedMs : Option Int := none
  deriving DecidableEq

namespace Asset

/-- `asset.state = state`. -/
def setState (state : AssetState) (asset : Asset) : Asset :=
  { asset with
    state := state
    probedMs := if asset.state = .ready ∧ state ≠ .ready then none else asset.probedMs }

/-- `asset.duration_ms = probed_data["duration_ms"]`. -/
def setDuration (durationMs : Int) (asset : Asset) : Asset :=
  { asset with
    durationMs := some durationMs
    probedMs := if 0 < durationMs then some durationMs else asset.probedMs }

/-- `asset.duration_ms and asset.duration_ms > 0`. -/
def hasDuration (asset : Asset) : Bool := asset.durationMs.any (0 < ·)

/-- The reset of an asset that is probed again. -/
def reset (asset : Asset) : Asset :=
  { asset.setState .new with approvedForBroadcast := false, durationMs := none }

/-- The row is one that the table takes: the state is known, and `chk_approved_implies_ready`. -/
def fits (asset : Asset) : Bool :=
  asset.state.known && (!asset.approvedForBroadcast || asset.state = .ready)

end Asset

end States

/-! ### The session -/

section Sessions

/-- **What the rest of the world does when it is asked**: a query, a resolver, an enricher or a registry
returns or raises, a path is not found, an enricher probes. -/
inductive Choice where
  | goesOn
  | fails
  | missing
  | probes (durationMs : Option Int)
  deriving DecidableEq

/-- **A session**: its assets, their rows as they are committed, as its transaction has them, and as the
session has them. A broken session has lost its transaction and was not rolled back yet. The script is
what the world will do. -/
structure Session where
  table : List AssetId
  committed : AssetId → Asset
  flushed : AssetId → Asset
  rows : AssetId → Asset
  broken : Bool := false
  script : List Choice := []

abbrev Db (α : Type) := Attempt Fault Session α

/-- Everything in the session is taken by the table. -/
def Session.fits (s : Session) : Bool := s.table.all fun id => (s.rows id).fits

/-- The next choice of the world. -/
def ask : Db Choice := do
  let choice ← look fun s => s.script.headD .goesOn
  change fun s => { s with script := s.script.tail }
  return choice

/-- Code outside the model, which may raise. -/
def external : Db Unit := do
  let choice ← ask
  if choice = .fails then raise .other else return ()

/-- `PendingRollbackError` in a broken session, where every row has to be read again. -/
def active : Db Unit := do
  let broken ← look Session.broken
  if broken then raise .database else return ()

/-- A query. -/
def query : Db Unit := do
  active
  external

/-- An asset with its attributes. -/
def row (id : AssetId) : Db Asset := do
  active
  look fun s => s.rows id

/-- An attribute is assigned. In a broken session the assignment is discarded with the transaction. -/
def assign (id : AssetId) (update : Asset → Asset) : Db Unit :=
  change fun s =>
    if s.broken then s else { s with rows := Function.update s.rows id (update (s.rows id)) }

/-- The rows as they were committed. -/
def Session.reverted (s : Session) (broken : Bool) : Session :=
  { s with rows := s.committed, flushed := s.committed, broken := broken }

/-- The transaction is lost: every row is as it was committed. -/
def lose : Db Unit := do
  change fun s => s.reverted true
  raise .database

/-- **`db.flush()`.** -/
def flush : Db Unit := do
  active
  let choice ← ask
  let fits ← look Session.fits
  if choice = .fails ∨ fits = false then lose else change fun s => { s with flushed := s.rows }

/-- **`db.commit()`.** -/
def commit : Db Unit := do
  flush
  let choice ← ask
  if choice = .fails then lose else change fun s => { s with committed := s.flushed }

/-- **`db.rollback()`.** -/
def rollback : Db Unit := change fun s => s.reverted false

/-- `validate_state_transition`. -/
def validateStateTransition (currentState newState : AssetState) : Db Unit :=
  if currentState = newState then return ()
  else if newState ∈ currentState.legalStateTransitions then return ()
  else raise (.value ("INV-ASSET-STATE-MACHINE-001-VIOLATED: illegal state transition '" ++
    currentState.name ++ "' -> '" ++ newState.name ++ "'"))

end Sessions

/-! ### What each of them leaves -/

section Specs

variable {s : Session} {id : AssetId}

theorem after_ask {returns : Choice → Session → Prop} {raises : Fault → Session → Prop}
    (returned : ∀ choice script, returns choice { s with script := script }) :
    After ask returns raises s := by
  unfold ask
  rw [after_bind, after_look, after_bind, after_change, after_pure]
  exact returned _ _

theorem after_external {returns : Unit → Session → Prop} {raises : Fault → Session → Prop}
    (returned : ∀ script, returns () { s with script := script })
    (raised : ∀ script, raises .other { s with script := script }) :
    After external returns raises s := by
  unfold external
  rw [after_bind]
  refine after_ask fun choice script => ?_
  split_ifs
  · exact after_raise.mpr (raised script)
  · exact after_pure.mpr (returned script)

theorem after_active {returns : Unit → Session → Prop} {raises : Fault → Session → Prop} :
    After active returns raises s ↔
      if s.broken = true then raises .database s else returns () s := by
  unfold active
  rw [after_bind, after_look]
  split_ifs
  · exact after_raise
  · exact after_pure

theorem after_query {returns : Unit → Session → Prop} {raises : Fault → Session → Prop}
    (returned : s.broken = false → ∀ script, returns () { s with script := script })
    (raised : ∀ e script, raises e { s with script := script }) : After query returns raises s := by
  unfold query
  rw [after_bind, after_active]
  cases broken : s.broken with
  | true => exact raised .database s.script
  | false => exact after_external (returned broken) (raised .other)

/-- A query that returns has taken one choice. -/
theorem after_query_tail {returns : Unit → Session → Prop} {raises : Fault → Session → Prop}
    (returned : s.broken = false → returns () { s with script := s.script.tail })
    (raised : ∀ e script, raises e { s with script := script }) : After query returns raises s := by
  unfold query external ask
  rw [after_bind, after_active]
  cases broken : s.broken with
  | true => exact raised .database s.script
  | false =>
    rw [if_neg Bool.false_ne_true, after_bind, after_bind, after_look, after_bind, after_change,
      after_pure]
    split_ifs
    · exact after_raise.mpr (raised .other s.script.tail)
    · exact after_pure.mpr (returned broken)

theorem after_row {returns : Asset → Session → Prop} {raises : Fault → Session → Prop} :
    After (row id) returns raises s ↔
      if s.broken = true then raises .database s else returns (s.rows id) s := by
  unfold row
  rw [after_bind, after_active]
  split_ifs
  · exact Iff.rfl
  · exact after_look

theorem after_assign {returns : Unit → Session → Prop} {raises : Fault → Session → Prop}
    {update : Asset → Asset} :
    After (assign id update) returns raises s ↔
      returns () (if s.broken = true then s
        else { s with rows := Function.update s.rows id (update (s.rows id)) }) := after_change

theorem after_lose {returns : Unit → Session → Prop} {raises : Fault → Session → Prop} :
    After lose returns raises s ↔ raises .database (s.reverted true) := by
  unfold lose
  rw [after_bind, after_change, after_raise]

theorem after_flush {returns : Unit → Session → Prop} {raises : Fault → Session → Prop}
    (returned : s.broken = false →
      ∀ script, returns () { s with flushed := s.rows, script := script })
    (raised : s.broken = false → ∀ script, raises .database { s.reverted true with script := script })
    (refused : s.broken = true → raises .database s) : After flush returns raises s := by
  unfold flush
  rw [after_bind, after_active]
  cases broken : s.broken with
  | true => exact refused broken
  | false =>
    rw [if_neg Bool.false_ne_true, after_bind]
    refine after_ask fun choice script => ?_
    rw [after_bind, after_look]
    split_ifs
    · exact after_lose.mpr (raised broken script)
    · exact after_change.mpr (returned broken script)

theorem after_commit {returns : Unit → Session → Prop} {raises : Fault → Session → Prop}
    (returned : s.broken = false →
      ∀ script, returns () { s with flushed := s.rows, committed := s.rows, script := script })
    (raised : s.broken = false → ∀ script, raises .database { s.reverted true with script := script })
    (refused : s.broken = true → raises .database s) : After commit returns raises s := by
  unfold commit
  rw [after_bind]
  refine after_flush (fun whole script => ?_) raised refused
  rw [after_bind]
  refine after_ask fun choice script => ?_
  split_ifs
  · exact after_lose.mpr (raised whole script)
  · exact after_change.mpr (returned whole script)

theorem after_validate {currentState newState : AssetState} {returns : Unit → Session → Prop}
    {raises : Fault → Session → Prop} :
    After (validateStateTransition currentState newState) returns raises s ↔
      if currentState = newState ∨ newState ∈ currentState.legalStateTransitions then returns () s
      else raises (.value ("INV-ASSET-STATE-MACHINE-001-VIOLATED: illegal state transition '" ++
        currentState.name ++ "' -> '" ++ newState.name ++ "'")) s := by
  unfold validateStateTransition
  by_cases same : currentState = newState
  · rw [if_pos same, if_pos (Or.inl same), after_pure]
  · rw [if_neg same]
    by_cases legal : newState ∈ currentState.legalStateTransitions
    · rw [if_pos legal, if_pos (Or.inr legal), after_pure]
    · rw [if_neg legal, if_neg (not_or.mpr ⟨same, legal⟩), after_raise]

end Specs

end Retrovue.Core.Assets
