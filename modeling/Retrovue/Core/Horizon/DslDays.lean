/-
**The days that the rolling horizon compiles** (`runtime/dsl_schedule_service.py`).

* `DayRun`: a service after `_build_initial`, with the days passed to the compiler so far;
* `InARow`: those days are consecutive;
* `Continues`: what an extension needs for that, of the UTC date the last block ends on;
* `days_in_a_row_iff`: along every run of extensions the days stay in a row exactly as long as each
  extension continues them.
-/

import Retrovue.Core.Horizon.DslScheduleService
import Retrovue.Core.Horizon.DslSeams

namespace Retrovue.Core.Horizon

open Retrovue.Foundation.Transition

variable {R : Type} (service : DslService R)

/-! ### Runs of extensions -/

section Runs

/-- A service, and the days passed to the compiler, in order. -/
structure DayRun where
  state : HorizonState
  passed : List Int

/-- After `_build_initial` on a service without blocks. -/
def DayRun.start (cache : Int → Option (List ScheduledBlock)) (nowSec : Int) (outside : Outside) :
    DayRun :=
  ⟨buildInitial service ⟨[], [], cache⟩ nowSec outside, initialDays service nowSec⟩

/-- An extension, or the purge of what the database keeps. -/
inductive DayCall
  | extend (nowUtcMs : Int) (outside : Outside)
  | purge (keeps : Int → Bool)

/-- **One call.** -/
def DayRun.step (run : DayRun) : DayCall → Option DayRun
  | .extend nowUtcMs outside =>
    some ⟨maybeExtendHorizon service run.state nowUtcMs outside,
      run.passed ++ (extensionDay run.state nowUtcMs).toList⟩
  | .purge keeps =>
    some { run with state := { run.state with
      cache := fun day => if keeps day then run.state.cache day else none } }

/-- Each day is the one after the day before: none is skipped and none comes twice. -/
def InARow (days : List Int) : Prop := days.IsChain fun day next => next = day + 1

instance (days : List Int) : Decidable (InARow days) :=
  inferInstanceAs (Decidable (List.IsChain _ days))

/-- A call leaves the days in a row. -/
def DayRun.StaysInARow (run : DayRun) (call : DayCall) : Prop :=
  ∀ next, run.step service call = some next → InARow next.passed

/-- The UTC date that a block ends on. -/
def lastDate (last : ScheduledBlock) : Int := utcDate last.endUtcMs

/-- The last block ends soon enough for an extension. -/
def ExtensionDue (state : HorizonState) (nowUtcMs : Int) (last : ScheduledBlock) : Prop :=
  state.blocks.getLast? = some last ∧
    last.endUtcMs - nowUtcMs ≤ recompileThresholdHours * 3600 * 1000

/-- **What continues the days**: where an extension is due, the UTC date that the last block ends on
is at most the day after the last day passed, and that date and the one after it are recorded as
compiled if they were passed before. -/
def DayRun.Continues (run : DayRun) : DayCall → Prop
  | .extend nowUtcMs _ => ∀ last, ExtensionDue run.state nowUtcMs last →
      ∀ lastDay ∈ run.passed.getLast?,
        lastDate last ≤ lastDay + 1 ∧
        (lastDate last ≤ lastDay → lastDate last ∈ run.state.compiledDays) ∧
        (lastDate last + 1 ≤ lastDay →
          lastDate last + 1 ∈ run.state.compiledDays)
  | .purge _ => True

end Runs

/-! ### What a run keeps -/

section Kept

/-- **Between calls**: the days are in a row, and only days passed to the compiler are recorded. -/
structure DayInv (run : DayRun) : Prop where
  inARow : InARow run.passed
  some_ : run.passed ≠ []
  recorded : ∀ day ∈ run.state.compiledDays, day ∈ run.passed

/-- In a row, no day is after the last. -/
theorem InARow.le_last : ∀ {days : List Int}, InARow days → ∀ {last : Int},
    last ∈ days.getLast? → ∀ day ∈ days, day ≤ last
  | [], _, _, _, _, member => by cases member
  | [only], _, last, isLast, day, member => by
    cases isLast
    exact le_of_eq (List.mem_singleton.mp member)
  | first :: next :: rest, row, last, isLast, day, member => by
    obtain ⟨follows, tail⟩ := List.isChain_cons_cons.mp row
    have isLast : last ∈ (next :: rest).getLast? := by
      rwa [List.getLast?_cons_cons] at isLast
    have later := InARow.le_last tail isLast
    rcases List.mem_cons.mp member with rfl | inTail
    · have := later next List.mem_cons_self
      omega
    · exact later day inTail

/-- A day more is in a row exactly when it is the next one. -/
theorem inARow_append_iff {days : List Int} (row : InARow days) {last : Int}
    (isLast : last ∈ days.getLast?) (day : Int) : InARow (days ++ [day]) ↔ day = last + 1 := by
  rw [InARow, List.isChain_append]
  constructor
  · rintro ⟨-, -, meet⟩
    exact meet last isLast day rfl
  · rintro rfl
    refine ⟨row, List.isChain_singleton _, ?_⟩
    intro other isOther day isDay
    rw [Option.mem_def, isLast, Option.some_inj] at isOther
    cases isDay
    rw [isOther]

/-- What an extension compiles, when it is due. -/
theorem extensionDay_due {state : HorizonState} {nowUtcMs : Int} {last : ScheduledBlock}
    (due : ExtensionDue state nowUtcMs last) :
    extensionDay state nowUtcMs =
      if lastDate last ∉ state.compiledDays then some (lastDate last)
      else if lastDate last + 1 ∉ state.compiledDays then
        some (lastDate last + 1)
      else none := by
  rw [extensionDay, due.1]
  dsimp only
  rw [if_neg (not_lt.mpr due.2)]
  rfl

/-- When no extension is due, no day is compiled. -/
theorem extensionDay_notDue {state : HorizonState} {nowUtcMs : Int}
    (notDue : ∀ last, ¬ ExtensionDue state nowUtcMs last) :
    extensionDay state nowUtcMs = none := by
  rw [extensionDay]
  cases lastBlock : state.blocks.getLast? with
  | none => rfl
  | some last =>
    dsimp only
    rw [if_pos]
    exact not_le.mp fun short => notDue last ⟨lastBlock, short⟩

/-- **One extension** leaves the days in a row exactly when it continues them. -/
theorem DayInv.continues_iff {run : DayRun} (inv : DayInv run) (call : DayCall) :
    run.Continues call ↔ run.StaysInARow service call := by
  cases call with
  | purge keeps =>
    refine iff_of_true trivial ?_
    intro next taken
    cases taken
    exact inv.inARow
  | extend nowUtcMs outside =>
    have stays : run.StaysInARow service (.extend nowUtcMs outside) ↔
        InARow (run.passed ++ (extensionDay run.state nowUtcMs).toList) := by
      constructor
      · exact fun all => all _ rfl
      · intro row next taken
        cases taken
        exact row
    rw [stays]
    obtain ⟨lastDay, isLast⟩ : ∃ lastDay, lastDay ∈ run.passed.getLast? :=
      ⟨_, List.getLast?_eq_getLast_of_ne_nil inv.some_⟩
    have notAfter : ∀ day : Int, day ∈ run.state.compiledDays → day ≤ lastDay :=
      fun day held => inv.inARow.le_last isLast day (inv.recorded day held)
    by_cases due : ∃ last, ExtensionDue run.state nowUtcMs last
    · obtain ⟨last, due⟩ := due
      have continues : run.Continues (.extend nowUtcMs outside) ↔
          lastDate last ≤ lastDay + 1 ∧
          (lastDate last ≤ lastDay → lastDate last ∈ run.state.compiledDays) ∧
          (lastDate last + 1 ≤ lastDay →
            lastDate last + 1 ∈ run.state.compiledDays) := by
        constructor
        · exact fun all => all last due lastDay isLast
        · intro here other otherDue day isDay
          have sameBlock : other = last := Option.some.inj (otherDue.1.symm.trans due.1)
          have sameDay : day = lastDay := Option.some.inj (isDay.symm.trans isLast)
          rw [sameBlock, sameDay]
          exact here
      rw [continues, extensionDay_due due]
      generalize lastDate last = date
      by_cases known : date ∈ run.state.compiledDays
      · have early := notAfter date known
        by_cases knownNext : date + 1 ∈ run.state.compiledDays
        · rw [if_neg (not_not.mpr known), if_neg (not_not.mpr knownNext)]
          refine iff_of_true ⟨by omega, fun _ => known, fun _ => knownNext⟩ ?_
          simpa using inv.inARow
        · rw [if_neg (not_not.mpr known), if_pos knownNext, Option.toList_some,
            inARow_append_iff inv.inARow isLast]
          constructor
          · rintro ⟨-, -, next⟩
            have : ¬ date + 1 ≤ lastDay := fun before => knownNext (next before)
            omega
          · intro same
            exact ⟨by omega, fun _ => known, fun before => absurd before (by omega)⟩
      · rw [if_pos known, Option.toList_some, inARow_append_iff inv.inARow isLast]
        constructor
        · rintro ⟨near, recorded, -⟩
          have : ¬ date ≤ lastDay := fun before => known (recorded before)
          omega
        · rintro rfl
          exact ⟨le_refl _, fun before => absurd before (by omega),
            fun before => absurd before (by omega)⟩
    · have none_ : ∀ last, ¬ ExtensionDue run.state nowUtcMs last := not_exists.mp due
      rw [extensionDay_notDue none_]
      refine iff_of_true (fun last here => absurd here (none_ last)) ?_
      simpa using inv.inARow

/-- Extensions record no day but the one they pass. -/
theorem maybeExtendHorizon_compiledDays {state : HorizonState} {nowUtcMs : Int} {outside : Outside}
    {day : Int} (held : day ∈ (maybeExtendHorizon service state nowUtcMs outside).compiledDays) :
    day ∈ state.compiledDays ∨ extensionDay state nowUtcMs = some day := by
  unfold maybeExtendHorizon at held
  cases extension : extensionDay state nowUtcMs with
  | none =>
    rw [extension] at held
    exact .inl held
  | some extended =>
    rw [extension] at held
    dsimp only at held
    cases compiles : compileDay service state outside extended with
    | none =>
      rw [compiles] at held
      exact .inl held
    | some blocks =>
      rw [compiles] at held
      have same : (state.saved outside extended blocks).compiledDays = state.compiledDays := by
        unfold HorizonState.saved
        split <;> rfl
      have held : day ∈ ((state.saved outside extended blocks).extended extended
          blocks).compiledDays := held
      unfold HorizonState.extended at held
      split at held
      · rw [same] at held
        exact .inl held
      · rcases List.mem_append.mp held with before | here
        · rw [same] at before
          exact .inl before
        · exact .inr (congrArg some (List.mem_singleton.mp here).symm)

/-- **The step lemma.** -/
theorem step_dayInv (run : DayRun) (call : DayCall) (next : DayRun) (inv : DayInv run)
    (continues : run.Continues call) (taken : run.step service call = some next) : DayInv next := by
  have row := (inv.continues_iff service call).mp continues next taken
  cases call with
  | purge keeps =>
    cases taken
    exact ⟨inv.inARow, inv.some_, inv.recorded⟩
  | extend nowUtcMs outside =>
    cases taken
    refine ⟨row, fun none_ => inv.some_ (List.append_eq_nil_iff.mp none_).1, ?_⟩
    intro day held
    rcases maybeExtendHorizon_compiledDays service held with before | here
    · exact List.mem_append_left _ (inv.recorded day before)
    · refine List.mem_append_right _ ?_
      rw [here]
      exact List.mem_singleton_self day

/-- The initial days record no other day. -/
theorem foldl_initialDay_compiledDays (outside : Outside) : ∀ (days : List Int)
    (building : HorizonState) (day : Int),
    day ∈ (days.foldl (initialDay service outside) building).compiledDays →
      day ∈ building.compiledDays ∨ day ∈ days
  | [], _, _, held => .inl held
  | first :: rest, building, day, held => by
    rcases foldl_initialDay_compiledDays outside rest _ day held with before | later
    · unfold initialDay at before
      split at before
      · exact .inl before
      · dsimp only at before
        split at before
        · exact .inl before
        · rcases List.mem_append.mp before with old | here
          · exact .inl old
          · exact .inr (List.mem_cons.mpr (.inl (List.mem_singleton.mp here)))
    · exact .inr (List.mem_cons_of_mem _ later)

/-- `_build_initial` passes three days in a row. -/
theorem dayInv_start (cache : Int → Option (List ScheduledBlock)) (nowSec : Int)
    (outside : Outside) : DayInv (DayRun.start service cache nowSec outside) where
  inARow := by
    show InARow [startDate service nowSec + (0 : Nat), startDate service nowSec + (1 : Nat),
      startDate service nowSec + (2 : Nat)]
    refine .cons_cons ?_ (.cons_cons ?_ (.singleton _))
    · push_cast
      ring
    · push_cast
      ring
  some_ := by
    show [_, _, _] ≠ []
    exact List.cons_ne_nil _ _
  recorded day held := by
    rcases foldl_initialDay_compiledDays service outside _ _ day held with none_ | here
    · cases none_
    · exact here

/-- **The days in a row**: along every run of extensions after `_build_initial`, every call leaves
the days passed to the compiler in a row exactly as long as every call continues them. -/
theorem days_in_a_row_iff (cache : Int → Option (List ScheduledBlock)) (nowSec : Int)
    (outside : Outside) (calls : List DayCall) :
    Along (DayRun.step service) DayRun.Continues (DayRun.start service cache nowSec outside) calls ↔
      Along (DayRun.step service) (DayRun.StaysInARow service)
        (DayRun.start service cache nowSec outside) calls :=
  along_congr_of_invariant (DayRun.step service) DayInv DayRun.Continues
    (DayRun.StaysInARow service) (step_dayInv service)
    (fun _ call inv => inv.continues_iff service call) calls
    (dayInv_start service cache nowSec outside)

end Kept

/-! ### A block past the next day -/

section Skipped

/-- **A day is skipped**: with programmes of 23 hours the third day's last one ends on the second day
after it, and that day is compiled next. -/
theorem overrun_skips_day :
    ¬ Along (DayRun.step (loopService 82800)) (DayRun.StaysInARow (loopService 82800))
      (DayRun.start (loopService 82800) (fun _ => none) newYearNoon fair)
      [.extend ((newYearNoon + 84 * 3600) * 1000) fair] := by
  rintro ⟨stays, -⟩
  exact absurd (stays _ rfl) (by decide +kernel)

end Skipped

end Retrovue.Core.Horizon
