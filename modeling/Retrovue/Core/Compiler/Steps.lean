/-
**A day as steps.**

Both formats of a schedule come down to a list of steps, each one block definition; the steps are
compiled one after the other, and what one carries to the next are the counters and the used movies.

* `daySteps`: the steps of a schedule on a day;
* `compileSteps`: the steps through their compilers;
* `compileBlocks_steps`: the compiled blocks of a day are those of its steps;
* `compile_cases`: what one step does;
* `compiledBlocks_rel`: what each step does, and carries over one list after the other, a day does.
-/

import Mathlib
import Retrovue.Core.Compiler.Schedule
import Retrovue.Foundation.Fallible

namespace Retrovue.Core.Compiler

open Retrovue.Core.Schedule Retrovue.Foundation.Fallible

/-! ### The steps of a day -/

section Steps

/-- A step of a day: a block definition of a list, or an entry of the older format that is a sitcom
block by itself. -/
inductive DayStep
  | definition (layered : Bool) (blockDef : Value)
  | sitcom (entry : Value)

/-- A block definition of movies, and whether the used movies go from one to the next. -/
inductive MovieBlock
  | marathon (layered : Bool) (blockDef : Value)
  | movie (blockDef : Value)

/-- The movies that a step lays out: `block` goes before the other keys. -/
def DayStep.movies : DayStep → Option MovieBlock
  | .definition layered (.dict entries) =>
    if Dict.has entries "block" then none
    else if Dict.has entries "movie_marathon" then some (.marathon layered (.dict entries))
    else if Dict.has entries "movie_block" || Dict.has entries "movie_selector" then
      some (.movie (.dict entries))
    else none
  | _ => none

/-- The steps of an entry of the older format. -/
def entrySteps : Value → List DayStep
  | .dict entries => [.sitcom (.dict entries)]
  | .list items => items.map (.definition false)
  | _ => []

/-- The steps of a day: the layers for its date where the schedule has a key of the layered format,
else entry by entry. -/
def daySteps (schedule : Dict) (broadcastDay : String) : Compile (List DayStep) :=
  if (schedule.any fun entry => validScheduleKeys.contains entry.1) && broadcastDay ≠ "" then do
    let target ← fromIsoformat broadcastDay
    let resolved ← resolveDaySchedule schedule target
    .ok (resolved.map (.definition true))
  else .ok ((schedule.map Prod.snd).flatMap entrySteps)

variable (rng : RandomSource) (lookup : Lookup) (gridMinutes : Nat) (broadcastDay : String)
  (tz : Option Zone) (seed : Option Int)

/-- One step through its compiler. -/
def DayStep.compile (carried : Carried) : DayStep → Compile (List ProgramBlockOutput × Carried)
  | .definition layered blockDef =>
    compileBlockDef rng lookup gridMinutes broadcastDay tz seed layered blockDef carried
  | .sitcom entry => do
    let (blocks, counters) ←
      compileSitcomBlock rng lookup gridMinutes entry broadcastDay tz seed carried.counters
    .ok (blocks, { carried with counters := counters })

/-- The steps one after the other. -/
def compileSteps : List DayStep → Carried → Compile (List ProgramBlockOutput × Carried)
  | [], carried => .ok ([], carried)
  | step :: rest, carried => do
    let (blocks, carried) ← step.compile rng lookup gridMinutes broadcastDay tz seed carried
    let (others, carried) ← compileSteps rest carried
    .ok (blocks ++ others, carried)

end Steps

/-! ### The compilers, step by step -/

section Equations

variable {rng : RandomSource} {lookup : Lookup} {gridMinutes : Nat} {broadcastDay : String}
  {tz : Option Zone} {seed : Option Int}

theorem compileSteps_append (first second : List DayStep) (carried : Carried) :
    compileSteps rng lookup gridMinutes broadcastDay tz seed (first ++ second) carried =
      (do
        let (blocks, carried) ←
          compileSteps rng lookup gridMinutes broadcastDay tz seed first carried
        let (others, carried) ←
          compileSteps rng lookup gridMinutes broadcastDay tz seed second carried
        .ok (blocks ++ others, carried)) := by
  induction first generalizing carried with
  | nil =>
    show compileSteps rng lookup gridMinutes broadcastDay tz seed second carried =
      (compileSteps rng lookup gridMinutes broadcastDay tz seed second carried >>= _)
    cases compileSteps rng lookup gridMinutes broadcastDay tz seed second carried <;> rfl
  | cons step rest ih =>
    rw [List.cons_append, compileSteps, compileSteps]
    cases step.compile rng lookup gridMinutes broadcastDay tz seed carried with
    | error reason => rfl
    | ok out =>
      show (compileSteps _ _ _ _ _ _ (rest ++ second) out.2 >>= _) = _
      rw [ih]
      show _ = ((compileSteps rng lookup gridMinutes broadcastDay tz seed rest out.2 >>= _) >>= _)
      cases compileSteps rng lookup gridMinutes broadcastDay tz seed rest out.2 with
      | error reason => rfl
      | ok middle =>
        show ((compileSteps rng lookup gridMinutes broadcastDay tz seed second middle.2 >>= _) >>= _) =
          (compileSteps rng lookup gridMinutes broadcastDay tz seed second middle.2 >>= _)
        cases compileSteps rng lookup gridMinutes broadcastDay tz seed second middle.2 with
        | error reason => rfl
        | ok last =>
          show Except.ok (out.1 ++ (middle.1 ++ last.1), last.2) = Except.ok _
          rw [← List.append_assoc]

theorem compileBlockDefs_steps (layered : Bool) (blockDefs : List Value) (carried : Carried) :
    compileBlockDefs rng lookup gridMinutes broadcastDay tz seed layered blockDefs carried =
      compileSteps rng lookup gridMinutes broadcastDay tz seed (blockDefs.map (.definition layered))
        carried := by
  induction blockDefs generalizing carried with
  | nil => rfl
  | cons blockDef rest ih =>
    rw [compileBlockDefs, List.map_cons, compileSteps]
    simp only [ih]
    rfl

theorem compileEntry_steps (entry : Value) (carried : Carried) :
    compileEntry rng lookup gridMinutes broadcastDay tz seed entry carried =
      compileSteps rng lookup gridMinutes broadcastDay tz seed (entrySteps entry) carried := by
  cases entry with
  | dict entries =>
    show (compileSitcomBlock rng lookup gridMinutes (.dict entries) broadcastDay tz seed
      carried.counters >>= _) = ((compileSitcomBlock rng lookup gridMinutes (.dict entries)
      broadcastDay tz seed carried.counters >>= _) >>= _)
    cases compileSitcomBlock rng lookup gridMinutes (.dict entries) broadcastDay tz seed
        carried.counters with
    | error reason => rfl
    | ok out =>
      show Except.ok (out.1, _) = Except.ok (out.1 ++ [], _)
      rw [List.append_nil]
  | list items => exact compileBlockDefs_steps false items carried
  | null | bool _ | int _ | str _ | date _ => rfl

theorem compileEntries_steps (entries : List Value) (carried : Carried) :
    compileEntries rng lookup gridMinutes broadcastDay tz seed entries carried =
      compileSteps rng lookup gridMinutes broadcastDay tz seed (entries.flatMap entrySteps)
        carried := by
  induction entries generalizing carried with
  | nil => rfl
  | cons entry rest ih =>
    rw [compileEntries, List.flatMap_cons, compileSteps_append, compileEntry_steps]
    simp only [ih]

/-- **The compiled blocks of a day are those of its steps.** -/
theorem compileBlocks_steps (schedule : Dict) (counters : Counters) :
    compileBlocks rng lookup gridMinutes broadcastDay tz seed schedule counters =
      (do
        let steps ← daySteps schedule broadcastDay
        let (blocks, carried) ←
          compileSteps rng lookup gridMinutes broadcastDay tz seed steps ⟨counters, []⟩
        .ok (blocks, carried.counters)) := by
  unfold compileBlocks daySteps
  dsimp only
  by_cases layered : ((schedule.any fun entry => validScheduleKeys.contains entry.1) &&
      decide (broadcastDay ≠ "")) = true
  · rw [if_pos layered, if_pos layered]
    cases fromIsoformat broadcastDay with
    | error reason => rfl
    | ok target =>
      show (resolveDaySchedule schedule target >>= _) = ((resolveDaySchedule schedule target >>= _) >>= _)
      cases resolveDaySchedule schedule target with
      | error reason => rfl
      | ok resolved =>
        show (compileBlockDefs _ _ _ _ _ _ true resolved _ >>= _) = _
        rw [compileBlockDefs_steps]
        rfl
  · rw [if_neg layered, if_neg layered]
    show (compileEntries _ _ _ _ _ _ (schedule.map Prod.snd) _ >>= _) = _
    rw [compileEntries_steps]
    rfl

end Equations

/-! ### What a step does -/

section Cases

variable {rng : RandomSource} {lookup : Lookup} {gridMinutes : Nat} {broadcastDay : String}
  {tz : Option Zone} {seed : Option Int} {step : DayStep} {carried : Carried}
  {out : List ProgramBlockOutput × Carried}

/-- What one step does: it goes to one compiler, which takes the counters or the used movies, or is
skipped. -/
inductive StepCompiles (step : DayStep) (carried : Carried)
    (out : List ProgramBlockOutput × Carried) : Prop
  | episodes (blockDef : Value) (none_ : step.movies = none)
      (compiles : compileEpisodeBlock rng lookup gridMinutes blockDef broadcastDay tz seed
        carried.counters = .ok (out.1, out.2.counters))
      (leaves : out.2.usedMovieIds = carried.usedMovieIds)
  | sitcom (blockDef : Value) (none_ : step.movies = none)
      (compiles : compileSitcomBlock rng lookup gridMinutes blockDef broadcastDay tz seed
        carried.counters = .ok (out.1, out.2.counters))
      (leaves : out.2.usedMovieIds = carried.usedMovieIds)
  | marathon (layered : Bool) (blockDef : Value) (usedIds : List String)
      (isMarathon : step.movies = some (.marathon layered blockDef))
      (compiles : compileMovieMarathon rng lookup gridMinutes blockDef broadcastDay tz seed
        (if layered then carried.usedMovieIds else []) = .ok (out.1, usedIds))
      (counters : out.2.counters = carried.counters)
      (leaves : out.2.usedMovieIds = if layered then usedIds else carried.usedMovieIds)
  | movie (blockDef : Value) (isMovie : step.movies = some (.movie blockDef))
      (compiles : compileMovieBlock rng lookup gridMinutes blockDef broadcastDay tz seed = .ok out.1)
      (leaves : out.2 = carried)
  | skipped (none_ : step.movies = none) (leaves : out = ([], carried))

/-- **Every step is one of these.** -/
theorem compile_cases
    (compiled : step.compile rng lookup gridMinutes broadcastDay tz seed carried = .ok out) :
    @StepCompiles rng lookup gridMinutes broadcastDay tz seed step carried out := by
  cases step with
  | sitcom entry =>
    obtain ⟨_, compiles, compiled⟩ := bind_eq_ok.mp compiled
    obtain rfl := Except.ok.inj compiled
    exact .sitcom entry rfl compiles rfl
  | definition layered blockDef =>
    cases blockDef with
    | dict entries =>
      unfold DayStep.compile compileBlockDef at compiled
      dsimp only at compiled
      by_cases isBlock : Dict.has entries "block" = true
      · rw [if_pos isBlock] at compiled
        obtain ⟨_, compiles, compiled⟩ := bind_eq_ok.mp compiled
        obtain rfl := Except.ok.inj compiled
        refine .episodes (.dict entries) ?_ compiles rfl
        rw [DayStep.movies, if_pos isBlock]
      · rw [if_neg isBlock] at compiled
        by_cases isMarathon : Dict.has entries "movie_marathon" = true
        · rw [if_pos isMarathon] at compiled
          obtain ⟨⟨_, usedIds⟩, compiles, compiled⟩ := bind_eq_ok.mp compiled
          obtain rfl := Except.ok.inj compiled
          refine .marathon layered (.dict entries) usedIds ?_ compiles ?_ ?_
          · rw [DayStep.movies, if_neg isBlock, if_pos isMarathon]
          · cases layered <;> rfl
          · cases layered <;> rfl
        · rw [if_neg isMarathon] at compiled
          by_cases isMovie : (Dict.has entries "movie_block" || Dict.has entries "movie_selector") = true
          · rw [if_pos isMovie] at compiled
            obtain ⟨_, compiles, compiled⟩ := bind_eq_ok.mp compiled
            obtain rfl := Except.ok.inj compiled
            refine .movie (.dict entries) ?_ compiles rfl
            rw [DayStep.movies, if_neg isBlock, if_neg isMarathon, if_pos isMovie]
          · rw [if_neg isMovie] at compiled
            obtain ⟨_, compiles, compiled⟩ := bind_eq_ok.mp compiled
            obtain rfl := Except.ok.inj compiled
            refine .sitcom (.dict entries) ?_ compiles rfl
            rw [DayStep.movies, if_neg isBlock, if_neg isMarathon, if_neg isMovie]
    | null | bool _ | int _ | str _ | date _ | list _ =>
      obtain rfl := Except.ok.inj compiled
      exact .skipped rfl rfl

end Cases

/-! ### A rule for whole days -/

section Rule

variable {rng : RandomSource} {lookup : Lookup} {gridMinutes : Nat}
  {P : Carried → List ProgramBlockOutput → Carried → Prop}

/-- **What each step does, a list of steps does**, where it carries over one list after the other. -/
theorem compileSteps_rel {broadcastDay : String} {tz : Option Zone} {seed : Option Int}
    (nil : ∀ carried, P carried [] carried)
    (append : ∀ carried between after blocks others, P carried blocks between →
      P between others after → P carried (blocks ++ others) after)
    (step : ∀ (step : DayStep) carried out,
      step.compile rng lookup gridMinutes broadcastDay tz seed carried = .ok out →
        P carried out.1 out.2)
    {steps : List DayStep} {carried : Carried} {out : List ProgramBlockOutput × Carried}
    (returns : compileSteps rng lookup gridMinutes broadcastDay tz seed steps carried = .ok out) :
    P carried out.1 out.2 := by
  induction steps generalizing carried out with
  | nil =>
    obtain rfl := Except.ok.inj returns
    exact nil carried
  | cons first rest ih =>
    obtain ⟨_, head, returns⟩ := bind_eq_ok.mp returns
    obtain ⟨_, tail, returns⟩ := bind_eq_ok.mp returns
    obtain rfl := Except.ok.inj returns
    exact append _ _ _ _ _ (step first carried _ head) (ih tail)

/-- **What each step does, a compiled day does.** -/
theorem compiledBlocks_rel {R : Type} {resolver : AssetResolver R} {zoneInfo : String → Option Zone}
    {dsl : Dict} {source : R} {seed : Option Int} {counters : Counters}
    {out : List ProgramBlockOutput × Counters}
    (nil : ∀ carried, P carried [] carried)
    (append : ∀ carried between after blocks others, P carried blocks between →
      P between others after → P carried (blocks ++ others) after)
    (step : ∀ (step : DayStep) broadcastDay tz carried out,
      step.compile rng (resolver.lookup (withPools resolver dsl source)) (gridMinutesOf dsl)
        broadcastDay tz seed carried = .ok out → P carried out.1 out.2)
    (returns : compiledBlocks resolver rng zoneInfo dsl source seed counters = .ok out) :
    ∃ after : Carried, after.counters = out.2 ∧ P ⟨counters, []⟩ out.1 after := by
  unfold compiledBlocks at returns
  obtain ⟨_, _, returns⟩ := bind_eq_ok.mp returns
  split at returns
  · obtain ⟨_, _, returns⟩ := bind_eq_ok.mp returns
    obtain ⟨day, _, returns⟩ := bind_eq_ok.mp returns
    obtain ⟨timezone, _, returns⟩ := bind_eq_ok.mp returns
    rw [compileBlocks_steps] at returns
    obtain ⟨steps, _, returns⟩ := bind_eq_ok.mp returns
    obtain ⟨⟨blocks, after⟩, compiled, returns⟩ := bind_eq_ok.mp returns
    obtain rfl := Except.ok.inj returns
    exact ⟨after, rfl, compileSteps_rel nil append
      (fun first carried out => step first _ _ carried out) compiled⟩
  · cases returns

end Rule

end Retrovue.Core.Compiler
