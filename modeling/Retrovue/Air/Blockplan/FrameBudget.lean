/-
**The frame budget** (`PipelineManager.cpp`, INV-FRAME-BUDGET-002/003): `remaining_block_frames_` over
the tick loop.

* `Budgeted`, `budgetStep`: the session with its budget. Every step of the session is one of
  `budgetStep` and the other way round (`budgetStep_pipeline`): the budget decides nothing;
* `Budgeted.Counted`: in every phase the budget is what is left to the fence, less the frame that the
  tick has already emitted;
* `counted_step`: every step keeps it, but for LOAD NEXT of a block whose fence is ahead: the budget
  is loaded after the decrement of the tick;
* `onBudget_run`: the budget at every tick of a run.
-/

import Mathlib
import Retrovue.Foundation.Transition
import Retrovue.Air.Blockplan.Steps

namespace Retrovue.Air.Blockplan

open Retrovue.Foundation.Transition

/-! ### The budget -/

section Budget

/-- A session and `remaining_block_frames_`. -/
structure Budgeted where
  pipeline : Pipeline
  remainingBlockFrames : Int
  deriving DecidableEq, Repr

/-- A session before its first load. -/
def Budgeted.initial (sessionEpochUtcMs : Int) : Budgeted := ⟨.initial sessionEpochUtcMs, 0⟩

/-- The budget of a block that becomes active: the frames to its fence. -/
def frameBudget (blockFenceFrame tick : Int) : Int :=
  if blockFenceFrame - tick < 0 then 0 else blockFenceFrame - tick

/-- One frame is emitted. -/
def decremented (remaining : Int) : Int := if 0 < remaining then remaining - 1 else remaining

variable (house : RationalFps)

/-- The fence of a producer's block. -/
def Pipeline.fenceOf (p : Pipeline) (producer : TickProducer) : Int :=
  computeFenceFrame house p.seams.fenceEpochUtcMs producer.block

/-- The budget after a step. -/
def Budgeted.remainingAfter (b : Budgeted) : Action → Int
  | .activateFirst nowUtcMs =>
    -- set at the activation and again, before it is read, when the fence epoch is re-anchored
    match b.pipeline.blocks.live with
    | none => b.remainingBlockFrames
    | some producer =>
      frameBudget (computeFenceFrame house nowUtcMs producer.block) b.pipeline.tick
  | .rotate assets =>
    match b.pipeline.phase.rotating with
    | none => b.remainingBlockFrames
    | some selection =>
      if b.pipeline.rotates selection then
        match b.pipeline.rotatesTo assets with
        | none => b.remainingBlockFrames
        | some producer => frameBudget (b.pipeline.fenceOf house producer) b.pipeline.tick
      else b.remainingBlockFrames
  | .loadNext assets =>
    -- the frame of the tick is counted before LOAD NEXT
    match b.pipeline.loadsTo assets with
    | none => decremented b.remainingBlockFrames
    | some producer => frameBudget (b.pipeline.fenceOf house producer) b.pipeline.tick
  | _ => b.remainingBlockFrames

/-- A step of the session with its budget. -/
def budgetStep (b : Budgeted) (action : Action) : Option Budgeted :=
  (step house b.pipeline action).map fun next => ⟨next, b.remainingAfter house action⟩

theorem budgetStep_iff {b next : Budgeted} {action : Action} :
    budgetStep house b action = some next ↔
      step house b.pipeline action = some next.pipeline ∧
        next.remainingBlockFrames = b.remainingAfter house action := by
  unfold budgetStep
  rw [Option.map_eq_some_iff]
  constructor
  · rintro ⟨pipeline, taken, rfl⟩
    exact ⟨taken, rfl⟩
  · rintro ⟨taken, remaining⟩
    refine ⟨next.pipeline, taken, ?_⟩
    rw [← remaining]

/-- **The budget decides nothing**: a run of the session is one with its budget, and the other way
round. -/
theorem budgetStep_pipeline (actions : List Action) (b : Budgeted) :
    (runActions (budgetStep house) b actions).map Budgeted.pipeline =
      runActions (step house) b.pipeline actions := by
  induction actions generalizing b with
  | nil => rfl
  | cons action rest ih =>
    rw [runActions_cons, runActions_cons, Option.map_bind]
    unfold budgetStep
    cases step house b.pipeline action with
    | none => rfl
    | some next => exact ih ⟨next, b.remainingAfter house action⟩

/-- What is left of a budget when its frame has been emitted. -/
theorem decremented_max (ahead : Int) : decremented (max 0 ahead) = max 0 (ahead - 1) := by
  unfold decremented
  by_cases left : 0 < ahead
  · rw [max_eq_right left.le, if_pos left, max_eq_right (by omega)]
  · rw [max_eq_left (by omega), if_neg (lt_irrefl 0), max_eq_left (by omega)]

theorem frameBudget_eq (fence tick : Int) : frameBudget fence tick = max 0 (fence - tick) := by
  unfold frameBudget
  by_cases passed : fence - tick < 0
  · rw [if_pos passed, max_eq_left passed.le]
  · rw [if_neg passed, max_eq_right (by omega)]

end Budget

/-! ### The invariant -/

section Counted

variable (house : RationalFps)

/-- The phases after the decrement of the tick. -/
def Phase.emitted : Phase → Int
  | .loadKickoff | .endKickoff => 1
  | _ => 0

/-- The budget is what is left to the fence. -/
structure Budgeted.Counted (b : Budgeted) : Prop where
  poised : Poised b.pipeline
  counted : ∀ fence, b.pipeline.seams.blockFenceFrame = some fence →
    b.remainingBlockFrames = max 0 (fence - (b.pipeline.tick + b.pipeline.phase.emitted))

theorem counted_initial (sessionEpochUtcMs : Int) : (Budgeted.initial sessionEpochUtcMs).Counted where
  poised := poised_initial sessionEpochUtcMs
  counted := by
    intro fence fenced
    cases fenced

/-- LOAD NEXT activates only blocks whose fence has passed. -/
def LoadsPast (b : Budgeted) : Action → Prop
  | .loadNext assets =>
    ∀ producer ∈ b.pipeline.loadsTo assets, b.pipeline.fenceOf house producer ≤ b.pipeline.tick
  | _ => True

instance (b : Budgeted) : ∀ action, Decidable (LoadsPast house b action)
  | .loadNext _ => inferInstanceAs (Decidable (∀ _ ∈ _, _))
  | .feed _ | .workerStart | .workerFinish _ | .loadFirst _ | .activateFirst _ | .preTake
  | .sample _ | .select _ | .rotate _ | .segmentPeek | .segmentPostTake _ | .kickoff =>
    inferInstanceAs (Decidable True)

/-- The count before the end of the tick, for a step that leaves fence, tick and budget alone. -/
theorem Budgeted.Counted.same {b : Budgeted} (counted : b.Counted) {next : Pipeline} {fence : Int}
    (fenced : next.seams.blockFenceFrame = some fence)
    (seams : next.seams.blockFenceFrame = b.pipeline.seams.blockFenceFrame)
    (tick : next.tick + next.phase.emitted = b.pipeline.tick + b.pipeline.phase.emitted) :
    b.remainingBlockFrames = max 0 (fence - (next.tick + next.phase.emitted)) := by
  rw [tick]
  exact counted.counted fence (seams.symm.trans fenced)

/-- The fence that an activation sets. -/
theorem fence_of_activate {p next : Pipeline} {producer : TickProducer}
    (seams : next.seams = activate house p.seams p.tick producer) {fence : Int}
    (fenced : next.seams.blockFenceFrame = some fence) : fence = p.fenceOf house producer := by
  rw [seams, activate_fence] at fenced
  exact (Option.some.inj fenced).symm

/-- The block TAKE sets the budget before the frame of its tick is counted. -/
theorem counted_rotate {b : Budgeted} (counted : b.Counted) {selection : Selection}
    (phase : b.pipeline.phase = .rotate selection) (assets : AssetOutcome) {fence : Int}
    (fenced : (rotate house b.pipeline selection assets).seams.blockFenceFrame = some fence) :
    b.remainingAfter house (.rotate assets) =
      max 0 (fence - ((rotate house b.pipeline selection assets).tick +
        (rotate house b.pipeline selection assets).phase.emitted)) := by
  have rotating : b.pipeline.phase.rotating = some selection := by rw [phase]; rfl
  have here : b.pipeline.phase.emitted = 0 := by rw [phase]; rfl
  simp only [Budgeted.remainingAfter, rotating]
  cases due : b.pipeline.rotates selection with
  | false =>
    rw [rotate_of_not_rotates house due] at fenced ⊢
    rw [if_neg Bool.false_ne_true]
    exact counted.same fenced rfl (by rw [here]; rfl)
  | true =>
    rw [rotate_of_rotates house due] at fenced ⊢
    rw [if_pos rfl, rotated_tick]
    have seams := rotated_seams house b.pipeline selection assets
    have zero : (b.pipeline.rotated house selection assets).phase.emitted = 0 := by
      rcases rotated_phase house b.pipeline selection assets with next | next
      · rw [next]
        rfl
      · rw [next]
        rfl
    cases found : b.pipeline.rotatesTo assets with
    | none =>
      -- PADDED_GAP: no block is active
      rw [found] at seams
      rw [seams] at fenced
      cases fenced
    | some producer =>
      rw [found] at seams
      dsimp only
      rw [fence_of_activate house seams fenced, frameBudget_eq, zero, add_zero]

/-- LOAD NEXT sets the budget after the frame of its tick was counted: right when the fence has
passed. -/
theorem counted_loadNext {b : Budgeted} (counted : b.Counted)
    (phase : b.pipeline.phase = .loadNext) (assets : AssetOutcome)
    (past : LoadsPast house b (.loadNext assets)) {fence : Int}
    (fenced : (loadNext house b.pipeline assets).seams.blockFenceFrame = some fence) :
    b.remainingAfter house (.loadNext assets) =
      max 0 (fence - ((loadNext house b.pipeline assets).tick +
        (loadNext house b.pipeline assets).phase.emitted)) := by
  have seams := loadNext_seams house b.pipeline assets
  have one : (loadNext house b.pipeline assets).phase.emitted = 1 := by
    rcases loadNext_phase house b.pipeline assets with next | next
    · rw [next]
      rfl
    · rw [next]
      rfl
  rw [loadNext_tick, one]
  simp only [Budgeted.remainingAfter]
  cases loaded : b.pipeline.loadsTo assets with
  | none =>
    rw [loaded] at seams
    dsimp only at seams
    rw [seams] at fenced
    have before := counted.counted fence fenced
    have here : b.pipeline.phase.emitted = 0 := by rw [phase]; rfl
    dsimp only
    rw [before, decremented_max, here, add_zero, sub_sub]
  | some producer =>
    rw [loaded] at seams
    have passed := past producer loaded
    have same := fence_of_activate house seams fenced
    dsimp only
    rw [frameBudget_eq, same, max_eq_left (by omega), max_eq_left (by omega)]

/-- The clock start sets the first block's budget for tick 0. -/
theorem counted_activateFirst {b : Budgeted} (counted : b.Counted)
    (phase : b.pipeline.phase = .startActivate) (nowUtcMs : Int) {fence : Int}
    (fenced : (activateFirst house b.pipeline nowUtcMs).seams.blockFenceFrame = some fence) :
    b.remainingAfter house (.activateFirst nowUtcMs) =
      max 0 (fence - ((activateFirst house b.pipeline nowUtcMs).tick +
        (activateFirst house b.pipeline nowUtcMs).phase.emitted)) := by
  simp only [Budgeted.remainingAfter]
  cases loaded : b.pipeline.blocks.live with
  | none =>
    have unfenced := counted.poised.starting (.inr (.inr phase))
    have same : (activateFirst house b.pipeline nowUtcMs).seams.blockFenceFrame = none := by
      simpa [activateFirst, Pipeline.activateLive, loaded, resync] using unfenced
    rw [same] at fenced
    cases fenced
  | some producer =>
    have fence_eq : (activateFirst house b.pipeline nowUtcMs).seams.blockFenceFrame =
        some (computeFenceFrame house nowUtcMs producer.block) := by
      simp [activateFirst, loaded, resync]
    have tick : (activateFirst house b.pipeline nowUtcMs).tick = b.pipeline.tick := by
      simp [activateFirst, Pipeline.activateLive, loaded, Pipeline.activate, Pipeline.initCadence]
    cases Option.some.inj (fence_eq.symm.trans fenced)
    have zero : (activateFirst house b.pipeline nowUtcMs).phase.emitted = 0 := rfl
    dsimp only
    rw [frameBudget_eq, tick, zero, add_zero]

/-- **Every step keeps the count**, but for LOAD NEXT of a block whose fence is ahead. -/
theorem counted_step {b next : Budgeted} {action : Action} (counted : b.Counted)
    (past : LoadsPast house b action) (taken : budgetStep house b action = some next) :
    next.Counted := by
  obtain ⟨moved, remaining⟩ := (budgetStep_iff house).mp taken
  refine ⟨poised_step house counted.poised moved, ?_⟩
  intro fence fenced
  rw [remaining]
  generalize next.pipeline = after at moved fenced
  cases stepped_of_step house moved with
  | feed | workerStart | workerFinish => exact counted.same fenced rfl rfl
  | loadFirst _ phase => exact counted.same fenced rfl (by rw [phase]; rfl)
  | activateFirst nowUtcMs phase => exact counted_activateFirst house counted phase nowUtcMs fenced
  | preTake phase =>
    refine counted.same fenced (congrArg _ (preTake_seams house _)) ?_
    rw [preTake_tick, phase]
    rfl
  | sample _ phase => exact counted.same fenced rfl (by rw [phase]; rfl)
  | select pops sampled phase =>
    refine counted.same fenced (congrArg _ (select_seams house _ sampled pops)) ?_
    rw [select_tick, phase]
    congr 1
    rcases select_phase house b.pipeline sampled pops with next | next | ⟨selection, next, -⟩
    · rw [next]
      rfl
    · rw [next]
      rfl
    · rw [next]
      rfl
  | rotate assets selection phase => exact counted_rotate house counted phase assets fenced
  | segmentPeek selection phase => exact counted.same fenced rfl (by rw [phase]; rfl)
  | segmentPostTake readings selection peeked phase =>
    refine counted.same fenced ?_ ?_
    · rw [segmentPostTake_seams]
      by_cases swap : (selection.takeSegment &&
          b.pipeline.commits selection peeked readings) = true
      · rw [if_pos swap, rebase_fence]
      · rw [if_neg swap]
    · rw [segmentPostTake_tick, phase]
      rfl
  | loadNext assets phase => exact counted_loadNext house counted phase assets past fenced
  | startKickoff phase => exact counted.same fenced rfl (by rw [phase]; rfl)
  | rotateKickoff selection phase => exact counted.same fenced rfl (by rw [phase]; rfl)
  | loadKickoff phase => exact counted.same fenced rfl (by rw [phase]; rfl)
  | endKickoff phase =>
    -- the tick that is over was counted, and the next one has not been
    exact counted.same fenced rfl (by rw [phase]; exact add_zero _)

end Counted

/-! ### The run -/

section Run

variable (house : RationalFps)

/-- At the start of a tick under a fence the budget is the number of frames to the fence, and it is
spent exactly from the fence on. -/
def OnBudget (b : Budgeted) : Prop :=
  b.pipeline.phase = .preTake → ∀ fence ∈ b.pipeline.seams.blockFenceFrame,
    b.remainingBlockFrames = max 0 (fence - b.pipeline.tick) ∧
      (b.remainingBlockFrames = 0 ↔ fence ≤ b.pipeline.tick)

theorem Budgeted.Counted.onBudget {b : Budgeted} (counted : b.Counted) : OnBudget b := by
  intro phase fence fenced
  have left := counted.counted fence fenced
  rw [phase] at left
  have here : b.remainingBlockFrames = max 0 (fence - b.pipeline.tick) := by
    rw [left]
    exact congrArg (fun tick => max 0 (fence - tick)) (add_zero _)
  refine ⟨here, ?_⟩
  rw [here]
  omega

/-- **The budget holds in every run whose LOAD NEXT activates only blocks whose fence has passed**, at
the start of every tick. -/
theorem onBudget_run (sessionEpochUtcMs : Int) (actions : List Action) (final : Budgeted)
    (past : Along (budgetStep house) (LoadsPast house) (.initial sessionEpochUtcMs) actions)
    (ran : runActions (budgetStep house) (.initial sessionEpochUtcMs) actions = some final) :
    OnBudget final :=
  (invariant_along (budgetStep house) Budgeted.Counted (LoadsPast house)
    (fun _ _ _ counted past taken => counted_step house counted past taken) actions
    (counted_initial sessionEpochUtcMs) past ran).onBudget

/-- A block with one content segment. -/
def wholeBlock (blockId : String) (startUtcMs endUtcMs : Int) : FedBlock :=
  { blockId := blockId
    startUtcMs := startUtcMs
    endUtcMs := endUtcMs
    segments := [⟨0, endUtcMs - startUtcMs, .content, .none, 0⟩] }

/-- A block of one frame, with the next one queued in time for the fence. -/
def seamlessRun : List Action :=
  sessionStart (wholeBlock "A" 0 40) ++ fullIteration ++ [.feed (wholeBlock "B" 40 1040)] ++
    fullFenceIteration

/-- The same with the next block queued after the fence: a padded gap of one tick. -/
def paddedRun : List Action :=
  sessionStart (wholeBlock "A" 0 40) ++ fullIteration ++
    (fullIteration.take 4 ++ [.feed (wholeBlock "B" 40 1040)] ++ (fullIteration.drop 4).dropLast ++
      [.kickoff, .kickoff])

/-- After the block TAKE, 24 frames are left at tick 2, and the fence is tick 26. -/
theorem seamlessRun_onBudget :
    ∃ final, runActions (budgetStep palFps) (.initial 0) seamlessRun = some final ∧
      (final.pipeline.phase = .preTake ∧ final.pipeline.tick = 2 ∧
        final.pipeline.seams.blockFenceFrame = some 26 ∧ final.remainingBlockFrames = 24) ∧
      OnBudget final := by
  obtain ⟨final, ran, shown⟩ := exists_run (budgetStep palFps) (.initial 0) seamlessRun
    (fun final => final.pipeline.phase = .preTake ∧ final.pipeline.tick = 2 ∧
      final.pipeline.seams.blockFenceFrame = some 26 ∧ final.remainingBlockFrames = 24)
    (by decide +kernel)
  exact ⟨final, ran, shown, onBudget_run palFps 0 seamlessRun final (by decide +kernel) ran⟩

/-- After the padded gap, 25 frames are counted at tick 2, and the fence is tick 26. -/
theorem paddedRun_over_budget :
    ∃ final, runActions (budgetStep palFps) (.initial 0) paddedRun = some final ∧
      ¬ OnBudget final := by
  obtain ⟨final, ran, phase, tick, fence, left⟩ := exists_run (budgetStep palFps) (.initial 0)
    paddedRun
    (fun final => final.pipeline.phase = .preTake ∧ final.pipeline.tick = 2 ∧
      final.pipeline.seams.blockFenceFrame = some 26 ∧ final.remainingBlockFrames = 25)
    (by decide +kernel)
  refine ⟨final, ran, ?_⟩
  intro on
  have := (on phase 26 fence).1
  rw [left, tick] at this
  omega

end Run

end Retrovue.Air.Blockplan
