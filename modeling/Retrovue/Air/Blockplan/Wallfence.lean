/-
**INV-BLOCK-WALLFENCE-001: the block TAKE and the block's fence.**

* `FenceKept`: the condition on a step. A block is activated before its fence or with a first
  segment of one frame; a segment swap is committed by the tick before the fence, and one into the
  last segment leaves it lasting to the fence;
* `timed_step`: a step that meets it keeps the next seam on the fence;
* `fence_held`: in every run whose steps meet the condition, every reachable state keeps the fence;
* `early_block_ends_early`: a block activated before its start is ended before its fence.
-/

import Mathlib
import Retrovue.Air.Blockplan.Steps

namespace Retrovue.Air.Blockplan

open Retrovue.Foundation.Transition

variable (house : RationalFps)

/-! ### The condition on a step -/

section Condition

/-- A step keeps the block's fence. -/
def FenceKept (p : Pipeline) : Action → Prop
  | .activateFirst nowUtcMs =>
    ∀ producer ∈ p.blocks.live, OpensOnTime house nowUtcMs 0 producer.block
  | .rotate assets =>
    ∀ selection ∈ p.phase.rotating, p.rotates selection = true →
      ∀ producer ∈ p.rotatesTo assets,
        OpensOnTime house p.seams.fenceEpochUtcMs p.tick producer.block
  | .segmentPostTake readings =>
    ∀ entry ∈ p.phase.postTaking, entry.1.takeSegment = true →
      if p.commits entry.1 entry.2 readings then LastsToFence house p.seams p.tick
      else before (some (p.tick + 1)) p.seams.blockFenceFrame = true
  | .loadNext assets =>
    ∀ producer ∈ p.loadsTo assets, OpensOnTime house p.seams.fenceEpochUtcMs p.tick producer.block
  | _ => True

instance (p : Pipeline) (action : Action) : Decidable (FenceKept house p action) :=
  Action.casesOn (motive := fun action => Decidable (FenceKept house p action)) action
    (fun _ => inferInstanceAs (Decidable True)) (inferInstanceAs (Decidable True))
    (fun _ => inferInstanceAs (Decidable True)) (fun _ => inferInstanceAs (Decidable True))
    -- `activateFirst`
    (fun nowUtcMs => inferInstanceAs (Decidable (∀ producer ∈ p.blocks.live,
      OpensOnTime house nowUtcMs 0 producer.block)))
    (inferInstanceAs (Decidable True)) (fun _ => inferInstanceAs (Decidable True))
    (fun _ => inferInstanceAs (Decidable True))
    -- `rotate`
    (fun assets => inferInstanceAs (Decidable (∀ selection ∈ p.phase.rotating,
      p.rotates selection = true → ∀ producer ∈ p.rotatesTo assets,
        OpensOnTime house p.seams.fenceEpochUtcMs p.tick producer.block)))
    (inferInstanceAs (Decidable True))
    -- `segmentPostTake`
    (fun readings => inferInstanceAs (Decidable (∀ entry ∈ p.phase.postTaking,
      entry.1.takeSegment = true →
        if p.commits entry.1 entry.2 readings then LastsToFence house p.seams p.tick
        else before (some (p.tick + 1)) p.seams.blockFenceFrame = true)))
    -- `loadNext`
    (fun assets => inferInstanceAs (Decidable (∀ producer ∈ p.loadsTo assets,
      OpensOnTime house p.seams.fenceEpochUtcMs p.tick producer.block)))
    (inferInstanceAs (Decidable True))

end Condition

/-! ### One step -/

section OneStep

/-- The first tick that the seam in force has not been compared with yet. -/
def Phase.examined : Phase → Int → Int
  | .rotate selection, tick | .rotateKickoff selection, tick | .segmentPeek selection, tick
  | .segmentPostTake selection _, tick => if selection.takeSegment then tick else tick + 1
  | .loadNext, tick | .loadKickoff, tick | .endKickoff, tick => tick + 1
  | _, tick => tick

/-- The same, of a session. -/
def Pipeline.nextExamined (p : Pipeline) : Int := p.phase.examined p.tick

theorem Pipeline.tick_le_nextExamined (p : Pipeline) : p.tick ≤ p.nextExamined := by
  unfold Pipeline.nextExamined Phase.examined
  split <;> omega

/-- The tick loop on the fence: the seam is good for the ticks not compared yet, a selection that
takes a segment was made at a segment seam, and the loop starts at tick 0. -/
structure OnFence (p : Pipeline) : Prop where
  timed : p.seams.Timed p.nextExamined
  selected : ∀ selection, p.phase.selection = some selection → selection.takeSegment = true →
    p.seams.nextSeamType = .segment ∧ selection.takeB = false
  unstarted : p.phase = .start ∨ p.phase = .startKickoff ∨ p.phase = .startActivate → p.tick = 0

theorem onFence_initial (sessionEpochUtcMs : Int) : OnFence (.initial sessionEpochUtcMs) where
  timed := ⟨nofun, nofun, fun _ => rfl⟩
  selected := nofun
  unstarted := fun _ => rfl

/-- A step that leaves phase, tick and seams alone. -/
theorem OnFence.congr {p next : Pipeline} (on : OnFence p) (phase : next.phase = p.phase)
    (tick : next.tick = p.tick) (seams : next.seams = p.seams) : OnFence next := by
  refine ⟨?_, ?_, ?_⟩
  · have examined : next.nextExamined = p.nextExamined := by
      simp only [Pipeline.nextExamined, Phase.examined, phase, tick]
    rw [examined, seams]
    exact on.timed
  · rw [phase, seams]
    exact on.selected
  · rw [phase, tick]
    exact on.unstarted

theorem onFence_activateFirst {p : Pipeline} (on : OnFence p) (starting : p.phase = .startActivate)
    {nowUtcMs : Int} (kept : FenceKept house p (.activateFirst nowUtcMs)) :
    OnFence (activateFirst house p nowUtcMs) := by
  have zero : p.tick = 0 := on.unstarted (.inr (.inr starting))
  refine ⟨?_, nofun, ?_⟩
  · show Seams.Timed _ (activateFirst house p nowUtcMs).tick
    cases loaded : p.blocks.live with
    | none =>
      have seams : (activateFirst house p nowUtcMs).seams =
          { p.seams with fenceEpochUtcMs := nowUtcMs } := by
        simp [activateFirst, Pipeline.activateLive, loaded, resync]
      have tick : (activateFirst house p nowUtcMs).tick = p.tick := by
        simp [activateFirst, Pipeline.activateLive, loaded]
      rw [seams, tick]
      have timed := on.timed.mono p.tick_le_nextExamined
      exact ⟨timed.block, timed.segment, timed.idle⟩
    | some producer =>
      have seams : (activateFirst house p nowUtcMs).seams =
          resync house (activate house p.seams p.tick producer) nowUtcMs (some producer) := by
        simp [activateFirst, Pipeline.activateLive, loaded, Pipeline.activate, Pipeline.initCadence]
      have tick : (activateFirst house p nowUtcMs).tick = 0 := by
        simp [activateFirst, Pipeline.activateLive, loaded, Pipeline.activate, Pipeline.initCadence,
          zero]
      rw [seams, tick, zero]
      exact (timed_resync house (kept producer (by simpa using loaded))).mono (by omega)
  · intro start
    simp [activateFirst] at start

theorem onFence_select {p : Pipeline} (on : OnFence p) (sampled : Sampled) (pops : PopOutcome) :
    OnFence (select house p sampled pops) := by
  have timed : p.seams.Timed p.tick := on.timed.mono p.tick_le_nextExamined
  have seams := select_seams house p sampled pops
  have tick := select_tick house p sampled pops
  rcases select_phase house p sampled pops with stop | again | ⟨selection, taken, flagB, flagS⟩
  · refine ⟨?_, by simp [stop, Phase.selection], by simp [stop]⟩
    simpa only [Pipeline.nextExamined, Phase.examined, stop, seams, tick] using timed
  · refine ⟨?_, by simp [again, Phase.selection], by simp [again]⟩
    simpa only [Pipeline.nextExamined, Phase.examined, again, seams, tick] using timed
  · refine ⟨?_, ?_, by simp [taken]⟩
    · simp only [Pipeline.nextExamined, Phase.examined, taken, seams, tick]
      cases flag : selection.takeSegment with
      | true => simpa using timed
      | false =>
        rw [flag] at flagS
        simpa using timed.advance flagS.symm
    · intro chosen same flag
      simp only [taken, Phase.selection, Option.some.injEq] at same
      subst same
      rw [flag] at flagS
      have type := (Seams.takeSegment_iff.mp flagS.symm).2
      refine ⟨by rw [seams]; exact type, ?_⟩
      rw [flagB]
      simp [Seams.takeB, type]

theorem onFence_rotate {p : Pipeline} (on : OnFence p) {selection : Selection}
    (rotating : p.phase = .rotate selection) {assets : AssetOutcome}
    (kept : FenceKept house p (.rotate assets)) : OnFence (rotate house p selection assets) := by
  cases due : p.rotates selection with
  | false =>
    rw [rotate_of_not_rotates house due]
    refine ⟨?_, ?_, ?_⟩
    · have timed := on.timed
      simp only [Pipeline.nextExamined, rotating, Phase.examined] at timed
      exact timed
    · have selected := on.selected
      simpa only [rotating, Phase.selection] using selected
    · rintro (starting | starting | starting) <;> cases starting
  | true =>
    rw [rotate_of_rotates house due]
    have taken : selection.takeB = true := by
      simp only [Pipeline.rotates, Bool.and_eq_true] at due
      exact due.1
    have noSegment : selection.takeSegment ≠ true := by
      intro flag
      have := (on.selected selection (by simp [rotating, Phase.selection]) flag).2
      simp [taken] at this
    have timed : (p.rotated house selection assets).seams.Timed (p.tick + 1) := by
      rw [rotated_seams]
      cases next : p.rotatesTo assets with
      | none => exact timed_of_unfenced rfl _
      | some producer =>
        exact timed_activate house (kept selection (by simp [rotating, Phase.rotating]) due
          producer (by simpa using next))
    have tick := rotated_tick house p selection assets
    rcases rotated_phase house p selection assets with phase | phase
    · refine ⟨?_, ?_, by simp [phase]⟩
      · simpa only [Pipeline.nextExamined, Phase.examined, phase, tick, if_neg noSegment] using timed
      · intro chosen same flag
        simp only [phase, Phase.selection, Option.some.injEq] at same
        exact absurd (same ▸ flag) noSegment
    · refine ⟨?_, ?_, by simp [phase]⟩
      · simpa only [Pipeline.nextExamined, Phase.examined, phase, tick, if_neg noSegment] using timed
      · intro chosen same flag
        simp only [phase, Phase.selection, Option.some.injEq] at same
        exact absurd (same ▸ flag) noSegment

theorem onFence_segmentPostTake {p : Pipeline} (on : OnFence p) {selection : Selection}
    {peeked : Bool} (taking : p.phase = .segmentPostTake selection peeked)
    {readings : PostTakeReadings} (kept : FenceKept house p (.segmentPostTake readings)) :
    OnFence (segmentPostTake house p selection peeked readings) := by
  refine ⟨?_, nofun, nofun⟩
  show Seams.Timed _ ((segmentPostTake house p selection peeked readings).tick + 1)
  rw [segmentPostTake_tick, segmentPostTake_seams]
  have timed := on.timed
  simp only [Pipeline.nextExamined, taking, Phase.examined] at timed
  cases flag : selection.takeSegment with
  | false => simpa [flag] using timed
  | true =>
    have here : p.seams.Timed p.tick := by simpa [flag] using timed
    have type := (on.selected selection (by simp [taking, Phase.selection]) flag).1
    have kept := kept (selection, peeked) (by simp [taking, Phase.postTaking]) flag
    dsimp only at kept
    cases committed : p.commits selection peeked readings with
    | false =>
      simp only [committed, Bool.false_eq_true, if_false] at kept
      simp only [Bool.true_and, Bool.false_eq_true, if_false]
      refine ⟨here.block, ?_, here.idle⟩
      intro segment fence fenced
      refine ⟨?_, (here.segment segment fence fenced).2⟩
      simpa [fenced] using kept
    | true =>
      simp only [committed, if_true] at kept
      simp only [Bool.and_self, if_true]
      cases fenced : p.seams.blockFenceFrame with
      | none => exact timed_of_unfenced (by simpa using fenced) _
      | some fence => exact timed_rebase house fenced (here.segment type fence fenced).1 kept

theorem onFence_loadNext {p : Pipeline} (on : OnFence p) (loading : p.phase = .loadNext)
    {assets : AssetOutcome} (kept : FenceKept house p (.loadNext assets)) :
    OnFence (loadNext house p assets) := by
  have timed : (loadNext house p assets).seams.Timed (p.tick + 1) := by
    rw [loadNext_seams]
    cases next : p.loadsTo assets with
    | none =>
      have timed := on.timed
      simpa only [Pipeline.nextExamined, loading, Phase.examined] using timed
    | some producer => exact timed_activate house (kept producer (by simpa using next))
  have tick := loadNext_tick house p assets
  rcases loadNext_phase house p assets with phase | phase
  · refine ⟨?_, by simp [phase, Phase.selection], by simp [phase]⟩
    simpa only [Pipeline.nextExamined, Phase.examined, phase, tick] using timed
  · refine ⟨?_, by simp [phase, Phase.selection], by simp [phase]⟩
    simpa only [Pipeline.nextExamined, Phase.examined, phase, tick] using timed

/-- A step that moves on to a later phase with the seams, and with the seam compared no further,
unchanged. -/
theorem OnFence.move {p next : Pipeline} (on : OnFence p) (seams : next.seams = p.seams)
    (examined : next.nextExamined ≤ p.nextExamined)
    (selection : ∀ chosen, next.phase.selection = some chosen → p.phase.selection = some chosen)
    (unstarted : next.phase = .start ∨ next.phase = .startKickoff ∨ next.phase = .startActivate →
      next.tick = 0) : OnFence next where
  timed := by
    rw [seams]
    exact on.timed.mono examined
  selected := by
    intro chosen same
    rw [seams]
    exact on.selected chosen (selection chosen same)
  unstarted := unstarted

/-- **One step**: a step that meets the condition keeps the next seam on the fence. -/
theorem onFence_step {p next : Pipeline} {action : Action} (on : OnFence p)
    (kept : FenceKept house p action) (taken : step house p action = some next) : OnFence next := by
  cases stepped_of_step house taken with
  | feed | workerStart | workerFinish => exact on.congr rfl rfl rfl
  | loadFirst _ phase =>
    exact on.move rfl p.tick_le_nextExamined nofun fun _ => on.unstarted (.inl phase)
  | activateFirst _ phase => exact onFence_activateFirst house on phase kept
  | preTake phase =>
    refine on.move (preTake_seams house p) ?_ nofun nofun
    show (preTake house p).tick ≤ _
    rw [preTake_tick]
    exact p.tick_le_nextExamined
  | sample => exact on.move rfl p.tick_le_nextExamined nofun nofun
  | select pops sampled => exact onFence_select house on sampled pops
  | rotate _ selection phase => exact onFence_rotate house on phase kept
  | segmentPeek selection phase =>
    refine on.move rfl ?_ ?_ nofun
    · show _ ≤ p.phase.examined p.tick
      rw [phase]
      exact le_refl _
    · rw [phase]
      exact fun _ same => same
  | segmentPostTake _ selection peeked phase => exact onFence_segmentPostTake house on phase kept
  | loadNext _ phase => exact onFence_loadNext house on phase kept
  | startKickoff phase =>
    exact on.move rfl p.tick_le_nextExamined nofun fun _ => on.unstarted (.inr (.inl phase))
  | rotateKickoff selection phase =>
    refine on.move rfl ?_ ?_ nofun
    · show _ ≤ p.phase.examined p.tick
      rw [phase]
      exact le_refl _
    · rw [phase]
      exact fun _ same => same
  | loadKickoff phase =>
    refine on.move rfl ?_ nofun nofun
    show _ ≤ p.phase.examined p.tick
    rw [phase]
    exact le_refl _
  | endKickoff phase =>
    refine on.move rfl ?_ nofun nofun
    show _ ≤ p.phase.examined p.tick
    rw [phase]
    exact le_refl _

end OneStep

/-! ### The run -/

section Run

/-- **The fence is held in every run whose steps keep it**: in every state such a run reaches, the
block TAKE fires only at ticks at or past the live block's fence, and it fires at every tick from
the later of the fence and the tick after the activation on. -/
theorem fence_held (sessionEpochUtcMs : Int) (actions : List Action) (final : Pipeline)
    (kept : Along (step house) (FenceKept house) (.initial sessionEpochUtcMs) actions)
    (ran : runActions (step house) (.initial sessionEpochUtcMs) actions = some final) :
    final.seams.FenceHeld final.tick :=
  have on := invariant_along (step house) OnFence (FenceKept house)
    (fun _ _ _ on kept taken => onFence_step house on kept taken) actions
    (onFence_initial sessionEpochUtcMs) kept ran
  (on.timed.mono final.tick_le_nextExamined).fenceHeld

/-- Content and pad of one frame each, up to `endUtcMs`. -/
def twoFrames (endUtcMs : Int) : FedBlock :=
  { blockId := "A"
    startUtcMs := endUtcMs - 80
    endUtcMs := endUtcMs
    segments := [⟨0, 40, .content, .none, 0⟩, ⟨1, 40, .pad, .none, 0⟩] }

/-- A block that starts 400 ms after it went live: after its two segments the block TAKE fires at
tick 2, and the fence is tick 12. -/
theorem early_block_ends_early :
    ∃ final, runActions (step palFps) (.initial 0)
        (sessionStart (twoFrames 480) ++ fullIteration ++ fullIteration) = some final ∧
      final.tick = 2 ∧ final.seams.blockFenceFrame = some 12 ∧
      final.seams.takeB final.tick = true ∧ ¬ final.seams.FenceHeld final.tick := by
  obtain ⟨final, ran, two, fence, taken⟩ := exists_run (step palFps) (.initial 0)
    (sessionStart (twoFrames 480) ++ fullIteration ++ fullIteration)
    (fun final => final.tick = 2 ∧ final.seams.blockFenceFrame = some 12 ∧
      final.seams.takeB final.tick = true) (by decide +kernel)
  refine ⟨final, ran, two, fence, taken, ?_⟩
  intro held
  have := (held 12 fence).1 taken
  omega

/-- The same block going live on its start: its fence is tick 2, and held. -/
theorem punctual_block_fence_held :
    ∃ final, runActions (step palFps) (.initial 0)
        (sessionStart (twoFrames 80) ++ fullIteration ++ fullIteration) = some final ∧
      final.seams.blockFenceFrame = some 2 ∧ final.seams.FenceHeld final.tick := by
  obtain ⟨final, ran, fence⟩ := exists_run (step palFps) (.initial 0)
    (sessionStart (twoFrames 80) ++ fullIteration ++ fullIteration)
    (fun final => final.seams.blockFenceFrame = some 2) (by decide +kernel)
  exact ⟨final, ran, fence, fence_held palFps 0 _ final (by decide +kernel) ran⟩

end Run

end Retrovue.Air.Blockplan
