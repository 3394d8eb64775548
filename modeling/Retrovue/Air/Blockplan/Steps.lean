/-
**What each step does**, function by function and field by field.

* `Stepped`, `stepped_of_step`: the steps the tick loop can take, with the phase each is taken in;
* the seam fields: `preTake_seams`, `select_seams`, `rotated_seams`, `segmentPostTake_seams`,
  `loadNext_seams`; the tick counter and the phase, likewise;
* `Pipeline.rotates`, `Pipeline.rotatesTo`, `Pipeline.commits`, `Pipeline.loadsTo`: what a step is
  about to decide, read off the state before it and its inputs;
* `Poised`, `poised_step`: what every reachable state knows of its phase and its seams.
-/

import Mathlib
import Retrovue.Air.Blockplan.Pipeline

namespace Retrovue.Air.Blockplan

variable (house : RationalFps)

/-! ### The steps -/

section Inversion

/-- The steps of the session, one constructor for each. -/
inductive Stepped (p : Pipeline) : Action → Pipeline → Prop
  | feed (block : FedBlock) : Stepped p (.feed block) { p with blocks := p.blocks.feed block }
  | workerStart (preparer : SeamPreparer)
      (moved : p.blocks.preparer.workerStart = some preparer) :
      Stepped p .workerStart (p.withPreparer preparer)
  | workerFinish (assets : AssetOutcome) (preparer : SeamPreparer)
      (moved : p.blocks.preparer.workerFinish assets = some preparer) :
      Stepped p (.workerFinish assets) (p.withPreparer preparer)
  | loadFirst (assets : AssetOutcome) (phase : p.phase = .start) :
      Stepped p (.loadFirst assets) (Blockplan.loadFirst p assets)
  | activateFirst (nowUtcMs : Int) (phase : p.phase = .startActivate) :
      Stepped p (.activateFirst nowUtcMs) (Blockplan.activateFirst house p nowUtcMs)
  | preTake (phase : p.phase = .preTake) : Stepped p .preTake (Blockplan.preTake house p)
  | sample (readings : SampleReadings) (phase : p.phase = .sample) :
      Stepped p (.sample readings) (Blockplan.sample p readings)
  | select (pops : PopOutcome) (sampled : Sampled) (phase : p.phase = .select sampled) :
      Stepped p (.select pops) (Blockplan.select house p sampled pops)
  | rotate (assets : AssetOutcome) (selection : Selection) (phase : p.phase = .rotate selection) :
      Stepped p (.rotate assets) (Blockplan.rotate house p selection assets)
  | segmentPeek (selection : Selection) (phase : p.phase = .segmentPeek selection) :
      Stepped p .segmentPeek (Blockplan.segmentPeek p selection)
  | segmentPostTake (readings : PostTakeReadings) (selection : Selection) (peeked : Bool)
      (phase : p.phase = .segmentPostTake selection peeked) :
      Stepped p (.segmentPostTake readings)
        (Blockplan.segmentPostTake house p selection peeked readings)
  | loadNext (assets : AssetOutcome) (phase : p.phase = .loadNext) :
      Stepped p (.loadNext assets) (Blockplan.loadNext house p assets)
  | startKickoff (phase : p.phase = .startKickoff) :
      Stepped p .kickoff { p.kickedOff with phase := .startActivate }
  | rotateKickoff (selection : Selection) (phase : p.phase = .rotateKickoff selection) :
      Stepped p .kickoff { p.kickedOff with phase := .segmentPeek selection }
  | loadKickoff (phase : p.phase = .loadKickoff) :
      Stepped p .kickoff { p.kickedOff with phase := .endKickoff }
  | endKickoff (phase : p.phase = .endKickoff) :
      Stepped p .kickoff { p.kickedOff with phase := .preTake, tick := p.tick + 1 }

/-- A step guarded by its phase. -/
theorem of_guard {P : Prop} [Decidable P] {result next : Pipeline}
    (taken : (if P then some result else none) = some next) : P ∧ result = next := by
  split at taken
  · exact ⟨by assumption, Option.some.inj taken⟩
  · cases taken

/-- **Inversion**: every step is one of them. -/
theorem stepped_of_step {p next : Pipeline} {action : Action}
    (taken : step house p action = some next) : Stepped house p action next := by
  cases action with
  | feed block =>
    cases taken
    exact .feed block
  | workerStart =>
    obtain ⟨preparer, moved, rfl⟩ := Option.map_eq_some_iff.mp taken
    exact .workerStart preparer moved
  | workerFinish assets =>
    obtain ⟨preparer, moved, rfl⟩ := Option.map_eq_some_iff.mp taken
    exact .workerFinish assets preparer moved
  | loadFirst assets =>
    obtain ⟨phase, rfl⟩ := of_guard taken
    exact .loadFirst assets phase
  | activateFirst nowUtcMs =>
    obtain ⟨phase, rfl⟩ := of_guard taken
    exact .activateFirst nowUtcMs phase
  | preTake =>
    obtain ⟨phase, rfl⟩ := of_guard taken
    exact .preTake phase
  | sample readings =>
    obtain ⟨phase, rfl⟩ := of_guard taken
    exact .sample readings phase
  | loadNext assets =>
    obtain ⟨phase, rfl⟩ := of_guard taken
    exact .loadNext assets phase
  | select pops =>
    simp only [step] at taken
    split at taken
    · cases taken
      exact .select pops _ (by assumption)
    · cases taken
  | rotate assets =>
    simp only [step] at taken
    split at taken
    · cases taken
      exact .rotate assets _ (by assumption)
    · cases taken
  | segmentPeek =>
    simp only [step] at taken
    split at taken
    · cases taken
      exact .segmentPeek _ (by assumption)
    · cases taken
  | segmentPostTake readings =>
    simp only [step] at taken
    split at taken
    · cases taken
      exact .segmentPostTake readings _ _ (by assumption)
    · cases taken
  | kickoff =>
    simp only [step, kickoff] at taken
    split at taken <;> cases taken
    · exact .startKickoff (by assumption)
    · exact .rotateKickoff _ (by assumption)
    · exact .loadKickoff (by assumption)
    · exact .endKickoff (by assumption)

end Inversion

/-! ### What a step does to the seams -/

section SeamSteps

@[simp] theorem arm_seams (p : Pipeline) : p.arm.seams = p.seams := rfl

@[simp] theorem arm_tick (p : Pipeline) : p.arm.tick = p.tick := rfl

@[simp] theorem arm_phase (p : Pipeline) : p.arm.phase = p.phase := rfl

@[simp] theorem ensureTake_seams (p : Pipeline) : p.ensureTake.seams = p.seams := by
  unfold Pipeline.ensureTake
  split <;> rfl

@[simp] theorem ensureTake_tick (p : Pipeline) : p.ensureTake.tick = p.tick := by
  unfold Pipeline.ensureTake
  split <;> rfl

@[simp] theorem ensured_seams (p : Pipeline) (peeked : Bool) :
    (p.ensured peeked).seams = p.seams := by
  cases peeked <;> simp [Pipeline.ensured]

@[simp] theorem ensured_tick (p : Pipeline) (peeked : Bool) : (p.ensured peeked).tick = p.tick := by
  cases peeked <;> simp [Pipeline.ensured]

@[simp] theorem adoptPreview_seams (p : Pipeline) : (p.adoptPreview house).seams = p.seams := by
  unfold Pipeline.adoptPreview
  split
  · rfl
  · split <;> rfl

@[simp] theorem adoptPreview_tick (p : Pipeline) : (p.adoptPreview house).tick = p.tick := by
  unfold Pipeline.adoptPreview
  split
  · rfl
  · split <;> rfl

theorem preTake_seams (p : Pipeline) : (preTake house p).seams = p.seams := adoptPreview_seams house p

theorem preTake_tick (p : Pipeline) : (preTake house p).tick = p.tick := adoptPreview_tick house p

theorem emit_seams (p : Pipeline) (sampled : Sampled) (chosen : Chosen) :
    (p.emit sampled chosen).seams = p.seams := by
  unfold Pipeline.emit
  dsimp only
  split <;> rfl

theorem emit_tick (p : Pipeline) (sampled : Sampled) (chosen : Chosen) :
    (p.emit sampled chosen).tick = p.tick := by
  unfold Pipeline.emit
  dsimp only
  split <;> rfl

theorem select_seams (p : Pipeline) (sampled : Sampled) (pops : PopOutcome) :
    (select house p sampled pops).seams = p.seams := by
  unfold select Pipeline.selectFrom
  split
  · exact ensured_seams p _
  · rw [emit_seams, ensured_seams]

theorem select_tick (p : Pipeline) (sampled : Sampled) (pops : PopOutcome) :
    (select house p sampled pops).tick = p.tick := by
  unfold select Pipeline.selectFrom
  split
  · exact ensured_tick p _
  · rw [emit_tick, ensured_tick]

/-- The tick's selection records the TAKE flags of the tick. -/
theorem select_phase (p : Pipeline) (sampled : Sampled) (pops : PopOutcome) :
    (select house p sampled pops).phase = .stopped ∨
      (select house p sampled pops).phase = .preTake ∨
      ∃ selection, (select house p sampled pops).phase = .rotate selection ∧
        selection.takeB = p.seams.takeB p.tick ∧
        selection.takeSegment = p.seams.takeSegment p.tick := by
  unfold select Pipeline.selectFrom
  split
  · exact .inl rfl
  · right
    unfold Pipeline.emit
    dsimp only
    split
    · exact .inl rfl
    · exact .inr ⟨_, rfl, by simp, by simp⟩

/-- The producer that the rotation makes active. -/
def Pipeline.rotatesTo (p : Pipeline) (assets : AssetOutcome) : Option TickProducer :=
  (p.blocks.nextAtFence p.seams.blockFenceFrame assets).map Prod.fst

theorem rotated_seams (p : Pipeline) (selection : Selection) (assets : AssetOutcome) :
    (p.rotated house selection assets).seams =
      match p.rotatesTo assets with
      | some producer => activate house p.seams p.tick producer
      | none => p.seams.enterPaddedGap := by
  unfold Pipeline.rotated Pipeline.rotatesTo
  cases p.blocks.nextAtFence p.seams.blockFenceFrame assets <;> rfl

theorem rotated_tick (p : Pipeline) (selection : Selection) (assets : AssetOutcome) :
    (p.rotated house selection assets).tick = p.tick := by
  unfold Pipeline.rotated
  split <;> rfl

theorem rotated_phase (p : Pipeline) (selection : Selection) (assets : AssetOutcome) :
    (p.rotated house selection assets).phase = .rotateKickoff selection ∨
      (p.rotated house selection assets).phase = .segmentPeek selection := by
  unfold Pipeline.rotated
  split
  · exact .inl rfl
  · exact .inr rfl

/-- The rotation is due at this tick. -/
def Pipeline.rotates (p : Pipeline) (selection : Selection) : Bool :=
  selection.takeB && (selection.committedB || !p.frames.degradedTakeActive)

theorem rotate_of_rotates {p : Pipeline} {selection : Selection}
    (due : p.rotates selection = true) (assets : AssetOutcome) :
    rotate house p selection assets = p.rotated house selection assets := if_pos due

theorem rotate_of_not_rotates {p : Pipeline} {selection : Selection}
    (due : p.rotates selection = false) (assets : AssetOutcome) :
    rotate house p selection assets = { p with phase := .segmentPeek selection } :=
  if_neg (by simpa [Pipeline.rotates] using due)

/-- The swap decision on the state after `EnsureIncomingBReadyForSeam`. -/
def Pipeline.commits (p : Pipeline) (selection : Selection) (peeked : Bool)
    (readings : PostTakeReadings) : Bool :=
  match (p.ensured peeked).incoming readings.incoming with
  | none => false
  | some incoming =>
    selection.swaps p.seams.currentSegmentIndex readings.activeVideoDepth incoming

@[simp] theorem checkAuthority_seams (p : Pipeline) (takeB : Bool) (origin : Int) :
    (p.checkAuthority takeB origin).seams = p.seams := by
  unfold Pipeline.checkAuthority
  split <;> rfl

@[simp] theorem checkAuthority_tick (p : Pipeline) (takeB : Bool) (origin : Int) :
    (p.checkAuthority takeB origin).tick = p.tick := by
  unfold Pipeline.checkAuthority
  split <;> rfl

@[simp] theorem swapChains_tick (p : Pipeline) : p.swapChains.tick = p.tick := by
  unfold Pipeline.swapChains
  split
  · rfl
  · split <;> rfl

theorem commitSwap_seams (p : Pipeline) (selection : Selection) (restamp : Bool) :
    (p.commitSwap house selection restamp).1.seams = rebase house p.seams p.tick := by
  cases restamp <;> rfl

theorem commitSwap_tick (p : Pipeline) (selection : Selection) (restamp : Bool) :
    (p.commitSwap house selection restamp).1.tick = p.tick := by
  cases restamp <;> exact swapChains_tick p

theorem segmentPostTake_seams (p : Pipeline) (selection : Selection) (peeked : Bool)
    (readings : PostTakeReadings) :
    (segmentPostTake house p selection peeked readings).seams =
      if selection.takeSegment && p.commits selection peeked readings then
        rebase house p.seams p.tick
      else p.seams := by
  unfold segmentPostTake
  dsimp only
  rw [checkAuthority_seams]
  cases selection.takeSegment with
  | false => rfl
  | true =>
    simp only [if_true, Bool.true_and, Pipeline.decideSwap, Pipeline.commits, ensured_seams]
    cases (p.ensured peeked).incoming readings.incoming with
    | none => simp
    | some incoming =>
      dsimp only
      split
      · rw [commitSwap_seams, ensured_seams, ensured_tick]
      · exact ensured_seams p peeked

theorem segmentPostTake_tick (p : Pipeline) (selection : Selection) (peeked : Bool)
    (readings : PostTakeReadings) :
    (segmentPostTake house p selection peeked readings).tick = p.tick := by
  unfold segmentPostTake
  dsimp only
  rw [checkAuthority_tick]
  split
  · unfold Pipeline.decideSwap
    split
    · exact ensured_tick p peeked
    · split
      · rw [commitSwap_tick, ensured_tick]
      · exact ensured_tick p peeked
  · rfl

/-- LOAD NEXT looks for a block. -/
def Pipeline.loadsNext (p : Pipeline) : Bool :=
  p.blocks.live.isNone && p.seams.blockFenceFrame.isNone

/-- The producer that LOAD NEXT makes active. -/
def Pipeline.loadsTo (p : Pipeline) (assets : AssetOutcome) : Option TickProducer :=
  if p.loadsNext then (p.blocks.loadLiveProducer p.seams.blockFenceFrame assets).live else none

theorem loadNext_seams (p : Pipeline) (assets : AssetOutcome) :
    (loadNext house p assets).seams =
      match p.loadsTo assets with
      | some producer => activate house p.seams p.tick producer
      | none => p.seams := by
  unfold loadNext Pipeline.loadsTo Pipeline.loadsNext
  split
  · dsimp only
    cases (p.blocks.loadLiveProducer p.seams.blockFenceFrame assets).live <;> rfl
  · rfl

theorem loadNext_tick (p : Pipeline) (assets : AssetOutcome) :
    (loadNext house p assets).tick = p.tick := by
  unfold loadNext
  split
  · dsimp only
    split <;> rfl
  · rfl

theorem loadNext_phase (p : Pipeline) (assets : AssetOutcome) :
    (loadNext house p assets).phase = .loadKickoff ∨
      (loadNext house p assets).phase = .endKickoff := by
  unfold loadNext
  split
  · dsimp only
    split
    · exact .inr rfl
    · exact .inl rfl
  · exact .inr rfl

end SeamSteps

/-! ### Phases and seams -/

section Poise

/-- The phases before the loop. -/
def Phase.starts (phase : Phase) : Prop :=
  phase = .start ∨ phase = .startKickoff ∨ phase = .startActivate

/-- What every reachable state knows: without a fence there is no seam, a segment seam leads into a
segment, no block is live before the loop, and a selection in progress was made at the kind of seam
that is still in force. -/
structure Poised (p : Pipeline) : Prop where
  idle : p.seams.blockFenceFrame = none → p.seams.nextSeamType = .none
  pending : p.seams.Pending
  starting : p.phase.starts → p.seams.blockFenceFrame = none
  takesSegment : ∀ selection, p.phase.selection = some selection →
    selection.takeSegment = true → selection.takeB = false ∧ p.seams.nextSeamType = .segment
  takesBlock : ∀ selection, p.phase.rotating = some selection →
    selection.takeB = true → p.seams.nextSeamType = .block

theorem poised_initial (sessionEpochUtcMs : Int) : Poised (.initial sessionEpochUtcMs) :=
  ⟨fun _ => rfl, nofun, fun _ => rfl, nofun, nofun⟩

/-- A segment TAKE happens under a fence. -/
theorem Poised.fenced_of_segment {p : Pipeline} (poised : Poised p) {selection : Selection}
    (selecting : p.phase.selection = some selection) (taken : selection.takeSegment = true) :
    p.seams.blockFenceFrame ≠ none := by
  intro unfenced
  have type := (poised.takesSegment selection selecting taken).2
  simp [poised.idle unfenced] at type

/-- A block TAKE happens under a fence, and takes no segment. -/
theorem Poised.fenced_of_block {p : Pipeline} (poised : Poised p) {selection : Selection}
    (phase : p.phase = .rotate selection) (taken : selection.takeB = true) :
    p.seams.blockFenceFrame ≠ none ∧ selection.takeSegment = false := by
  have type := poised.takesBlock selection (by simp [phase, Phase.rotating]) taken
  constructor
  · intro unfenced
    simp [poised.idle unfenced] at type
  · by_contra segment
    have := poised.takesSegment selection (by simp [phase, Phase.selection]) (by simpa using segment)
    simp [taken] at this

/-- A step that leaves the seams alone, into a phase whose selection is the one before. -/
theorem Poised.move {p next : Pipeline} (poised : Poised p) (seams : next.seams = p.seams)
    (starting : next.phase.starts → p.phase.starts)
    (selecting : ∀ selection, next.phase.selection = some selection →
      p.phase.selection = some selection)
    (rotating : ∀ selection, next.phase.rotating = some selection →
      p.phase.rotating = some selection) : Poised next where
  idle := by rw [seams]; exact poised.idle
  pending := by rw [seams]; exact poised.pending
  starting := by
    rw [seams]
    exact fun phase => poised.starting (starting phase)
  takesSegment := by
    rw [seams]
    exact fun selection chosen => poised.takesSegment selection (selecting selection chosen)
  takesBlock := by
    rw [seams]
    exact fun selection chosen => poised.takesBlock selection (rotating selection chosen)

/-- A step after which a seam is pending and no selection is in progress. -/
theorem poised_of_fenced {next : Pipeline} (fenced : next.seams.blockFenceFrame ≠ none)
    (pending : next.seams.Pending) (looping : ¬ next.phase.starts)
    (selecting : ∀ selection, next.phase.selection = some selection →
      selection.takeSegment = false)
    (rotating : next.phase.rotating = none) : Poised next where
  idle := fun unfenced => absurd unfenced fenced
  pending := pending
  starting := fun phase => absurd phase looping
  takesSegment := by
    intro selection chosen taken
    rw [selecting selection chosen] at taken
    cases taken
  takesBlock := by simp [rotating]

theorem poised_activateFirst {p : Pipeline} (poised : Poised p) (nowUtcMs : Int) : Poised (activateFirst house p nowUtcMs) := by
  cases loaded : p.blocks.live with
  | none =>
    have next : activateFirst house p nowUtcMs =
        { p with phase := .preTake, seams := { p.seams with fenceEpochUtcMs := nowUtcMs } } := by
      simp [activateFirst, Pipeline.activateLive, loaded, resync]
    rw [next]
    exact ⟨poised.idle, poised.pending, by simp [Phase.starts], by simp [Phase.selection],
      by simp [Phase.rotating]⟩
  | some producer =>
    have seams : (activateFirst house p nowUtcMs).seams =
        resync house (activate house p.seams p.tick producer) nowUtcMs (some producer) := by
      simp [activateFirst, Pipeline.activateLive, loaded, Pipeline.activate, Pipeline.initCadence]
    have planned := producer.boundaries_length_le
    apply poised_of_fenced
    · simp [seams, resync]
    · rw [seams]
      exact pending_settle house (by simpa [activate, computeSegmentSeamFrames] using planned)
    · simp [activateFirst, Phase.starts]
    · simp [activateFirst, Phase.selection]
    · rfl

theorem poised_select {p : Pipeline} (poised : Poised p) (sampled : Sampled) (pops : PopOutcome) :
    Poised (select house p sampled pops) := by
  have seams := select_seams house p sampled pops
  rcases select_phase house p sampled pops with phase | phase | ⟨selection, phase, flags⟩
  · refine poised.move seams ?_ ?_ ?_ <;>
      simp [phase, Phase.starts, Phase.selection, Phase.rotating]
  · refine poised.move seams ?_ ?_ ?_ <;>
      simp [phase, Phase.starts, Phase.selection, Phase.rotating]
  · refine ⟨?_, ?_, by simp [phase, Phase.starts], ?_, ?_⟩
    · rw [seams]
      exact poised.idle
    · rw [seams]
      exact poised.pending
    · intro chosen same taken
      obtain rfl : selection = chosen := by simpa [phase, Phase.selection] using same
      rw [flags.2, Seams.takeSegment_iff] at taken
      rw [seams, flags.1]
      exact ⟨by simp [Seams.takeB, taken.2], taken.2⟩
    · intro chosen same taken
      obtain rfl : selection = chosen := by simpa [phase, Phase.rotating] using same
      rw [flags.1, Seams.takeB_iff] at taken
      rw [seams]
      exact taken.2

theorem poised_rotate {p : Pipeline} (poised : Poised p) {selection : Selection}
    (phase : p.phase = .rotate selection) (assets : AssetOutcome) :
    Poised (rotate house p selection assets) := by
  cases due : p.rotates selection with
  | false =>
    rw [rotate_of_not_rotates house due]
    refine poised.move rfl (by simp [Phase.starts]) ?_ (by simp [Phase.rotating])
    simp [phase, Phase.selection]
  | true =>
    rw [rotate_of_rotates house due]
    have taken : selection.takeB = true := by
      simp only [Pipeline.rotates, Bool.and_eq_true] at due
      exact due.1
    have exclusive := (poised.fenced_of_block phase taken).2
    have seams := rotated_seams house p selection assets
    have selecting : ∀ chosen, (p.rotated house selection assets).phase.selection = some chosen →
        chosen.takeSegment = false := by
      rcases rotated_phase house p selection assets with next | next <;>
        simp [next, Phase.selection, exclusive]
    have rotating : (p.rotated house selection assets).phase.rotating = none := by
      rcases rotated_phase house p selection assets with next | next <;> simp [next, Phase.rotating]
    have looping : ¬ (p.rotated house selection assets).phase.starts := by
      rcases rotated_phase house p selection assets with next | next <;> simp [next, Phase.starts]
    cases found : p.rotatesTo assets with
    | some producer =>
      rw [found] at seams
      apply poised_of_fenced
      · simp [seams]
      · rw [seams]
        exact pending_activate house p.seams p.tick producer
      · exact looping
      · exact selecting
      · exact rotating
    | none =>
      rw [found] at seams
      refine ⟨?_, ?_, fun start => absurd start looping, ?_, by simp [rotating]⟩
      · simp [seams, Seams.enterPaddedGap]
      · simp [seams, Seams.enterPaddedGap, Seams.Pending]
      · intro chosen same segment
        rw [selecting chosen same] at segment
        cases segment

theorem poised_segmentPostTake {p : Pipeline} (poised : Poised p) {selection : Selection}
    {peeked : Bool} (phase : p.phase = .segmentPostTake selection peeked)
    (readings : PostTakeReadings) :
    Poised (segmentPostTake house p selection peeked readings) := by
  have seams := segmentPostTake_seams house p selection peeked readings
  have next : (segmentPostTake house p selection peeked readings).phase = .loadNext := rfl
  by_cases swap : (selection.takeSegment && p.commits selection peeked readings) = true
  · rw [if_pos swap] at seams
    have fenced : p.seams.blockFenceFrame ≠ none := by
      refine poised.fenced_of_segment ?_ (Bool.and_eq_true_iff.mp swap).1
      simp [phase, Phase.selection]
    refine poised_of_fenced ?_ ?_ ?_ ?_ ?_
    · simpa [seams] using fenced
    · rw [seams]
      exact pending_rebase house p.seams p.tick
    · simp [next, Phase.starts]
    · simp [next, Phase.selection]
    · simp [next, Phase.rotating]
  · rw [if_neg swap] at seams
    refine poised.move seams ?_ ?_ ?_ <;>
      simp [next, Phase.starts, Phase.selection, Phase.rotating]

theorem poised_loadNext {p : Pipeline} (poised : Poised p) (assets : AssetOutcome) :
    Poised (loadNext house p assets) := by
  have seams := loadNext_seams house p assets
  have phases : ¬ (loadNext house p assets).phase.starts ∧
      (loadNext house p assets).phase.selection = none ∧
      (loadNext house p assets).phase.rotating = none := by
    rcases loadNext_phase house p assets with next | next <;>
      simp [next, Phase.starts, Phase.selection, Phase.rotating]
  cases loaded : p.loadsTo assets with
  | some producer =>
    rw [loaded] at seams
    refine poised_of_fenced ?_ ?_ phases.1 (by simp [phases.2.1]) phases.2.2
    · simp [seams]
    · rw [seams]
      exact pending_activate house p.seams p.tick producer
  | none =>
    rw [loaded] at seams
    exact poised.move seams (fun start => absurd start phases.1) (by simp [phases.2.1])
      (by simp [phases.2.2])

/-- **Every step keeps the poise.** -/
theorem poised_step {p next : Pipeline} {action : Action} (poised : Poised p)
    (taken : step house p action = some next) : Poised next := by
  cases stepped_of_step house taken with
  | feed | workerStart | workerFinish =>
    exact poised.move rfl (fun start => start) (fun _ same => same) (fun _ same => same)
  | loadFirst _ phase =>
    refine poised.move rfl (fun _ => .inl phase) ?_ ?_ <;>
      simp [loadFirst, Phase.selection, Phase.rotating]
  | activateFirst nowUtcMs => exact poised_activateFirst house poised nowUtcMs
  | preTake =>
    refine poised.move (preTake_seams house p) ?_ ?_ ?_ <;>
      simp [preTake, Phase.starts, Phase.selection, Phase.rotating]
  | sample =>
    refine poised.move rfl ?_ ?_ ?_ <;>
      simp [sample, Phase.starts, Phase.selection, Phase.rotating]
  | select pops sampled => exact poised_select house poised sampled pops
  | rotate assets _ phase => exact poised_rotate house poised phase assets
  | segmentPeek selection phase =>
    refine poised.move rfl ?_ ?_ ?_ <;>
      simp [segmentPeek, phase, Phase.starts, Phase.selection, Phase.rotating]
  | segmentPostTake readings selection peeked phase =>
    exact poised_segmentPostTake house poised phase readings
  | loadNext assets => exact poised_loadNext house poised assets
  | startKickoff phase =>
    refine poised.move rfl (fun _ => .inr (.inl phase)) ?_ ?_ <;>
      simp [Phase.selection, Phase.rotating]
  | rotateKickoff selection phase =>
    refine poised.move rfl ?_ ?_ ?_ <;>
      simp [phase, Phase.starts, Phase.selection, Phase.rotating]
  | loadKickoff | endKickoff =>
    refine poised.move rfl ?_ ?_ ?_ <;> simp [Phase.starts, Phase.selection, Phase.rotating]

end Poise

end Retrovue.Air.Blockplan
