/-
**The gate of the fill loop** (`blockplan/VideoLookaheadBuffer.cpp`).

* `FillGate`: the depth of the buffer, its marks, the phase, and where the one fill thread is between the
  top of its loop and its push;
* `GateAction`, `FillGate.step`: the decisions of the thread, each under the reads it makes, the pops of
  the tick loop and its bootstrap calls; what the audio buffer shows is the environment's;
* `slips`: a wait ends by its timeout, or audio that has woken the thread has recovered when it looks
  again; `Gated`: but for these the depth is within the target and the bootstrap caps, and nothing was
  dropped; `gated_of_run`: so in every run;
* `overfilled_of_timeouts`: a parked thread whose waits time out does fill the buffer to the hard cap, a
  frame for each, and drops one for each from then on.

The comments of the loop say that the wait of the steady state has no timeout.
-/

import Retrovue.Air.Blockplan.VideoLookahead

namespace Retrovue.Air.Blockplan

open Retrovue.Foundation.Transition

/-! ### The gate -/

section Gate

/-- What the audio buffer shows: `DepthMs` and `LowWaterMs`. -/
structure AudioView where
  depthMs : ℤ
  lowWaterMs : ℤ
  deriving DecidableEq, Repr

/-- Audio is there and below its low-water mark. -/
def audioLow (audio : Option AudioView) : Bool :=
  audio.any fun view => decide (view.depthMs < view.lowWaterMs)

/-- `wake_reason`; a wait that times out has none. -/
inductive WakeReason
  | space
  | bootstrap
  | audioLiveness
  | timedOut
  deriving DecidableEq, Repr

/-- Where the fill thread is: at the top of its loop, past the read of the phase, before the wait, in it
(with the phase as it was read), behind it, past the gate, or gone. -/
inductive GateStage
  | top
  | looked (isBootstrap : Bool)
  | parking
  | parked (inBootstrap : Bool)
  | woken (reason : WakeReason)
  | decided (dropVideo : Bool)
  | exited
  deriving DecidableEq, Repr

/-- What the gate reads and writes. -/
structure FillGate where
  targetDepthFrames : ℕ
  depth : ℕ := 0
  dropsTotal : ℕ := 0
  inBootstrap : Bool := false
  bootstrapTargetFrames : ℕ := 0
  bootstrapCapFrames : ℕ := 60
  bootstrapMinAudioMs : ℤ := 500
  steadyFilling : Bool := true
  skipWaitLatch : Bool := true
  decodeContinuedForAudio : ℕ := 0
  stage : GateStage := .top
  deriving DecidableEq, Repr

/-- What happens. -/
inductive GateAction
  | look
  | check
  | park
  | wake (audio : Option AudioView)
  | timeout (audio : Option AudioView)
  | mark (audio : Option AudioView)
  | cycle
  | exit
  | pop
  | enterBootstrap (target cap : ℕ) (minAudioMs : ℤ)
  | endBootstrap
  deriving DecidableEq, Repr

namespace FillGate

/-- `hard_cap_frames_`. -/
def hardCapFrames (s : FillGate) : ℕ := computeHardCap s.targetDepthFrames

/-- The decision before the wait, under the phase that was read: `skip_wait`, and the change to PARKED. -/
def check (s : FillGate) (isBootstrap : Bool) : FillGate :=
  let below := decide (s.depth < s.targetDepthFrames)
  let skip := s.skipWaitLatch && below && s.steadyFilling
  { s with
    steadyFilling := s.steadyFilling && (isBootstrap || below)
    stage := if skip then .decided false else .parking }

/-- The predicate of the wait in bootstrap. -/
def bootstrapReason (s : FillGate) (audio : Option AudioView) : Option WakeReason :=
  if s.hardCapFrames ≤ s.depth then none
  else if s.bootstrapCapFrames ≤ s.depth then none
  else if s.depth < s.bootstrapTargetFrames then some .bootstrap
  else if audio.any fun view => decide (view.depthMs < s.bootstrapMinAudioMs) then some .bootstrap
  else none

/-- The predicate of the wait in the steady state. -/
def steadyReason (s : FillGate) (audio : Option AudioView) : Option WakeReason :=
  if s.depth < s.targetDepthFrames then some .space
  else if s.depth < s.hardCapFrames ∧ audioLow audio then some .audioLiveness
  else none

/-- The predicate of the wait that the thread is in. -/
def reason (s : FillGate) (inBootstrap : Bool) (audio : Option AudioView) : Option WakeReason :=
  if inBootstrap then s.bootstrapReason audio else s.steadyReason audio

/-- A frame enters: at the hard cap the oldest go first. -/
def push (s : FillGate) : FillGate :=
  { s with
    depth := min s.depth (s.hardCapFrames - 1) + 1
    dropsTotal := s.dropsTotal + (s.depth - (s.hardCapFrames - 1)) }

/-- A step. -/
def step (s : FillGate) : GateAction → Option FillGate
  | .look =>
    if s.stage = .top then
      some { s with
        skipWaitLatch := s.skipWaitLatch && s.inBootstrap
        stage := .looked s.inBootstrap }
    else none
  | .check =>
    match s.stage with
    | .looked isBootstrap => some (s.check isBootstrap)
    | _ => none
  | .park =>
    if s.stage = .parking then some { s with stage := .parked s.inBootstrap } else none
  | .wake audio =>
    match s.stage with
    | .parked inBootstrap =>
      (s.reason inBootstrap audio).map fun reason =>
        { s with
          steadyFilling := s.steadyFilling || decide (reason = .space)
          stage := .woken reason }
    | _ => none
  | .timeout audio =>
    match s.stage with
    | .parked inBootstrap =>
      if s.reason inBootstrap audio = none then some { s with stage := .woken .timedOut } else none
    | _ => none
  | .mark audio =>
    match s.stage with
    | .woken _ =>
      some { s with
        stage := .decided (decide (s.targetDepthFrames ≤ s.depth) && audioLow audio) }
    | _ => none
  | .cycle =>
    match s.stage with
    | .decided true =>
      some { s with decodeContinuedForAudio := s.decodeContinuedForAudio + 1, stage := .top }
    | .decided false => some { s.push with stage := .top }
    | _ => none
  | .exit => some { s with stage := .exited }
  | .pop => if s.depth = 0 then none else some { s with depth := s.depth - 1 }
  | .enterBootstrap target cap minAudioMs =>
    some { s with
      bootstrapTargetFrames := target
      bootstrapCapFrames := min cap s.hardCapFrames
      bootstrapMinAudioMs := minAudioMs
      inBootstrap := true }
  | .endBootstrap => some { s with inBootstrap := false }

end FillGate

end Gate

/-! ### Within the marks -/

section Marks

theorem target_lt_hardCap (target : ℕ) : target < computeHardCap target := by
  unfold computeHardCap
  split_ifs <;> omega

namespace FillGate

/-- A slip of the gate: a wait that ends by its timeout, or audio that has woken the thread and is no
longer low when it looks again. -/
def slips (s : FillGate) : GateAction → Bool
  | .timeout _ => true
  | .mark audio =>
    decide (s.stage = .woken .audioLiveness) && decide (s.targetDepthFrames ≤ s.depth) && !audioLow audio
  | _ => false

/-- The slips of a run. -/
def slipsOf : FillGate → List GateAction → ℕ
  | _, [] => 0
  | s, action :: rest =>
    (s.slips action).toNat + (s.step action).elim 0 fun next => slipsOf next rest

/-- The caps of the bootstrap calls are at most `cap`. -/
def CapWithin (cap : ℕ) : GateAction → Prop
  | .enterBootstrap _ asked _ => asked ≤ cap
  | _ => True

instance (cap : ℕ) : DecidablePred (CapWithin cap)
  | .enterBootstrap _ asked _ => inferInstanceAs (Decidable (asked ≤ cap))
  | .look | .check | .park | .wake _ | .timeout _ | .mark _ | .cycle | .exit | .pop | .endBootstrap =>
    inferInstanceAs (Decidable True)

/-- What is there and what was dropped, with `pending` more, is within the marks and the slips. -/
structure Within (cap slipped pending : ℕ) (s : FillGate) : Prop where
  depth : s.depth + s.dropsTotal + pending ≤ max s.targetDepthFrames cap + slipped
  drops : s.dropsTotal + pending ≤ slipped

/-- A frame may be pushed: within the marks, or for a slip. -/
def Ready (cap slipped : ℕ) (s : FillGate) : Prop :=
  (s.depth < max s.targetDepthFrames cap ∧ s.depth < s.hardCapFrames) ∨ s.Within cap slipped 1

/-- What the stage of the thread shows of the frame that it is about to push. -/
def StageReady (cap slipped : ℕ) (s : FillGate) : Prop :=
  match s.stage with
  | .woken .audioLiveness => True
  | .woken _ => s.Ready cap slipped
  | .decided false => s.Ready cap slipped
  | _ => True

/-- **Within the marks**: but for the slips, the depth is within the target and the caps, and nothing was
dropped. -/
structure Gated (cap slipped : ℕ) (s : FillGate) : Prop where
  within : s.Within cap slipped 0
  bounded : s.depth ≤ s.hardCapFrames
  capped : s.inBootstrap = true ∨ s.stage = .parked true →
    s.bootstrapCapFrames ≤ cap ∧ s.bootstrapCapFrames ≤ s.hardCapFrames
  ready : s.StageReady cap slipped

variable {cap slipped : ℕ} {s next : FillGate}

/-- Below the target a frame may be pushed. -/
theorem ready_of_below (below : s.depth < s.targetDepthFrames) : s.Ready cap slipped :=
  .inl ⟨lt_of_lt_of_le below (le_max_left _ _), below.trans (target_lt_hardCap _)⟩

/-- A slip leaves a frame to push. -/
theorem Within.slip (within : s.Within cap slipped 0) : s.Within cap (slipped + 1) 1 :=
  ⟨Nat.succ_le_succ within.depth, Nat.succ_le_succ within.drops⟩

/-- A wait that ends by its predicate, other than for audio, ends where a frame may be pushed. -/
theorem Gated.ready_of_reason (gated : s.Gated cap slipped) {inBootstrap : Bool}
    {audio : Option AudioView} {reason : WakeReason} (parked : s.stage = .parked inBootstrap)
    (woken : s.reason inBootstrap audio = some reason) :
    reason = .audioLiveness ∨ s.Ready cap slipped := by
  unfold FillGate.reason at woken
  cases inBootstrap with
  | true =>
    rw [if_pos rfl] at woken
    have capped := gated.capped (.inr parked)
    unfold bootstrapReason at woken
    split_ifs at woken with full atCap
    all_goals
      exact .inr (.inl ⟨lt_of_lt_of_le (by omega) (le_max_of_le_right capped.1), by omega⟩)
  | false =>
    rw [if_neg nofun] at woken
    unfold steadyReason at woken
    split_ifs at woken with below
    · exact .inr (ready_of_below below)
    · cases woken
      exact .inl rfl

/-- A depth that has not grown is as ready as it was. -/
theorem Ready.shrink (ready : s.Ready cap slipped)
    (target : next.targetDepthFrames = s.targetDepthFrames) (drops : next.dropsTotal = s.dropsTotal)
    (depth : next.depth ≤ s.depth) : next.Ready cap slipped := by
  rcases ready with ⟨within, capped⟩ | ⟨within, dropped⟩
  · unfold hardCapFrames at capped
    rw [← target] at within capped
    exact .inl ⟨lt_of_le_of_lt depth within, lt_of_le_of_lt depth capped⟩
  · rw [← target, ← drops] at within
    rw [← drops] at dropped
    exact .inr ⟨by omega, dropped⟩

/-- More slips leave what was ready as it was. -/
theorem Ready.mono (ready : s.Ready cap slipped) (more : ℕ) : s.Ready cap (slipped + more) :=
  ready.imp id fun ⟨depth, drops⟩ => ⟨by omega, by omega⟩

theorem StageReady.shrink (ready : s.StageReady cap slipped) (stage : next.stage = s.stage)
    (target : next.targetDepthFrames = s.targetDepthFrames) (drops : next.dropsTotal = s.dropsTotal)
    (depth : next.depth ≤ s.depth) : next.StageReady cap slipped := by
  unfold StageReady at *
  rw [stage]
  split at ready
  · trivial
  · exact ready.shrink target drops depth
  · exact ready.shrink target drops depth
  · trivial

/-- **A push that is ready** keeps what is there and what was dropped within the marks and the slips. -/
theorem Gated.push (gated : s.Gated cap slipped) (ready : s.Ready cap slipped) :
    s.push.Within cap slipped 0 := by
  have positive : 0 < s.hardCapFrames := computeHardCap_pos s.targetDepthFrames
  have bounded := gated.bounded
  have ⟨within, drops⟩ := gated.within
  have depth : s.push.depth = min s.depth (s.hardCapFrames - 1) + 1 := rfl
  have dropped : s.push.dropsTotal = s.dropsTotal + (s.depth - (s.hardCapFrames - 1)) := rfl
  have target : s.push.targetDepthFrames = s.targetDepthFrames := rfl
  constructor
  · rw [depth, dropped, target]
    rcases ready with ⟨free, below⟩ | ⟨free, below⟩ <;> omega
  · rw [dropped]
    rcases ready with ⟨free, below⟩ | ⟨free, below⟩ <;> omega

/-- No push exceeds the hard cap. -/
theorem push_bounded (s : FillGate) : s.push.depth ≤ s.hardCapFrames := by
  have positive : 0 < s.hardCapFrames := computeHardCap_pos s.targetDepthFrames
  show min s.depth (s.hardCapFrames - 1) + 1 ≤ s.hardCapFrames
  omega

/-- **The mark**: the frame is dropped, or ready to be pushed, or audio that has recovered is a slip. -/
theorem Gated.ready_of_mark (gated : s.Gated cap slipped) {reason : WakeReason}
    {audio : Option AudioView} (woken : s.stage = .woken reason)
    (keeps : (decide (s.targetDepthFrames ≤ s.depth) && audioLow audio) = false) :
    s.Ready cap (slipped + (s.slips (.mark audio)).toNat) := by
  by_cases full : s.targetDepthFrames ≤ s.depth
  · have fed : audioLow audio = false := by rwa [decide_eq_true full, Bool.true_and] at keeps
    have ready := gated.ready
    unfold StageReady at ready
    rw [woken] at ready
    cases reason with
    | audioLiveness =>
      have slip : s.slips (.mark audio) = true := by
        simp only [slips, woken, full, fed, decide_true, Bool.not_false, Bool.and_self]
      rw [slip]
      exact .inr gated.within.slip
    | timedOut | space | bootstrap => exact ready.mono _
  · exact ready_of_below (not_le.mp full)

/-- **One step** keeps the buffer within the marks and the slips. -/
theorem gated_step {action : GateAction} (gated : s.Gated cap slipped) (asked : CapWithin cap action)
    (taken : s.step action = some next) : next.Gated cap (slipped + (s.slips action).toNat) := by
  have ⟨⟨depth, drops⟩, bounded, capped, ready⟩ := gated
  cases action with
  | look =>
    obtain ⟨-, rfl⟩ := Option.ite_some_none_eq_some.mp taken
    exact ⟨⟨depth, drops⟩, bounded, fun bootstrap => capped (.inl (bootstrap.resolve_right nofun)), trivial⟩
  | check =>
    simp only [step] at taken
    split at taken
    · obtain rfl := Option.some.inj taken
      refine ⟨⟨depth, drops⟩, bounded, fun bootstrap => capped (.inl (bootstrap.resolve_right ?_)), ?_⟩
      · unfold FillGate.check
        dsimp only
        split_ifs <;> nofun
      · unfold StageReady FillGate.check
        dsimp only
        split_ifs with skip
        · simp only [Bool.and_eq_true, decide_eq_true_eq] at skip
          exact ready_of_below skip.1.2
        · trivial
    · cases taken
  | park =>
    obtain ⟨-, rfl⟩ := Option.ite_some_none_eq_some.mp taken
    refine ⟨⟨depth, drops⟩, bounded, fun bootstrap => capped (.inl ?_), trivial⟩
    rcases bootstrap with phase | stage
    · exact phase
    · exact GateStage.parked.inj stage
  | wake audio =>
    simp only [step] at taken
    split at taken
    · rename_i inBootstrap parked
      obtain ⟨reason, woken, rfl⟩ := Option.map_eq_some_iff.mp taken
      refine ⟨⟨depth, drops⟩, bounded, fun bootstrap => capped (.inl (bootstrap.resolve_right nofun)), ?_⟩
      rcases gated.ready_of_reason parked woken with rfl | ready
      · trivial
      · cases reason with
        | audioLiveness => trivial
        | space | bootstrap | timedOut => exact ready.shrink rfl rfl le_rfl
    · cases taken
  | timeout audio =>
    simp only [step] at taken
    split at taken
    · obtain ⟨-, rfl⟩ := Option.ite_some_none_eq_some.mp taken
      exact ⟨⟨Nat.le_succ_of_le depth, Nat.le_succ_of_le drops⟩, bounded,
        fun bootstrap => capped (.inl (bootstrap.resolve_right nofun)),
        Ready.shrink (.inr gated.within.slip) rfl rfl le_rfl⟩
    · cases taken
  | mark audio =>
    simp only [step] at taken
    split at taken
    · rename_i reason woken
      obtain rfl := Option.some.inj taken
      refine ⟨⟨depth.trans (Nat.add_le_add_left (Nat.le_add_right _ _) _),
        drops.trans (Nat.le_add_right _ _)⟩, bounded, fun bootstrap => capped (.inl (bootstrap.resolve_right nofun)), ?_⟩
      unfold StageReady
      split
      · rename_i same
        cases same
      · rename_i _ same
        cases same
      · rename_i keeps
        exact (gated.ready_of_mark woken (GateStage.decided.inj keeps)).shrink rfl rfl le_rfl
      · trivial
    · cases taken
  | cycle =>
    simp only [step] at taken
    split at taken
    · obtain rfl := Option.some.inj taken
      exact ⟨⟨depth, drops⟩, bounded, fun bootstrap => capped (.inl (bootstrap.resolve_right nofun)), trivial⟩
    · rename_i decided
      obtain rfl := Option.some.inj taken
      unfold StageReady at ready
      rw [decided] at ready
      have ⟨pushed, dropped⟩ := gated.push ready
      exact ⟨⟨pushed, dropped⟩, s.push_bounded,
        fun bootstrap => capped (.inl (bootstrap.resolve_right nofun)), trivial⟩
    · cases taken
  | exit =>
    obtain rfl := Option.some.inj taken
    exact ⟨⟨depth, drops⟩, bounded, fun bootstrap => capped (.inl (bootstrap.resolve_right nofun)), trivial⟩
  | pop =>
    obtain ⟨-, taken⟩ := Option.ite_none_left_eq_some.mp taken
    obtain rfl := Option.some.inj taken
    refine ⟨⟨?_, drops⟩, (Nat.sub_le _ _).trans bounded, capped,
      ready.shrink rfl rfl rfl (Nat.sub_le _ _)⟩
    exact (Nat.add_le_add_right (Nat.add_le_add_right (Nat.sub_le _ _) _) _).trans depth
  | enterBootstrap target cap minAudioMs =>
    obtain rfl := Option.some.inj taken
    exact ⟨⟨depth, drops⟩, bounded, fun _ => ⟨(min_le_left _ _).trans asked, min_le_right _ _⟩,
      ready.shrink rfl rfl rfl le_rfl⟩
  | endBootstrap =>
    obtain rfl := Option.some.inj taken
    exact ⟨⟨depth, drops⟩, bounded, fun bootstrap => capped (.inr (bootstrap.resolve_left nofun)),
      ready.shrink rfl rfl rfl le_rfl⟩

/-- The gate of a thread that has just started, behind the frames that were there. -/
def started (target depth : ℕ) : FillGate := { targetDepthFrames := target, depth := depth }

/-- No step changes the target. -/
theorem target_of_step {action : GateAction} (taken : s.step action = some next) :
    next.targetDepthFrames = s.targetDepthFrames := by
  cases action <;> simp only [step] at taken
  case wake =>
    split at taken
    · obtain ⟨-, -, rfl⟩ := Option.map_eq_some_iff.mp taken
      rfl
    · cases taken
  all_goals (repeat' split at taken) <;> cases taken <;> rfl

/-- **A run** keeps the buffer within the marks and its slips. -/
theorem gated_along {actions : List GateAction} {final : FillGate} (gated : s.Gated cap slipped)
    (asked : ∀ action ∈ actions, CapWithin cap action)
    (ran : runActions step s actions = some final) :
    final.Gated cap (slipped + s.slipsOf actions) ∧ final.targetDepthFrames = s.targetDepthFrames := by
  induction actions generalizing s slipped with
  | nil =>
    obtain rfl := Option.some.inj ran
    exact ⟨gated, rfl⟩
  | cons action rest ih =>
    obtain ⟨next, taken, ran⟩ := (runActions_cons_some step).mp ran
    have ⟨here, later⟩ := List.forall_mem_cons.mp asked
    have ⟨kept, same⟩ := ih (gated_step gated here taken) later ran
    refine ⟨?_, same.trans (target_of_step taken)⟩
    unfold slipsOf
    rw [taken, Option.elim_some, ← Nat.add_assoc]
    exact kept

/-- **The gate keeps the buffer within the marks, but for its slips**: with at most the target in it at
the start, the depth exceeds the target and the caps that the bootstrap calls ask for by at most one frame
for each slip, and no more frames are dropped than there were slips. -/
theorem gated_of_run {target depth : ℕ} {actions : List GateAction} {final : FillGate}
    (primed : depth ≤ target) (asked : ∀ action ∈ actions, CapWithin cap action)
    (ran : runActions step (started target depth) actions = some final) :
    final.depth + final.dropsTotal ≤ max target cap + (started target depth).slipsOf actions ∧
      final.dropsTotal ≤ (started target depth).slipsOf actions := by
  have first : (started target depth).Gated cap 0 :=
    ⟨⟨le_max_of_le_left primed, le_rfl⟩, primed.trans (target_lt_hardCap target).le,
      fun bootstrap => bootstrap.elim nofun nofun, trivial⟩
  have ⟨⟨within, _, _, _⟩, same⟩ := gated_along first asked ran
  have ⟨depths, drops⟩ := within
  rw [same, Nat.zero_add] at depths
  rw [Nat.zero_add] at drops
  exact ⟨depths, drops⟩

/-- One frame is pushed in bootstrap, two more up to its cap while audio is low, and one is popped. -/
def primingRun : List GateAction :=
  [.enterBootstrap 2 3 500, .look, .check, .cycle, .look, .check, .park, .wake none, .mark none, .cycle,
    .look, .check, .park, .wake (some ⟨0, 100⟩), .mark (some ⟨200, 100⟩), .cycle, .endBootstrap, .pop]

theorem gated_of_primingRun : ∃ final : FillGate,
    runActions step (started 1 0) primingRun = some final ∧
      final.depth + final.dropsTotal ≤ max 1 3 + (started 1 0).slipsOf primingRun ∧
      final.dropsTotal ≤ (started 1 0).slipsOf primingRun := by
  obtain ⟨final, ran, -⟩ := exists_run step (started 1 0) primingRun (fun _ => True) (by decide)
  exact ⟨final, ran, gated_of_run (Nat.zero_le _) (by decide) ran⟩

end FillGate

end Marks

/-! ### Waits that time out -/

section Timeouts

namespace FillGate

/-- A round of a thread whose wait times out while nothing is popped. -/
def idleRound (audio : Option AudioView) : List GateAction :=
  [.timeout audio, .mark audio, .cycle, .look, .check, .park]

/-- **Parked with the buffer full**: in the wait of the steady state, at the target or above. -/
structure Idle (s : FillGate) : Prop where
  parked : s.stage = .parked false
  steady : s.inBootstrap = false
  full : s.targetDepthFrames ≤ s.depth
  capped : s.depth ≤ s.hardCapFrames

variable {s : FillGate} {audio : Option AudioView}

/-- The state after such a round. -/
def afterRound (s : FillGate) : FillGate :=
  { s.push with skipWaitLatch := false, steadyFilling := false, stage := .parked false }

/-- A parked thread whose audio is not low has nothing to wake for. -/
theorem Idle.sleeps (idle : s.Idle) (fed : audioLow audio = false) : s.reason false audio = none := by
  unfold FillGate.reason steadyReason
  rw [if_neg nofun, if_neg (not_lt.mpr idle.full), if_neg]
  rw [fed]
  exact fun low => nomatch low.2

theorem Idle.push_depth (idle : s.Idle) : s.push.depth = min (s.depth + 1) s.hardCapFrames := by
  have positive : 0 < s.hardCapFrames := computeHardCap_pos s.targetDepthFrames
  have capped := idle.capped
  show min s.depth (s.hardCapFrames - 1) + 1 = _
  omega

/-- The push leaves the buffer full. -/
theorem Idle.push_full (idle : s.Idle) : s.targetDepthFrames ≤ s.push.depth := by
  rw [idle.push_depth]
  exact le_min (idle.full.trans (Nat.le_succ _)) (target_lt_hardCap _).le

/-- **One round of timing out** pushes a frame, and the thread is parked again. -/
theorem Idle.round (idle : s.Idle) (fed : audioLow audio = false) :
    runActions step s (idleRound audio) = some s.afterRound := by
  have timedOut : s.step (.timeout audio) = some { s with stage := .woken .timedOut } := by
    simp only [step, idle.parked]
    rw [if_pos (idle.sleeps fed)]
  have marked : ({ s with stage := .woken .timedOut } : FillGate).step (.mark audio) =
      some { s with stage := .decided false } := by
    simp only [step, fed, Bool.and_false]
  have pushed : ({ s with stage := .decided false } : FillGate).step .cycle =
      some { s.push with stage := .top } := rfl
  have looked : ({ s.push with stage := .top } : FillGate).step .look =
      some { s.push with skipWaitLatch := false, stage := .looked false } := by
    simp only [step, push, idle.steady, Bool.and_false]
    rfl
  have checked : ({ s.push with skipWaitLatch := false, stage := .looked false } : FillGate).step
      .check =
      some { s.afterRound with stage := .parking } := by
    have full : decide (s.push.depth < s.push.targetDepthFrames) = false :=
      decide_eq_false (not_lt.mpr idle.push_full)
    simp only [step, FillGate.check, full, Bool.and_false, Bool.or_false, Bool.false_and]
    rfl
  have waits : ({ s.afterRound with stage := .parking } : FillGate).step .park =
      some s.afterRound := by
    simp only [step, push, afterRound, idle.steady]
    rfl
  simp only [idleRound, runActions_cons, timedOut, marked, pushed, looked, checked, waits,
    Option.bind_some, runActions_nil]

/-- The thread is parked with the buffer full again. -/
theorem Idle.afterRound (idle : s.Idle) : s.afterRound.Idle :=
  ⟨rfl, idle.steady, idle.push_full, idle.push_depth.trans_le (min_le_right _ _)⟩

/-- **Waits that time out overfill the buffer**: with nothing popped, each adds a frame, up to the hard
cap and no further, and from then on each drops the oldest frame. -/
theorem overfilled_of_timeouts (audios : List (Option AudioView)) (idle : s.Idle)
    (fed : ∀ audio ∈ audios, audioLow audio = false) :
    ∃ final, runActions step s (audios.flatMap idleRound) = some final ∧ final.Idle ∧
      final.depth = min (s.depth + audios.length) s.hardCapFrames ∧
      final.dropsTotal = s.dropsTotal + (s.depth + audios.length - s.hardCapFrames) := by
  induction audios generalizing s with
  | nil =>
    have capped := idle.capped
    refine ⟨s, rfl, idle, (min_eq_left capped).symm, ?_⟩
    simp only [List.length_nil, Nat.add_zero]
    omega
  | cons audio rest ih =>
    have ⟨quiet, quiets⟩ := List.forall_mem_cons.mp fed
    obtain ⟨final, ran, parked, depth, drops⟩ := ih idle.afterRound quiets
    have capped := idle.capped
    have positive : 0 < s.hardCapFrames := computeHardCap_pos s.targetDepthFrames
    have pushed : s.afterRound.depth = min (s.depth + 1) s.hardCapFrames := idle.push_depth
    have dropped : s.afterRound.dropsTotal = s.dropsTotal + (s.depth - (s.hardCapFrames - 1)) := rfl
    have cap : s.afterRound.hardCapFrames = s.hardCapFrames := rfl
    refine ⟨final, ?_, parked, ?_, ?_⟩
    · rw [List.flatMap_cons, runActions_append, idle.round quiet, Option.bind_some]
      exact ran
    · rw [depth, pushed, cap, List.length_cons]
      omega
    · rw [drops, dropped, pushed, cap, List.length_cons]
      omega

/-- A parked thread whose buffer, with a target of two frames, is two below the hard cap. -/
def parkedNearCap : FillGate := { targetDepthFrames := 2, depth := 198, stage := .parked false }

theorem parkedNearCap_idle : parkedNearCap.Idle :=
  ⟨rfl, rfl, show 2 ≤ 198 by decide, show 198 ≤ computeHardCap 2 by decide⟩

/-- Four waits that time out fill it to the cap, and drop two frames. -/
theorem overfilled_of_fourTimeouts : ∃ final,
    runActions step parkedNearCap ([none, none, none, none].flatMap idleRound) = some final ∧
      final.Idle ∧ final.depth = min (198 + 4) 200 ∧ final.dropsTotal = 0 + (198 + 4 - 200) :=
  overfilled_of_timeouts [none, none, none, none] parkedNearCap_idle (by decide)

end FillGate

end Timeouts

end Retrovue.Air.Blockplan
