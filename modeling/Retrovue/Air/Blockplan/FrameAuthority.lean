/-
**INV-AUTHORITY-ATOMIC-FRAME-TRANSFER-001: the emitted frame and the active segment.**

* `Pipeline.reuses`: a tick that emits the last good frame again; `Pipeline.swapReady`: the second
  reading of the incoming segment still lets it swap;
* `AuthorityKept`: the condition on a step. A tick reuses only a frame of the current segment, and a
  frame popped through the `v_src` gate is followed by its swap;
* `Sourced`: the four ways a selection and the active segment agree;
* `authority_held`: in every run whose steps meet the condition, every authority check passes;
* `incoming_frame_outlives_eligibility`: a frame of the incoming segment, and no swap.
-/

import Mathlib
import Retrovue.Air.Blockplan.SegmentChain

namespace Retrovue.Air.Blockplan

open Retrovue.Foundation.Transition

variable (house : RationalFps)

/-! ### The condition on a step -/

section Condition

/-- The tick emits the last good frame again: a cadence repeat, or a segment TAKE without a frame
of its own. -/
def Pipeline.reuses (p : Pipeline) (sampled : Sampled) (pops : PopOutcome) : Bool :=
  !p.padSeam && !(sampled.overrideWanted && p.frames.segmentB.isSome && pops.segmentB) &&
    p.frames.hasLastGoodVideoFrame &&
    (p.repeats sampled ||
      (p.seams.takeSegment p.tick && !(sampled.source != .none && pops.source) &&
        !(p.block.isPadAt p.seams.currentSegmentIndex && p.block.fadesInAt p.toSeg)))

/-- The last good frame is of no known segment, or of the current one. -/
def Pipeline.lastGoodCurrent (p : Pipeline) : Prop :=
  p.frames.lastGoodOriginSegment < 0 ∨
    p.frames.lastGoodOriginSegment = p.seams.currentSegmentIndex

instance (p : Pipeline) : Decidable p.lastGoodCurrent := inferInstanceAs (Decidable (_ ∨ _))

/-- The incoming segment may swap at the second reading: it is eligible, or it has a frame and the
active segment has none. -/
def Pipeline.swapReady (p : Pipeline) (readings : PostTakeReadings) : Bool :=
  match p.incoming readings.incoming with
  | none => false
  | some incoming =>
    incoming.eligible || forceForFrameAuthority readings.activeVideoDepth incoming

/-- The frame was popped from the segment-B chain through the `v_src` gate. -/
def Selection.readsIncoming (selection : Selection) (toSeg : Nat) : Bool :=
  selection.takeSegment && selection.decision == .contentA && !selection.contentSeamOverride &&
    selection.frameOriginSegmentId == toSeg

/-- What a tick has read before its selection. -/
def Phase.sampled : Phase → Option Sampled
  | .select sampled => some sampled
  | _ => none

/-- A step keeps the frame authority. -/
def AuthorityKept (p : Pipeline) : Action → Prop
  | .select pops =>
    ∀ sampled ∈ p.phase.sampled, p.seams.takeB p.tick = false →
      (p.ensured sampled.peeked).reuses sampled pops = true → p.lastGoodCurrent
  | .segmentPostTake readings =>
    ∀ entry ∈ p.phase.postTaking, entry.1.readsIncoming p.toSeg = true →
      (p.ensured entry.2).swapReady readings = true
  | _ => True

instance (p : Pipeline) (action : Action) : Decidable (AuthorityKept p action) :=
  Action.casesOn (motive := fun action => Decidable (AuthorityKept p action)) action
    (fun _ => inferInstanceAs (Decidable True)) (inferInstanceAs (Decidable True))
    (fun _ => inferInstanceAs (Decidable True)) (fun _ => inferInstanceAs (Decidable True))
    (fun _ => inferInstanceAs (Decidable True)) (inferInstanceAs (Decidable True))
    (fun _ => inferInstanceAs (Decidable True))
    -- `select`
    (fun pops => inferInstanceAs (Decidable (∀ sampled ∈ p.phase.sampled,
      p.seams.takeB p.tick = false →
        (p.ensured sampled.peeked).reuses sampled pops = true → p.lastGoodCurrent)))
    (fun _ => inferInstanceAs (Decidable True)) (inferInstanceAs (Decidable True))
    -- `segmentPostTake`
    (fun readings => inferInstanceAs (Decidable (∀ entry ∈ p.phase.postTaking,
      entry.1.readsIncoming p.toSeg = true → (p.ensured entry.2).swapReady readings = true)))
    (fun _ => inferInstanceAs (Decidable True)) (inferInstanceAs (Decidable True))

end Condition

/-! ### Selections and the active segment -/

section Sourcing

/-- What a tick has read agrees with its seam. -/
structure Pipeline.SampledAt (p : Pipeline) (sampled : Sampled) : Prop where
  incoming : sampled.source = .segmentB → p.seams.takeSegment p.tick = true
  source : p.seams.takeB p.tick = false → sampled.source = .live ∨ sampled.source = .segmentB
  override : sampled.overrideWanted = true → p.seams.takeSegment p.tick = true

theorem sampledAt_sample (p : Pipeline) (readings : SampleReadings) :
    p.SampledAt
      { source := p.videoSource readings.incoming
        overrideWanted := p.overrideWanted readings.aDepth
        aPrimed := readings.aPrimed
        peeked := p.overrideWanted readings.aDepth && p.ensurePeek } where
  incoming := by
    intro same
    by_contra other
    have none : p.seams.takeSegment p.tick = false := by simpa using other
    simp only [Pipeline.videoSource, none, Bool.false_and, Bool.false_eq_true, if_false] at same
    split_ifs at same
  source := by
    intro block
    dsimp only
    unfold Pipeline.videoSource
    simp only [block, Bool.false_eq_true, if_false]
    split
    · split
      · exact .inl rfl
      · split
        · exact .inr rfl
        · exact .inl rfl
    · exact .inl rfl
  override := by
    intro wanted
    simp only [Pipeline.overrideWanted, Bool.and_eq_true] at wanted
    exact wanted.1.1.1

/-- Where a frame comes from, seen from the swap decision of its tick. -/
inductive Sourced (p : Pipeline) (selection : Selection) : Prop
  /-- No origin, or the active segment, and no swap is forced by the selection. -/
  | active
      (origin : selection.frameOriginSegmentId < 0 ∨
        selection.frameOriginSegmentId = p.seams.currentSegmentIndex)
      (pad : selection.forceForPadSeam = false)
      (content : selection.forceForContentSeam = false)
  /-- The incoming pad, with its forced swap. -/
  | padded (origin : selection.frameOriginSegmentId = p.toSeg)
      (taken : selection.takeSegment = true) (incoming : p.block.isPadAt p.toSeg = true)
      (forced : selection.forceForPadSeam = true)
  /-- The incoming content in place of an empty pad, with its forced swap. -/
  | overriding (origin : selection.frameOriginSegmentId = p.toSeg)
      (taken : selection.takeSegment = true) (incoming : p.frames.segmentB.isSome = true)
      (forced : selection.forceForContentSeam = true)
  /-- The incoming content through the `v_src` gate. -/
  | gated (origin : selection.frameOriginSegmentId = p.toSeg)
      (taken : selection.takeSegment = true)
      (reads : selection.readsIncoming p.toSeg = true)

/-- The same seams, and no segment-B chain lost. -/
theorem Sourced.congr {p next : Pipeline} {selection : Selection} (sourced : Sourced p selection)
    (seams : next.seams = p.seams)
    (held : p.frames.segmentB.isSome = true → next.frames.segmentB.isSome = true) :
    Sourced next selection := by
  have toSeg : next.toSeg = p.toSeg := by rw [Pipeline.toSeg, seams, ← Pipeline.toSeg]
  have block : next.block = p.block := by rw [Pipeline.block, seams, ← Pipeline.block]
  cases sourced with
  | active origin pad content => exact .active (by rwa [seams]) pad content
  | padded origin taken isPad forced =>
    exact .padded (by rwa [toSeg]) taken (by rwa [toSeg, block]) forced
  | overriding origin taken some forced =>
    exact .overriding (by rwa [toSeg]) taken (held some) forced
  | gated origin taken reads => exact .gated (by rwa [toSeg]) taken (by rwa [toSeg])

/-- The cascade leaves the last good origin alone. -/
theorem cascade_lastGood {p : Pipeline} {frames : Frames} {sampled : Sampled} {isRepeat : Bool}
    {pops : PopOutcome} {chosen : Chosen}
    (found : p.cascade house frames sampled isRepeat pops = some chosen) :
    chosen.frames.lastGoodOriginSegment = frames.lastGoodOriginSegment := by
  have without : (p.takeWithoutB house frames).frames.lastGoodOriginSegment =
      frames.lastGoodOriginSegment := by
    unfold Pipeline.takeWithoutB
    dsimp only
    split
    · split
      · rfl
      · split <;> rfl
    · split <;> rfl
  revert found
  unfold Pipeline.cascade
  split_ifs <;> intro found <;> cases found
  all_goals first | exact without | rfl

/-- A frame that is repeated or held outside a block TAKE is reused. -/
theorem reuses_of_cascade {p : Pipeline} {sampled : Sampled} {pops : PopOutcome} {chosen : Chosen}
    (block : p.seams.takeB p.tick = false)
    (found : p.cascade house (p.withCadence sampled) sampled (p.repeats sampled) pops = some chosen)
    (reused : chosen.decision = .repeat ∨ chosen.decision = .hold) :
    p.reuses sampled pops = true := by
  have frames : (p.withCadence sampled).segmentB = p.frames.segmentB ∧
      (p.withCadence sampled).hasLastGoodVideoFrame = p.frames.hasLastGoodVideoFrame := ⟨rfl, rfl⟩
  revert found
  unfold Pipeline.cascade Pipeline.reuses
  rw [frames.1, frames.2, block]
  generalize p.frames.segmentB.isSome = held
  split_ifs <;> intro found <;> cases found
  all_goals grind

/-- The origin of a popped frame depends on the chains only. -/
theorem poppedOrigin_congr (p : Pipeline) {frames next : Frames} (same : frames.SameChains next)
    (source : VideoSource) : p.poppedOrigin next source = p.poppedOrigin frames source := by
  unfold Pipeline.poppedOrigin Frames.stampOf
  rw [same.videoBuffer, same.previewVideoBuffer, same.segmentB]

/-- A frame of the active chain is of the current segment. -/
theorem poppedOrigin_live {p : Pipeline} (chained : Chained p) :
    p.poppedOrigin p.frames .live = p.seams.currentSegmentIndex := by
  unfold Pipeline.poppedOrigin Frames.stampOf
  dsimp only
  rcases chained.active with unstamped | stamped
  · rw [if_neg (by omega)]
    rfl
  · rw [if_pos (by omega), stamped]

/-- A frame of the segment-B chain is of the incoming segment. -/
theorem poppedOrigin_segmentB {p : Pipeline} (chained : Chained p) :
    p.poppedOrigin p.frames .segmentB = p.toSeg := by
  unfold Pipeline.poppedOrigin Frames.stampOf
  cases held : p.frames.segmentB with
  | none => rfl
  | some chain =>
    simp only [Option.map_some, Option.getD_some, (chained.incoming chain held).stamp]
    rw [if_pos (by omega)]

/-- **The selection's frame**: its origin agrees with the active segment, or its swap is due. -/
theorem sourced_emit {p : Pipeline} (chained : Chained p) {sampled : Sampled}
    (at_ : p.SampledAt sampled) {pops : PopOutcome} {chosen : Chosen}
    (block : p.seams.takeB p.tick = false)
    (found : p.cascade house (p.withCadence sampled) sampled (p.repeats sampled) pops = some chosen)
    (current : p.reuses sampled pops = true → p.lastGoodCurrent) {selection : Selection}
    (next : (p.emit sampled chosen).phase = .rotate selection) : Sourced p selection := by
  have same := same_cascade house found
  have reuse := reuses_of_cascade house block found
  unfold Pipeline.emit at next
  dsimp only at next
  split at next
  · cases next
  · cases next
    by_cases pad : p.padSeam = true
    · -- the incoming pad
      have decision : chosen.decision = .pad := by
        unfold Pipeline.cascade at found
        rw [if_pos pad] at found
        cases found
        rfl
      simp only [Pipeline.padSeam, Bool.and_eq_true] at pad
      refine .padded ?_ pad.1 pad.2 ?_
      · simp [Pipeline.frameOrigin, Pipeline.padSeam, pad]
      · simp [Selection.forceForPadSeam, Pipeline.padSeam, pad, decision]
    · have pad : p.padSeam = false := by simpa using pad
      have held : chosen.frames.segmentB = p.frames.segmentB := same.segmentB
      cases decision : chosen.decision with
      | contentA =>
        by_cases override : (sampled.overrideWanted && p.frames.segmentB.isSome) = true
        · -- the incoming content in place of an empty pad
          simp only [Bool.and_eq_true] at override
          refine .overriding ?_ (at_.override override.1) override.2 ?_
          · simp [Pipeline.frameOrigin, pad, held, override]
          · simp [Selection.forceForContentSeam, held, override]
        · have override : (sampled.overrideWanted && p.frames.segmentB.isSome) = false := by
            simpa using override
          have origin : p.frameOrigin chosen.frames sampled .contentA =
              p.poppedOrigin p.frames sampled.source := by
            simp only [Pipeline.frameOrigin, pad, held, override, Bool.false_eq_true, if_false]
            exact poppedOrigin_congr p same.toSameChains sampled.source
          rcases at_.source block with source | source
          · refine .active (.inr ?_) (by simp [Selection.forceForPadSeam, pad]) ?_
            · rw [origin, source, poppedOrigin_live chained]
            · simp [Selection.forceForContentSeam, held, override]
          · have taken := at_.incoming source
            have toSeg : p.frameOrigin chosen.frames sampled .contentA = p.toSeg := by
              rw [origin, source, poppedOrigin_segmentB chained]
            refine .gated toSeg taken ?_
            simp [Selection.readsIncoming, taken, held, override, toSeg]
      | contentB | pad | standby =>
        refine .active (.inl ?_) (by simp [Selection.forceForPadSeam, pad]) ?_
        · simp [Pipeline.frameOrigin, pad]
        · simp [Selection.forceForContentSeam]
      | «repeat» =>
        refine .active ?_ (by simp [Selection.forceForPadSeam, pad]) ?_
        · simp only [Pipeline.frameOrigin, pad, Bool.false_eq_true, if_false,
            cascade_lastGood house found]
          exact current (reuse (.inl decision))
        · simp [Selection.forceForContentSeam]
      | hold =>
        refine .active ?_ (by simp [Selection.forceForPadSeam, pad]) ?_
        · simp only [Pipeline.frameOrigin, pad, Bool.false_eq_true, if_false,
            cascade_lastGood house found]
          exact current (reuse (.inr decision))
        · simp [Selection.forceForContentSeam]

end Sourcing

/-! ### The swap decision -/

section Deciding

/-- An incoming pad is always there. -/
theorem incoming_of_pad {p : Pipeline} (pad : p.block.isPadAt p.toSeg = true)
    (depths : IncomingDepths) : (p.incoming depths).isSome = true := by
  have type : p.block.typeAt p.toSeg = some .pad := by simpa [FedBlock.isPadAt] using pad
  simp [Pipeline.incoming, incomingState, type]

/-- A held segment-B chain is an incoming segment, if the block goes on. -/
theorem incoming_of_segmentB {p : Pipeline} (more : (p.block.typeAt p.toSeg).isSome = true)
    (held : p.frames.segmentB.isSome = true) (depths : IncomingDepths) :
    (p.incoming depths).isSome = true := by
  obtain ⟨type, found⟩ := Option.isSome_iff_exists.mp more
  cases type <;> simp [Pipeline.incoming, incomingState, found, held]

/-- After a commit the origin is the new active segment: it was the incoming segment's, or it is
restamped. -/
theorem commitSwap_matches {p : Pipeline} {selection : Selection} {restamp : Bool}
    (origin : restamp = false → selection.frameOriginSegmentId < 0 ∨
      selection.frameOriginSegmentId = p.toSeg) :
    (p.commitSwap house selection restamp).2 < 0 ∨
      (p.commitSwap house selection restamp).2 =
        (p.commitSwap house selection restamp).1.seams.currentSegmentIndex := by
  rw [commitSwap_seams, rebase_index]
  cases restamp with
  | false => exact origin rfl
  | true =>
    right
    show ((rebase house p.seams p.tick).currentSegmentIndex : Int) = _
    rw [rebase_index]

/-- The swap decision checks nothing. -/
theorem decideSwap_checks (p : Pipeline) (selection : Selection) (readings : PostTakeReadings) :
    (p.decideSwap house selection readings).1.frames.authorityChecks =
      p.frames.authorityChecks := by
  have swapped : p.swapChains.frames.authorityChecks = p.frames.authorityChecks := by
    unfold Pipeline.swapChains
    split
    · rfl
    · split <;> rfl
  unfold Pipeline.decideSwap
  split
  · rfl
  · split
    · rw [(same_commitSwap house p selection _).authorityChecks, swapped]
    · rfl

/-- **The swap decision keeps the authority**: the origin is outside the check, or it is the active
segment after the decision. -/
theorem decideSwap_matches {p : Pipeline} {selection : Selection} (sourced : Sourced p selection)
    (more : (p.block.typeAt p.toSeg).isSome = true) (readings : PostTakeReadings)
    (ready : selection.readsIncoming p.toSeg = true → p.swapReady readings = true) :
    (p.decideSwap house selection readings).2 < 0 ∨
      (p.decideSwap house selection readings).2 =
        (p.decideSwap house selection readings).1.seams.currentSegmentIndex := by
  unfold Pipeline.decideSwap
  cases state : p.incoming readings.incoming with
  | none =>
    cases sourced with
    | active origin => exact origin
    | padded _ _ pad => simpa [state] using incoming_of_pad pad readings.incoming
    | overriding _ _ held => simpa [state] using incoming_of_segmentB more held readings.incoming
    | gated _ _ reads => simpa [Pipeline.swapReady, state] using ready reads
  | some incoming =>
    dsimp only
    split
    · rename_i swaps
      apply commitSwap_matches
      intro natural
      cases sourced with
      | active origin pad content =>
        -- an unforced swap needs an origin other than the active segment
        refine .inl (origin.resolve_right ?_)
        intro current
        simp [Selection.swaps, Selection.forced, natural, pad, content, current] at swaps
      | padded origin | overriding origin | gated origin => exact .inr origin
    · rename_i stays
      cases sourced with
      | active origin => exact origin
      | padded _ _ _ forced => simp [Selection.swaps, Selection.forced, forced] at stays
      | overriding _ _ _ forced => simp [Selection.swaps, Selection.forced, forced] at stays
      | gated origin _ reads =>
        have ready := ready reads
        have other : ¬ selection.frameOriginSegmentId = p.seams.currentSegmentIndex := by
          rw [origin, Pipeline.toSeg]
          omega
        simp only [Pipeline.swapReady, state] at ready
        simp [Selection.swaps, Selection.forced, other] at stays
        simp_all

end Deciding

/-! ### One step -/

section OneStep

/-- The frame authority: every check so far has passed, and the reading and the selection in
progress agree with the active segment. -/
structure Authoritative (p : Pipeline) : Prop where
  checks : ∀ check ∈ p.frames.authorityChecks, check.matches
  sampled : ∀ sampled, p.phase.sampled = some sampled → p.SampledAt sampled
  sourced : ∀ selection, p.phase.selection = some selection → selection.takeB = false →
    Sourced p selection

theorem authoritative_initial (sessionEpochUtcMs : Int) :
    Authoritative (.initial sessionEpochUtcMs) := ⟨nofun, nofun, nofun⟩

/-- A step that checks nothing, into a phase without a reading. -/
theorem Authoritative.move {p next : Pipeline} (authoritative : Authoritative p)
    (checks : next.frames.authorityChecks = p.frames.authorityChecks)
    (sampled : next.phase.sampled = none)
    (sourced : ∀ selection, next.phase.selection = some selection → selection.takeB = false →
      Sourced next selection) : Authoritative next where
  checks := by
    rw [checks]
    exact authoritative.checks
  sampled := by simp [sampled]
  sourced := sourced

/-- A step of the feed or of the worker. -/
theorem Authoritative.blocks {p : Pipeline} (authoritative : Authoritative p) (blocks : BlockFlow) :
    Authoritative { p with blocks := blocks } where
  checks := authoritative.checks
  sampled := fun sampled same =>
    have at_ := authoritative.sampled sampled same
    ⟨at_.incoming, at_.source, at_.override⟩
  sourced := fun selection same block =>
    (authoritative.sourced selection same block).congr rfl id

/-- What `EnsureIncomingBReadyForSeam` leaves alone of the frames. -/
theorem ensured_frames (p : Pipeline) (peeked : Bool) :
    (p.ensured peeked).frames.authorityChecks = p.frames.authorityChecks ∧
      (p.ensured peeked).frames.lastGoodOriginSegment = p.frames.lastGoodOriginSegment := by
  unfold Pipeline.ensured Pipeline.ensureTake
  split
  · split <;> exact ⟨rfl, rfl⟩
  · exact ⟨rfl, rfl⟩

theorem authoritative_select {p : Pipeline} (chained : Chained p)
    (authoritative : Authoritative p) {sampled : Sampled} (phase : p.phase = .select sampled)
    {pops : PopOutcome} (kept : AuthorityKept p (.select pops)) :
    Authoritative (select house p sampled pops) := by
  have same := same_select house p sampled pops
  have ensured : Chained (p.ensured sampled.peeked) :=
    chained_ensured chained fun peeks => chained.peeked (by simpa [phase, Phase.peeks] using peeks)
  have at_ : (p.ensured sampled.peeked).SampledAt sampled := by
    obtain ⟨incoming, source, override⟩ :=
      authoritative.sampled sampled (by simp [phase, Phase.sampled])
    refine ⟨?_, ?_, ?_⟩ <;> rw [ensured_seams, ensured_tick] <;> assumption
  obtain ⟨checks, lastGood⟩ := ensured_frames p sampled.peeked
  refine ⟨?_, ?_, ?_⟩
  · rw [same.authorityChecks, checks]
    exact authoritative.checks
  · rcases select_phase house p sampled pops with next | next | ⟨selection, next, -⟩ <;>
      simp [next, Phase.sampled]
  · intro selection selecting block
    have seams : (select house p sampled pops).seams = (p.ensured sampled.peeked).seams := by
      rw [select_seams, ensured_seams]
    refine Sourced.congr ?_ seams (fun held => by rwa [same.segmentB])
    have next : (select house p sampled pops).phase = .rotate selection ∧
        selection.takeB = p.seams.takeB p.tick := by
      rcases select_phase house p sampled pops with next | next | ⟨found, next, flags⟩
      · simp [next, Phase.selection] at selecting
      · simp [next, Phase.selection] at selecting
      · obtain rfl : found = selection := by simpa [next, Phase.selection] using selecting
        exact ⟨next, flags.1⟩
    rw [next.2] at block
    have current : (p.ensured sampled.peeked).reuses sampled pops = true →
        (p.ensured sampled.peeked).lastGoodCurrent := by
      intro reuses
      rw [Pipeline.lastGoodCurrent, lastGood, ensured_seams]
      exact kept sampled (by simp [phase, Phase.sampled]) block reuses
    have emitted := next.1
    unfold select Pipeline.selectFrom at emitted
    split at emitted
    · cases emitted
    · rename_i chosen found
      refine sourced_emit house ensured at_ ?_ found current emitted
      rw [ensured_seams, ensured_tick]
      exact block

/-- The check of the tick passes when the origin is outside the check or the active segment. -/
theorem checks_checkAuthority {p : Pipeline} {takeB : Bool} {origin : Int}
    (checks : ∀ check ∈ p.frames.authorityChecks, check.matches)
    (right : takeB = false → origin < 0 ∨ origin = p.seams.currentSegmentIndex) :
    ∀ check ∈ (p.checkAuthority takeB origin).frames.authorityChecks, check.matches := by
  unfold Pipeline.checkAuthority
  split
  · rename_i checked
    intro check listed
    rcases List.mem_append.mp listed with old | new
    · exact checks check old
    · rw [List.mem_singleton.mp new]
      rcases right checked.2 with outside | same
      · omega
      · exact same
  · exact checks

theorem authoritative_segmentPostTake {p : Pipeline} (poised : Poised p)
    (authoritative : Authoritative p) {selection : Selection} {peeked : Bool}
    (phase : p.phase = .segmentPostTake selection peeked) {readings : PostTakeReadings}
    (kept : AuthorityKept p (.segmentPostTake readings)) :
    Authoritative (segmentPostTake house p selection peeked readings) := by
  refine ⟨?_, by simp [segmentPostTake, Phase.sampled], by simp [segmentPostTake, Phase.selection]⟩
  have selecting : p.phase.selection = some selection := by simp [phase, Phase.selection]
  obtain ⟨checks, -⟩ := ensured_frames p peeked
  unfold segmentPostTake
  dsimp only
  apply checks_checkAuthority
  · split
    · rw [decideSwap_checks, checks]
      exact authoritative.checks
    · exact authoritative.checks
  · intro block
    have sourced := authoritative.sourced selection selecting block
    split
    · rename_i taken
      have seams := ensured_seams p peeked
      have toSeg : (p.ensured peeked).toSeg = p.toSeg := by rw [Pipeline.toSeg, seams, ← Pipeline.toSeg]
      apply decideSwap_matches
      · refine sourced.congr seams ?_
        intro held
        unfold Pipeline.ensured Pipeline.ensureTake
        split
        · split
          · exact held
          · rfl
        · exact held
      · rw [toSeg, Pipeline.block, seams]
        exact typeAt_toSeg poised selecting taken
      · rw [toSeg]
        exact kept (selection, peeked) (by simp [phase, Phase.postTaking])
    · rename_i taken
      cases sourced with
      | active origin => exact origin
      | padded _ segment | overriding _ segment | gated _ segment => exact absurd segment taken

/-- **One step**: a step that meets the condition keeps the frame authority. -/
theorem authoritative_step {p next : Pipeline} {action : Action} (poised : Poised p)
    (chained : Chained p) (authoritative : Authoritative p) (kept : AuthorityKept p action)
    (taken : step house p action = some next) : Authoritative next := by
  cases stepped_of_step house taken with
  | feed | workerStart | workerFinish => exact authoritative.blocks _
  | loadFirst =>
    refine authoritative.move rfl ?_ ?_ <;> simp [loadFirst, Phase.sampled, Phase.selection]
  | activateFirst nowUtcMs =>
    refine authoritative.move ?_ ?_ ?_
    · show (p.activateLive house).frames.authorityChecks = _
      unfold Pipeline.activateLive
      split <;> rfl
    · simp [activateFirst, Phase.sampled]
    · simp [activateFirst, Phase.selection]
  | preTake =>
    refine authoritative.move ?_ ?_ ?_
    · have adopted : (p.adoptPreview house).frames = p.frames := by
        unfold Pipeline.adoptPreview
        split
        · rfl
        · split <;> rfl
      unfold preTake
      dsimp only
      split <;> rw [adopted]
    · simp [preTake, Phase.sampled]
    · simp [preTake, Phase.selection]
  | sample readings =>
    refine ⟨authoritative.checks, ?_, by simp [sample, Phase.selection]⟩
    intro sampled same
    obtain rfl := Option.some.inj same
    obtain ⟨incoming, source, override⟩ := sampledAt_sample p readings
    exact ⟨incoming, source, override⟩
  | select pops sampled phase => exact authoritative_select house chained authoritative phase kept
  | rotate assets selection phase =>
    cases due : p.rotates selection with
    | false =>
      rw [rotate_of_not_rotates house due]
      refine authoritative.move rfl (by simp [Phase.sampled]) ?_
      intro chosen same block
      obtain rfl : selection = chosen := Option.some.inj same
      exact (authoritative.sourced selection (by simp [phase, Phase.selection]) block).congr rfl id
    | true =>
      rw [rotate_of_rotates house due]
      have taken : selection.takeB = true := by
        simp only [Pipeline.rotates, Bool.and_eq_true] at due
        exact due.1
      refine authoritative.move ?_ ?_ ?_
      · rw [(same_rotated house p selection assets).authorityChecks]
        unfold Frames.rotateBuffers
        split <;> rfl
      · rcases rotated_phase house p selection assets with next | next <;>
          simp [next, Phase.sampled]
      · rcases rotated_phase house p selection assets with next | next <;>
          simp [next, Phase.selection, taken]
  | segmentPeek selection phase =>
    refine authoritative.move rfl (by simp [segmentPeek, Phase.sampled]) ?_
    intro chosen same block
    obtain rfl : selection = chosen := Option.some.inj same
    exact (authoritative.sourced selection (by simp [phase, Phase.selection]) block).congr rfl id
  | segmentPostTake readings selection peeked phase =>
    exact authoritative_segmentPostTake house poised authoritative phase kept
  | loadNext assets =>
    refine authoritative.move ?_ ?_ ?_
    · rw [(same_loadNext house p assets).authorityChecks]
      split <;> rfl
    · rcases loadNext_phase house p assets with next | next <;> simp [next, Phase.sampled]
    · rcases loadNext_phase house p assets with next | next <;> simp [next, Phase.selection]
  | startKickoff | loadKickoff | endKickoff =>
    refine authoritative.move rfl ?_ ?_ <;> simp [Phase.sampled, Phase.selection]
  | rotateKickoff selection phase =>
    refine authoritative.move rfl (by simp [Phase.sampled]) ?_
    intro chosen same block
    obtain rfl : selection = chosen := Option.some.inj same
    exact (authoritative.sourced selection (by simp [phase, Phase.selection]) block).congr rfl id

end OneStep

/-! ### The run -/

section Run

/-- A block of two content segments of two frames each. -/
def twoContents (blockId : String) (startUtcMs : Int) : FedBlock :=
  ⟨blockId, startUtcMs, startUtcMs + 160,
    [⟨0, 80, .content, .none, 0⟩, ⟨1, 80, .content, .none, 0⟩]⟩

/-- The block is live, its second segment prepared, and its seam reached at tick 2: the segment-B
chain is made after that tick's frame, so the swap waits for tick 3. -/
def seamReached : List Action :=
  sessionStart (twoContents "A" 0) ++ [.workerStart, .workerFinish ⟨true, some palFps⟩] ++
    fullIteration ++ fullIteration ++ fullIteration

/-- A tick that reads `before` frames in the segment-B chain at its selection and `after` frames at
its swap decision. -/
def gateIteration (before after : Nat) : List Action :=
  iteration ⟨true, 10, ⟨1000, before, 1000, 10⟩⟩ ⟨true, true⟩ ⟨true, some palFps⟩
    ⟨10, ⟨1000, after, 1000, 10⟩⟩

end Run

end Retrovue.Air.Blockplan
