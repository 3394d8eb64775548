/-
**The buffer chains of the tick loop**: the active chain A, the preview's chain and the chain of the
incoming segment.

* `Frames.Same`: two frame states with the same chains and the same history;
* `Chained`, `chained_step`: in every reachable state every chain stamps the segment it was built
  for, and a segment-B chain is held at a segment seam only, so that no block goes live over it.
-/

import Mathlib
import Retrovue.Air.Blockplan.Steps

namespace Retrovue.Air.Blockplan

variable (house : RationalFps)

/-! ### What the steps leave alone -/

section Frame

/-- The chains are the same. -/
structure Frames.SameChains (frames next : Frames) : Prop where
  videoBuffer : next.videoBuffer = frames.videoBuffer
  previewVideoBuffer : next.previewVideoBuffer = frames.previewVideoBuffer
  segmentB : next.segmentB = frames.segmentB

/-- The chains and the histories are the same. -/
structure Frames.Same (frames next : Frames) : Prop extends frames.SameChains next where
  authorityChecks : next.authorityChecks = frames.authorityChecks
  prerolledSwaps : next.prerolledSwaps = frames.prerolledSwaps

theorem Frames.Same.refl (frames : Frames) : frames.Same frames := ⟨⟨rfl, rfl, rfl⟩, rfl, rfl⟩

theorem Frames.Same.trans {first second third : Frames} (left : first.Same second)
    (right : second.Same third) : first.Same third where
  videoBuffer := right.videoBuffer.trans left.videoBuffer
  previewVideoBuffer := right.previewVideoBuffer.trans left.previewVideoBuffer
  segmentB := right.segmentB.trans left.segmentB
  authorityChecks := right.authorityChecks.trans left.authorityChecks
  prerolledSwaps := right.prerolledSwaps.trans left.prerolledSwaps

/-- The cascade selects a frame and leaves the chains alone. -/
theorem same_cascade {p : Pipeline} {frames : Frames} {sampled : Sampled} {isRepeat : Bool}
    {pops : PopOutcome} {chosen : Chosen}
    (found : p.cascade house frames sampled isRepeat pops = some chosen) :
    frames.Same chosen.frames := by
  have without : frames.Same (p.takeWithoutB house frames).frames := by
    unfold Pipeline.takeWithoutB
    dsimp only
    split
    · split
      · exact ⟨⟨rfl, rfl, rfl⟩, rfl, rfl⟩
      · split <;> exact ⟨⟨rfl, rfl, rfl⟩, rfl, rfl⟩
    · split <;> exact ⟨⟨rfl, rfl, rfl⟩, rfl, rfl⟩
  revert found
  unfold Pipeline.cascade
  split_ifs <;> intro found <;> cases found
  all_goals first | exact without | exact ⟨⟨rfl, rfl, rfl⟩, rfl, rfl⟩

theorem same_emit (p : Pipeline) (sampled : Sampled) (chosen : Chosen) :
    chosen.frames.Same (p.emit sampled chosen).frames := by
  unfold Pipeline.emit
  dsimp only
  split_ifs <;> exact ⟨⟨rfl, rfl, rfl⟩, rfl, rfl⟩

/-- A selection changes the chains only by what `EnsureIncomingBReadyForSeam` took. -/
theorem same_select (p : Pipeline) (sampled : Sampled) (pops : PopOutcome) :
    (p.ensured sampled.peeked).frames.Same (select house p sampled pops).frames := by
  unfold select Pipeline.selectFrom
  split
  · exact ⟨⟨rfl, rfl, rfl⟩, rfl, rfl⟩
  · rename_i chosen found
    have cadence : (p.ensured sampled.peeked).frames.Same
        ((p.ensured sampled.peeked).withCadence sampled) := ⟨⟨rfl, rfl, rfl⟩, rfl, rfl⟩
    exact (cadence.trans (same_cascade house found)).trans (same_emit _ sampled chosen)

/-- A rotation hands the buffers over. -/
theorem same_rotated (p : Pipeline) (selection : Selection) (assets : AssetOutcome) :
    (p.frames.rotateBuffers p.blocks.preview.isSome).Same
      (p.rotated house selection assets).frames := by
  unfold Pipeline.rotated
  split <;> exact ⟨⟨rfl, rfl, rfl⟩, rfl, rfl⟩

/-- A committed swap exchanges the chains and nothing more. -/
theorem same_commitSwap (p : Pipeline) (selection : Selection) (restamp : Bool) :
    p.swapChains.frames.Same (p.commitSwap house selection restamp).1.frames := by
  unfold Pipeline.commitSwap
  dsimp only
  split <;> exact ⟨⟨rfl, rfl, rfl⟩, rfl, rfl⟩

/-- LOAD NEXT drops the preview's buffer when it loads a block. -/
theorem same_loadNext (p : Pipeline) (assets : AssetOutcome) :
    Frames.Same
      (if (p.loadsTo assets).isSome then { p.frames with previewVideoBuffer := none } else p.frames)
      (loadNext house p assets).frames := by
  unfold loadNext Pipeline.loadsTo Pipeline.loadsNext
  split
  · dsimp only
    cases (p.blocks.loadLiveProducer p.seams.blockFenceFrame assets).live <;>
      exact ⟨⟨rfl, rfl, rfl⟩, rfl, rfl⟩
  · exact ⟨⟨rfl, rfl, rfl⟩, rfl, rfl⟩

end Frame

/-! ### Chains stamp their segments -/

section Chains

/-- The tick has peeked the incoming segment's result and not taken it yet. -/
def Phase.peeks : Phase → Bool
  | .select sampled => sampled.peeked
  | .segmentPostTake _ peeked => peeked
  | _ => false

/-- A held segment-B chain: it stamps the next segment, which is no pad, and its seam is due. -/
structure Pipeline.Holds (p : Pipeline) (chain : SegmentB) : Prop where
  stamp : chain.video.segmentOriginId = p.toSeg
  content : p.block.isPadAt p.toSeg = false
  seam : p.seams.nextSeamType = .segment

/-- Every chain stamps the segment it was built for, if any, and what is peeked is for a content
segment at its seam. -/
structure Chained (p : Pipeline) : Prop where
  active : p.frames.videoBuffer.segmentOriginId < 0 ∨
    p.frames.videoBuffer.segmentOriginId = p.seams.currentSegmentIndex
  waiting : p.seams.blockFenceFrame = none → p.frames.videoBuffer.segmentOriginId < 0
  preview : ∀ buffer, p.frames.previewVideoBuffer = some buffer → buffer.segmentOriginId < 0
  incoming : ∀ chain, p.frames.segmentB = some chain → p.Holds chain
  peeked : p.phase.peeks = true →
    p.block.isPadAt p.toSeg = false ∧ p.seams.nextSeamType = .segment

theorem chained_initial (sessionEpochUtcMs : Int) : Chained (.initial sessionEpochUtcMs) where
  active := .inl (Int.negSucc_lt_zero 0)
  waiting := fun _ => Int.negSucc_lt_zero 0
  preview := nofun
  incoming := nofun
  peeked := nofun

/-- Without a segment seam no segment-B chain is held. -/
theorem Chained.none_of_seam {p : Pipeline} (chained : Chained p)
    (other : p.seams.nextSeamType ≠ .segment) : p.frames.segmentB = none := by
  by_contra held
  obtain ⟨chain, held⟩ := Option.ne_none_iff_exists'.mp held
  exact other (chained.incoming chain held).seam

/-- Without a fence no segment-B chain is held. -/
theorem Chained.none_of_unfenced {p : Pipeline} (poised : Poised p) (chained : Chained p)
    (unfenced : p.seams.blockFenceFrame = none) : p.frames.segmentB = none :=
  chained.none_of_seam (by simp [poised.idle unfenced])

/-- A step that leaves seams and chains alone. -/
theorem Chained.move {p next : Pipeline} (chained : Chained p) (seams : next.seams = p.seams)
    (frames : p.frames.SameChains next.frames)
    (peeked : next.phase.peeks = true →
      p.block.isPadAt p.toSeg = false ∧ p.seams.nextSeamType = .segment) : Chained next where
  active := by
    rw [frames.videoBuffer, seams]
    exact chained.active
  waiting := by
    rw [frames.videoBuffer, seams]
    exact chained.waiting
  preview := by
    rw [frames.previewVideoBuffer]
    exact chained.preview
  incoming := by
    intro chain held
    obtain ⟨stamp, content, seam⟩ := chained.incoming chain (frames.segmentB.symm.trans held)
    refine ⟨?_, ?_, ?_⟩ <;> simpa [Pipeline.toSeg, Pipeline.block, seams]
  peeked := by
    rw [Pipeline.toSeg, Pipeline.block, seams]
    exact peeked

/-- A block goes live with an unstamped active chain and no segment-B chain. -/
theorem chained_of_fresh {next : Pipeline} (active : next.frames.videoBuffer.segmentOriginId < 0)
    (preview : ∀ buffer, next.frames.previewVideoBuffer = some buffer → buffer.segmentOriginId < 0)
    (incoming : next.frames.segmentB = none) (peeked : next.phase.peeks = false) :
    Chained next where
  active := .inl active
  waiting := fun _ => active
  preview := preview
  incoming := by simp [incoming]
  peeked := by simp [peeked]

/-- A segment TAKE leads into a segment of the block. -/
theorem typeAt_toSeg {p : Pipeline} (poised : Poised p) {selection : Selection}
    (selecting : p.phase.selection = some selection) (taken : selection.takeSegment = true) :
    (p.block.typeAt p.toSeg).isSome = true := by
  have more := poised.pending (poised.takesSegment selection selecting taken).2
  simpa [FedBlock.typeAt, Pipeline.block, Pipeline.toSeg] using more

/-- The peek names a segment with a decoder. -/
theorem content_of_ensurePeek {p : Pipeline} (peeked : p.ensurePeek = true) :
    p.block.isPadAt p.toSeg = false := by
  simp only [Pipeline.ensurePeek, Bool.and_eq_true] at peeked
  obtain ⟨⟨-, content⟩, -⟩ := peeked
  cases type : p.block.typeAt p.toSeg with
  | none => simp [type] at content
  | some found => simpa [FedBlock.isPadAt, type] using content

/-- `EnsureIncomingBReadyForSeam` stamps its chain with the incoming segment. -/
theorem chained_ensured {p : Pipeline} (chained : Chained p) {peeked : Bool}
    (due : peeked = true → p.block.isPadAt p.toSeg = false ∧ p.seams.nextSeamType = .segment) :
    Chained (p.ensured peeked) := by
  cases peeked with
  | false => exact chained
  | true =>
    show Chained p.ensureTake
    unfold Pipeline.ensureTake
    split
    · exact chained
    · refine ⟨chained.active, chained.waiting, chained.preview, ?_, chained.peeked⟩
      intro chain same
      cases same
      exact ⟨rfl, (due rfl).1, (due rfl).2⟩

theorem chained_activateFirst {p : Pipeline} (poised : Poised p) (chained : Chained p)
    (phase : p.phase = .startActivate) (nowUtcMs : Int) :
    Chained (activateFirst house p nowUtcMs) := by
  have starts : p.phase.starts := .inr (.inr phase)
  have same : p.frames.Same (activateFirst house p nowUtcMs).frames := by
    show p.frames.Same (p.activateLive house).frames
    unfold Pipeline.activateLive
    split <;> exact ⟨⟨rfl, rfl, rfl⟩, rfl, rfl⟩
  apply chained_of_fresh
  · rw [same.videoBuffer]
    exact chained.waiting (poised.starting starts)
  · rw [same.previewVideoBuffer]
    exact chained.preview
  · rw [same.segmentB]
    exact chained.none_of_unfenced poised (poised.starting starts)
  · rfl

theorem chained_preTake {p : Pipeline} (chained : Chained p) : Chained (preTake house p) := by
  have adopted : (p.adoptPreview house).frames = p.frames := by
    unfold Pipeline.adoptPreview
    split
    · rfl
    · split <;> rfl
  have seams := preTake_seams house p
  have frames : (preTake house p).frames.videoBuffer = p.frames.videoBuffer ∧
      (preTake house p).frames.segmentB = p.frames.segmentB := by
    unfold preTake
    dsimp only
    split <;> simp [adopted]
  refine ⟨?_, ?_, ?_, ?_, by simp [preTake, Phase.peeks]⟩
  · rw [frames.1, seams]
    exact chained.active
  · rw [frames.1, seams]
    exact chained.waiting
  · intro buffer found
    unfold preTake at found
    dsimp only at found
    split at found
    · cases found
      exact Int.negSucc_lt_zero 0
    · rw [adopted] at found
      exact chained.preview buffer found
  · intro chain held
    obtain ⟨stamp, content, seam⟩ := chained.incoming chain (frames.2.symm.trans held)
    refine ⟨?_, ?_, ?_⟩ <;> simpa [Pipeline.toSeg, Pipeline.block, seams]

/-- A rotation finds no segment-B chain, and drops the preview's buffer. -/
theorem chained_rotate {p : Pipeline} (poised : Poised p) (chained : Chained p)
    {selection : Selection} (phase : p.phase = .rotate selection) (assets : AssetOutcome) :
    Chained (rotate house p selection assets) := by
  cases due : p.rotates selection with
  | false =>
    rw [rotate_of_not_rotates house due]
    exact chained.move rfl ⟨rfl, rfl, rfl⟩ (by simp [Phase.peeks])
  | true =>
    rw [rotate_of_rotates house due]
    have same := same_rotated house p selection assets
    have taken : selection.takeB = true := by
      simp only [Pipeline.rotates, Bool.and_eq_true] at due
      exact due.1
    have seam := poised.takesBlock selection (by simp [phase, Phase.rotating]) taken
    apply chained_of_fresh
    · rw [same.videoBuffer]
      unfold Frames.rotateBuffers
      split
      · rename_i buffer found
        dsimp only
        split
        · exact chained.preview buffer found
        · exact Int.negSucc_lt_zero 0
      · exact Int.negSucc_lt_zero 0
    · intro buffer found
      rw [same.previewVideoBuffer] at found
      unfold Frames.rotateBuffers at found
      split at found
      · cases found
      · exact chained.preview buffer found
    · rw [same.segmentB]
      unfold Frames.rotateBuffers
      split <;> exact chained.none_of_seam (by simp [seam])
    · rcases rotated_phase house p selection assets with next | next <;> simp [next, Phase.peeks]

/-- The swap puts the chain of the segment it swaps to on air. -/
theorem swapChains_chains {p : Pipeline} (chained : Chained p) :
    (p.swapChains.frames.videoBuffer.segmentOriginId < 0 ∨
      p.swapChains.frames.videoBuffer.segmentOriginId = p.toSeg) ∧
    p.swapChains.frames.previewVideoBuffer = p.frames.previewVideoBuffer ∧
    p.swapChains.frames.segmentB = none := by
  unfold Pipeline.swapChains
  split
  · rename_i pad
    refine ⟨.inl (Int.negSucc_lt_zero 0), rfl, ?_⟩
    show p.frames.segmentB = none
    by_contra held
    obtain ⟨chain, held⟩ := Option.ne_none_iff_exists'.mp held
    simp [(chained.incoming chain held).content] at pad
  · split
    · rename_i chain held
      exact ⟨.inr (chained.incoming chain held).stamp, rfl, rfl⟩
    · rename_i none
      exact ⟨.inr rfl, rfl, none⟩

/-- After the swap has been committed. -/
theorem chained_commitSwap {p : Pipeline} (chained : Chained p)
    (fenced : p.seams.blockFenceFrame ≠ none) (selection : Selection) (restamp : Bool) :
    let swapped := (p.commitSwap house selection restamp).1
    (swapped.frames.videoBuffer.segmentOriginId < 0 ∨
      swapped.frames.videoBuffer.segmentOriginId = swapped.seams.currentSegmentIndex) ∧
    swapped.seams.blockFenceFrame ≠ none ∧
    swapped.frames.previewVideoBuffer = p.frames.previewVideoBuffer ∧
    swapped.frames.segmentB = none := by
  obtain ⟨active, preview, incoming⟩ := swapChains_chains chained
  have frames := same_commitSwap house p selection restamp
  have seams := commitSwap_seams house p selection restamp
  refine ⟨?_, ?_, ?_, ?_⟩
  · rw [frames.videoBuffer, seams, rebase_index]
    exact active
  · rw [seams, rebase_fence]
    exact fenced
  · rw [frames.previewVideoBuffer, preview]
  · rw [frames.segmentB, incoming]

theorem sameChains_checkAuthority (p : Pipeline) (takeB : Bool) (origin : Int) :
    p.frames.SameChains (p.checkAuthority takeB origin).frames := by
  unfold Pipeline.checkAuthority
  split <;> exact ⟨rfl, rfl, rfl⟩

theorem chained_segmentPostTake {p : Pipeline} (poised : Poised p) (chained : Chained p)
    {selection : Selection} {peeked : Bool} (phase : p.phase = .segmentPostTake selection peeked)
    (readings : PostTakeReadings) :
    Chained (segmentPostTake house p selection peeked readings) := by
  have ensured : Chained (p.ensured peeked) :=
    chained_ensured chained fun peeks => chained.peeked (by simpa [phase, Phase.peeks] using peeks)
  -- the phase after SEGMENT POST-TAKE peeks nothing
  have settled (q : Pipeline) (origin : Int) (here : Chained { q with phase := .loadNext }) :
      Chained { q.checkAuthority selection.takeB origin with phase := .loadNext } :=
    here.move (checkAuthority_seams q _ _) (sameChains_checkAuthority q _ _) (by simp [Phase.peeks])
  have left (q : Pipeline) (here : Chained q) : Chained { q with phase := .loadNext } :=
    here.move rfl ⟨rfl, rfl, rfl⟩ (by simp [Phase.peeks])
  unfold segmentPostTake
  refine settled _ _ ?_
  split
  · rename_i taken
    unfold Pipeline.decideSwap
    split
    · exact left _ ensured
    · split
      · have fenced : (p.ensured peeked).seams.blockFenceFrame ≠ none := by
          rw [ensured_seams]
          exact poised.fenced_of_segment (by simp [phase, Phase.selection]) taken
        obtain ⟨active, fenced, preview, incoming⟩ := chained_commitSwap house ensured fenced
          selection (forceForFrameAuthority readings.activeVideoDepth _)
        refine ⟨active, fun unfenced => absurd unfenced fenced, ?_, ?_, by simp [Phase.peeks]⟩
        · intro buffer found
          exact ensured.preview buffer (preview.symm.trans found)
        · intro chain held
          cases incoming.symm.trans held
      · exact left _ ensured
  · exact left _ chained

theorem chained_loadNext {p : Pipeline} (poised : Poised p) (chained : Chained p)
    (assets : AssetOutcome) : Chained (loadNext house p assets) := by
  have same := same_loadNext house p assets
  have seams := loadNext_seams house p assets
  have peeks : (loadNext house p assets).phase.peeks = false := by
    rcases loadNext_phase house p assets with next | next <;> simp [next, Phase.peeks]
  cases loaded : p.loadsTo assets with
  | some producer =>
    rw [loaded] at same
    have unfenced : p.seams.blockFenceFrame = none := by
      unfold Pipeline.loadsTo Pipeline.loadsNext at loaded
      split at loaded <;> simp_all
    refine chained_of_fresh ?_ ?_ ?_ peeks
    · rw [same.videoBuffer]
      exact chained.waiting unfenced
    · intro buffer found
      exact absurd (same.previewVideoBuffer.symm.trans found) nofun
    · exact same.segmentB.trans (chained.none_of_unfenced poised unfenced)
  | none =>
    rw [loaded] at same seams
    exact chained.move seams same.toSameChains (by simp [peeks])

/-- **One step**: every step keeps the chains stamped. -/
theorem chained_step {p next : Pipeline} {action : Action} (poised : Poised p)
    (chained : Chained p) (taken : step house p action = some next) : Chained next := by
  cases stepped_of_step house taken with
  | feed | workerStart | workerFinish =>
    exact chained.move rfl ⟨rfl, rfl, rfl⟩ fun peeks => chained.peeked peeks
  | loadFirst => exact chained.move rfl ⟨rfl, rfl, rfl⟩ (by simp [loadFirst, Phase.peeks])
  | activateFirst nowUtcMs phase => exact chained_activateFirst house poised chained phase nowUtcMs
  | preTake => exact chained_preTake house chained
  | sample readings =>
    refine chained.move rfl ⟨rfl, rfl, rfl⟩ ?_
    intro peeks
    simp only [sample, Phase.peeks, Bool.and_eq_true, Pipeline.overrideWanted] at peeks
    exact ⟨content_of_ensurePeek peeks.2, (Seams.takeSegment_iff.mp peeks.1.1.1.1).2⟩
  | select pops sampled phase =>
    have ensured : Chained (p.ensured sampled.peeked) :=
      chained_ensured chained fun peeks =>
        chained.peeked (by simpa [phase, Phase.peeks] using peeks)
    refine ensured.move ?_ (same_select house p sampled pops).toSameChains ?_
    · rw [select_seams, ensured_seams]
    · rcases select_phase house p sampled pops with next | next | ⟨selection, next, -⟩ <;>
        simp [next, Phase.peeks]
  | rotate assets selection phase => exact chained_rotate house poised chained phase assets
  | segmentPeek selection phase =>
    refine chained.move rfl ⟨rfl, rfl, rfl⟩ ?_
    intro peeks
    simp only [segmentPeek, Phase.peeks, Bool.and_eq_true] at peeks
    exact ⟨content_of_ensurePeek peeks.2,
      (poised.takesSegment selection (by simp [phase, Phase.selection]) peeks.1).2⟩
  | segmentPostTake readings selection peeked phase =>
    exact chained_segmentPostTake house poised chained phase readings
  | loadNext assets => exact chained_loadNext house poised chained assets
  | startKickoff | rotateKickoff | loadKickoff | endKickoff =>
    exact chained.move rfl ⟨rfl, rfl, rfl⟩ (by simp [Phase.peeks])

end Chains

end Retrovue.Air.Blockplan
