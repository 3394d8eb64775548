/-
**Blocks, frame rates and producers of AIR's BlockPlan engine**
(`BlockPlanSessionTypes.hpp`, `BlockPlanTypes.hpp`, `RationalFps.hpp`, `BlockPlanValidator.cpp`,
`TickProducer.cpp`).

* `RationalFps`: a frame rate, normalized by its constructor `RationalFps.make`;
* `FrameIndex`: a session frame index, or the sentinel `INT64_MAX`;
* `FedBlock` with its segments; `FedBlock.structurallyValid`: the validator's checks that look at
  the plan alone; `FedBlock.computeBoundaries`: the content-time boundaries of its segments;
* `TickProducer`: a producer in state `kReady`, as `assignBlock` leaves it. A producer in state
  `kEmpty` is `none`.

Asset addresses, loudness and event ids are read by no decision of the tick loop and are left out.
What probing and opening the assets gave is `AssetOutcome`.
-/

import Mathlib
import Retrovue.Foundation.Sorting

namespace Retrovue.Air.Blockplan

open Retrovue.Foundation.Sorting

/-! ### Frame rates -/

section Fps

/-- `RationalFps`: a positive rate in lowest terms, or the invalid rate `0/1`. -/
structure RationalFps where
  num : Int
  den : Int
  normal : (0 < num ∧ 0 < den ∧ Int.gcd num den = 1) ∨ (num = 0 ∧ den = 1)
  deriving DecidableEq, Repr

/-- The rate of a ratio that is no frame rate. -/
def RationalFps.invalid : RationalFps := ⟨0, 1, .inr ⟨rfl, rfl⟩⟩

/-- A positive ratio divided by its greatest common divisor. -/
def RationalFps.reduced (num den : Int) (positive : 0 < num ∧ 0 < den) : RationalFps where
  num := num / Int.gcd num den
  den := den / Int.gcd num den
  normal := by
    have gcdPos : 0 < Int.gcd num den := Int.gcd_pos_of_ne_zero_left den positive.1.ne'
    refine .inl ⟨?_, ?_, Int.gcd_div_gcd_div_gcd gcdPos⟩
    · exact Int.ediv_pos_of_pos_of_dvd positive.1 (by positivity) (Int.gcd_dvd_left num den)
    · exact Int.ediv_pos_of_pos_of_dvd positive.2 (by positivity) (Int.gcd_dvd_right num den)

/-- The constructor, with its `NormalizeInPlace`. -/
def RationalFps.make (n d : Int) : RationalFps :=
  if d < 0 then
    if positive : 0 < -n ∧ 0 < -d then RationalFps.reduced (-n) (-d) positive else .invalid
  else
    if positive : 0 < n ∧ 0 < d then RationalFps.reduced n d positive else .invalid

/-- `IsValid`. -/
def RationalFps.isValid (fps : RationalFps) : Bool := decide (0 < fps.num ∧ 0 < fps.den)

/-- `FramesFromDurationCeilMs`; `/` on `int64_t` truncates. -/
def RationalFps.framesFromDurationCeilMs (fps : RationalFps) (deltaMs : Int) : Int :=
  if fps.isValid then (deltaMs * fps.num + fps.den * 1000 - 1).tdiv (fps.den * 1000) else 0

end Fps

/-! ### Frame indices -/

section FrameIndices

/-- A session frame index; `none` is `INT64_MAX`. -/
abbrev FrameIndex := Option Int

/-- `a < b`, with the sentinel above every frame. -/
def before : FrameIndex → FrameIndex → Bool
  | some a, some b => a < b
  | some _, none => true
  | none, _ => false

/-- `frame <= tick`: the tick is at or past the frame. -/
def reached : FrameIndex → Int → Bool
  | some frame, tick => frame ≤ tick
  | none, _ => false

@[simp] theorem before_some_some (a b : Int) : before (some a) (some b) = decide (a < b) := rfl

@[simp] theorem before_some_none (a : Int) : before (some a) none = true := rfl

@[simp] theorem before_none (b : FrameIndex) : before none b = false := rfl

@[simp] theorem reached_some (frame tick : Int) :
    reached (some frame) tick = decide (frame ≤ tick) := rfl

@[simp] theorem reached_none (tick : Int) : reached none tick = false := rfl

end FrameIndices

/-! ### Blocks -/

section Blocks

/-- `SegmentType`. -/
inductive SegmentType
  | content
  | filler
  | pad
  deriving DecidableEq, Repr

/-- `TransitionType`. -/
inductive TransitionType
  | none
  | fade
  deriving DecidableEq, Repr

/-- `FedBlock::Segment`. -/
structure Segment where
  segmentIndex : Int
  segmentDurationMs : Int
  segmentType : SegmentType
  transitionIn : TransitionType
  transitionInDurationMs : Nat
  deriving DecidableEq, Repr

/-- `FedBlock`. -/
structure FedBlock where
  blockId : String
  startUtcMs : Int
  endUtcMs : Int
  segments : List Segment
  deriving DecidableEq, Repr

/-- `SegmentBoundary`. -/
structure SegmentBoundary where
  segmentIndex : Int
  startCtMs : Int
  endCtMs : Int
  deriving DecidableEq, Repr

/-- The type of the segment at a position, if the block has one there. -/
def FedBlock.typeAt (block : FedBlock) (index : Nat) : Option SegmentType :=
  (block.segments[index]?).map Segment.segmentType

/-- `live_parent_block_.segments[index].segment_type == kPad`, with its range check. -/
def FedBlock.isPadAt (block : FedBlock) (index : Nat) : Bool := block.typeAt index = some .pad

/-- `segments[index]` fades in: `transition_in == kFade` with a positive duration. -/
def FedBlock.fadesInAt (block : FedBlock) (index : Nat) : Bool :=
  match block.segments[index]? with
  | some segment => segment.transitionIn = .fade && 0 < segment.transitionInDurationMs
  | none => false

/-- The segment type the preparer reports: the first segment's, content for an empty block. -/
def FedBlock.firstSegmentType (block : FedBlock) : SegmentType := (block.typeAt 0).getD .content

/-- `ValidateSegmentIndices`: not empty, and the indices are `0 … n - 1` in some order. -/
def FedBlock.indicesContiguous (block : FedBlock) : Bool :=
  !block.segments.isEmpty &&
    (sortByKey id (block.segments.map Segment.segmentIndex) ==
      (List.range block.segments.length).map Int.ofNat)

/-- `BlockPlanValidator::Validate` at receipt time 0, less the checks that ask for an asset:
timing, freshness, indices, durations. -/
def FedBlock.structurallyValid (block : FedBlock) : Bool :=
  decide (block.startUtcMs < block.endUtcMs) && decide (0 < block.endUtcMs) &&
    block.indicesContiguous &&
    block.segments.all (fun segment => 0 < segment.segmentDurationMs) &&
    ((block.segments.map Segment.segmentDurationMs).sum == block.endUtcMs - block.startUtcMs)

/-- The boundaries of segments already in index order, from content time `ct` on. -/
def boundariesFrom (ct : Int) : List Segment → List SegmentBoundary
  | [] => []
  | segment :: rest =>
    ⟨segment.segmentIndex, ct, ct + segment.segmentDurationMs⟩ ::
      boundariesFrom (ct + segment.segmentDurationMs) rest

/-- `ComputeBoundaries`. -/
def FedBlock.computeBoundaries (block : FedBlock) : List SegmentBoundary :=
  boundariesFrom 0 (sortByKey Segment.segmentIndex block.segments)

/-- `MakeSyntheticSegmentBlock`: one segment of a block as a block of its own. -/
def FedBlock.syntheticSegment (parent : FedBlock) (index : Nat) (segment : Segment)
    (boundaries : List SegmentBoundary) : FedBlock :=
  let bounds := boundaries.getD index ⟨0, 0, 0⟩
  { blockId := parent.blockId
    startUtcMs := parent.startUtcMs + bounds.startCtMs
    endUtcMs := parent.startUtcMs + bounds.endCtMs
    segments := [{ segment with segmentIndex := 0 }] }

@[simp] theorem length_boundariesFrom (ct : Int) (segments : List Segment) :
    (boundariesFrom ct segments).length = segments.length := by
  induction segments generalizing ct with
  | nil => rfl
  | cons segment rest ih => simp [boundariesFrom, ih]

/-- A boundary for each segment. -/
@[simp] theorem length_computeBoundaries (block : FedBlock) :
    block.computeBoundaries.length = block.segments.length := by
  rw [FedBlock.computeBoundaries, length_boundariesFrom]
  exact (sortByKey_perm _ _).length_eq

end Blocks

/-! ### Producers -/

section Producers

/-- What the assets of a block gave: whether every one of them was probed and accepted, and the
frame rate of the decoder opened and sought for the first segment, if that succeeded. -/
structure AssetOutcome where
  accepted : Bool
  decoder : Option RationalFps
  deriving DecidableEq, Repr

/-- A `TickProducer` in state `kReady`: its boundaries are those of its block, or none at all when
the block was rejected. -/
structure TickProducer where
  block : FedBlock
  boundaries : List SegmentBoundary
  hasDecoder : Bool
  inputFps : RationalFps
  /-- The segment of the parent block that a single-segment block was cut from. -/
  logicalSegmentIndex : Int
  ofBlock : boundaries = [] ∨ boundaries = block.computeBoundaries
  deriving DecidableEq, Repr

/-- `TickProducer::AssignBlock`: always ends in `kReady`. A block whose assets or structure are
rejected has no boundaries and no decoder; a pad first segment needs no decoder. -/
def assignBlock (block : FedBlock) (assets : AssetOutcome) : TickProducer :=
  if assets.accepted && block.structurallyValid then
    match block.firstSegmentType, assets.decoder with
    | .pad, _ => ⟨block, block.computeBoundaries, false, .make 1 1, 0, .inr rfl⟩
    | _, some fps => ⟨block, block.computeBoundaries, true, fps, 0, .inr rfl⟩
    | _, none => ⟨block, block.computeBoundaries, false, .make 1 1, 0, .inr rfl⟩
  else ⟨block, [], false, .make 1 1, 0, .inl rfl⟩

/-- `SetLogicalSegmentIndex`. -/
def TickProducer.setLogicalSegmentIndex (producer : TickProducer) (index : Int) : TickProducer :=
  { producer with logicalSegmentIndex := index }

@[simp] theorem assignBlock_block (block : FedBlock) (assets : AssetOutcome) :
    (assignBlock block assets).block = block := by
  unfold assignBlock
  split
  · split <;> rfl
  · rfl

theorem TickProducer.boundaries_length_le (producer : TickProducer) :
    producer.boundaries.length ≤ producer.block.segments.length := by
  rcases producer.ofBlock with none | all
  · simp [none]
  · simp [all]

end Producers

end Retrovue.Air.Blockplan
