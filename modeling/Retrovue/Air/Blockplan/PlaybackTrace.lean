/-
**Playback proofs** (`PlaybackTraceTypes.hpp`).

* `BlockAccumulator`: what a block showed, added up frame by frame, with a record of each segment;
* `DetermineSegmentVerdict`, `DetermineBlockVerdictFromSegments`, `BuildPlaybackProof`;
* `Stretch`: a segment with the frames that were emitted in it; `stretches`: a sequence of calls, cut
  where segments begin;
* `Recorded`: the records are those of the stretches, one after the other; `run_recorded`: so they are
  after every sequence of calls;
* `Sound`: what a proof should say of the frames;
* `proofs_sound_iff`: exactly when it does.

The records keep the first asset of a segment only, and the worst verdict of a segment is the block's.
-/

import Mathlib
import Retrovue.Air.Blockplan.Types

namespace Retrovue.Air.Blockplan

/-! ### Records and verdicts -/

section Verdicts

/-- `PlaybackProofVerdict`. -/
inductive PlaybackProofVerdict
  | faithful
  | partialPad
  | allPad
  | assetMismatch
  deriving DecidableEq, Repr

/-- `SegmentProofRecord`. -/
structure SegmentProofRecord where
  segmentIndex : ℤ
  expectedAssetUri : String
  expectedFrameCount : ℤ
  expectedType : SegmentType
  eventId : String
  actualAssetUri : String
  actualFrameCount : ℤ
  actualPadFrames : ℤ
  actualStartFrame : ℤ
  actualEndFrame : ℤ
  firstCtMs : ℤ
  lastCtMs : ℤ
  verdict : PlaybackProofVerdict := .faithful
  deriving DecidableEq, Repr

/-- `DetermineSegmentVerdict`. -/
def determineSegmentVerdict (rec : SegmentProofRecord) : PlaybackProofVerdict :=
  if rec.actualFrameCount > 0 ∧ rec.actualPadFrames = rec.actualFrameCount then .allPad
  else if rec.actualAssetUri ≠ "" ∧ rec.expectedAssetUri ≠ "" ∧
      rec.actualAssetUri ≠ rec.expectedAssetUri then .assetMismatch
  else if rec.actualPadFrames > 0 then .partialPad
  else .faithful

/-- `BlockPlaybackSummary`. -/
structure BlockPlaybackSummary where
  blockId : String
  assetUris : List String
  firstBlockCtMs : ℤ
  lastBlockCtMs : ℤ
  framesEmitted : ℤ
  padFrames : ℤ
  firstSessionFrameIndex : ℤ
  lastSessionFrameIndex : ℤ
  deriving DecidableEq, Repr

/-- The loop of `DetermineBlockVerdictFromSegments`. -/
def worstVerdict : PlaybackProofVerdict → List SegmentProofRecord → PlaybackProofVerdict
  | worst, [] => worst
  | worst, sp :: rest =>
    if sp.verdict = .assetMismatch then .assetMismatch
    else if sp.verdict = .allPad ∧ worst ≠ .assetMismatch then worstVerdict .allPad rest
    else if sp.verdict = .partialPad ∧ worst = .faithful then worstVerdict .partialPad rest
    else worstVerdict worst rest

/-- `DetermineBlockVerdictFromSegments`. -/
def determineBlockVerdictFromSegments (segmentProofs : List SegmentProofRecord)
    (showed : BlockPlaybackSummary) : PlaybackProofVerdict :=
  if segmentProofs = [] then
    if showed.padFrames = showed.framesEmitted then .allPad
    else if showed.padFrames > 0 then .partialPad
    else .faithful
  else worstVerdict .faithful segmentProofs

end Verdicts

/-! ### The accumulator -/

section Accumulator

/-- `BlockAccumulator::SegmentAccState`; index -1 is no segment. -/
structure SegmentAccState where
  segmentIndex : ℤ := -1
  expectedAssetUri : String := ""
  expectedFrameCount : ℤ := 0
  expectedType : SegmentType := .content
  eventId : String := ""
  actualAssetUri : String := ""
  frameCount : ℤ := 0
  padFrames : ℤ := 0
  startFrame : ℤ := -1
  endFrame : ℤ := -1
  firstCtMs : ℤ := -1
  lastCtMs : ℤ := -1
  deriving DecidableEq, Repr

/-- `BlockAccumulator`; the set of its uris holds those of the list. -/
structure BlockAccumulator where
  blockId : String
  assetUriOrder : List String := []
  firstCtMs : ℤ := -1
  lastCtMs : ℤ := -1
  frames : ℤ := 0
  padFrames : ℤ := 0
  firstSessionFrame : ℤ := -1
  lastSessionFrame : ℤ := -1
  currentSegment : SegmentAccState := {}
  finalizedSegments : List SegmentProofRecord := []
  deriving DecidableEq, Repr

namespace BlockAccumulator

/-- `Reset`. -/
def reset (id : String) : BlockAccumulator := { blockId := id }

/-- The record of a segment, with its verdict. -/
def record (current : SegmentAccState) : SegmentProofRecord :=
  let observed : SegmentProofRecord :=
    { segmentIndex := current.segmentIndex
      expectedAssetUri := current.expectedAssetUri
      expectedFrameCount := current.expectedFrameCount
      expectedType := current.expectedType
      eventId := current.eventId
      actualAssetUri := current.actualAssetUri
      actualFrameCount := current.frameCount
      actualPadFrames := current.padFrames
      actualStartFrame := current.startFrame
      actualEndFrame := current.endFrame
      firstCtMs := current.firstCtMs
      lastCtMs := current.lastCtMs }
  { observed with verdict := determineSegmentVerdict observed }

/-- `FinalizeCurrentSegment`. -/
def finalizeCurrentSegment (acc : BlockAccumulator) : BlockAccumulator :=
  if acc.currentSegment.segmentIndex < 0 then acc
  else
    { acc with
      finalizedSegments := acc.finalizedSegments ++ [record acc.currentSegment]
      currentSegment := {} }

/-- `BeginSegment`. -/
def beginSegment (acc : BlockAccumulator) (index : ℤ) (expectedUri : String) (expectedFrames : ℤ)
    (type : SegmentType) (eventId : String) : BlockAccumulator :=
  { acc.finalizeCurrentSegment with
    currentSegment :=
      { segmentIndex := index
        expectedAssetUri := expectedUri
        expectedFrameCount := expectedFrames
        expectedType := type
        eventId := eventId } }

/-- The part of `AccumulateFrame` on the block. -/
def accumulateBlock (acc : BlockAccumulator) (sessionIdx : ℤ) (isPad : Bool) (uri : String)
    (ctMs : ℤ) : BlockAccumulator :=
  let counted : BlockAccumulator :=
    { acc with
      frames := acc.frames + 1
      firstSessionFrame :=
        if acc.firstSessionFrame < 0 then sessionIdx else acc.firstSessionFrame
      lastSessionFrame := sessionIdx }
  if isPad then { counted with padFrames := acc.padFrames + 1 }
  else
    { counted with
      assetUriOrder :=
        if uri ≠ "" ∧ uri ∉ acc.assetUriOrder then acc.assetUriOrder ++ [uri]
        else acc.assetUriOrder
      firstCtMs := if ctMs ≥ 0 ∧ acc.firstCtMs < 0 then ctMs else acc.firstCtMs
      lastCtMs := if ctMs ≥ 0 then ctMs else acc.lastCtMs }

/-- The part of `AccumulateFrame` on the segment. -/
def accumulateSegment (current : SegmentAccState) (sessionIdx : ℤ) (isPad : Bool) (uri : String)
    (ctMs : ℤ) : SegmentAccState :=
  if current.segmentIndex ≥ 0 then
    let counted : SegmentAccState :=
      { current with
        frameCount := current.frameCount + 1
        startFrame := if current.startFrame < 0 then sessionIdx else current.startFrame
        endFrame := sessionIdx }
    if isPad then { counted with padFrames := current.padFrames + 1 }
    else
      { counted with
        actualAssetUri :=
          if uri ≠ "" ∧ current.actualAssetUri = "" then uri else current.actualAssetUri
        firstCtMs := if ctMs ≥ 0 ∧ current.firstCtMs < 0 then ctMs else current.firstCtMs
        lastCtMs := if ctMs ≥ 0 then ctMs else current.lastCtMs }
  else current

/-- `AccumulateFrame`. -/
def accumulateFrame (acc : BlockAccumulator) (sessionIdx : ℤ) (isPad : Bool) (uri : String)
    (ctMs : ℤ) : BlockAccumulator :=
  { acc.accumulateBlock sessionIdx isPad uri ctMs with
    currentSegment := accumulateSegment acc.currentSegment sessionIdx isPad uri ctMs }

/-- What `Finalize` leaves. -/
def finalized (acc : BlockAccumulator) : BlockAccumulator := acc.finalizeCurrentSegment

/-- What `Finalize` returns. -/
def finalize (acc : BlockAccumulator) : BlockPlaybackSummary :=
  { blockId := acc.blockId
    assetUris := acc.assetUriOrder
    firstBlockCtMs := acc.firstCtMs
    lastBlockCtMs := acc.lastCtMs
    framesEmitted := acc.frames
    padFrames := acc.padFrames
    firstSessionFrameIndex := acc.firstSessionFrame
    lastSessionFrameIndex := acc.lastSessionFrame }

end BlockAccumulator

end Accumulator

/-! ### The proof -/

section Proof

/-- A `FedBlock` as its proof reads it: each segment with its uri and start offset. -/
structure ProofBlock where
  blockId : String
  startUtcMs : ℤ
  endUtcMs : ℤ
  segments : List (String × ℤ)
  deriving DecidableEq, Repr

/-- `BlockPlaybackIntent`. -/
structure BlockPlaybackIntent where
  blockId : String
  expectedAssetUris : List String
  expectedDurationMs : ℤ
  expectedFrames : ℤ
  expectedStartOffsetMs : ℤ
  deriving DecidableEq, Repr

/-- `BuildIntent`. -/
def buildIntent (block : ProofBlock) (sessionFps : RationalFps) : BlockPlaybackIntent :=
  { blockId := block.blockId
    expectedAssetUris := block.segments.map Prod.fst
    expectedDurationMs := block.endUtcMs - block.startUtcMs
    expectedFrames := if sessionFps.isValid then
      sessionFps.framesFromDurationCeilMs (block.endUtcMs - block.startUtcMs) else 0
    expectedStartOffsetMs := (block.segments.head?.map Prod.snd).getD 0 }

/-- `DetermineVerdict`, without segment proofs. -/
def determineVerdict (wanted : BlockPlaybackIntent) (showed : BlockPlaybackSummary) :
    PlaybackProofVerdict :=
  if showed.padFrames = showed.framesEmitted then .allPad
  else if ¬ ∀ observed ∈ showed.assetUris, observed ∈ wanted.expectedAssetUris then .assetMismatch
  else if showed.padFrames > 0 then .partialPad
  else .faithful

/-- `BlockPlaybackProof`. -/
structure BlockPlaybackProof where
  wanted : BlockPlaybackIntent
  showed : BlockPlaybackSummary
  segmentProofs : List SegmentProofRecord
  verdict : PlaybackProofVerdict
  frameBudgetMatch : Bool := true
  noGaps : Bool := true
  noOverlaps : Bool := true
  deriving DecidableEq, Repr

/-- A check of adjacent records, both of them with frames. -/
def adjacent (ok : ℤ → ℤ → Bool) : List SegmentProofRecord → Bool
  | prev :: curr :: rest =>
    (if prev.actualEndFrame ≥ 0 ∧ curr.actualStartFrame ≥ 0 then
      ok prev.actualEndFrame curr.actualStartFrame else true) && adjacent ok (curr :: rest)
  | _ => true

/-- **`BuildPlaybackProof`.** -/
def buildPlaybackProof (block : ProofBlock) (summary : BlockPlaybackSummary)
    (sessionFps : RationalFps) (segmentProofs : List SegmentProofRecord) : BlockPlaybackProof :=
  let wanted := buildIntent block sessionFps
  if segmentProofs ≠ [] then
    { wanted := wanted
      showed := summary
      segmentProofs := segmentProofs
      verdict := determineBlockVerdictFromSegments segmentProofs summary
      frameBudgetMatch :=
        (segmentProofs.map SegmentProofRecord.actualFrameCount).sum = summary.framesEmitted
      noGaps := adjacent (fun stop start => ¬ start > stop + 1) segmentProofs
      noOverlaps := adjacent (fun stop start => ¬ start ≤ stop) segmentProofs }
  else
    { wanted := wanted
      showed := summary
      segmentProofs := segmentProofs
      verdict := determineVerdict wanted summary }

end Proof

/-! ### Calls and stretches -/

section Calls

/-- The arguments of `BeginSegment`; the index is one into the block's segments. -/
structure Begun where
  index : ℕ
  expectedUri : String
  expectedFrames : ℤ
  type : SegmentType
  eventId : String
  deriving DecidableEq, Repr

/-- The arguments of `AccumulateFrame` but for the session frame index. -/
structure ShownFrame where
  isPad : Bool
  uri : String
  ctMs : ℤ
  deriving DecidableEq, Repr

/-- A call between `Reset` and `Finalize`. -/
inductive TraceCall
  | begin_ (segment : Begun)
  | frame (shown : ShownFrame)
  deriving DecidableEq, Repr

/-- One call; frames take consecutive session frame indices. -/
def traceStep (state : BlockAccumulator × ℕ) : TraceCall → BlockAccumulator × ℕ
  | .begin_ segment =>
    (state.1.beginSegment segment.index segment.expectedUri segment.expectedFrames segment.type
      segment.eventId, state.2)
  | .frame shown => (state.1.accumulateFrame state.2 shown.isPad shown.uri shown.ctMs, state.2 + 1)

/-- **A block's accumulator** before `Finalize`: `Reset`, `BeginSegment`, and the calls after it, from
a session frame index on. -/
def traced (id : String) (firstFrame : ℕ) (first : Begun) (calls : List TraceCall) :
    BlockAccumulator :=
  ((TraceCall.begin_ first :: calls).foldl traceStep (.reset id, firstFrame)).1

/-- The proof of a block. -/
def tracedProof (block : ProofBlock) (fps : RationalFps) (firstFrame : ℕ) (first : Begun)
    (calls : List TraceCall) : BlockPlaybackProof :=
  buildPlaybackProof block (traced block.blockId firstFrame first calls).finalize fps
    (traced block.blockId firstFrame first calls).finalized.finalizedSegments

/-- A segment with the frames that were emitted in it. -/
structure Stretch where
  segment : Begun
  frames : List ShownFrame
  deriving DecidableEq, Repr

/-- The calls, cut where segments begin: the frames before the first cut, and the stretches. -/
def cut : List TraceCall → List ShownFrame × List Stretch
  | [] => ([], [])
  | .frame shown :: rest => (shown :: (cut rest).1, (cut rest).2)
  | .begin_ segment :: rest => ([], ⟨segment, (cut rest).1⟩ :: (cut rest).2)

/-- The stretches of a segment that begins and the calls after it. -/
def stretches (first : Begun) (calls : List TraceCall) : List Stretch :=
  ⟨first, (cut calls).1⟩ :: (cut calls).2

/-- A real frame that showed another asset than its segment expects. -/
def Stretch.Strays (stretch : Stretch) (shown : ShownFrame) : Prop :=
  shown.isPad = false ∧ shown.uri ≠ "" ∧ shown.uri ≠ stretch.segment.expectedUri

/-- **What a proof should say of the frames of a block.** -/
structure Sound (run : List Stretch) (proof : BlockPlaybackProof) : Prop where
  intact : proof.frameBudgetMatch = true ∧ proof.noGaps = true ∧ proof.noOverlaps = true
  faithful : proof.verdict = .faithful →
    ∀ stretch ∈ run, ∀ shown ∈ stretch.frames, shown.isPad = false ∧
      (shown.uri ≠ "" → shown.uri = stretch.segment.expectedUri)
  allPad : proof.verdict = .allPad ↔
    ∀ stretch ∈ run, ∀ shown ∈ stretch.frames, shown.isPad = true
  mismatch : ∀ stretch ∈ run, ∀ shown ∈ stretch.frames, stretch.Strays shown →
    proof.verdict = .assetMismatch

/-- A real frame that names its asset. -/
def ShownFrame.identified (shown : ShownFrame) : Bool := !shown.isPad && shown.uri != ""

/-- The asset of a segment that its first identified frame shows. -/
def Stretch.firstUri (stretch : Stretch) : String :=
  ((stretch.frames.find? ShownFrame.identified).map ShownFrame.uri).getD ""

/-- The first identified frame shows another asset than the segment names. -/
def Stretch.StartsAstray (stretch : Stretch) : Prop :=
  stretch.firstUri ≠ "" ∧ stretch.segment.expectedUri ≠ "" ∧
    stretch.firstUri ≠ stretch.segment.expectedUri

instance (stretch : Stretch) : Decidable stretch.StartsAstray :=
  inferInstanceAs (Decidable (_ ∧ _ ∧ _))

/-- A frame was emitted, and every one is pad. -/
def Stretch.OnlyPad (stretch : Stretch) : Prop :=
  stretch.frames ≠ [] ∧ ∀ shown ∈ stretch.frames, shown.isPad = true

instance (stretch : Stretch) : Decidable stretch.OnlyPad := inferInstanceAs (Decidable (_ ∧ _))

/-- **A block that its proof tells apart**: some segment's first identified frame strays; or frames
were emitted, none strays, and no segment is only pad unless the block is. -/
def Telling (run : List Stretch) : Prop :=
  (∃ stretch ∈ run, stretch.StartsAstray) ∨
    ((∃ stretch ∈ run, stretch.frames ≠ []) ∧
      (∀ stretch ∈ run, ∀ shown ∈ stretch.frames, ¬ stretch.Strays shown) ∧
      ((∀ stretch ∈ run, ¬ stretch.OnlyPad) ∨
        ∀ stretch ∈ run, ∀ shown ∈ stretch.frames, shown.isPad = true))

end Calls

/-! ### The records of the stretches -/

section Records

/-- The pad frames of a stretch. -/
def Stretch.pads (stretch : Stretch) : ℕ := stretch.frames.countP ShownFrame.isPad

/-- **A segment's state says what its stretch is**, from a session frame index on. -/
structure Tracks (first : ℕ) (stretch : Stretch) (state : SegmentAccState) : Prop where
  index : state.segmentIndex = stretch.segment.index
  expected : state.expectedAssetUri = stretch.segment.expectedUri
  count : state.frameCount = stretch.frames.length
  pads : state.padFrames = stretch.pads
  start : state.startFrame = if stretch.frames = [] then -1 else (first : ℤ)
  stop : state.endFrame = if stretch.frames = [] then -1 else (first + stretch.frames.length - 1 : ℤ)
  uri : state.actualAssetUri = stretch.firstUri

/-- **A record says what its stretch was.** -/
structure RecordOf (first : ℕ) (stretch : Stretch) (rec : SegmentProofRecord) : Prop where
  expected : rec.expectedAssetUri = stretch.segment.expectedUri
  count : rec.actualFrameCount = stretch.frames.length
  pads : rec.actualPadFrames = stretch.pads
  start : rec.actualStartFrame = if stretch.frames = [] then -1 else (first : ℤ)
  stop : rec.actualEndFrame =
    if stretch.frames = [] then -1 else (first + stretch.frames.length - 1 : ℤ)
  uri : rec.actualAssetUri = stretch.firstUri
  verdict : rec.verdict = determineSegmentVerdict rec

/-- Records of stretches, one after the other. -/
def Recorded : ℕ → List Stretch → List SegmentProofRecord → Prop
  | _, [], [] => True
  | first, stretch :: run, rec :: proofs =>
    RecordOf first stretch rec ∧ Recorded (first + stretch.frames.length) run proofs
  | _, _, _ => False

theorem identified_iff (shown : ShownFrame) :
    shown.identified = true ↔ shown.isPad = false ∧ shown.uri ≠ "" := by
  simp [ShownFrame.identified]

/-- The first asset, with a frame more. -/
theorem firstUri_concat (segment : Begun) (frames : List ShownFrame) (shown : ShownFrame) :
    (Stretch.mk segment (frames ++ [shown])).firstUri =
      if shown.isPad = false ∧ shown.uri ≠ "" ∧ (Stretch.mk segment frames).firstUri = "" then
        shown.uri
      else (Stretch.mk segment frames).firstUri := by
  unfold Stretch.firstUri
  rw [List.find?_append]
  rcases found : frames.find? ShownFrame.identified with _ | earlier
  · by_cases named : shown.identified
    · have real := (identified_iff shown).mp named
      simp [named, real]
    · have unnamed : ¬ (shown.isPad = false ∧ shown.uri ≠ "") :=
        fun real => named ((identified_iff shown).mpr real)
      simp only [List.find?_cons_of_neg named, List.find?_nil, Option.or_none, Option.map_none,
        Option.getD_none]
      rw [if_neg fun real => unnamed ⟨real.1, real.2.1⟩]
  · have named := ((identified_iff earlier).mp (List.find?_some found)).2
    simp [named]

theorem Tracks.begun (first : ℕ) (segment : Begun) :
    Tracks first ⟨segment, []⟩
      { segmentIndex := segment.index
        expectedAssetUri := segment.expectedUri
        expectedFrameCount := segment.expectedFrames
        expectedType := segment.type
        eventId := segment.eventId } :=
  ⟨rfl, rfl, rfl, rfl, rfl, rfl, rfl⟩

/-- One frame more. -/
theorem Tracks.frame {first : ℕ} {segment : Begun} {frames : List ShownFrame}
    {state : SegmentAccState} (tracks : Tracks first ⟨segment, frames⟩ state) (shown : ShownFrame) :
    Tracks first ⟨segment, frames ++ [shown]⟩
      (BlockAccumulator.accumulateSegment state ((first + frames.length : ℕ) : ℤ) shown.isPad
        shown.uri shown.ctMs) := by
  have counted : state.segmentIndex ≥ 0 := by
    rw [tracks.index]
    exact Int.natCast_nonneg _
  have start := tracks.start
  have uri := firstUri_concat segment frames shown
  rw [← tracks.uri] at uri
  unfold BlockAccumulator.accumulateSegment
  rw [if_pos counted]
  have begins : (if state.startFrame < 0 then ((first + frames.length : ℕ) : ℤ)
      else state.startFrame) = first := by
    dsimp only at start
    rw [start]
    by_cases empty : frames = []
    · subst empty
      simp
    · rw [if_neg empty, if_neg (by omega)]
  cases pad : shown.isPad with
  | true =>
    refine ⟨tracks.index, tracks.expected, ?_, ?_, ?_, ?_, ?_⟩
    · simp [tracks.count]
    · simp [tracks.pads, Stretch.pads, pad]
    · simpa using begins
    · simp
      omega
    · simp [uri, pad]
  | false =>
    refine ⟨tracks.index, tracks.expected, ?_, ?_, ?_, ?_, ?_⟩
    · simp [tracks.count]
    · simp [tracks.pads, Stretch.pads, pad]
    · simpa using begins
    · simp
      omega
    · simp [uri, pad]

/-- The record of a state. -/
theorem Tracks.record {first : ℕ} {stretch : Stretch} {state : SegmentAccState}
    (tracks : Tracks first stretch state) :
    RecordOf first stretch (BlockAccumulator.record state) :=
  ⟨tracks.expected, tracks.count, tracks.pads, tracks.start, tracks.stop, tracks.uri, rfl⟩

theorem Tracks.finalize {first : ℕ} {stretch : Stretch} {acc : BlockAccumulator}
    (tracks : Tracks first stretch acc.currentSegment) :
    acc.finalizeCurrentSegment.finalizedSegments =
      acc.finalizedSegments ++ [BlockAccumulator.record acc.currentSegment] := by
  have begun : ¬ acc.currentSegment.segmentIndex < 0 := by
    rw [tracks.index]
    omega
  rw [BlockAccumulator.finalizeCurrentSegment, if_neg begun]

theorem accumulateFrame_finalizedSegments (acc : BlockAccumulator) (sessionIdx : ℤ) (isPad : Bool)
    (uri : String) (ctMs : ℤ) :
    (acc.accumulateFrame sessionIdx isPad uri ctMs).finalizedSegments = acc.finalizedSegments := by
  cases isPad <;> rfl

theorem accumulateFrame_frames (acc : BlockAccumulator) (sessionIdx : ℤ) (isPad : Bool)
    (uri : String) (ctMs : ℤ) :
    (acc.accumulateFrame sessionIdx isPad uri ctMs).frames = acc.frames + 1 := by
  cases isPad <;> rfl

theorem beginSegment_frames (acc : BlockAccumulator) (index : ℤ) (uri : String) (frames : ℤ)
    (type : SegmentType) (eventId : String) :
    (acc.beginSegment index uri frames type eventId).frames = acc.frames := by
  unfold BlockAccumulator.beginSegment BlockAccumulator.finalizeCurrentSegment
  split_ifs <;> rfl

/-- **Every sequence of calls leaves the records of its stretches**, behind those that were there. The
first stretch goes on with what has been shown of it. -/
theorem foldl_recorded (calls : List TraceCall) : ∀ (acc : BlockAccumulator) {first : ℕ}
    {segment : Begun} {frames : List ShownFrame},
    Tracks first ⟨segment, frames⟩ acc.currentSegment →
    ∃ proofs, (calls.foldl traceStep (acc, first + frames.length)).1.finalized.finalizedSegments =
        acc.finalizedSegments ++ proofs ∧
      Recorded first (⟨segment, frames ++ (cut calls).1⟩ :: (cut calls).2) proofs := by
  induction calls with
  | nil =>
    intro acc first segment frames tracks
    refine ⟨[BlockAccumulator.record acc.currentSegment], tracks.finalize, ?_, trivial⟩
    rw [cut, List.append_nil]
    exact tracks.record
  | cons call rest ih =>
    intro acc first segment frames tracks
    cases call with
    | frame shown =>
      obtain ⟨proofs, final, recorded⟩ := ih (acc.accumulateFrame
        ((first + frames.length : ℕ) : ℤ) shown.isPad shown.uri shown.ctMs) (tracks.frame shown)
      refine ⟨proofs, ?_, ?_⟩
      · rw [List.length_append, List.length_singleton, ← add_assoc] at final
        rw [← accumulateFrame_finalizedSegments acc ((first + frames.length : ℕ) : ℤ) shown.isPad
          shown.uri shown.ctMs]
        exact final
      · rwa [List.append_assoc] at recorded
    | begin_ next =>
      obtain ⟨proofs, final, recorded⟩ := ih (acc.beginSegment next.index next.expectedUri
        next.expectedFrames next.type next.eventId) (Tracks.begun (first + frames.length) next)
      refine ⟨BlockAccumulator.record acc.currentSegment :: proofs, ?_, ?_, ?_⟩
      · have before : (acc.beginSegment next.index next.expectedUri next.expectedFrames next.type
            next.eventId).finalizedSegments =
              acc.finalizedSegments ++ [BlockAccumulator.record acc.currentSegment] :=
          tracks.finalize
        rw [before, List.append_assoc] at final
        exact final
      · rw [cut, List.append_nil]
        exact tracks.record
      · rw [cut, List.append_nil]
        exact recorded

/-- The frames of some stretches. -/
def shownFrames (run : List Stretch) : ℕ := (run.map fun stretch => stretch.frames.length).sum

/-- Every frame is counted. -/
theorem foldl_frames (calls : List TraceCall) : ∀ (acc : BlockAccumulator) (next : ℕ),
    (calls.foldl traceStep (acc, next)).1.frames =
      acc.frames + (cut calls).1.length + shownFrames (cut calls).2 := by
  induction calls with
  | nil =>
    intro acc next
    simp [cut, shownFrames]
  | cons call rest ih =>
    intro acc next
    rw [List.foldl_cons]
    cases call with
    | frame shown =>
      rw [traceStep, ih, accumulateFrame_frames, cut]
      push_cast [List.length_cons]
      ring
    | begin_ segment =>
      rw [traceStep, ih, beginSegment_frames, cut]
      simp [shownFrames]
      ring

/-- **Every block leaves a record for each of its stretches**, and counts every frame of them. -/
theorem traced_recorded (id : String) (firstFrame : ℕ) (first : Begun) (calls : List TraceCall) :
    Recorded firstFrame (stretches first calls)
        (traced id firstFrame first calls).finalized.finalizedSegments ∧
      (traced id firstFrame first calls).frames = shownFrames (stretches first calls) := by
  have begun := Tracks.begun firstFrame first
  obtain ⟨proofs, final, recorded⟩ := foldl_recorded calls
    ((BlockAccumulator.reset id).beginSegment first.index first.expectedUri
      first.expectedFrames first.type first.eventId) begun
  have counted := foldl_frames calls ((BlockAccumulator.reset id).beginSegment first.index
    first.expectedUri first.expectedFrames first.type first.eventId) firstFrame
  rw [beginSegment_frames] at counted
  refine ⟨?_, ?_⟩
  · rw [show (traced id firstFrame first calls).finalized.finalizedSegments = proofs from final]
    exact recorded
  · rw [show (traced id firstFrame first calls).frames = _ from counted]
    simp [BlockAccumulator.reset, stretches, shownFrames]

/-- What holds of a record exactly when something holds of its stretch, holds of some record exactly
when that holds of some stretch. -/
theorem Recorded.exists_iff {P : SegmentProofRecord → Prop} {Q : Stretch → Prop}
    (each : ∀ first stretch rec, RecordOf first stretch rec → (P rec ↔ Q stretch))
    {first : ℕ} {run : List Stretch} {proofs : List SegmentProofRecord}
    (recorded : Recorded first run proofs) :
    (∃ rec ∈ proofs, P rec) ↔ ∃ stretch ∈ run, Q stretch := by
  induction run generalizing first proofs with
  | nil =>
    cases proofs with
    | nil => simp
    | cons => exact recorded.elim
  | cons stretch run ih =>
    cases proofs with
    | nil => exact recorded.elim
    | cons proof proofs =>
      obtain ⟨here, later⟩ := recorded
      rw [List.exists_mem_cons_iff, List.exists_mem_cons_iff, each first stretch proof here, ih later]

/-- No frame is missing from the records. -/
theorem Recorded.budget {first : ℕ} {run : List Stretch} {proofs : List SegmentProofRecord}
    (recorded : Recorded first run proofs) :
    (proofs.map SegmentProofRecord.actualFrameCount).sum = shownFrames run := by
  induction run generalizing first proofs with
  | nil =>
    cases proofs with
    | nil => rfl
    | cons => exact recorded.elim
  | cons stretch run ih =>
    cases proofs with
    | nil => exact recorded.elim
    | cons proof proofs =>
      obtain ⟨here, later⟩ := recorded
      rw [List.map_cons, List.sum_cons, here.count, ih later]
      simp [shownFrames]

/-- The record of a stretch and that of the next one touch. -/
theorem Recorded.touches {ok : ℤ → ℤ → Bool} (next : ∀ stop, ok stop (stop + 1) = true)
    {first : ℕ} {stretch following : Stretch} {prev curr : SegmentProofRecord}
    (here : RecordOf first stretch prev)
    (after : RecordOf (first + stretch.frames.length) following curr) :
    (if prev.actualEndFrame ≥ 0 ∧ curr.actualStartFrame ≥ 0 then
      ok prev.actualEndFrame curr.actualStartFrame else true) = true := by
  split_ifs with both
  · have stop := here.stop
    have start := after.start
    split_ifs at stop start <;> try omega
    rw [show curr.actualStartFrame = prev.actualEndFrame + 1 by push_cast at start; omega]
    exact next _
  · rfl

/-- **Adjacent records touch**: a check that a frame and the next one pass, passes. -/
theorem Recorded.adjacent {ok : ℤ → ℤ → Bool} (next : ∀ stop, ok stop (stop + 1) = true)
    {first : ℕ} {run : List Stretch} {proofs : List SegmentProofRecord}
    (recorded : Recorded first run proofs) : Blockplan.adjacent ok proofs = true := by
  induction run generalizing first proofs with
  | nil =>
    cases proofs with
    | nil => rfl
    | cons => exact recorded.elim
  | cons stretch run ih =>
    cases proofs with
    | nil => rfl
    | cons prev proofs =>
      obtain ⟨here, later⟩ := recorded
      cases proofs with
      | nil => rfl
      | cons curr rest =>
        cases run with
        | nil => exact later.elim
        | cons following run =>
          rw [Blockplan.adjacent, Recorded.touches next here later.1, Bool.true_and]
          exact ih later

end Records

/-! ### Verdicts -/

section WorstOf

theorem onlyPad_iff (stretch : Stretch) :
    stretch.OnlyPad ↔ stretch.frames.length > 0 ∧ stretch.pads = stretch.frames.length := by
  unfold Stretch.OnlyPad Stretch.pads
  rw [List.countP_eq_length, gt_iff_lt, List.length_pos_iff]

/-- A first asset is that of a real frame. -/
theorem exists_of_firstUri {stretch : Stretch} (named : stretch.firstUri ≠ "") :
    ∃ shown ∈ stretch.frames, shown.isPad = false ∧ shown.uri = stretch.firstUri := by
  unfold Stretch.firstUri at named ⊢
  rcases found : stretch.frames.find? ShownFrame.identified with _ | shown
  · rw [found] at named
    exact absurd rfl named
  · exact ⟨shown, List.mem_of_find?_eq_some found,
      ((identified_iff shown).mp (List.find?_some found)).1, rfl⟩

theorem StartsAstray.not_onlyPad {stretch : Stretch} (astray : stretch.StartsAstray) :
    ¬ stretch.OnlyPad := by
  rintro ⟨-, pads⟩
  obtain ⟨shown, mem, real, -⟩ := exists_of_firstUri astray.1
  rw [pads shown mem] at real
  exact Bool.noConfusion real

/-- The verdict of a record, in terms of its stretch. -/
theorem RecordOf.verdict_eq {first : ℕ} {stretch : Stretch} {proof : SegmentProofRecord}
    (of : RecordOf first stretch proof) :
    proof.verdict =
      if stretch.OnlyPad then .allPad
      else if stretch.StartsAstray then .assetMismatch
      else if stretch.pads > 0 then .partialPad
      else .faithful := by
  have only : (proof.actualFrameCount > 0 ∧ proof.actualPadFrames = proof.actualFrameCount) ↔
      stretch.OnlyPad := by
    rw [onlyPad_iff, of.count, of.pads]
    omega
  have some_ : proof.actualPadFrames > 0 ↔ stretch.pads > 0 := by
    rw [of.pads]
    omega
  rw [of.verdict, determineSegmentVerdict, of.uri, of.expected]
  simp only [only, some_]
  rfl

theorem RecordOf.allPad_iff {first : ℕ} {stretch : Stretch} {proof : SegmentProofRecord}
    (of : RecordOf first stretch proof) : proof.verdict = .allPad ↔ stretch.OnlyPad := by
  rw [of.verdict_eq]
  split_ifs <;> simp_all

theorem RecordOf.mismatch_iff {first : ℕ} {stretch : Stretch} {proof : SegmentProofRecord}
    (of : RecordOf first stretch proof) :
    proof.verdict = .assetMismatch ↔ stretch.StartsAstray := by
  rw [of.verdict_eq]
  split_ifs with only astray
  · simpa using fun astray => StartsAstray.not_onlyPad astray only
  · simpa using astray
  · simpa using astray
  · simpa using astray

theorem RecordOf.unfaithful_iff {first : ℕ} {stretch : Stretch} {proof : SegmentProofRecord}
    (of : RecordOf first stretch proof) :
    proof.verdict ≠ .faithful ↔ stretch.StartsAstray ∨ stretch.pads > 0 := by
  have counted : stretch.OnlyPad → stretch.pads > 0 := by
    rw [onlyPad_iff]
    omega
  rw [of.verdict_eq]
  split_ifs with only astray pads
  · simp [counted only]
  · simp [astray]
  · simp [pads]
  · simp [astray, pads]

/-- The worst is a mismatch when there is one. -/
theorem worstVerdict_mismatch (proofs : List SegmentProofRecord) : ∀ (worst : PlaybackProofVerdict),
    worst ≠ .assetMismatch →
    (worstVerdict worst proofs = .assetMismatch ↔ ∃ sp ∈ proofs, sp.verdict = .assetMismatch) := by
  induction proofs with
  | nil =>
    intro worst kept
    simpa [worstVerdict] using kept
  | cons sp rest ih =>
    intro worst kept
    rw [worstVerdict, List.exists_mem_cons_iff]
    split_ifs with first all some_
    · simp [first]
    · rw [ih _ (by simp)]
      simp [all.1]
    · rw [ih _ (by simp)]
      simp [some_.1]
    · rw [ih _ kept]
      simp [first]

/-- Otherwise it is all pad when there is one that is. -/
theorem worstVerdict_allPad (proofs : List SegmentProofRecord) : ∀ (worst : PlaybackProofVerdict),
    worst ≠ .assetMismatch → (∀ sp ∈ proofs, sp.verdict ≠ .assetMismatch) →
    (worstVerdict worst proofs = .allPad ↔
      worst = .allPad ∨ ∃ sp ∈ proofs, sp.verdict = .allPad) := by
  induction proofs with
  | nil =>
    intro worst _ _
    simp [worstVerdict]
  | cons sp rest ih =>
    intro worst kept none_
    have later : ∀ sp ∈ rest, sp.verdict ≠ .assetMismatch :=
      fun sp mem => none_ sp (List.mem_cons_of_mem _ mem)
    rw [worstVerdict, List.exists_mem_cons_iff, if_neg (none_ sp List.mem_cons_self)]
    split_ifs with all some_
    · rw [ih _ (by simp) later]
      simp [all.1]
    · rw [ih _ (by simp) later]
      simp [some_]
    · have other : sp.verdict ≠ .allPad := fun pad => all ⟨pad, kept⟩
      rw [ih _ kept later]
      simp [other]

/-- It is faithful when each one is. -/
theorem worstVerdict_faithful (proofs : List SegmentProofRecord) : ∀ {worst : PlaybackProofVerdict},
    worstVerdict worst proofs = .faithful →
      worst = .faithful ∧ ∀ sp ∈ proofs, sp.verdict = .faithful := by
  induction proofs with
  | nil =>
    intro worst faithful
    simpa [worstVerdict] using faithful
  | cons sp rest ih =>
    intro worst faithful
    rw [worstVerdict] at faithful
    split_ifs at faithful with first all some_
    · exact absurd (ih faithful).1 (by simp)
    · exact absurd (ih faithful).1 (by simp)
    · obtain ⟨kept, later⟩ := ih faithful
      subst kept
      refine ⟨rfl, List.forall_mem_cons.mpr ⟨?_, later⟩⟩
      cases verdict : sp.verdict <;> simp_all

end WorstOf

/-! ### What a proof says -/

section Soundness

/-- A proof with segments: its parts, in terms of the records. -/
theorem tracedProof_spec (block : ProofBlock) (fps : RationalFps) (firstFrame : ℕ) (first : Begun)
    (calls : List TraceCall) :
    ∃ proofs, Recorded firstFrame (stretches first calls) proofs ∧
      (tracedProof block fps firstFrame first calls).verdict = worstVerdict .faithful proofs ∧
      (tracedProof block fps firstFrame first calls).frameBudgetMatch = true ∧
      (tracedProof block fps firstFrame first calls).noGaps = true ∧
      (tracedProof block fps firstFrame first calls).noOverlaps = true := by
  obtain ⟨recorded, counted⟩ := traced_recorded block.blockId firstFrame first calls
  have some_ : (traced block.blockId firstFrame first calls).finalized.finalizedSegments ≠ [] := by
    intro none_
    rw [none_] at recorded
    exact recorded.elim
  refine ⟨_, recorded, ?_⟩
  unfold tracedProof buildPlaybackProof
  rw [if_pos some_]
  refine ⟨if_neg some_, ?_, ?_, ?_⟩
  · exact decide_eq_true (recorded.budget.trans counted.symm)
  · exact recorded.adjacent fun stop => decide_eq_true (by omega)
  · exact recorded.adjacent fun stop => decide_eq_true (by omega)

/-- Without a segment that starts astray, the proof is sound when no frame strays and a segment is only
pad exactly when the block is. -/
theorem sound_iff_of_not_mismatch {run : List Stretch} {proof : BlockPlaybackProof}
    (intact : proof.frameBudgetMatch = true ∧ proof.noGaps = true ∧ proof.noOverlaps = true)
    (kept : proof.verdict ≠ .assetMismatch)
    (allPad : proof.verdict = .allPad ↔ ∃ stretch ∈ run, stretch.OnlyPad)
    (faithful : proof.verdict = .faithful →
      ∀ stretch ∈ run, ∀ shown ∈ stretch.frames, shown.isPad = false) :
    Sound run proof ↔
      (∀ stretch ∈ run, ∀ shown ∈ stretch.frames, ¬ stretch.Strays shown) ∧
        ((∃ stretch ∈ run, stretch.OnlyPad) ↔
          ∀ stretch ∈ run, ∀ shown ∈ stretch.frames, shown.isPad = true) := by
  constructor
  · intro sound
    refine ⟨fun stretch mem shown emitted strays => ?_, allPad.symm.trans sound.allPad⟩
    exact kept (sound.mismatch stretch mem shown emitted strays)
  · rintro ⟨straight, only⟩
    refine ⟨intact, fun verdict stretch mem shown emitted => ?_, allPad.trans only, ?_⟩
    · have real := faithful verdict stretch mem shown emitted
      refine ⟨real, fun named => ?_⟩
      by_contra other
      exact straight stretch mem shown emitted ⟨real, named, other⟩
    · exact fun stretch mem shown emitted strays =>
        absurd strays (straight stretch mem shown emitted)

/-- A segment is only pad exactly when the block is, if frames were emitted and no segment is unless the
block is. -/
theorem onlyPad_iff_block (run : List Stretch) :
    ((∃ stretch ∈ run, stretch.OnlyPad) ↔
        ∀ stretch ∈ run, ∀ shown ∈ stretch.frames, shown.isPad = true) ↔
      (∃ stretch ∈ run, stretch.frames ≠ []) ∧
        ((∀ stretch ∈ run, ¬ stretch.OnlyPad) ∨
          ∀ stretch ∈ run, ∀ shown ∈ stretch.frames, shown.isPad = true) := by
  constructor
  · intro only
    by_cases pads : ∀ stretch ∈ run, ∀ shown ∈ stretch.frames, shown.isPad = true
    · obtain ⟨stretch, mem, emitted, -⟩ := only.mpr pads
      exact ⟨⟨stretch, mem, emitted⟩, .inr pads⟩
    · refine ⟨?_, .inl fun stretch mem alone => pads (only.mp ⟨stretch, mem, alone⟩)⟩
      push Not at pads
      obtain ⟨stretch, mem, shown, emitted, -⟩ := pads
      exact ⟨stretch, mem, List.ne_nil_of_mem emitted⟩
  · rintro ⟨⟨stretch, mem, emitted⟩, none_ | pads⟩
    · refine ⟨fun ⟨other, inside, alone⟩ => absurd alone (none_ other inside), fun pads => ?_⟩
      exact ⟨stretch, mem, emitted, pads stretch mem⟩
    · exact ⟨fun _ => pads, fun _ => ⟨stretch, mem, emitted, pads stretch mem⟩⟩

/-- **A proof says what the frames were exactly when the block is one that it tells apart**, for every
block, rate, first frame index, and sequence of calls. -/
theorem proofs_sound_iff (block : ProofBlock) (fps : RationalFps) (firstFrame : ℕ) (first : Begun)
    (calls : List TraceCall) :
    Sound (stretches first calls) (tracedProof block fps firstFrame first calls) ↔
      Telling (stretches first calls) := by
  obtain ⟨proofs, recorded, verdict, intact⟩ :=
    tracedProof_spec block fps firstFrame first calls
  have mismatch := worstVerdict_mismatch proofs .faithful (by simp)
  have astray := recorded.exists_iff fun _ _ _ of => of.mismatch_iff
  have only := recorded.exists_iff fun _ _ _ of => of.allPad_iff
  rw [astray] at mismatch
  by_cases found : ∃ stretch ∈ stretches first calls, stretch.StartsAstray
  · have worst := verdict.trans (mismatch.mpr found)
    refine ⟨fun _ => .inl found, fun _ => ⟨intact, fun faithful => ?_, ⟨fun pad => ?_, fun pads => ?_⟩,
      fun _ _ _ _ _ => worst⟩⟩
    · rw [worst] at faithful
      exact PlaybackProofVerdict.noConfusion faithful
    · rw [worst] at pad
      exact PlaybackProofVerdict.noConfusion pad
    · obtain ⟨stretch, mem, starts⟩ := found
      obtain ⟨shown, emitted, real, -⟩ := exists_of_firstUri starts.1
      rw [pads stretch mem shown emitted] at real
      exact Bool.noConfusion real
  · have kept : ∀ sp ∈ proofs, sp.verdict ≠ .assetMismatch :=
      fun sp mem isMismatch => found (astray.mp ⟨sp, mem, isMismatch⟩)
    have allPad := worstVerdict_allPad proofs .faithful (by simp) kept
    rw [only, or_iff_right (by simp)] at allPad
    have faithful : (tracedProof block fps firstFrame first calls).verdict = .faithful →
        ∀ stretch ∈ stretches first calls, ∀ shown ∈ stretch.frames, shown.isPad = false := by
      intro isFaithful stretch mem shown emitted
      rw [verdict] at isFaithful
      by_contra pad
      have counted : stretch.pads > 0 :=
        List.countP_pos_iff.mpr ⟨shown, emitted, Bool.of_not_eq_false pad⟩
      obtain ⟨sp, inside, unfaithful⟩ := (recorded.exists_iff fun _ _ _ of =>
        of.unfaithful_iff).mpr ⟨stretch, mem, .inr counted⟩
      exact unfaithful ((worstVerdict_faithful proofs isFaithful).2 sp inside)
    rw [← verdict] at mismatch allPad
    rw [sound_iff_of_not_mismatch intact (mt mismatch.mp found) allPad faithful,
      onlyPad_iff_block, Telling, or_iff_right found, and_left_comm]

/-- A segment that expects `a.mp4` begins. -/
def strayingSegment : Begun := ⟨0, "a.mp4", 2, .content, "EVT-1"⟩

/-- It shows `a.mp4`, and then `b.mp4`. -/
def strayingCalls : List TraceCall := [.frame ⟨false, "a.mp4", 0⟩, .frame ⟨false, "b.mp4", 33⟩]

/-- The proof of the block. -/
def strayingProof : BlockPlaybackProof :=
  tracedProof ⟨"BLOCK-1", 0, 67, [("a.mp4", 0)]⟩ (.make 30 1) 0 strayingSegment strayingCalls

/-- **A faithful proof of a block that showed another asset**: the second frame of the only segment
comes from an asset that the segment does not expect. -/
theorem straying_frame_is_faithful :
    strayingProof.verdict = .faithful ∧
      ¬ Sound (stretches strayingSegment strayingCalls) strayingProof := by
  have faithful : strayingProof.verdict = .faithful := by decide
  refine ⟨faithful, fun sound => ?_⟩
  have shows := (sound.faithful faithful ⟨strayingSegment, [⟨false, "a.mp4", 0⟩, ⟨false, "b.mp4", 33⟩]⟩
    (by decide) ⟨false, "b.mp4", 33⟩ (by decide)).2 (by decide)
  exact absurd shows (by decide)

end Soundness

end Retrovue.Air.Blockplan
