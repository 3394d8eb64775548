/-
**The planning pipeline** (`runtime/planning_pipeline.py`), from a resolved schedule day to a
transmission log.

* `AssetLibrary`: durations, markers and fillers; an answer may depend on the library's state, and
  every filler is positive and fits the request;
* `segmentBlocks`: one block per slot of an event, its content slice cut at chapter markers or into
  equal parts, with breaks between the parts;
* `fillBreaks`: fillers packed into each break;
* `assembleTransmissionLog`: content and break items interleaved, aligned to the wall clock.
-/

import Retrovue.Foundation.Sorting
import Retrovue.Foundation.Apportion
import Retrovue.Core.Schedule.Types

namespace Retrovue.Core.Planning

open Retrovue.Foundation.Sorting Retrovue.Foundation.Apportion Retrovue.Core.Schedule

/-! ### The asset library and the policies -/

section Inputs

/-- `MarkerInfo`. -/
structure MarkerInfo where
  kind : String
  offsetMs : Int
  label : String := ""
  deriving DecidableEq, Repr

/-- `FillerAsset`. -/
structure FillerAsset where
  assetUri : String
  durationMs : Int
  assetType : String := "filler"
  deriving DecidableEq, Repr

/-- `AssetLibrary`. A library may shuffle or use up its fillers: `getFillerAssets` answers a maximal
duration and a count, and moves to a next state. -/
structure AssetLibrary (Source : Type) where
  getMarkers : String → List MarkerInfo
  getDurationMs : String → Int
  getFillerAssets : Source → Int → Nat → List FillerAsset × Source
  filler_pos : ∀ source maxDurationMs count,
    ∀ filler ∈ (getFillerAssets source maxDurationMs count).1, 0 < filler.durationMs
  filler_le : ∀ source maxDurationMs count,
    ∀ filler ∈ (getFillerAssets source maxDurationMs count).1, filler.durationMs ≤ maxDurationMs

/-- `SyntheticBreakProfile`. -/
structure SyntheticBreakProfile where
  halfHourBlockSegments : Int := 3
  hourBlockSegments : Int := 6
  deriving DecidableEq, Repr

/-- `BreakFillPolicy`; `preferred_filler_type` is read by no stage. -/
structure BreakFillPolicy where
  allowRepeatWithinBreak : Bool := true
  deriving DecidableEq, Repr

end Inputs

/-! ### Segmentation -/

section Segmentation

/-- `ContentSegmentSpec`. -/
structure ContentSegmentSpec where
  assetUri : String
  assetStartOffsetMs : Int
  durationMs : Int
  deriving DecidableEq, Repr

/-- `BreakSpec`. -/
structure BreakSpec where
  breakIndex : Nat
  durationMs : Int
  deriving DecidableEq, Repr

/-- `SegmentedBlock`. -/
structure SegmentedBlock where
  slotIndex : Nat
  resolvedSlot : ResolvedSlot
  contentSegments : List ContentSegmentSpec
  breaks : List BreakSpec
  contentDurationMs : Int
  blockDurationMs : Int
  padMs : Int
  programEventId : String
  blockIndexWithinEvent : Nat
  deriving DecidableEq

/-- Breaks that share the inventory: the first ones take the remainder. -/
def shareBreaks (inventoryMs : Int) (numBreaks : Nat) : List BreakSpec :=
  if numBreaks > 0 ∧ inventoryMs > 0 then
    (shares inventoryMs numBreaks).mapIdx fun i durationMs => ⟨i, durationMs⟩
  else []

/-- Content segments between consecutive boundaries, the empty ones left out. -/
def contentBetween (assetUri : String) (assetStartOffsetMs : Int) :
    List Int → List ContentSegmentSpec
  | [] => []
  | [_] => []
  | start :: stop :: rest =>
    if stop > start then
      ⟨assetUri, start + assetStartOffsetMs, stop - start⟩ ::
        contentBetween assetUri assetStartOffsetMs (stop :: rest)
    else contentBetween assetUri assetStartOffsetMs (stop :: rest)

/-- The sum of the content segments. -/
def contentTotal (segments : List ContentSegmentSpec) : Int :=
  (segments.map ContentSegmentSpec.durationMs).sum

/-- `sorted(set(…))`. -/
def sortedSet (boundaries : List Int) : List Int := sortByKey id boundaries.dedup

/-- `_segment_with_chapters`. -/
def segmentWithChapters (assetUri : String) (contentDurMs : Int)
    (chapterMarkers : List MarkerInfo) (blockDurationMs assetStartOffsetMs : Int) :
    List ContentSegmentSpec × List BreakSpec :=
  let boundaries := sortedSet ([0] ++ chapterMarkers.map MarkerInfo.offsetMs ++ [contentDurMs])
  let segments := contentBetween assetUri assetStartOffsetMs boundaries
  let inventoryMs := max 0 (blockDurationMs - contentTotal segments)
  (segments, shareBreaks inventoryMs (segments.length - 1))

/-- Content segments of the given durations, one after the other. -/
def contentOf (assetUri : String) : Int → List Int → List ContentSegmentSpec
  | _, [] => []
  | offset, durationMs :: rest =>
    ⟨assetUri, offset, durationMs⟩ :: contentOf assetUri (offset + durationMs) rest

/-- `_segment_synthetic`. -/
def segmentSynthetic (assetUri : String) (contentDurMs blockDurationMs numSegments
    assetStartOffsetMs : Int) : List ContentSegmentSpec × List BreakSpec :=
  if contentDurMs ≥ blockDurationMs ∨ numSegments ≤ 1 then
    -- content fills or exceeds the block: no breaks
    ([⟨assetUri, assetStartOffsetMs, contentDurMs⟩], [])
  else
    let segments :=
      contentOf assetUri assetStartOffsetMs (shares contentDurMs numSegments.toNat)
    let inventoryMs := max 0 (blockDurationMs - contentTotal segments)
    (segments, shareBreaks inventoryMs (numSegments.toNat - 1))

/-- `_get_segment_count`. -/
def getSegmentCount (profile : SyntheticBreakProfile) (gridBlockMinutes : Nat) : Int :=
  if gridBlockMinutes ≥ 60 then profile.hourBlockSegments else profile.halfHourBlockSegments

/-- The blocks of the events in order: slot index, event id, index within the event. Slots run out
before a truncated last event does. -/
def blockAssignments : Nat → List ProgramEvent → Nat → List (Nat × String × Nat)
  | _, [], _ => []
  | slotCount, event :: rest, slotIdx =>
    let blocks := min event.blockSpanCount.toNat (slotCount - slotIdx)
    (List.range blocks).map (fun bi => (slotIdx + bi, event.id, bi)) ++
      blockAssignments slotCount rest (slotIdx + blocks)

section Block

variable {Source : Type} (assetLibrary : AssetLibrary Source)

/-- `block_duration_ms`. -/
def blockMs (gridBlockMinutes : Nat) : Int := gridBlockMinutes * 60 * 1000

/-- `event_offset_ms` of block `bi` of an event. -/
def eventOffsetMs (gridBlockMinutes : Nat) (bi : Nat) : Int := bi * blockMs gridBlockMinutes

/-- `slice_end_ms` of block `bi` of an event. -/
def sliceEndMs (gridBlockMinutes : Nat) (slot : ResolvedSlot) (bi : Nat) : Int :=
  min (eventOffsetMs gridBlockMinutes bi + blockMs gridBlockMinutes)
    (assetLibrary.getDurationMs slot.resolvedAsset.filePath)

/-- `slice_dur_ms` of block `bi` of an event: the part of the asset that falls into the block. -/
def sliceDurMs (gridBlockMinutes : Nat) (slot : ResolvedSlot) (bi : Nat) : Int :=
  max 0 (sliceEndMs assetLibrary gridBlockMinutes slot bi - eventOffsetMs gridBlockMinutes bi)

/-- The chapter markers inside a block's slice, in order and relative to the block. -/
def blockChapters (markers : List MarkerInfo) (eventOffsetMs sliceEndMs : Int) :
    List MarkerInfo :=
  ((sortByKey MarkerInfo.offsetMs (markers.filter fun m => m.kind = "chapter")).filter
    fun m => eventOffsetMs < m.offsetMs ∧ m.offsetMs < sliceEndMs).map
      fun m => { m with offsetMs := m.offsetMs - eventOffsetMs }

/-- The content segments and breaks of block `bi` of an event. -/
def blockParts (gridBlockMinutes : Nat) (profile : SyntheticBreakProfile) (slot : ResolvedSlot)
    (bi : Nat) : List ContentSegmentSpec × List BreakSpec :=
  match blockChapters (assetLibrary.getMarkers slot.resolvedAsset.filePath)
    (eventOffsetMs gridBlockMinutes bi) (sliceEndMs assetLibrary gridBlockMinutes slot bi) with
  | [] =>
    segmentSynthetic slot.resolvedAsset.filePath (sliceDurMs assetLibrary gridBlockMinutes slot bi)
      (blockMs gridBlockMinutes) (getSegmentCount profile gridBlockMinutes)
      (eventOffsetMs gridBlockMinutes bi)
  | chapter :: rest =>
    segmentWithChapters slot.resolvedAsset.filePath
      (sliceDurMs assetLibrary gridBlockMinutes slot bi) (chapter :: rest)
      (blockMs gridBlockMinutes) (eventOffsetMs gridBlockMinutes bi)

/-- One iteration of `segment_blocks`. -/
def segmentBlock (gridBlockMinutes : Nat) (profile : SyntheticBreakProfile) (slot : ResolvedSlot)
    (slotIdx : Nat) (eventId : String) (bi : Nat) : SegmentedBlock :=
  let parts := blockParts assetLibrary gridBlockMinutes profile slot bi
  { slotIndex := slotIdx
    resolvedSlot := slot
    contentSegments := parts.1
    breaks := parts.2
    contentDurationMs := sliceDurMs assetLibrary gridBlockMinutes slot bi
    blockDurationMs := blockMs gridBlockMinutes
    padMs := max 0 (blockMs gridBlockMinutes - sliceDurMs assetLibrary gridBlockMinutes slot bi -
      (parts.2.map BreakSpec.durationMs).sum)
    programEventId := eventId
    blockIndexWithinEvent := bi }

/-- `segment_blocks`. -/
def segmentBlocks (scheduleDay : ResolvedScheduleDay) (gridBlockMinutes : Nat)
    (breakProfile : Option SyntheticBreakProfile) : List SegmentedBlock :=
  (blockAssignments scheduleDay.resolvedSlots.length scheduleDay.programEvents 0).filterMap
    fun (slotIdx, eventId, bi) => scheduleDay.resolvedSlots[slotIdx]?.map fun slot =>
      segmentBlock assetLibrary gridBlockMinutes (breakProfile.getD {}) slot slotIdx eventId bi

end Block

end Segmentation

/-! ### Filling the breaks -/

section Filling

/-- `BreakItem`. -/
structure BreakItem where
  assetUri : String
  durationMs : Int
  assetType : String
  deriving DecidableEq, Repr

/-- `FilledBreak`. -/
structure FilledBreak where
  breakIndex : Nat
  allocatedMs : Int
  items : List BreakItem
  deriving DecidableEq, Repr

/-- `FilledBreak.filled_ms`. -/
def FilledBreak.filledMs (brk : FilledBreak) : Int := (brk.items.map BreakItem.durationMs).sum

/-- `FilledBlock`. -/
structure FilledBlock where
  slotIndex : Nat
  resolvedSlot : ResolvedSlot
  contentSegments : List ContentSegmentSpec
  filledBreaks : List FilledBreak
  contentDurationMs : Int
  blockDurationMs : Int
  padMs : Int
  programEventId : String
  blockIndexWithinEvent : Nat
  deriving DecidableEq

variable {Source : Type} (assetLibrary : AssetLibrary Source) (policy : BreakFillPolicy)

/-- A filler that the loop may place. -/
def BreakFillPolicy.allows (usedUris : List String) (remainingMs : Int) (filler : FillerAsset) :
    Bool :=
  (policy.allowRepeatWithinBreak || filler.assetUri ∉ usedUris) && filler.durationMs ≤ remainingMs

/-- The item that a filler becomes. -/
def FillerAsset.item (filler : FillerAsset) : BreakItem :=
  ⟨filler.assetUri, filler.durationMs, filler.assetType⟩

/-- The `while` loop of `_fill_one_break`. Every filler is at least a millisecond long, so the
break's duration is enough fuel (`fillLoop_fuel`). -/
def fillLoop : Nat → Source → Int → List String → List BreakItem × Source
  | 0, source, _, _ => ([], source)
  | fuel + 1, source, remainingMs, usedUris =>
    if remainingMs > 0 then
      let answer := assetLibrary.getFillerAssets source remainingMs 5
      match answer.1.find? (policy.allows usedUris remainingMs) with
      | none => ([], answer.2)
      | some filler =>
        let rest := fillLoop fuel answer.2 (remainingMs - filler.durationMs)
          (filler.assetUri :: usedUris)
        (filler.item :: rest.1, rest.2)
    else ([], source)

/-- `_fill_one_break`. -/
def fillOneBreak (source : Source) (brk : BreakSpec) : FilledBreak × Source :=
  let filled := fillLoop assetLibrary policy brk.durationMs.toNat source brk.durationMs []
  (⟨brk.breakIndex, brk.durationMs, filled.1⟩, filled.2)

/-- The breaks of one block, in order. -/
def fillBlockBreaks : Source → List BreakSpec → List FilledBreak × Source
  | source, [] => ([], source)
  | source, brk :: rest =>
    let first := fillOneBreak assetLibrary policy source brk
    let others := fillBlockBreaks first.2 rest
    (first.1 :: others.1, others.2)

/-- `fill_breaks`. -/
def fillBreaks : Source → List SegmentedBlock → List FilledBlock × Source
  | source, [] => ([], source)
  | source, block :: rest =>
    let filled := fillBlockBreaks assetLibrary policy source block.breaks
    let others := fillBreaks filled.2 rest
    ({ slotIndex := block.slotIndex
       resolvedSlot := block.resolvedSlot
       contentSegments := block.contentSegments
       filledBreaks := filled.1
       contentDurationMs := block.contentDurationMs
       blockDurationMs := block.blockDurationMs
       padMs := block.padMs
       programEventId := block.programEventId
       blockIndexWithinEvent := block.blockIndexWithinEvent } :: others.1, others.2)

end Filling

/-! ### The transmission log -/

section Assembly

/-- The segment types of a transmission log. -/
inductive SegmentType
  | episode
  | filler
  | promo
  | ad
  | pad
  deriving DecidableEq, Repr

/-- The segment type of a break item: an unknown asset type counts as filler. -/
def SegmentType.ofAssetType (assetType : String) : SegmentType :=
  if assetType = "promo" then .promo else if assetType = "ad" then .ad else .filler

/-- One segment of an entry; a pad has no asset. -/
structure LogSegment where
  segmentIndex : Nat
  assetUri : Option String
  assetStartOffsetMs : Option Int
  segmentDurationMs : Int
  segmentType : SegmentType
  eventId : String := ""
  deriving DecidableEq, Repr

/-- A content segment of the log, before it is numbered. -/
def ContentSegmentSpec.segment (spec : ContentSegmentSpec) : LogSegment :=
  { segmentIndex := 0, assetUri := some spec.assetUri
    assetStartOffsetMs := some spec.assetStartOffsetMs, segmentDurationMs := spec.durationMs
    segmentType := .episode }

/-- A break item of the log, before it is numbered. -/
def BreakItem.segment (item : BreakItem) : LogSegment :=
  { segmentIndex := 0, assetUri := some item.assetUri, assetStartOffsetMs := some 0
    segmentDurationMs := item.durationMs, segmentType := .ofAssetType item.assetType }

/-- A pad of the log, before it is numbered. -/
def padSegment (durationMs : Int) : LogSegment :=
  { segmentIndex := 0, assetUri := none, assetStartOffsetMs := none
    segmentDurationMs := durationMs, segmentType := .pad }

/-- The pads after the items of a break: the gap, distributed evenly, or nothing. -/
def padSizes (brk : FilledBreak) : List Int :=
  if brk.items.length > 0 ∧ brk.allocatedMs - brk.filledMs > 0 then
    lateShares (brk.allocatedMs - brk.filledMs) brk.items.length
  else List.replicate (max brk.items.length 1) 0

/-- The items of a break, each with its pad. -/
def breakSegments (brk : FilledBreak) : List LogSegment :=
  (brk.items.zip (padSizes brk)).flatMap fun (item, pad) =>
    item.segment :: if pad > 0 then [padSegment pad] else []

/-- The loop of `_interleave_segments`: a break follows each content segment but the last. -/
def interleave : List ContentSegmentSpec → List FilledBreak → List LogSegment
  | [], _ => []
  | [content], _ => [content.segment]
  | content :: next :: rest, [] => content.segment :: interleave (next :: rest) []
  | content :: next :: rest, brk :: breaks =>
    content.segment :: (breakSegments brk ++ interleave (next :: rest) breaks)

/-- `_interleave_segments`; `segment_index` counts the segments as they are appended. -/
def interleaveSegments (fb : FilledBlock) : List LogSegment :=
  (interleave fb.contentSegments fb.filledBreaks ++
    if fb.padMs > 0 then [padSegment fb.padMs] else []).mapIdx
      fun i segment => { segment with segmentIndex := i }

/-- `TransmissionLogEntry`. -/
structure TransmissionLogEntry where
  blockId : String
  blockIndex : Nat
  startUtcMs : Int
  endUtcMs : Int
  segments : List LogSegment
  deriving DecidableEq, Repr

/-- `TransmissionLog`, without its descriptive metadata. -/
structure TransmissionLog where
  channelId : String
  broadcastDate : Date
  entries : List TransmissionLogEntry
  isLocked : Bool
  deriving DecidableEq, Repr

/-- The `block_id` of an entry. -/
def logBlockId (channelId : String) (broadcastDate : Date) (blockIdx : Nat) : String :=
  channelId ++ "-" ++ isoformat broadcastDate ++ "-" ++ zeroPad 4 blockIdx

/-- A segment with its stable `event_id`. -/
def LogSegment.assignEventId (blockId : String) (segment : LogSegment) : LogSegment :=
  { segment with eventId := blockId ++ "-S" ++ zeroPad 4 segment.segmentIndex }

/-- One entry of `assemble_transmission_log`. -/
def assembleEntry (channelId : String) (broadcastDate : Date) (programmingDayStartHour : Int)
    (blockIdx : Nat) (fb : FilledBlock) : TransmissionLogEntry :=
  let blockStartMs :=
    utcMs (slotToDatetime programmingDayStartHour broadcastDate fb.resolvedSlot.slotTime)
  { blockId := logBlockId channelId broadcastDate blockIdx
    blockIndex := blockIdx
    startUtcMs := blockStartMs
    endUtcMs := blockStartMs + fb.blockDurationMs
    segments := (interleaveSegments fb).map
      (LogSegment.assignEventId (logBlockId channelId broadcastDate blockIdx)) }

/-- `assemble_transmission_log`; the EPG events and the generation time are only described. -/
def assembleTransmissionLog (channelId : String) (broadcastDate : Date)
    (filledBlocks : List FilledBlock) (programmingDayStartHour : Int) : TransmissionLog :=
  { channelId := channelId
    broadcastDate := broadcastDate
    entries := filledBlocks.mapIdx
      (assembleEntry channelId broadcastDate programmingDayStartHour)
    isLocked := false }

/-- The three stages: segmentation, filling, assembly. -/
def planDay {Source : Type} (assetLibrary : AssetLibrary Source) (source : Source)
    (scheduleDay : ResolvedScheduleDay) (gridBlockMinutes : Nat)
    (breakProfile : Option SyntheticBreakProfile) (policy : Option BreakFillPolicy)
    (channelId : String) (broadcastDate : Date) (programmingDayStartHour : Int) :
    TransmissionLog :=
  assembleTransmissionLog channelId broadcastDate
    (fillBreaks assetLibrary (policy.getD {}) source
      (segmentBlocks assetLibrary scheduleDay gridBlockMinutes breakProfile)).1
    programmingDayStartHour

end Assembly

end Retrovue.Core.Planning
