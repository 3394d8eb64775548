/-
**The transmission log and the compiled program log as they are stored**
(`runtime/dsl_schedule_service.py`, `runtime/playlog_horizon_daemon.py`, `domain/entities.py`).

* `SegmentData`: a segment as a JSON object, `TransmissionLogRow`: a row of the table;
* `serviceRow`, `daemonRow`: what the two writers store for a filled block, `readRow`: what both
  readers make of a row;
* `TransmissionLog`: the table, with the queries and writes made on it;
* `serializeScheduledBlock`, `deserializeScheduledBlock`: the stored form of a compiled day's blocks;
* `tier2_lossless_iff`: both rows read back as the filled block exactly when no segment has a gain,
  or a duration for a transition that it does not have. The daemon does not store gains.
-/

import Mathlib
import Retrovue.Core.Playlog.Blocks
import Retrovue.Core.Schedule.Types

namespace Retrovue.Core.Playlog

open Retrovue.Core.Schedule

/-! ### Stored segments -/

section Stored

/-- A stored segment: a JSON object, by the keys it may have. -/
structure SegmentData where
  segmentIndex : Option Nat := none
  segmentType : Option String := none
  assetUri : Option String := none
  assetStartOffsetMs : Option Int := none
  segmentDurationMs : Option Int := none
  title : Option String := none
  transitionIn : Option String := none
  transitionInDurationMs : Option Int := none
  transitionOut : Option String := none
  transitionOutDurationMs : Option Int := none
  gainDb : Option ℚ := none
  deriving DecidableEq

/-- A row of `transmission_log`; `block_id` is the primary key. -/
structure TransmissionLogRow where
  blockId : String
  channelSlug : String
  broadcastDay : Int
  startUtcMs : Int
  endUtcMs : Int
  segments : List SegmentData
  deriving DecidableEq

/-- A value stored unless it is the default. -/
def storedUnless {α : Type} (isDefault : Bool) (value : α) : Option α :=
  if isDefault then none else some value

@[simp] theorem storedUnless_getD {α : Type} (isDefault : Bool) (value default : α) :
    (storedUnless isDefault value).getD default = if isDefault then default else value := by
  unfold storedUnless
  split <;> rfl

/-- `transition_in != "TRANSITION_NONE"` does not hold. -/
def cutsIn (segment : ScheduledSegment) : Bool := segment.transitionIn == "TRANSITION_NONE"

/-- `transition_out != "TRANSITION_NONE"` does not hold. -/
def cutsOut (segment : ScheduledSegment) : Bool := segment.transitionOut == "TRANSITION_NONE"

/-- The keys that both writers store. -/
def commonData (index : Nat) (segment : ScheduledSegment) : SegmentData where
  segmentIndex := some index
  segmentType := some segment.segmentType
  assetUri := some segment.assetUri
  assetStartOffsetMs := some segment.assetStartOffsetMs
  segmentDurationMs := some segment.segmentDurationMs
  transitionIn := storedUnless (cutsIn segment) segment.transitionIn
  transitionInDurationMs := storedUnless (cutsIn segment) segment.transitionInDurationMs
  transitionOut := storedUnless (cutsOut segment) segment.transitionOut
  transitionOutDurationMs := storedUnless (cutsOut segment) segment.transitionOutDurationMs

/-- A segment as `ensure_block_compiled` stores it. -/
def serviceData (index : Nat) (segment : ScheduledSegment) : SegmentData :=
  { commonData index segment with gainDb := storedUnless (segment.gainDb == 0) segment.gainDb }

/-- What follows the last separator, or everything. -/
def afterLast (separator : Char) (name : List Char) : List Char :=
  (name.reverse.takeWhile (· != separator)).reverse

/-- What comes before the last separator, or everything. -/
def beforeLast (separator : Char) (name : List Char) : List Char :=
  if separator ∈ name then ((name.reverse.dropWhile (· != separator)).drop 1).reverse else name

/-- The first of the prefixes that a name starts with, cut off. -/
def cutPrefix : List (List Char) → List Char → List Char
  | [], name => name
  | first :: rest, name =>
    if first.isPrefixOf name then name.drop first.length else cutPrefix rest name

/-- The title that the daemon derives from the file's name. -/
def deriveTitle (segment : ScheduledSegment) : String :=
  if segment.assetUri ≠ "" then
    String.ofList (cutPrefix
      (["Interstitial - Commercial - ", "Interstitial - ", "Commercial - "].map String.toList)
      (beforeLast '.' (afterLast '/' segment.assetUri.toList)))
  else if segment.segmentType = "pad" then "BLACK" else segment.segmentType.toUpper

/-- A segment as `_write_to_txlog` stores it. -/
def daemonData (index : Nat) (segment : ScheduledSegment) : SegmentData :=
  { commonData index segment with title := some (deriveTitle segment) }

/-- A row for a filled block. -/
def rowOf (data : Nat → ScheduledSegment → SegmentData) (channelSlug : String) (broadcastDay : Int)
    (block : ScheduledBlock) : TransmissionLogRow where
  blockId := block.blockId
  channelSlug := channelSlug
  broadcastDay := broadcastDay
  startUtcMs := block.startUtcMs
  endUtcMs := block.endUtcMs
  segments := block.segments.mapIdx data

/-- The row that `ensure_block_compiled` writes. -/
def serviceRow : String → Int → ScheduledBlock → TransmissionLogRow := rowOf serviceData

/-- The row that `_write_to_txlog` writes. -/
def daemonRow : String → Int → ScheduledBlock → TransmissionLogRow := rowOf daemonData

/-- A stored segment as `_get_filled_block_by_id` and `ensure_block_compiled` read it. -/
def readSegment (data : SegmentData) : ScheduledSegment where
  segmentType := data.segmentType.getD "content"
  assetUri := data.assetUri.getD ""
  assetStartOffsetMs := data.assetStartOffsetMs.getD 0
  segmentDurationMs := data.segmentDurationMs.getD 0
  transitionIn := data.transitionIn.getD "TRANSITION_NONE"
  transitionInDurationMs := data.transitionInDurationMs.getD 0
  transitionOut := data.transitionOut.getD "TRANSITION_NONE"
  transitionOutDurationMs := data.transitionOutDurationMs.getD 0
  gainDb := data.gainDb.getD 0

/-- A row as both readers read it. -/
def readRow (row : TransmissionLogRow) : ScheduledBlock where
  blockId := row.blockId
  startUtcMs := row.startUtcMs
  endUtcMs := row.endUtcMs
  segments := row.segments.map readSegment

end Stored

/-! ### The table -/

section Table

/-- The table `transmission_log`, shared by all channels. -/
structure TransmissionLog where
  rows : List TransmissionLogRow
  primaryKey : (rows.map TransmissionLogRow.blockId).Nodup

namespace TransmissionLog

/-- Before anything is written. -/
def empty : TransmissionLog := ⟨[], List.nodup_nil⟩

/-- `TransmissionLog.block_id == block_id`, `first()`. -/
def byId (log : TransmissionLog) (blockId : String) : Option TransmissionLogRow :=
  log.rows.find? fun row => row.blockId == blockId

/-- `db.merge(row)`: the row with that primary key is replaced as a whole. -/
def merge (log : TransmissionLog) (row : TransmissionLogRow) : TransmissionLog where
  rows := row :: log.rows.filter fun other => other.blockId ≠ row.blockId
  primaryKey := by
    rw [List.map_cons, List.nodup_cons]
    refine ⟨?_, (List.filter_sublist.map _).nodup log.primaryKey⟩
    intro member
    obtain ⟨other, kept, same⟩ := List.mem_map.mp member
    exact absurd same (by simpa using (List.mem_filter.mp kept).2)

/-- The rows of a channel that have not expired; all rows of the others. -/
def purge (log : TransmissionLog) (channelSlug : String) (cutoffMs : Int) : TransmissionLog where
  rows := log.rows.filter fun row => !(row.channelSlug == channelSlug && row.endUtcMs ≤ cutoffMs)
  primaryKey := (List.filter_sublist.map _).nodup log.primaryKey

/-- The query of `_tier2_row_covers_now`. -/
def covers (log : TransmissionLog) (channelSlug : String) (nowMs : Int) : Bool :=
  log.rows.any fun row =>
    row.channelSlug == channelSlug && row.startUtcMs ≤ nowMs && nowMs < row.endUtcMs

/-- The query of `_get_frontier_utc_ms`. -/
def frontier (log : TransmissionLog) (channelSlug : String) : Int :=
  (((log.rows.filter fun row => row.channelSlug == channelSlug).map
    TransmissionLogRow.endUtcMs).max?).getD 0

/-- The query of `_batch_block_exists_in_txlog`. -/
def existing (log : TransmissionLog) (blockIds : List String) : List String :=
  blockIds.filter fun blockId => (log.byId blockId).isSome

/-- **The row under an id** is the one that has it. -/
theorem byId_eq_some_iff {log : TransmissionLog} {blockId : String} {row : TransmissionLogRow} :
    log.byId blockId = some row ↔ row ∈ log.rows ∧ row.blockId = blockId := by
  constructor
  · intro found
    exact ⟨List.mem_of_find?_eq_some found, by simpa using List.find?_some found⟩
  · rintro ⟨member, same⟩
    cases found : log.byId blockId with
    | none => exact absurd same (by simpa using List.find?_eq_none.mp found row member)
    | some other =>
      have held : other ∈ log.rows := List.mem_of_find?_eq_some found
      have named : other.blockId = blockId := by simpa using List.find?_some found
      rw [List.inj_on_of_nodup_map log.primaryKey held member (named.trans same.symm)]

theorem mem_merge {log : TransmissionLog} {row other : TransmissionLogRow} :
    other ∈ (log.merge row).rows ↔
      other = row ∨ other ∈ log.rows ∧ other.blockId ≠ row.blockId := by
  simp [merge]

theorem mem_purge {log : TransmissionLog} {channelSlug : String} {cutoffMs : Int}
    {row : TransmissionLogRow} :
    row ∈ (log.purge channelSlug cutoffMs).rows ↔
      row ∈ log.rows ∧ (row.channelSlug = channelSlug → cutoffMs < row.endUtcMs) := by
  simp only [purge, List.mem_filter, Bool.not_eq_true', Bool.and_eq_false_iff, beq_eq_false_iff_ne,
    decide_eq_false_iff_not, not_le, imp_iff_not_or]

theorem mem_existing {log : TransmissionLog} {blockIds : List String} {blockId : String} :
    blockId ∈ log.existing blockIds ↔ blockId ∈ blockIds ∧ ∃ row, log.byId blockId = some row := by
  simp [existing, Option.isSome_iff_exists]

end TransmissionLog

end Table

/-! ### Filling for the table -/

section Filling

/-- What filling and writing a block meet outside: the asset library, if it could be made, and its
state; whether it raises; whether the write fails. -/
structure Outside (Source : Type) where
  library : Option (Planning.AssetLibrary Source)
  source : Source
  raises : Bool := false
  unsaved : Bool := false

variable {Source : Type}

/-- `_fill_ads`, and the filling in `ensure_block_compiled`: the filled block, if nothing raises. -/
def fillAds (fillerPath : String) (fillerDurationMs : Int) (outside : Outside Source)
    (block : ScheduledBlock) : Option ScheduledBlock :=
  if outside.raises then none
  else
    (fillAdBlocks outside.library fillerPath fillerDurationMs outside.source block).toOption

theorem fillAdBlocks_of_fillAds {fillerPath : String} {fillerDurationMs : Int}
    {outside : Outside Source} {block filled : ScheduledBlock}
    (done : fillAds fillerPath fillerDurationMs outside block = some filled) :
    fillAdBlocks outside.library fillerPath fillerDurationMs outside.source block = .ok filled := by
  unfold fillAds at done
  split at done
  · cases done
  · cases placed : fillAdBlocks outside.library fillerPath fillerDurationMs outside.source block with
    | error error =>
      rw [placed] at done
      cases done
    | ok other =>
      rw [placed] at done
      cases done
      rfl

end Filling

/-! ### The compiled program log -/

section Compiled

/-- A stored block of a compiled day. -/
structure BlockData where
  blockId : String
  startUtcMs : Int
  endUtcMs : Int
  segments : List SegmentData
  deriving DecidableEq

/-- A segment as `_serialize_scheduled_block` stores it: every key but a gain of zero. -/
def serializeSegment (segment : ScheduledSegment) : SegmentData where
  segmentType := some segment.segmentType
  assetUri := some segment.assetUri
  assetStartOffsetMs := some segment.assetStartOffsetMs
  segmentDurationMs := some segment.segmentDurationMs
  transitionIn := some segment.transitionIn
  transitionInDurationMs := some segment.transitionInDurationMs
  transitionOut := some segment.transitionOut
  transitionOutDurationMs := some segment.transitionOutDurationMs
  gainDb := storedUnless (segment.gainDb == 0) segment.gainDb

/-- `_serialize_scheduled_block`. -/
def serializeScheduledBlock (block : ScheduledBlock) : BlockData where
  blockId := block.blockId
  startUtcMs := block.startUtcMs
  endUtcMs := block.endUtcMs
  segments := block.segments.map serializeSegment

/-- A stored segment as `_deserialize_scheduled_block` reads it: without a type it raises. -/
def deserializeSegment (data : SegmentData) : Option ScheduledSegment :=
  data.segmentType.map fun segmentType => { readSegment data with segmentType := segmentType }

/-- `_deserialize_scheduled_block`. -/
def deserializeScheduledBlock (data : BlockData) : Option ScheduledBlock :=
  (data.segments.mapM deserializeSegment).map fun segments =>
    ⟨data.blockId, data.startUtcMs, data.endUtcMs, segments⟩

end Compiled

/-! ### Reading back -/

section ReadingBack

/-- No duration is given for a transition that the segment does not have. -/
def ScheduledSegment.Canonical (segment : ScheduledSegment) : Prop :=
  (segment.transitionIn = "TRANSITION_NONE" → segment.transitionInDurationMs = 0) ∧
    (segment.transitionOut = "TRANSITION_NONE" → segment.transitionOutDurationMs = 0)

/-- The segment plays at the level of its file. -/
def ScheduledSegment.Unity (segment : ScheduledSegment) : Prop := segment.gainDb = 0

instance (segment : ScheduledSegment) : Decidable segment.Unity :=
  inferInstanceAs (Decidable (_ = _))

/-- What the keys of both writers keep of a segment. -/
def ScheduledSegment.trimmed (segment : ScheduledSegment) : ScheduledSegment :=
  { segment with
    transitionInDurationMs := if cutsIn segment then 0 else segment.transitionInDurationMs
    transitionOutDurationMs := if cutsOut segment then 0 else segment.transitionOutDurationMs }

/-- A segment trimmed is itself when it is canonical. -/
theorem trimmed_eq_iff (segment : ScheduledSegment) :
    segment.trimmed = segment ↔ segment.Canonical := by
  obtain ⟨kind, uri, offset, duration, fadeIn, fadeInMs, fadeOut, fadeOutMs, gain⟩ := segment
  by_cases entersCut : fadeIn = "TRANSITION_NONE" <;>
    by_cases leavesCut : fadeOut = "TRANSITION_NONE" <;>
    simp [ScheduledSegment.trimmed, ScheduledSegment.Canonical, cutsIn, cutsOut, entersCut,
      leavesCut, eq_comm (a := (0 : Int))]

/-- **The service's rows** lose only what a missing transition cannot have. -/
theorem readSegment_serviceData (index : Nat) (segment : ScheduledSegment) :
    readSegment (serviceData index segment) = segment.trimmed := by
  obtain ⟨kind, uri, offset, duration, fadeIn, fadeInMs, fadeOut, fadeOutMs, gain⟩ := segment
  by_cases entersCut : fadeIn = "TRANSITION_NONE" <;>
    by_cases leavesCut : fadeOut = "TRANSITION_NONE" <;>
    by_cases unity : gain = 0 <;>
    simp [readSegment, serviceData, commonData, ScheduledSegment.trimmed, cutsIn, cutsOut,
      entersCut, leavesCut, unity]

/-- **The daemon's rows** lose the gain as well. -/
theorem readSegment_daemonData (index : Nat) (segment : ScheduledSegment) :
    readSegment (daemonData index segment) = { segment.trimmed with gainDb := 0 } := by
  obtain ⟨kind, uri, offset, duration, fadeIn, fadeInMs, fadeOut, fadeOutMs, gain⟩ := segment
  by_cases entersCut : fadeIn = "TRANSITION_NONE" <;>
    by_cases leavesCut : fadeOut = "TRANSITION_NONE" <;>
    simp [readSegment, daemonData, commonData, ScheduledSegment.trimmed, cutsIn, cutsOut,
      entersCut, leavesCut]

/-- A segment trimmed and at unity is itself when it is canonical and at unity. -/
theorem trimmed_unity_eq_iff (segment : ScheduledSegment) :
    { segment.trimmed with gainDb := 0 } = segment ↔ segment.Canonical ∧ segment.Unity := by
  rw [← trimmed_eq_iff]
  constructor
  · intro same
    have unity : segment.gainDb = 0 := (congrArg ScheduledSegment.gainDb same).symm
    refine ⟨?_, unity⟩
    have kept : segment.trimmed = { segment.trimmed with gainDb := 0 } := by
      rw [← unity]
      rfl
    rw [kept, same]
  · rintro ⟨same, unity⟩
    have unity : segment.gainDb = 0 := unity
    rw [same, ← unity]

/-- A row reads back as the block with each segment as the writer keeps it. -/
theorem readRow_rowOf {data : Nat → ScheduledSegment → SegmentData}
    {kept : ScheduledSegment → ScheduledSegment}
    (reads : ∀ index segment, readSegment (data index segment) = kept segment)
    (channelSlug : String) (broadcastDay : Int) (block : ScheduledBlock) :
    readRow (rowOf data channelSlug broadcastDay block) =
      { block with segments := block.segments.map kept } := by
  unfold readRow rowOf
  congr 1
  refine List.ext_getElem (by simp) fun i inRow inBlock => ?_
  rw [List.getElem_map, List.getElem_mapIdx, reads, List.getElem_map]

theorem map_eq_self_iff {α : Type} {f : α → α} {items : List α} :
    items.map f = items ↔ ∀ a ∈ items, f a = a := by
  induction items with
  | nil => simp
  | cons a rest ih => simp [ih]

/-- A block whose segments a writer changes is not the same block. -/
theorem mapped_eq_iff {kept : ScheduledSegment → ScheduledSegment} (block : ScheduledBlock) :
    { block with segments := block.segments.map kept } = block ↔
      ∀ segment ∈ block.segments, kept segment = segment := by
  rw [← map_eq_self_iff]
  constructor
  · intro same
    exact congrArg ScheduledBlock.segments same
  · intro same
    rw [same]

/-- **The service's row** reads back as the filled block when its segments are canonical. -/
theorem readRow_serviceRow_eq_iff (channelSlug : String) (broadcastDay : Int)
    (block : ScheduledBlock) :
    readRow (serviceRow channelSlug broadcastDay block) = block ↔
      ∀ segment ∈ block.segments, segment.Canonical := by
  rw [serviceRow, readRow_rowOf readSegment_serviceData, mapped_eq_iff]
  exact forall₂_congr fun segment _ => trimmed_eq_iff segment

/-- **The daemon's row** reads back as the filled block when its segments are canonical and none has
a gain. -/
theorem readRow_daemonRow_eq_iff (channelSlug : String) (broadcastDay : Int)
    (block : ScheduledBlock) :
    readRow (daemonRow channelSlug broadcastDay block) = block ↔
      ∀ segment ∈ block.segments, segment.Canonical ∧ segment.Unity := by
  rw [daemonRow, readRow_rowOf readSegment_daemonData, mapped_eq_iff]
  exact forall₂_congr fun segment _ => trimmed_unity_eq_iff segment

theorem deserialize_serializeSegment (segment : ScheduledSegment) :
    deserializeSegment (serializeSegment segment) = some segment := by
  obtain ⟨kind, uri, offset, duration, fadeIn, fadeInMs, fadeOut, fadeOutMs, gain⟩ := segment
  by_cases unity : gain = 0 <;>
    simp [deserializeSegment, serializeSegment, readSegment, unity]

/-- **The compiled program log** reads back as it was written. -/
theorem deserialize_serialize (block : ScheduledBlock) :
    deserializeScheduledBlock (serializeScheduledBlock block) = some block := by
  have segments : (block.segments.map serializeSegment).mapM deserializeSegment =
      some block.segments := by
    induction block.segments with
    | nil => rfl
    | cons segment rest ih =>
      rw [List.map_cons, List.mapM_cons, deserialize_serializeSegment, ih]
      rfl
  unfold deserializeScheduledBlock serializeScheduledBlock
  rw [segments]
  rfl

end ReadingBack

/-! ### Both logs -/

section Lossless

/-- Both writers' rows for a filled block, of whatever channel and days, read back as that block. -/
def Tier2Lossless (block : ScheduledBlock) : Prop :=
  ∀ channelSlug serviceDay daemonDay,
    readRow (serviceRow channelSlug serviceDay block) =
        readRow (daemonRow channelSlug daemonDay block) ∧
      readRow (daemonRow channelSlug daemonDay block) = block

/-- The compiled program log gives a block back as it took it. -/
def Tier1Lossless (block : ScheduledBlock) : Prop :=
  deserializeScheduledBlock (serializeScheduledBlock block) = some block

/-- **Both logs are lossless** for a block exactly when no segment of it has a gain, or a duration
for a transition that it does not have. -/
theorem tier2_lossless_iff (block : ScheduledBlock) :
    Tier2Lossless block ∧ Tier1Lossless block ↔
      ∀ segment ∈ block.segments, segment.Canonical ∧ segment.Unity := by
  constructor
  · rintro ⟨tier2, -⟩
    exact (readRow_daemonRow_eq_iff "" 0 block).mp (tier2 "" 0 0).2
  · intro plain
    refine ⟨fun channelSlug serviceDay daemonDay => ?_, deserialize_serialize block⟩
    have daemon := (readRow_daemonRow_eq_iff channelSlug daemonDay block).mpr plain
    have service := (readRow_serviceRow_eq_iff channelSlug serviceDay block).mpr
      fun segment member => (plain segment member).1
    exact ⟨service.trans daemon.symm, daemon⟩

/-- A filled block whose content has been measured 3 dB too loud. -/
def loudBlock : ScheduledBlock where
  blockId := "blk-1a2b3c4d5e6f"
  startUtcMs := 1767268800000
  endUtcMs := 1767270600000
  segments := [{ plainSegment "content" "/media/episode.mp4" 1800000 with gainDb := -3 }]

/-- The daemon's row plays the block at unity gain. -/
theorem loud_block_reads_back_at_unity :
    ¬ (Tier2Lossless loudBlock ∧ Tier1Lossless loudBlock) := by
  rintro ⟨tier2, -⟩
  have unity := (readRow_daemonRow_eq_iff "cheers-24-7" 0 loudBlock).mp (tier2 "cheers-24-7" 0 0).2
  exact absurd (unity _ (List.mem_cons_self ..)).2 (by decide +kernel)

end Lossless

end Retrovue.Core.Playlog
