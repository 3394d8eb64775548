/-
**What `EvidenceServicer` writes to the as-run log** (`runtime/evidence_server.py`).

* the evidence messages, as far as the log reads them, and `Row`, the columns of one `.asrun` line;
* `displayTime`: a time as hours, minutes and seconds of the broadcast day;
* `processEvidence`: the row of one message, if it is written, and what the stream remembers;
* `asrunRows`: the rows of a stream.
-/

import Retrovue.Air.Evidence.Envelope
import Retrovue.Foundation.TextSearch

namespace Retrovue.Core.AsRun

open Retrovue.Foundation.FlatJson
open Retrovue.Air.Evidence (decimal signed)

/-! ### Messages and rows -/

section Messages

/-- `BlockStart`. -/
structure BlockStart where
  blockId : Text
  swapTick : Nat := 0
  fenceTick : Nat := 0
  actualStartUtcMs : Int
  deriving DecidableEq

/-- `SegmentStart`. -/
structure SegmentStart where
  blockId : Text
  eventId : Text := []
  segmentIndex : Int
  actualStartUtcMs : Int
  assetStartFrame : Int := 0
  joinInProgress : Bool := false
  segmentTypeName : Text := []
  assetUri : Text := []
  segmentTitle : Text := []
  segmentUuid : Text := []
  deriving DecidableEq

/-- `SegmentEnd`. -/
structure SegmentEnd where
  blockId : Text
  eventIdRef : Text := []
  actualEndUtcMs : Int
  assetStartFrame : Int := 0
  assetEndFrame : Int := 0
  computedDurationMs : Int := 0
  computedDurationFrames : Int
  status : Text := []
  reason : Text := []
  fallbackFramesUsed : Nat := 0
  segmentUuid : Text := []
  deriving DecidableEq

/-- `BlockFence`. -/
structure BlockFence where
  blockId : Text
  swapTick : Nat := 0
  fenceTick : Nat := 0
  actualEndUtcMs : Int
  totalFramesEmitted : Nat := 0
  truncatedByFence : Bool := false
  earlyExhaustion : Bool := false
  primedSuccess : Bool := false
  deriving DecidableEq

/-- `ChannelTerminated`. -/
structure ChannelTerminated where
  terminationUtcMs : Int
  reason : Text := []
  detail : Text := []
  deriving DecidableEq

/-- The payload of an evidence message. -/
inductive Evidence where
  | hello
  | blockStart (p : BlockStart)
  | segmentStart (p : SegmentStart)
  | segmentEnd (p : SegmentEnd)
  | blockFence (p : BlockFence)
  | channelTerminated (p : ChannelTerminated)
  deriving DecidableEq

/-- The columns of an `.asrun` line. -/
structure Row where
  actual : Text
  dur : Text
  status : Text
  type : Text
  eventId : Text
  notes : Text
  deriving DecidableEq

/-- What a terminal row is filed under with its `EVENT_ID`: the segment's uuid, or the last index. -/
inductive Identity where
  | uuid (segmentUuid : Text)
  | index (segmentIndex : Int)
  deriving DecidableEq

/-- `last_segment_index` and `last_segment_uuid`. -/
structure LastStart where
  segmentIndex : Int := -1
  segmentUuid : Text := []
  deriving DecidableEq

/-- What the stream remembers between messages. -/
structure StreamState where
  emittedTerminals : List (Text × Identity) := []
  lastStart : LastStart := {}
  deriving DecidableEq

end Messages

/-! ### Texts -/

section Texts

/-- `a or b`, of texts. -/
def orElse (a b : Text) : Text := if a = [] then b else a

/-- `f"{n:02d}"`. -/
def twoDigits (n : Int) : Text := if 0 ≤ n ∧ n < 10 then '0' :: signed n else signed n

/-- Hours, minutes and seconds. -/
def clockTime (seconds : Int) : Text :=
  twoDigits (seconds / 3600) ++ ':' :: twoDigits (seconds % 3600 / 60) ++ ':' ::
    twoDigits (seconds % 3600 % 60)

/-- `_ms_to_hhmmss`. -/
def msToHhmmss (ms : Int) : Text := clockTime (ms / 1000)

/-- **`AsRunWriter.display_time`**: relative to the midnight on which the log was opened; a time
before that day is shown as the time of its own day. -/
def displayTime (dayStartEpochMs epochMs : Int) : Text :=
  if epochMs ≤ 0 then "00:00:00".toList
  else
    let offset := (epochMs - dayStartEpochMs) / 1000
    if offset < 0 then clockTime (epochMs / 1000 % 86400) else clockTime offset

/-- `os.path.splitext(os.path.basename(uri))[0]`. -/
def fileTitle (uri : Text) : Text :=
  let name := (uri.reverse.takeWhile (· ≠ '/')).reverse
  let root := (name.reverse.dropWhile (· ≠ '.')).tail.reverse
  if root.any (· ≠ '.') then root else name

/-- `_type_labels`. -/
def typeLabels : List (String × String) :=
  [("content", "PROGRAM"), ("episode", "PROGRAM"), ("commercial", "COMMERCL"), ("promo", "PROMO"),
   ("station_id", "IDENT"), ("stinger", "STINGER"), ("bumper", "BUMPER"), ("filler", "FILLER"),
   ("psa", "PSA"), ("pad", "PAD")]

/-- `_type_labels.get(seg_type_name, "PROGRAM")`. -/
def typeLabel (segmentTypeName : Text) : Text :=
  match typeLabels.find? fun entry => entry.1.toList = segmentTypeName with
  | some entry => entry.2.toList
  | none => "PROGRAM".toList

/-- `Y` or `N`. -/
def yesNo (b : Bool) : Text := if b then ['Y'] else ['N']

end Texts

/-! ### The row of a message -/

section Rows

/-- `bs.block_id`'s row. -/
def BlockStart.row (day : Int) (p : BlockStart) : Row where
  actual := displayTime day p.actualStartUtcMs
  dur := "00:00:00".toList
  status := "START".toList
  type := "BLOCK".toList
  eventId := p.blockId
  notes := "(block open) swap_tick=".toList ++ decimal p.swapTick ++ " fence_tick=".toList ++
    decimal p.fenceTick

/-- `ss.event_id or ss.block_id`. -/
def SegmentStart.shownEventId (p : SegmentStart) : Text := orElse p.eventId p.blockId

/-- The title of a segment: its own, else that of its file, else `BLACK` for a pad. -/
def SegmentStart.title (p : SegmentStart) : Text :=
  let title := if p.segmentTitle = [] ∧ p.assetUri ≠ [] then fileTitle p.assetUri else p.segmentTitle
  if title = [] ∧ p.segmentTypeName = "pad".toList then "BLACK".toList else title

/-- The row of a started segment. -/
def SegmentStart.row (day : Int) (p : SegmentStart) : Row where
  actual := displayTime day p.actualStartUtcMs
  dur := "00:00:00".toList
  status := "SEG_START".toList
  type := typeLabel p.segmentTypeName
  eventId := p.shownEventId
  notes := "segment_index=".toList ++ signed p.segmentIndex ++ " asset_start_frame=".toList ++
    signed p.assetStartFrame ++
    (if p.segmentUuid = [] then [] else " segment_uuid=".toList ++ p.segmentUuid) ++
    (if p.title = [] then [] else " [".toList ++ p.title ++ "]".toList) ++
    (if p.joinInProgress then " join_in_progress=Y".toList else [])

/-- `se.event_id_ref or se.block_id`. -/
def SegmentEnd.shownEventId (p : SegmentEnd) : Text := orElse p.eventIdRef p.blockId

/-- `se.status or "AIRED"`. -/
def SegmentEnd.shownStatus (p : SegmentEnd) : Text := orElse p.status "AIRED".toList

/-- The uuid of the end, or of the last start. -/
def SegmentEnd.shownUuid (last : LastStart) (p : SegmentEnd) : Text :=
  orElse p.segmentUuid last.segmentUuid

/-- `dedup_key`. -/
def SegmentEnd.dedupKey (last : LastStart) (p : SegmentEnd) : Text × Identity :=
  (p.shownEventId,
    if p.shownUuid last = [] then .index last.segmentIndex else .uuid (p.shownUuid last))

/-- `AIRED` or `TRUNCATED` without a frame. -/
def SegmentEnd.zeroFrame (p : SegmentEnd) : Bool :=
  (p.shownStatus == "AIRED".toList || p.shownStatus == "TRUNCATED".toList) &&
    decide (p.computedDurationFrames ≤ 0)

/-- The row of an ended segment. -/
def SegmentEnd.row (day : Int) (last : LastStart) (p : SegmentEnd) : Row where
  actual := displayTime day p.actualEndUtcMs
  dur := msToHhmmss p.computedDurationMs
  status := p.shownStatus
  type := "PROGRAM".toList
  eventId := p.shownEventId
  notes := "segment_index=".toList ++ (signed last.segmentIndex ++ (" ontime=Y fallback=".toList ++
    (decimal p.fallbackFramesUsed ++ (" asset_start=".toList ++ (signed p.assetStartFrame ++
    (" asset_end=".toList ++ (signed p.assetEndFrame ++ (" frames=".toList ++
    (signed p.computedDurationFrames ++
    ((if p.shownUuid last = [] then [] else " segment_uuid=".toList ++ p.shownUuid last) ++
    (if p.reason = [] then [] else " reason=".toList ++ p.reason)))))))))))

/-- The ticks of a fence row: both are the fence tick, and no tick is shown as zero. -/
def BlockFence.tickNotes (p : BlockFence) : Text :=
  if 0 < p.fenceTick then
    "swap_tick=".toList ++ (decimal p.fenceTick ++ (" fence_tick=".toList ++
      (decimal p.fenceTick ++ " ".toList)))
  else []

/-- The row of a fence. -/
def BlockFence.row (day : Int) (p : BlockFence) : Row where
  actual := displayTime day p.actualEndUtcMs
  dur := "00:00:00".toList
  status := "FENCE".toList
  type := "BLOCK".toList
  eventId := p.blockId ++ "-FENCE".toList
  notes := p.tickNotes ++ ("frames_emitted=".toList ++ (decimal p.totalFramesEmitted ++
    (" frame_budget_remaining=0 reason=FENCE primed_success=".toList ++ (yesNo p.primedSuccess ++
    (" truncated_by_fence=".toList ++ (yesNo p.truncatedByFence ++ (" early_exhaustion=".toList ++
    yesNo p.earlyExhaustion)))))))

/-- The row of a terminated channel. -/
def ChannelTerminated.row (day : Int) (session : Text) (p : ChannelTerminated) : Row where
  actual := displayTime day p.terminationUtcMs
  dur := "00:00:00".toList
  status := "TERMINATED".toList
  type := "CHANNEL".toList
  eventId := session
  notes := "reason=".toList ++ p.reason ++ " detail=".toList ++ p.detail

/-- **`_process_evidence`**: at most one row, and what is remembered. -/
def processEvidence (day : Int) (session : Text) (state : StreamState) :
    Evidence → StreamState × Option Row
  | .hello => (state, none)
  | .blockStart p => (state, some (p.row day))
  | .segmentStart p =>
    ({ state with lastStart := ⟨p.segmentIndex, p.segmentUuid⟩ }, some (p.row day))
  | .segmentEnd p =>
    if p.dedupKey state.lastStart ∈ state.emittedTerminals then (state, none)
    else if p.zeroFrame then (state, none)
    else
      ({ state with emittedTerminals := p.dedupKey state.lastStart :: state.emittedTerminals },
        some (p.row day state.lastStart))
  | .blockFence p => (state, some (p.row day))
  | .channelTerminated p => (state, some (p.row day session))

/-- The rows from a state of the stream on. -/
def rowsFrom (day : Int) (session : Text) : StreamState → List Evidence → List Row
  | _, [] => []
  | state, message :: rest =>
    let processed := processEvidence day session state message
    processed.2.toList ++ rowsFrom day session processed.1 rest

/-- **The `.asrun` rows of a stream**: of its messages that are no duplicates. -/
def asrunRows (day : Int) (session : Text) (stream : List Evidence) : List Row :=
  rowsFrom day session {} stream

end Rows

end Retrovue.Core.AsRun
