/-
**The transmission log artifact** (`planning/transmission_log_artifact_writer.py`).

A log is written twice: as lines of columns (`.tlog`) and as records (`.tlog.jsonl`), each by a
temporary file that is renamed. Any one file operation may fail.

* `buildRows`: the rows of a log, with the times they are scheduled at;
* `write`: the two stages, the first of which is guarded by the existence of the `.tlog`;
* `WrittenWell`: what a write owes, whether it returns or raises;
* `WriteFits`: when it gives that: the second stage must not fail, the ids must fit the column, and no
  block id may be another one with a suffix of the writer's;
* `written_well_iff`: it does exactly then.
-/

import Retrovue.Core.Planning.Pipeline
import Retrovue.Foundation.FilePublish
import Retrovue.Foundation.TextSearch

namespace Retrovue.Core.Planning

open Retrovue.Core.Schedule Retrovue.Foundation.FilePublish Retrovue.Foundation.TextSearch

/-! ### Rows -/

section Rows

/-- `W_EVENT_ID`. -/
def eventIdWidth : Nat := 32

/-- `_ms_to_hhmmss`. -/
def msToHhmmss (ms : Int) : String :=
  let s := (max ms 0).toNat / 1000
  zeroPad 2 (s / 3600) ++ ":" ++ zeroPad 2 (s % 3600 / 60) ++ ":" ++ zeroPad 2 (s % 3600 % 60)

/-- `_ms_to_iso8601_utc`, to the second. -/
def msToIso8601Utc (ms : Int) : String :=
  let s := (ms % 86400000).toNat / 1000
  isoformat (ms / 86400000 + 719163) ++ "T" ++ zeroPad 2 (s / 3600) ++ ":" ++
    zeroPad 2 (s % 3600 / 60) ++ ":" ++ zeroPad 2 (s % 3600 % 60) ++ "Z"

/-- `_segment_type_to_tlog_type`. -/
def tlogType : SegmentType → String
  | .episode => "PROGRAM"
  | .ad => "AD"
  | .promo => "PROMO"
  | .filler => "PROMO"
  | .pad => "PROGRAM"

/-- The pipeline's word for a segment type. -/
def SegmentType.word : SegmentType → String
  | .episode => "episode"
  | .filler => "filler"
  | .promo => "promo"
  | .ad => "ad"
  | .pad => "pad"

/-- `_ArtifactRow`. -/
structure ArtifactRow where
  timeStr : String
  durStr : String
  typeStr : String
  eventId : String
  titleAsset : String
  blockId : String
  scheduledStartUtc : String
  scheduledDurationMs : Int
  assetUri : Option String
  deriving DecidableEq

/-- `str.strip`. -/
def stripped (text : List Char) : List Char :=
  ((text.dropWhile Char.isWhitespace).reverse.dropWhile Char.isWhitespace).reverse

/-- `Path(uri).name`: the last part that is neither empty nor a dot. -/
def pathName (uri : String) : List Char :=
  ((uri.toList.splitOn '/').filter fun part => part ≠ [] ∧ part ≠ ['.']).getLastD []

/-- `text or "-"`, at most 80 characters of it. -/
def titleOf (text : List Char) : String :=
  if text = [] then "-" else String.ofList (text.take 80)

/-- `TITLE / ASSET` of a segment. -/
def segmentTitle (segment : LogSegment) : String :=
  match segment.assetUri with
  | some uri =>
    titleOf (stripped (if uri = "" then segment.segmentType.word.toList else pathName uri))
  | none => titleOf (stripped segment.segmentType.word.toList)

/-- The suffix of a segment's id. -/
def segmentSuffix (index : Nat) : String := "-S" ++ zeroPad 4 index

/-- The suffix of a fence's id. -/
def fenceSuffix : String := "-FENCE"

-- the time of day of a UTC time, in the zone of `timezone_display`
variable (localClock : Int → String)

/-- The line of a block. -/
def blockRow (entry : TransmissionLogEntry) : ArtifactRow where
  timeStr := localClock entry.startUtcMs
  durStr := msToHhmmss (entry.endUtcMs - entry.startUtcMs)
  typeStr := "BLOCK"
  eventId := entry.blockId
  titleAsset := entry.blockId ++ " UTC_START=" ++ msToIso8601Utc entry.startUtcMs ++ " UTC_END=" ++
    msToIso8601Utc entry.endUtcMs
  blockId := entry.blockId
  scheduledStartUtc := msToIso8601Utc entry.startUtcMs
  scheduledDurationMs := entry.endUtcMs - entry.startUtcMs
  assetUri := none

/-- The line of a segment. -/
def segmentRow (blockId : String) (index : Nat) (startMs : Int) (segment : LogSegment) :
    ArtifactRow where
  timeStr := localClock startMs
  durStr := msToHhmmss segment.segmentDurationMs
  typeStr := tlogType segment.segmentType
  eventId := blockId ++ segmentSuffix index
  titleAsset := segmentTitle segment
  blockId := blockId
  scheduledStartUtc := msToIso8601Utc startMs
  scheduledDurationMs := segment.segmentDurationMs
  assetUri := segment.assetUri.filter fun uri => uri ≠ ""

/-- The loop over the segments of an entry. -/
def segmentRows (blockId : String) : Nat → Int → List LogSegment → List ArtifactRow
  | _, _, [] => []
  | index, startMs, segment :: rest =>
    segmentRow localClock blockId index startMs segment ::
      segmentRows blockId (index + 1) (startMs + segment.segmentDurationMs) rest

/-- The line of a fence. -/
def fenceRow (entry : TransmissionLogEntry) : ArtifactRow where
  timeStr := localClock entry.endUtcMs
  durStr := "00:00:00"
  typeStr := "FENCE"
  eventId := entry.blockId ++ fenceSuffix
  titleAsset := "UTC_END=" ++ msToIso8601Utc entry.endUtcMs
  blockId := entry.blockId
  scheduledStartUtc := msToIso8601Utc entry.endUtcMs
  scheduledDurationMs := 0
  assetUri := none

/-- The lines of an entry. -/
def entryRows (entry : TransmissionLogEntry) : List ArtifactRow :=
  blockRow localClock entry ::
    (segmentRows localClock entry.blockId 0 entry.startUtcMs entry.segments ++
      [fenceRow localClock entry])

/-- **`_build_rows`.** -/
def buildRows (log : TransmissionLog) : List ArtifactRow := log.entries.flatMap (entryRows localClock)

end Rows

/-! ### The two files -/

section Writing

/-- A line of either file: a text of the header, the columns of a row, or a record. -/
inductive ArtifactLine
  | header (text : String)
  | columns (time dur type eventId titleAsset : String)
  | record (eventId blockId scheduledStartUtc : String) (scheduledDurationMs : Int) (type : String)
      (assetUri : Option String)
  deriving DecidableEq

/-- `event_id_col`. -/
def eventIdCol (eventId : String) : String :=
  if eventId.length > eventIdWidth then String.ofList (eventId.toList.take eventIdWidth) else eventId

/-- The line of a row in the `.tlog`. -/
def ArtifactRow.columns (row : ArtifactRow) : ArtifactLine :=
  .columns row.timeStr row.durStr row.typeStr (eventIdCol row.eventId) row.titleAsset

/-- The line of a row in the sidecar. -/
def ArtifactRow.record (row : ArtifactRow) : ArtifactLine :=
  .record row.eventId row.blockId row.scheduledStartUtc row.scheduledDurationMs row.typeStr row.assetUri

/-- What a write is given, besides the log. -/
structure ArtifactJob where
  channelId : String
  broadcastDate : Date
  timezoneDisplay : String
  generatedUtc : String
  transmissionLogId : String
  programmingDayStartHour : Option Nat
  localClock : Int → String

namespace ArtifactJob

variable (job : ArtifactJob) (basePath : String)

/-- The directory of the channel. -/
def channelDir : String := basePath ++ "/" ++ job.channelId

/-- The path of the date's file with a suffix. -/
def pathWith (suffix : String) : String :=
  job.channelDir basePath ++ "/" ++ isoformat job.broadcastDate ++ suffix

/-- `tlog_path`. -/
def tlogPath : String := job.pathWith basePath ".tlog"

/-- `jsonl_path`. -/
def jsonlPath : String := job.pathWith basePath ".tlog.jsonl"

/-- `tlog_path.with_suffix(".tlog.tmp")`. -/
def tlogTmp : String := job.pathWith basePath ".tlog.tmp"

/-- `jsonl_path.with_suffix(".tlog.jsonl.tmp")`: only the last suffix is replaced. -/
def jsonlTmp : String := job.pathWith basePath ".tlog.tlog.jsonl.tmp"

/-- The header of the `.tlog`. -/
def headerLines : List String :=
  ["# RETROVUE TRANSMISSION LOG", "# CHANNEL: " ++ job.channelId,
    "# DATE: " ++ isoformat job.broadcastDate] ++
  (match job.programmingDayStartHour with
    | none => []
    | some hour =>
      ["# BROADCAST_DAY_START: " ++ zeroPad 2 hour ++ ":00:00",
        "# BROADCAST_DAY_END: " ++ zeroPad 2 hour ++ ":00:00"]) ++
  ["# TIMEZONE_DISPLAY: " ++ job.timezoneDisplay, "# GENERATED_UTC: " ++ job.generatedUtc,
    "# TRANSMISSION_LOG_ID: " ++ job.transmissionLogId, "# VERSION: 1", "",
    "TIME     DUR      TYPE     EVENT_ID                         TITLE / ASSET",
    "-------- -------- -------- ------------------------------------ " ++
      "--------------------------------------------"]

/-- The lines of the `.tlog`. -/
def tlogLines (log : TransmissionLog) : List ArtifactLine :=
  job.headerLines.map .header ++ (buildRows job.localClock log).map ArtifactRow.columns

/-- The lines of the sidecar. -/
def jsonlLines (log : TransmissionLog) : List ArtifactLine :=
  (buildRows job.localClock log).map ArtifactRow.record

end ArtifactJob

/-- How a write ends. -/
structure WriteOutcome where
  files : Files String ArtifactLine
  raised : Bool

/-- The `except` branch: the temporary file is removed, if it is there. -/
def discard (files : Files String ArtifactLine) (temporary : String) : Files String ArtifactLine :=
  if (files temporary).isSome then (FileOp.unlink temporary).apply files else files

variable (basePath : String) (job : ArtifactJob) (log : TransmissionLog)

/-- The first stage. -/
def tlogStage : List (FileOp String ArtifactLine) :=
  stage (job.tlogTmp basePath) (job.tlogPath basePath) (job.tlogLines log)

/-- The second stage. -/
def jsonlStage : List (FileOp String ArtifactLine) :=
  stage (job.jsonlTmp basePath) (job.jsonlPath basePath) (job.jsonlLines log)

/-- The sidecar's part of `write`. -/
def writeSidecar (files : Files String ArtifactLine) (fails : Option Nat) : WriteOutcome :=
  match attempt files (jsonlStage basePath job log) fails with
  | .failed files => ⟨discard files (job.jsonlTmp basePath), true⟩
  | .done files _ => ⟨files, false⟩

/-- **`TransmissionLogArtifactWriter.write`**; `fails` is the number of the file operation that
raises. -/
def writeArtifact (files : Files String ArtifactLine) (fails : Option Nat) : WriteOutcome :=
  match attempt files [.probe (job.tlogPath basePath)] fails with
  | .failed files => ⟨files, true⟩
  | .done files fails =>
    if (files (job.tlogPath basePath)).isSome then ⟨files, true⟩
    else
      match attempt files [.probe (job.channelDir basePath)] fails with
      | .failed files => ⟨files, true⟩
      | .done files fails =>
        match attempt files (tlogStage basePath job log) fails with
        | .failed files => ⟨discard files (job.tlogTmp basePath), true⟩
        | .done files fails => writeSidecar basePath job log files fails

end Writing

/-! ### What a write owes -/

section Owed

/-- `EVENT_ID` of a line of columns. -/
def ArtifactLine.eventIdColumn : ArtifactLine → Option String
  | .columns _ _ _ eventId _ => some eventId
  | _ => none

/-- `event_id` of a record. -/
def ArtifactLine.sidecarId : ArtifactLine → Option String
  | .record eventId _ _ _ _ _ => some eventId
  | _ => none

/-- The type and the time of a line of columns. -/
def ArtifactLine.shownTime : ArtifactLine → Option (String × String)
  | .columns time _ type _ _ => some (type, time)
  | _ => none

/-- The type, the id and the scheduled start of a record. -/
def ArtifactLine.scheduledStart : ArtifactLine → Option (String × String × String)
  | .record eventId _ start _ type _ => some (type, eventId, start)
  | _ => none

/-- The total of durations. -/
def segmentsMs (segments : List LogSegment) : Int := (segments.map LogSegment.segmentDurationMs).sum

/-- **The schedule of an entry**: the block at its start, each segment after the durations before it,
and the fence after all of them; with the type and the suffix of the id. -/
def scheduleOf (entry : TransmissionLogEntry) : List (String × String × Int) :=
  ("BLOCK", "", entry.startUtcMs) ::
    (entry.segments.mapIdx (fun i segment =>
        (tlogType segment.segmentType, segmentSuffix i,
          entry.startUtcMs + segmentsMs (entry.segments.take i))) ++
      [("FENCE", fenceSuffix, entry.startUtcMs + segmentsMs entry.segments)])

/-- A log whose entries have ids of their own, and segments that fill them. -/
structure FilledLog where
  log : TransmissionLog
  distinct : (log.entries.map TransmissionLogEntry.blockId).Nodup
  filled : ∀ entry ∈ log.entries, segmentsMs entry.segments = entry.endUtcMs - entry.startUtcMs

variable (basePath : String) (job : ArtifactJob) (filled : FilledLog)

/-- **Both files, with the same rows.** -/
def CompletePair (files : Files String ArtifactLine) : Prop :=
  ∃ (header : List String) (rows : List ArtifactRow),
    files (job.tlogPath basePath) =
      some (header.map .header ++ rows.map ArtifactRow.columns) ∧
    files (job.jsonlPath basePath) = some (rows.map ArtifactRow.record)

/-- Both files are absent, or both are complete. -/
def Consistent (files : Files String ArtifactLine) : Prop :=
  (files (job.tlogPath basePath) = none ∧ files (job.jsonlPath basePath) = none) ∨
    CompletePair basePath job files

/-- The files as consistent writes have left them. -/
structure Archive where
  files : Files String ArtifactLine
  consistent : Consistent basePath job files

/-- The two files agree: the same ids, none of them twice, in the order and at the times of the
schedule. -/
structure Agree (tlog sidecar : List ArtifactLine) : Prop where
  ids : tlog.filterMap ArtifactLine.eventIdColumn = sidecar.filterMap ArtifactLine.sidecarId
  unique : (sidecar.filterMap ArtifactLine.sidecarId).Nodup
  shown : tlog.filterMap ArtifactLine.shownTime = filled.log.entries.flatMap fun entry =>
    (scheduleOf entry).map fun row => (row.1, job.localClock row.2.2)
  scheduled : sidecar.filterMap ArtifactLine.scheduledStart = filled.log.entries.flatMap fun entry =>
    (scheduleOf entry).map fun row => (row.1, entry.blockId ++ row.2.1, msToIso8601Utc row.2.2)

/-- **What a write owes.** -/
structure WrittenWell (files : Files String ArtifactLine) (outcome : WriteOutcome) : Prop where
  immutable : files (job.tlogPath basePath) ≠ none →
    outcome.files (job.tlogPath basePath) = files (job.tlogPath basePath)
  others : ∀ path ∉ [job.tlogTmp basePath, job.tlogPath basePath, job.jsonlTmp basePath,
    job.jsonlPath basePath], outcome.files path = files path
  returned : outcome.raised = false → ∃ tlog sidecar,
    outcome.files (job.tlogPath basePath) = some tlog ∧
      outcome.files (job.jsonlPath basePath) = some sidecar ∧ Agree job filled tlog sidecar
  raised : outcome.raised = true → Consistent basePath job outcome.files
  retried : outcome.raised = true → outcome.files (job.tlogPath basePath) = none →
    (writeArtifact basePath job filled.log outcome.files none).raised = false ∧
      CompletePair basePath job (writeArtifact basePath job filled.log outcome.files none).files

/-- The suffixes of an entry's ids. -/
def suffixes (entry : TransmissionLogEntry) : List String :=
  "" :: ((List.range entry.segments.length).map segmentSuffix ++ [fenceSuffix])

/-- **Ids that the column holds**: they are not longer than it, and no block id is another one with a
suffix. -/
structure IdsFit (log : TransmissionLog) : Prop where
  narrow : ∀ entry ∈ log.entries, ∀ suffix ∈ suffixes entry,
    (entry.blockId ++ suffix).length ≤ eventIdWidth
  apart : ∀ entry ∈ log.entries, ∀ other ∈ log.entries, ∀ suffix ∈ suffixes other, suffix ≠ "" →
    entry.blockId ≠ other.blockId ++ suffix

/-- The operations up to the rename that publishes the `.tlog`: the test, the directory, the stage. -/
def tlogOps (log : TransmissionLog) : Nat := 2 + (tlogStage basePath job log).length

/-- All the operations. -/
def allOps (log : TransmissionLog) : Nat :=
  tlogOps basePath job log + (jsonlStage basePath job log).length

/-- **When a write gives what it owes**: there is a `.tlog` already; or no operation of the second
stage fails, and the ids fit if no operation fails at all. -/
def WriteFits (files : Files String ArtifactLine) (fails : Option Nat) : Prop :=
  files (job.tlogPath basePath) = none →
    (∀ n, fails = some n →
      n < tlogOps basePath job filled.log ∨ allOps basePath job filled.log ≤ n) ∧
    ((∀ n, fails = some n → allOps basePath job filled.log ≤ n) → IdsFit filled.log)

end Owed

/-! ### The writes -/

section Outcomes

variable (basePath : String) (job : ArtifactJob) (log : TransmissionLog)

/-- Paths with different suffixes are different. -/
theorem pathWith_ne {first second : String} (ne : first ≠ second) :
    job.pathWith basePath first ≠ job.pathWith basePath second := by
  intro same
  have lists := congrArg String.toList same
  simp only [ArtifactJob.pathWith, String.toList_append] at lists
  exact ne (String.toList_inj.mp (List.append_cancel_left lists))

/-- The failing branch touches only the temporary file. -/
theorem discard_other (files : Files String ArtifactLine) {temporary other : String}
    (ne : other ≠ temporary) : discard files temporary other = files other := by
  unfold discard
  split_ifs
  · exact files.set_of_ne ne _
  · rfl

/-- **A write where a `.tlog` is** raises, and changes nothing. -/
theorem writeArtifact_present (files : Files String ArtifactLine) (fails : Option Nat)
    (present : files (job.tlogPath basePath) ≠ none) :
    writeArtifact basePath job log files fails = ⟨files, true⟩ := by
  have there := Option.isSome_iff_ne_none.mpr present
  cases fails with
  | none => simp [writeArtifact, attempt, run, FileOp.apply, there]
  | some n =>
    cases n with
    | zero => simp [writeArtifact, attempt, run]
    | succ n => simp [writeArtifact, attempt, run, FileOp.apply, there]

/-- **A write that fails in the first stage** leaves all but the temporary file. -/
theorem writeArtifact_early (files : Files String ArtifactLine)
    (absent : files (job.tlogPath basePath) = none) {n : Nat}
    (early : n < tlogOps basePath job log) :
    (writeArtifact basePath job log files (some n)).raised = true ∧
      ∀ path ≠ job.tlogTmp basePath,
        (writeArtifact basePath job log files (some n)).files path = files path := by
  match n, early with
  | 0, _ => simp [writeArtifact, attempt, run]
  | 1, _ => simp [writeArtifact, attempt, run, FileOp.apply, absent]
  | n + 2, early =>
    have within : n < (tlogStage basePath job log).length := by
      unfold tlogOps at early
      omega
    have outcome : writeArtifact basePath job log files (some (n + 2)) =
        ⟨discard (run files ((tlogStage basePath job log).take n)) (job.tlogTmp basePath), true⟩ := by
      simp [writeArtifact, attempt, run, FileOp.apply, absent, within]
    rw [outcome]
    exact ⟨rfl, fun path ne => (discard_other _ ne).trans (run_stage_take ne within files)⟩

/-- The number of the failing operation, counted from the second stage. -/
theorem writeArtifact_published (files : Files String ArtifactLine)
    (absent : files (job.tlogPath basePath) = none) {fails : Option Nat}
    (late : ∀ n, fails = some n → tlogOps basePath job log ≤ n) :
    writeArtifact basePath job log files fails =
      writeSidecar basePath job log (run files (tlogStage basePath job log))
        (fails.map (· - tlogOps basePath job log)) := by
  cases fails with
  | none => simp [writeArtifact, attempt, run, FileOp.apply, absent]
  | some n =>
    have enough := late n rfl
    unfold tlogOps at enough
    obtain ⟨n, rfl⟩ : ∃ m, n = m + 2 := ⟨n - 2, by omega⟩
    have beyond : ¬ n < (tlogStage basePath job log).length := by omega
    have rest : n - (tlogStage basePath job log).length = n + 2 - tlogOps basePath job log := by
      unfold tlogOps
      omega
    simp [writeArtifact, attempt, run, FileOp.apply, absent, beyond, rest]

/-- The suffixes of the four paths differ. -/
theorem paths_apart :
    job.tlogPath basePath ≠ job.tlogTmp basePath ∧ job.jsonlPath basePath ≠ job.jsonlTmp basePath ∧
      job.tlogPath basePath ≠ job.jsonlTmp basePath ∧ job.tlogPath basePath ≠ job.jsonlPath basePath ∧
      job.jsonlPath basePath ≠ job.tlogTmp basePath :=
  ⟨pathWith_ne basePath job (by decide), pathWith_ne basePath job (by decide),
    pathWith_ne basePath job (by decide), pathWith_ne basePath job (by decide),
    pathWith_ne basePath job (by decide)⟩

/-- The `.tlog` after the first stage. -/
theorem tlogStage_final (files : Files String ArtifactLine) :
    run files (tlogStage basePath job log) (job.tlogPath basePath) = some (job.tlogLines log) :=
  run_stage_final (paths_apart basePath job).1 files

/-- The sidecar's stage, cut off, touches only its temporary file. -/
theorem jsonlStage_take {n : Nat} (cut : n < (jsonlStage basePath job log).length) {path : String}
    (ne : path ≠ job.jsonlTmp basePath) (files : Files String ArtifactLine) :
    run files ((jsonlStage basePath job log).take n) path = files path :=
  run_stage_take ne cut files

/-- What the failing branch leaves of the sidecar's stage. -/
theorem jsonlStage_discard {n : Nat} (cut : n < (jsonlStage basePath job log).length) {path : String}
    (ne : path ≠ job.jsonlTmp basePath) (files : Files String ArtifactLine) :
    discard (run files ((jsonlStage basePath job log).take n)) (job.jsonlTmp basePath) path =
      files path := by
  rw [discard_other _ ne, jsonlStage_take basePath job log cut ne]

/-- **A write that fails in the second stage** leaves the `.tlog`, and no sidecar of its own. -/
theorem writeArtifact_late (files : Files String ArtifactLine)
    (absent : files (job.tlogPath basePath) = none) {n : Nat}
    (late : tlogOps basePath job log ≤ n) (within : n < allOps basePath job log) :
    (writeArtifact basePath job log files (some n)).raised = true ∧
      (writeArtifact basePath job log files (some n)).files (job.tlogPath basePath) =
        some (job.tlogLines log) ∧
      (writeArtifact basePath job log files (some n)).files (job.jsonlPath basePath) =
        files (job.jsonlPath basePath) := by
  obtain ⟨-, notTmp, notMine, differ, notFirst⟩ := paths_apart basePath job
  have cut : n - tlogOps basePath job log < (jsonlStage basePath job log).length := by
    unfold allOps at within
    omega
  have outcome : writeArtifact basePath job log files (some n) =
      ⟨discard (run (run files (tlogStage basePath job log))
        ((jsonlStage basePath job log).take (n - tlogOps basePath job log))) (job.jsonlTmp basePath),
        true⟩ := by
    rw [writeArtifact_published basePath job log files absent
      fun m failing => (Option.some.inj failing) ▸ late]
    simp [writeSidecar, attempt, cut]
  rw [outcome]
  refine ⟨rfl, ?_, ?_⟩
  · dsimp only
    rw [jsonlStage_discard basePath job log cut notMine, tlogStage_final]
  · dsimp only
    rw [jsonlStage_discard basePath job log cut notTmp]
    exact run_stage_other notFirst differ.symm files

/-- **A write in which nothing fails** leaves both files. -/
theorem writeArtifact_whole (files : Files String ArtifactLine)
    (absent : files (job.tlogPath basePath) = none) {fails : Option Nat}
    (beyond : ∀ n, fails = some n → allOps basePath job log ≤ n) :
    (writeArtifact basePath job log files fails).raised = false ∧
      (writeArtifact basePath job log files fails).files (job.tlogPath basePath) =
        some (job.tlogLines log) ∧
      (writeArtifact basePath job log files fails).files (job.jsonlPath basePath) =
        some (job.jsonlLines log) := by
  obtain ⟨-, notTmp, notMine, differ, -⟩ := paths_apart basePath job
  have outcome : writeArtifact basePath job log files fails =
      ⟨run (run files (tlogStage basePath job log)) (jsonlStage basePath job log), false⟩ := by
    rw [writeArtifact_published basePath job log files absent
      fun n failing => (Nat.le_add_right _ _).trans (beyond n failing)]
    cases fails with
    | none => rfl
    | some n =>
      have last := beyond n rfl
      have past : ¬ n - tlogOps basePath job log < (jsonlStage basePath job log).length := by
        unfold allOps at last
        omega
      simp [writeSidecar, attempt, past]
  rw [outcome]
  refine ⟨rfl, ?_, run_stage_final notTmp _⟩
  exact (run_stage_other notMine differ _).trans (tlogStage_final basePath job log files)

/-- A write changes no path but its own four. -/
theorem writeArtifact_others (files : Files String ArtifactLine) (fails : Option Nat) {path : String}
    (foreign : path ∉ [job.tlogTmp basePath, job.tlogPath basePath, job.jsonlTmp basePath,
      job.jsonlPath basePath]) :
    (writeArtifact basePath job log files fails).files path = files path := by
  simp only [List.mem_cons, List.not_mem_nil, or_false, not_or] at foreign
  obtain ⟨notTmp, notTlog, notSidecarTmp, notSidecar⟩ := foreign
  have afterTlog : run files (tlogStage basePath job log) path = files path :=
    run_stage_other notTmp notTlog files
  by_cases present : files (job.tlogPath basePath) ≠ none
  · rw [writeArtifact_present basePath job log files fails present]
  have absent := not_not.mp present
  by_cases early : ∃ n, fails = some n ∧ n < tlogOps basePath job log
  · obtain ⟨n, rfl, early⟩ := early
    exact (writeArtifact_early basePath job log files absent early).2 path notTmp
  rw [writeArtifact_published basePath job log files absent
    fun n failing => not_lt.mp fun lt => early ⟨n, failing, lt⟩, writeSidecar]
  cases fails with
  | none => exact (run_stage_other notSidecarTmp notSidecar _).trans afterTlog
  | some n =>
    by_cases cut : n - tlogOps basePath job log < (jsonlStage basePath job log).length
    · simp only [Option.map_some, attempt, if_pos cut]
      exact (jsonlStage_discard basePath job log cut notSidecarTmp _).trans afterTlog
    · simp only [Option.map_some, attempt, if_neg cut]
      exact (run_stage_other notSidecarTmp notSidecar _).trans afterTlog

end Outcomes

/-! ### Rows and ids -/

section RowsAndIds

variable (localClock : Int → String)

theorem segmentsMs_cons (first : LogSegment) (rest : List LogSegment) :
    segmentsMs (first :: rest) = first.segmentDurationMs + segmentsMs rest := List.sum_cons

/-- **The loop's rows stand after the durations before them.** -/
theorem segmentRows_eq (blockId : String) (index : Nat) (startMs : Int) (segments : List LogSegment) :
    segmentRows localClock blockId index startMs segments =
      segments.mapIdx fun i segment =>
        segmentRow localClock blockId (index + i) (startMs + segmentsMs (segments.take i)) segment := by
  induction segments generalizing index startMs with
  | nil => rfl
  | cons segment rest ih =>
    rw [segmentRows, List.mapIdx_cons, ih]
    congr 1
    · rw [List.take_zero]
      simp [segmentsMs]
    · refine List.mapIdx_eq_mapIdx_iff.mpr fun i within => ?_
      rw [List.take_succ_cons, segmentsMs_cons, add_assoc startMs, Nat.add_assoc, Nat.add_comm 1 i]

/-- **The rows of an entry are its schedule.** -/
theorem entryRows_schedule (entry : TransmissionLogEntry)
    (fills : segmentsMs entry.segments = entry.endUtcMs - entry.startUtcMs) :
    (entryRows localClock entry).map (fun row =>
        (row.typeStr, row.eventId, row.timeStr, row.scheduledStartUtc)) =
      (scheduleOf entry).map fun row =>
        (row.1, entry.blockId ++ row.2.1, localClock row.2.2, msToIso8601Utc row.2.2) := by
  have ends : entry.startUtcMs + segmentsMs entry.segments = entry.endUtcMs := by
    rw [fills]
    ring
  rw [entryRows, scheduleOf, segmentRows_eq, ends, List.map_cons, List.map_cons, List.map_append,
    List.map_append]
  have middle : ∀ (f : Nat → LogSegment → ArtifactRow) (g : Nat → LogSegment → String × String × Int)
      (shown : ArtifactRow → String × String × String × String)
      (planned : String × String × Int → String × String × String × String),
      (∀ i segment, shown (f i segment) = planned (g i segment)) →
        (entry.segments.mapIdx f).map shown = (entry.segments.mapIdx g).map planned := by
    intro f g shown planned same
    exact List.ext_getElem (by simp) fun i _ _ => by simp [same]
  congr 1
  · simp [blockRow]
  · congr 1
    refine middle _ _ _ _ fun i segment => ?_
    simp [segmentRow]

/-- The ids of an entry are its block id with the suffixes. -/
theorem scheduleOf_suffixes (entry : TransmissionLogEntry) :
    (scheduleOf entry).map (fun row => row.2.1) = suffixes entry := by
  rw [scheduleOf, suffixes, List.map_cons, List.map_append]
  congr 2
  exact List.ext_getElem (by simp) fun i _ _ => by simp

theorem entryRows_ids (entry : TransmissionLogEntry)
    (fills : segmentsMs entry.segments = entry.endUtcMs - entry.startUtcMs) :
    (entryRows localClock entry).map ArtifactRow.eventId =
      (suffixes entry).map (entry.blockId ++ ·) := by
  have schedule := congrArg (List.map fun row => row.2.1) (entryRows_schedule localClock entry fills)
  rw [List.map_map, List.map_map] at schedule
  rw [← scheduleOf_suffixes, List.map_map]
  exact schedule

/-! The suffixes. -/

/-- The digits at the end of a text. -/
def trailingDigits (text : List Char) : List Char := (text.reverse.takeWhile Char.isDigit).reverse

/-- A padded number has digits only, and one at least. -/
theorem zeroPad_digits (width n : Nat) : ∀ c ∈ (zeroPad width n).toList, c.isDigit = true := by
  intro c among
  rw [zeroPad, String.toList_append, String.toList_ofList, Nat.toList_repr] at among
  rcases List.mem_append.mp among with zero | digit
  · rw [List.eq_of_mem_replicate zero]
    rfl
  · exact Nat.isDigit_of_mem_toDigits (by decide) (by decide) digit

theorem zeroPad_ne_nil (width n : Nat) : (zeroPad width n).toList ≠ [] := by
  rw [zeroPad, String.toList_append, String.toList_ofList, Nat.toList_repr]
  exact List.append_ne_nil_of_right_ne_nil _ Nat.toDigits_ne_nil

/-- A padded number shows its number. -/
theorem zeroPad_injective (width : Nat) : Function.Injective (zeroPad width) := by
  intro first second same
  have lists := congrArg String.toList same
  simp only [zeroPad, String.toList_append, String.toList_ofList, Nat.toList_repr] at lists
  rw [← ofDigitChars_zeros (width - first.repr.length) first, lists, ofDigitChars_zeros]

/-- A segment's id ends in its number. -/
theorem trailing_segment (blockId : String) (index : Nat) :
    trailingDigits (blockId ++ segmentSuffix index).toList = (zeroPad 4 index).toList := by
  have digits : ∀ c ∈ (zeroPad 4 index).toList.reverse, c.isDigit = true :=
    fun c among => zeroPad_digits 4 index c (List.mem_reverse.mp among)
  have parts : (blockId ++ segmentSuffix index).toList.reverse =
      (zeroPad 4 index).toList.reverse ++ ('S' :: '-' :: blockId.toList.reverse) := by
    simp [segmentSuffix, String.toList_append]
  rw [trailingDigits, parts, List.takeWhile_append_of_pos digits,
    List.takeWhile_cons_of_neg (by decide), List.append_nil, List.reverse_reverse]

/-- A fence's id does not end in a number. -/
theorem trailing_fence (blockId : String) :
    trailingDigits (blockId ++ fenceSuffix).toList = [] := by
  have parts : (blockId ++ fenceSuffix).toList.reverse =
      'E' :: 'C' :: 'N' :: 'E' :: 'F' :: '-' :: blockId.toList.reverse := by
    simp [fenceSuffix, String.toList_append]
  rw [trailingDigits, parts, List.takeWhile_cons_of_neg (by decide)]
  rfl

/-- The suffixes but the empty one. -/
theorem mem_suffixes {entry : TransmissionLogEntry} {suffix : String} :
    suffix ∈ suffixes entry ↔ suffix = "" ∨ (∃ i < entry.segments.length, segmentSuffix i = suffix) ∨
      suffix = fenceSuffix := by
  simp [suffixes]

/-- **Different blocks have different ids**, but for a block id that has a suffix itself. -/
theorem suffix_cancel {first second : TransmissionLogEntry} {a b : String}
    (inFirst : a ∈ suffixes first) (inSecond : b ∈ suffixes second) (some_ : a ≠ "") (other : b ≠ "")
    (same : first.blockId ++ a = second.blockId ++ b) : first.blockId = second.blockId := by
  have right : ∀ {suffix : String}, first.blockId ++ suffix = second.blockId ++ suffix →
      first.blockId = second.blockId := by
    intro suffix equal
    have lists := congrArg String.toList equal
    rw [String.toList_append, String.toList_append] at lists
    exact String.toList_inj.mp (List.append_cancel_right lists)
  have trailing : trailingDigits (first.blockId ++ a).toList =
      trailingDigits (second.blockId ++ b).toList := by rw [same]
  rcases mem_suffixes.mp inFirst with rfl | ⟨i, -, rfl⟩ | rfl
  · exact absurd rfl some_
  · rcases mem_suffixes.mp inSecond with rfl | ⟨j, -, rfl⟩ | rfl
    · exact absurd rfl other
    · rw [trailing_segment, trailing_segment] at trailing
      rw [zeroPad_injective 4 (String.toList_inj.mp trailing)] at same
      exact right same
    · rw [trailing_segment, trailing_fence] at trailing
      exact absurd trailing (zeroPad_ne_nil 4 i)
  · rcases mem_suffixes.mp inSecond with rfl | ⟨j, -, rfl⟩ | rfl
    · exact absurd rfl other
    · rw [trailing_segment, trailing_fence] at trailing
      exact absurd trailing.symm (zeroPad_ne_nil 4 j)
    · exact right same

/-- The suffixes of an entry differ. -/
theorem suffixes_nodup (entry : TransmissionLogEntry) : (suffixes entry).Nodup := by
  have apart : ∀ i, segmentSuffix i ≠ fenceSuffix := by
    intro i same
    have trailing := trailing_segment "" i
    rw [same, trailing_fence] at trailing
    exact zeroPad_ne_nil 4 i trailing.symm
  have some_ : ∀ i, segmentSuffix i ≠ "" := by
    intro i empty
    have trailing := trailing_segment "" i
    rw [empty] at trailing
    exact zeroPad_ne_nil 4 i trailing.symm
  have injective : Function.Injective segmentSuffix := by
    intro i j same
    have trailing := trailing_segment "" i
    rw [same, trailing_segment] at trailing
    exact zeroPad_injective 4 (String.toList_inj.mp trailing.symm)
  refine List.nodup_cons.mpr ⟨?_, List.nodup_append.mpr ⟨?_, List.nodup_singleton _, ?_⟩⟩
  · intro among
    rcases List.mem_append.mp among with listed | fence
    · obtain ⟨i, -, empty⟩ := List.mem_map.mp listed
      exact some_ i empty
    · exact absurd (List.mem_singleton.mp fence) (by decide)
  · exact List.nodup_range.map injective
  · intro suffix listed fence single
    obtain ⟨i, -, rfl⟩ := List.mem_map.mp listed
    rw [List.mem_singleton.mp single]
    exact apart i

end RowsAndIds

/-! ### Agreement -/

section Agreement

variable (job : ArtifactJob) (filled : FilledLog)

/-- What is read of the rows of a log, entry by entry. -/
theorem buildRows_map {α : Type} (read : ArtifactRow → α) (planned : TransmissionLogEntry → List α)
    (each : ∀ entry ∈ filled.log.entries,
      (entryRows job.localClock entry).map read = planned entry) :
    (buildRows job.localClock filled.log).map read = filled.log.entries.flatMap planned := by
  rw [buildRows, List.map_flatMap]
  exact List.flatMap_congr each

/-- The ids of a log. -/
theorem buildRows_ids : (buildRows job.localClock filled.log).map ArtifactRow.eventId =
    filled.log.entries.flatMap fun entry => (suffixes entry).map (entry.blockId ++ ·) :=
  buildRows_map job filled _ _ fun entry among =>
    entryRows_ids job.localClock entry (filled.filled entry among)

/-- What is read of the lines of the `.tlog`: the header has none of it. -/
theorem tlogLines_filterMap {α : Type} (read : ArtifactLine → Option α) (shown : ArtifactRow → α)
    (header : ∀ text, read (.header text) = none)
    (columns : ∀ row : ArtifactRow, read row.columns = some (shown row)) :
    (job.tlogLines filled.log).filterMap read =
      (buildRows job.localClock filled.log).map shown := by
  have nothing : (job.headerLines.map ArtifactLine.header).filterMap read = [] :=
    List.filterMap_eq_nil_iff.mpr fun line among => by
      obtain ⟨text, -, rfl⟩ := List.mem_map.mp among
      exact header text
  rw [ArtifactJob.tlogLines, List.filterMap_append, nothing, List.nil_append, List.filterMap_map,
    ← List.filterMap_eq_map]
  exact List.filterMap_congr fun row _ => columns row

theorem jsonlLines_filterMap {α : Type} (read : ArtifactLine → Option α) (shown : ArtifactRow → α)
    (record : ∀ row : ArtifactRow, read row.record = some (shown row)) :
    (job.jsonlLines filled.log).filterMap read =
      (buildRows job.localClock filled.log).map shown := by
  rw [ArtifactJob.jsonlLines, List.filterMap_map, ← List.filterMap_eq_map]
  exact List.filterMap_congr fun row _ => record row

/-- An id that is cut is as it was exactly when the column holds it. -/
theorem eventIdCol_eq_iff (eventId : String) :
    eventIdCol eventId = eventId ↔ eventId.length ≤ eventIdWidth := by
  unfold eventIdCol
  split_ifs with long
  · refine iff_of_false ?_ (not_le.mpr long)
    intro same
    have shorter := congrArg String.length same
    rw [String.length_ofList, List.length_take, String.length_toList] at shorter
    omega
  · exact iff_of_true rfl (not_lt.mp long)

/-- The column shows the ids exactly when none is too long. -/
theorem columns_agree_iff :
    (buildRows job.localClock filled.log).map (fun row => eventIdCol row.eventId) =
        (buildRows job.localClock filled.log).map ArtifactRow.eventId ↔
      ∀ entry ∈ filled.log.entries, ∀ suffix ∈ suffixes entry,
        (entry.blockId ++ suffix).length ≤ eventIdWidth := by
  have ids : ∀ id, id ∈ (buildRows job.localClock filled.log).map ArtifactRow.eventId ↔
      ∃ entry ∈ filled.log.entries, ∃ suffix ∈ suffixes entry, entry.blockId ++ suffix = id := by
    intro id
    rw [buildRows_ids]
    simp only [List.mem_flatMap, List.mem_map]
  rw [List.map_inj_left]
  constructor
  · intro same entry among suffix listed
    obtain ⟨row, shown, rowId⟩ :=
      List.mem_map.mp ((ids (entry.blockId ++ suffix)).mpr ⟨entry, among, suffix, listed, rfl⟩)
    have kept := same row shown
    rw [rowId] at kept
    exact (eventIdCol_eq_iff _).mp kept
  · intro narrow row shown
    obtain ⟨entry, among, suffix, listed, rowId⟩ := (ids row.eventId).mp (List.mem_map_of_mem shown)
    rw [eventIdCol_eq_iff, ← rowId]
    exact narrow entry among suffix listed

/-- **No id occurs twice exactly when no block id is another one with a suffix.** -/
theorem ids_nodup_iff :
    ((buildRows job.localClock filled.log).map ArtifactRow.eventId).Nodup ↔
      ∀ entry ∈ filled.log.entries, ∀ other ∈ filled.log.entries, ∀ suffix ∈ suffixes other,
        suffix ≠ "" → entry.blockId ≠ other.blockId ++ suffix := by
  have left : ∀ {blockId a b : String}, blockId ++ a = blockId ++ b → a = b := by
    intro blockId a b same
    have lists := congrArg String.toList same
    rw [String.toList_append, String.toList_append] at lists
    exact String.toList_inj.mp (List.append_cancel_left lists)
  have empty : ∀ text : String, text ++ "" = text := fun text => by simp
  rw [buildRows_ids, List.nodup_flatMap]
  constructor
  · rintro ⟨-, apart⟩ entry among other alongside suffix listed some_ same
    have differ : entry ≠ other := by
      rintro rfl
      exact some_ (left ((empty entry.blockId).trans same)).symm
    have symmetric : Std.Symm (Function.onFun List.Disjoint fun entry : TransmissionLogEntry =>
        (suffixes entry).map (entry.blockId ++ ·)) := ⟨fun _ _ => List.Disjoint.symm⟩
    have disjoint := apart.forall among alongside differ
    refine disjoint (List.mem_map.mpr ⟨"", List.mem_cons_self, rfl⟩)
      (List.mem_map.mpr ⟨suffix, listed, ?_⟩)
    rw [empty]
    exact same.symm
  · intro apart
    refine ⟨fun entry _ => (suffixes_nodup entry).map fun a b same => left same, ?_⟩
    have distinct := List.pairwise_map.mp filled.distinct
    refine distinct.imp_of_mem ?_
    intro first second among alongside differ id inFirst inSecond
    obtain ⟨a, listed, rfl⟩ := List.mem_map.mp inFirst
    obtain ⟨b, follows, same⟩ := List.mem_map.mp inSecond
    by_cases bare : a = ""
    · by_cases also : b = ""
      · rw [bare, also, empty, empty] at same
        exact differ same.symm
      · rw [bare, empty] at same
        exact apart first among second alongside b follows also same.symm
    · by_cases also : b = ""
      · rw [also, empty] at same
        exact apart second alongside first among a listed bare same
      · exact differ (suffix_cancel listed follows bare also same.symm)

/-- **The two files agree exactly when the ids fit.** -/
theorem agree_iff :
    Agree job filled (job.tlogLines filled.log) (job.jsonlLines filled.log) ↔ IdsFit filled.log := by
  have column := tlogLines_filterMap job filled ArtifactLine.eventIdColumn
    (fun row => eventIdCol row.eventId) (fun _ => rfl) fun _ => rfl
  have records := jsonlLines_filterMap job filled ArtifactLine.sidecarId ArtifactRow.eventId
    fun _ => rfl
  have times := tlogLines_filterMap job filled ArtifactLine.shownTime
    (fun row => (row.typeStr, row.timeStr)) (fun _ => rfl) fun _ => rfl
  have starts := jsonlLines_filterMap job filled ArtifactLine.scheduledStart
    (fun row => (row.typeStr, row.eventId, row.scheduledStartUtc)) fun _ => rfl
  constructor
  · intro agree
    have ids := agree.ids
    have unique := agree.unique
    rw [column, records] at ids
    rw [records] at unique
    exact ⟨(columns_agree_iff job filled).mp ids, (ids_nodup_iff job filled).mp unique⟩
  · intro fit
    refine ⟨?_, ?_, ?_, ?_⟩
    · rw [column, records]
      exact (columns_agree_iff job filled).mpr fit.narrow
    · rw [records]
      exact (ids_nodup_iff job filled).mpr fit.apart
    · rw [times]
      refine buildRows_map job filled _ _ fun entry among => ?_
      have schedule := congrArg (List.map fun row => (row.1, row.2.2.1))
        (entryRows_schedule job.localClock entry (filled.filled entry among))
      rwa [List.map_map, List.map_map] at schedule
    · rw [starts]
      refine buildRows_map job filled _ _ fun entry among => ?_
      have schedule := congrArg (List.map fun row => (row.1, row.2.1, row.2.2.2))
        (entryRows_schedule job.localClock entry (filled.filled entry among))
      rwa [List.map_map, List.map_map] at schedule

end Agreement

/-! ### What is owed is given -/

section Settled

variable (basePath : String) (job : ArtifactJob) (filled : FilledLog)

/-- The pair of a log is complete. -/
theorem completePair_of_lines {files : Files String ArtifactLine}
    (tlog : files (job.tlogPath basePath) = some (job.tlogLines filled.log))
    (sidecar : files (job.jsonlPath basePath) = some (job.jsonlLines filled.log)) :
    CompletePair basePath job files :=
  ⟨job.headerLines, buildRows job.localClock filled.log, tlog, sidecar⟩

/-- After a write that leaves no `.tlog`, the next one gives the pair. -/
theorem retry_gives_pair {files : Files String ArtifactLine}
    (absent : files (job.tlogPath basePath) = none) :
    (writeArtifact basePath job filled.log files none).raised = false ∧
      CompletePair basePath job (writeArtifact basePath job filled.log files none).files := by
  have beyond : ∀ n, none = some n → allOps basePath job filled.log ≤ n := by simp
  obtain ⟨returned, tlog, sidecar⟩ := writeArtifact_whole basePath job filled.log files absent beyond
  exact ⟨returned, completePair_of_lines basePath job filled tlog sidecar⟩

/-- Where a `.tlog` is, the write owes nothing but to leave it. -/
theorem writtenWell_present (archive : Archive basePath job) (fails : Option Nat)
    (present : archive.files (job.tlogPath basePath) ≠ none) :
    WrittenWell basePath job filled archive.files
      (writeArtifact basePath job filled.log archive.files fails) := by
  rw [writeArtifact_present basePath job filled.log archive.files fails present]
  exact ⟨fun _ => rfl, fun _ _ => rfl, fun returned => absurd returned (by simp),
    fun _ => archive.consistent, fun _ absent => absurd absent present⟩

/-- Where there is no `.tlog` there is no sidecar either. -/
theorem Archive.no_sidecar {basePath : String} {job : ArtifactJob} (archive : Archive basePath job)
    (absent : archive.files (job.tlogPath basePath) = none) :
    archive.files (job.jsonlPath basePath) = none := by
  rcases archive.consistent with both | ⟨header, rows, tlog, -⟩
  · exact both.2
  · rw [absent] at tlog
    cases tlog

/-- A write that fails early leaves both files absent. -/
theorem writtenWell_early (archive : Archive basePath job)
    (absent : archive.files (job.tlogPath basePath) = none) {n : Nat}
    (early : n < tlogOps basePath job filled.log) :
    WrittenWell basePath job filled archive.files
      (writeArtifact basePath job filled.log archive.files (some n)) := by
  obtain ⟨apart, -, -, -, notFirst⟩ := paths_apart basePath job
  obtain ⟨raised, kept⟩ := writeArtifact_early basePath job filled.log archive.files absent early
  have noTlog := (kept _ apart).trans absent
  have noSidecar := (kept _ notFirst).trans (archive.no_sidecar absent)
  exact
    { immutable := fun present => absurd absent present
      others := fun path foreign =>
        writeArtifact_others basePath job filled.log archive.files (some n) foreign
      returned := fun returned => by
        rw [raised] at returned
        cases returned
      raised := fun _ => .inl ⟨noTlog, noSidecar⟩
      retried := fun _ gone => retry_gives_pair basePath job filled gone }

/-- A write in which nothing fails gives the pair, when the ids fit. -/
theorem writtenWell_whole (archive : Archive basePath job)
    (absent : archive.files (job.tlogPath basePath) = none) {fails : Option Nat}
    (beyond : ∀ n, fails = some n → allOps basePath job filled.log ≤ n) (fit : IdsFit filled.log) :
    WrittenWell basePath job filled archive.files
      (writeArtifact basePath job filled.log archive.files fails) := by
  obtain ⟨returned, tlog, sidecar⟩ :=
    writeArtifact_whole basePath job filled.log archive.files absent beyond
  have notRaised : (writeArtifact basePath job filled.log archive.files fails).raised ≠ true := by
    rw [returned]
    simp
  exact
    { immutable := fun present => absurd absent present
      others := fun path foreign =>
        writeArtifact_others basePath job filled.log archive.files fails foreign
      returned := fun _ => ⟨_, _, tlog, sidecar, (agree_iff job filled).mpr fit⟩
      raised := fun raised => absurd raised notRaised
      retried := fun raised => absurd raised notRaised }

/-- A write that fails in the second stage leaves a `.tlog` alone. -/
theorem not_writtenWell_late (archive : Archive basePath job)
    (absent : archive.files (job.tlogPath basePath) = none) {n : Nat}
    (late : tlogOps basePath job filled.log ≤ n) (within : n < allOps basePath job filled.log) :
    ¬ WrittenWell basePath job filled archive.files
      (writeArtifact basePath job filled.log archive.files (some n)) := by
  intro well
  obtain ⟨raised, tlog, sidecar⟩ :=
    writeArtifact_late basePath job filled.log archive.files absent late within
  rcases well.raised raised with ⟨noTlog, -⟩ | ⟨header, rows, -, complete⟩
  · rw [tlog] at noTlog
    cases noTlog
  · rw [sidecar, archive.no_sidecar absent] at complete
    cases complete

/-- **A write gives what it owes exactly when it fits.** -/
theorem written_well_iff (basePath : String) (job : ArtifactJob) (filled : FilledLog)
    (archive : Archive basePath job) (fails : Option Nat) :
    WrittenWell basePath job filled archive.files
        (writeArtifact basePath job filled.log archive.files fails) ↔
      WriteFits basePath job filled archive.files fails := by
  constructor
  · intro well absent
    refine ⟨?_, ?_⟩
    · rintro n rfl
      by_contra neither
      obtain ⟨late, within⟩ := not_or.mp neither
      exact not_writtenWell_late basePath job filled archive absent (not_lt.mp late)
        (not_le.mp within) well
    · intro beyond
      obtain ⟨returned, isTlog, isSidecar⟩ :=
        writeArtifact_whole basePath job filled.log archive.files absent beyond
      obtain ⟨tlog, sidecar, foundTlog, foundSidecar, agree⟩ := well.returned returned
      rw [isTlog, Option.some.injEq] at foundTlog
      rw [isSidecar, Option.some.injEq] at foundSidecar
      rw [← foundTlog, ← foundSidecar] at agree
      exact (agree_iff job filled).mp agree
  · intro fits
    by_cases present : archive.files (job.tlogPath basePath) = none
    · obtain ⟨harmless, ids⟩ := fits present
      by_cases beyond : ∀ n, fails = some n → allOps basePath job filled.log ≤ n
      · exact writtenWell_whole basePath job filled archive present beyond (ids beyond)
      · obtain ⟨n, failing⟩ := not_forall.mp beyond
        obtain ⟨rfl, within⟩ := Classical.not_imp.mp failing
        have early := (harmless n rfl).resolve_right within
        exact writtenWell_early basePath job filled archive present early
    · exact writtenWell_present basePath job filled archive fails present

/-- The block of a channel whose id has eleven characters, with two segments. -/
def longBlock : TransmissionLogEntry where
  blockId := "cheers-24-7-2025-01-01-0000"
  blockIndex := 0
  startUtcMs := 0
  endUtcMs := 1800000
  segments :=
    [⟨0, some "/a.mp4", some 0, 900000, .episode, ""⟩, ⟨1, some "/b.mp4", some 0, 900000, .ad, ""⟩]

/-- The log of that block. -/
def longLog : FilledLog where
  log := ⟨"cheers-24-7", 739252, [longBlock], true⟩
  distinct := List.nodup_singleton _
  filled entry among := by
    rw [List.mem_singleton.mp among]
    rfl

/-- An empty archive. -/
def emptyArchive (basePath : String) (job : ArtifactJob) : Archive basePath job :=
  ⟨fun _ => none, .inl ⟨rfl, rfl⟩⟩

/-- The writer's arguments for that log. -/
def longJob : ArtifactJob where
  channelId := "cheers-24-7"
  broadcastDate := 739252
  timezoneDisplay := "UTC"
  generatedUtc := "2025-01-01T00:00:00Z"
  transmissionLogId := "tl"
  programmingDayStartHour := some 6
  localClock _ := "00:00:00"

/-- **The pipeline's own ids are cut**: both segments have the same `EVENT_ID` in the `.tlog`. -/
theorem segments_share_column :
    (buildRows longJob.localClock longLog.log).map (fun row => eventIdCol row.eventId) =
      ["cheers-24-7-2025-01-01-0000", "cheers-24-7-2025-01-01-0000-S000",
        "cheers-24-7-2025-01-01-0000-S000", "cheers-24-7-2025-01-01-0000-FENC"] ∧
    ¬ WrittenWell "/logs" longJob longLog (emptyArchive "/logs" longJob).files
      (writeArtifact "/logs" longJob longLog.log (emptyArchive "/logs" longJob).files none) := by
  have columns : (buildRows longJob.localClock longLog.log).map (fun row => eventIdCol row.eventId) =
      ["cheers-24-7-2025-01-01-0000", "cheers-24-7-2025-01-01-0000-S000",
        "cheers-24-7-2025-01-01-0000-S000", "cheers-24-7-2025-01-01-0000-FENC"] := by decide
  refine ⟨columns, fun well => ?_⟩
  have beyond : ∀ n, none = some n → allOps "/logs" longJob longLog.log ≤ n := by simp
  obtain ⟨returned, isTlog, isSidecar⟩ := writeArtifact_whole "/logs" longJob longLog.log
    (emptyArchive "/logs" longJob).files rfl beyond
  obtain ⟨tlog, sidecar, foundTlog, foundSidecar, agree⟩ := well.returned returned
  rw [isTlog, Option.some.injEq] at foundTlog
  rw [isSidecar, Option.some.injEq] at foundSidecar
  rw [← foundTlog, ← foundSidecar] at agree
  have narrow := ((agree_iff longJob longLog).mp agree).narrow longBlock List.mem_cons_self
    (segmentSuffix 0) (by decide)
  exact absurd narrow (by decide)

end Settled

end Retrovue.Core.Planning
