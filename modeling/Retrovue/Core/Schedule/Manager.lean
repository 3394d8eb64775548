/-
**The schedule manager** (`runtime/schedule_manager.py`).

* `resolveScheduleDay`: the editorial pass: one program event for each run of slots, one resolved
  slot for each grid block of it, the day stored once;
* `dayEpgEvents`, `getEpgEvents`: the guide, from the events' span counts;
* `findResolvedSlotAt`, `buildSegments`, `getProgramAt`: the structural pass: what plays at a time,
  from the resolved slots' windows.

The hash behind random episode selection is a parameter.
-/

import Retrovue.Core.Schedule.Types

namespace Retrovue.Core.Schedule

/-! ### Configuration and stores -/

section State

/-- `ScheduleManagerConfig` without its stores. The start hour is one that `datetime.replace`
accepts, a grid block is not empty. -/
structure Config where
  gridMinutes : Nat
  grid_pos : 0 < gridMinutes
  getProgram : String → Option Program
  fillerPath : String
  programmingDayStartHour : Int
  hour_nonneg : 0 ≤ programmingDayStartHour
  hour_lt : programmingDayStartHour < 24

/-- The sequence positions and the resolved days. -/
structure Stores where
  position : String → String → Int
  resolved : String → Date → Option ResolvedScheduleDay

/-- `ScheduleError`. -/
inductive ScheduleError
  | noEpisodes (programId : String)
  | unknownPlayMode (playMode : String)
  deriving DecidableEq, Repr

/-- `set_position`. -/
def Stores.setPosition (stores : Stores) (channelId programId : String) (index : Int) : Stores :=
  { stores with
    position := fun channel program =>
      if channel = channelId ∧ program = programId then index else stores.position channel program }

/-- `resolved_store.store`. -/
def Stores.store (stores : Stores) (channelId : String) (day : ResolvedScheduleDay) : Stores :=
  { stores with
    resolved := fun channel date =>
      if channel = channelId ∧ date = day.programmingDayDate then some day
      else stores.resolved channel date }

/-- `grid_minutes * 60`. -/
def Config.gridSeconds (config : Config) : Int := config.gridMinutes * 60

/-- A grid block, in microseconds. -/
def Config.gridMicros (config : Config) : Int := config.gridSeconds * 1000000

end State

/-! ### The editorial pass -/

section Resolution

variable (config : Config)
-- the first eight bytes of the hash of channel, program, date and slot time
variable (seedHash : String → String → Date → TimeOfDay → Nat)

/-- `_select_episode`. -/
def selectEpisode (stores : Stores) (channelId : String) (program : Program)
    (programmingDayDate : Date) (slotTime : TimeOfDay) : Except ScheduleError (Episode × Stores) :=
  match program.episodes with
  | [] => .error (.noEpisodes program.programId)
  | first :: rest =>
    let count := rest.length + 1
    if program.playMode = "sequential" then
      let currentIndex := stores.position channelId program.programId
      let episode := (first :: rest).getD (currentIndex % count).toNat first
      .ok (episode, stores.setPosition channelId program.programId ((currentIndex + 1) % count))
    else if program.playMode = "random" then
      let index := seedHash channelId program.programId programmingDayDate slotTime % count
      .ok ((first :: rest).getD index first, stores)
    else if program.playMode = "manual" then .ok (first, stores)
    else .error (.unknownPlayMode program.playMode)

/-- `_resolve_program_ref`. -/
def resolveProgramRef (stores : Stores) (channelId : String) (ref : ProgramRef)
    (programmingDayDate : Date) (slotTime : TimeOfDay) :
    Except ScheduleError (ResolvedAsset × Stores) :=
  match ref.refType with
  | .file => .ok ({ filePath := ref.refId, title := ref.refId }, stores)
  | .asset =>
    .ok ({ filePath := "/media/assets/" ++ ref.refId ++ ".mp4", assetId := some ref.refId,
           title := ref.refId }, stores)
  | .program =>
    match config.getProgram ref.refId with
    | none => .ok ({ filePath := config.fillerPath, title := "Unknown Program" }, stores)
    | some program =>
      match selectEpisode seedHash stores channelId program programmingDayDate slotTime with
      | .error reason => .error reason
      | .ok (episode, stores) =>
        .ok ({ filePath := episode.filePath, assetId := some episode.episodeId,
               title := program.name, episodeTitle := some episode.title,
               episodeId := some episode.episodeId,
               contentDurationSeconds := episode.durationSeconds }, stores)

/-- The grid blocks that a content duration occupies. -/
def blockSpan (contentDuration : ℚ) : Nat :=
  if contentDuration > 0 then ⌈contentDuration / config.gridSeconds⌉.toNat else 1

/-- `int(q)`: truncation towards zero. -/
def truncate (q : ℚ) : Int := q.num.tdiv q.den

/-- The program event of a slot. -/
def programEvent (channelId : String) (programmingDayDate : Date) (slotIdx : Nat)
    (slot : ScheduleSlot) (asset : ResolvedAsset) : ProgramEvent :=
  { id := channelId ++ "-" ++ isoformat programmingDayDate ++ "-evt" ++ zeroPad 4 slotIdx
    programId := slot.programRef.refId
    episodeId := asset.episodeId.getD ""
    startUtcMs := utcMs
      (slotToDatetime config.programmingDayStartHour programmingDayDate slot.slotTime)
    durationMs := truncate (asset.contentDurationSeconds * 1000)
    blockSpanCount := blockSpan config asset.contentDurationSeconds
    resolvedAsset := some asset }

@[simp] theorem programEvent_blockSpanCount (channelId : String) (programmingDayDate : Date)
    (slotIdx : Nat) (slot : ScheduleSlot) (asset : ResolvedAsset) :
    (programEvent config channelId programmingDayDate slotIdx slot asset).blockSpanCount =
      blockSpan config asset.contentDurationSeconds := rfl

/-- The resolved slot of one grid block of an event: its own time, the event's asset, and the whole
occupancy of the event. -/
def resolvedSlot (slot : ScheduleSlot) (asset : ResolvedAsset) (block : ScheduleSlot) :
    ResolvedSlot :=
  { slotTime := block.slotTime
    programRef := slot.programRef
    resolvedAsset := asset
    durationSeconds := ((blockSpan config asset.contentDurationSeconds * config.gridSeconds : Int) : ℚ)
    label := slot.label }

/-- The loop of `resolve_schedule_day`. Every iteration consumes a slot at least, so the number of
slots is enough fuel. -/
def resolveLoop (channelId : String) (programmingDayDate : Date) :
    Nat → Nat → List ScheduleSlot → Stores →
      Except ScheduleError (List ResolvedSlot × List ProgramEvent × Stores)
  | 0, _, _, stores => .ok ([], [], stores)
  | _ + 1, _, [], stores => .ok ([], [], stores)
  | fuel + 1, slotIdx, slot :: rest, stores => do
    let (asset, stores) ← resolveProgramRef config seedHash stores channelId slot.programRef
      programmingDayDate slot.slotTime
    let consumed := min (blockSpan config asset.contentDurationSeconds) (rest.length + 1)
    let (slots, events, stores) ← resolveLoop channelId programmingDayDate fuel (slotIdx + consumed)
      ((slot :: rest).drop consumed) stores
    .ok (((slot :: rest).take consumed).map (resolvedSlot config slot asset) ++ slots,
      programEvent config channelId programmingDayDate slotIdx slot asset :: events, stores)

/-- `resolve_schedule_day`. -/
def resolveScheduleDay (stores : Stores) (channelId : String) (programmingDayDate : Date)
    (slots : List ScheduleSlot) (resolutionTime : Int) :
    Except ScheduleError (ResolvedScheduleDay × Stores) :=
  match stores.resolved channelId programmingDayDate with
  | some existing => .ok (existing, stores)
  | none => do
    let (resolvedSlots, events, stores) ←
      resolveLoop config seedHash channelId programmingDayDate slots.length 0 slots stores
    let day : ResolvedScheduleDay :=
      ⟨programmingDayDate, resolvedSlots, resolutionTime, events⟩
    .ok (day, stores.store channelId day)

end Resolution

/-! ### The guide -/

section Guide

variable (config : Config)

/-- The start of a resolved slot. -/
def slotStart (programmingDayDate : Date) (slot : ResolvedSlot) : Int :=
  slotToDatetime config.programmingDayStartHour programmingDayDate slot.slotTime

/-- The guide's entry for an asset. -/
def epgEvent (channelId : String) (programmingDayDate : Date) (startTime endTime : Int)
    (asset : ResolvedAsset) : EPGEvent :=
  { channelId := channelId
    startTime := startTime
    endTime := endTime
    title := asset.title
    episodeTitle := asset.episodeTitle
    episodeId := asset.episodeId
    resolvedAsset := asset
    programmingDayDate := programmingDayDate }

/-- The loop of `get_epg_events` over the events of a day; `none` is an index out of range. -/
def epgLoop (channelId : String) (programmingDayDate : Date) (slots : List ResolvedSlot) :
    Nat → List ProgramEvent → Option (List EPGEvent)
  | _, [] => some []
  | slotIdx, event :: rest => do
    let firstSlot ← slots[slotIdx]?
    let eventStart := slotStart config programmingDayDate firstSlot
    let others ← epgLoop channelId programmingDayDate slots
      (slotIdx + event.blockSpanCount.toNat) rest
    some (epgEvent channelId programmingDayDate eventStart
      (eventStart + event.blockSpanCount * config.gridMicros)
      (event.resolvedAsset.getD firstSlot.resolvedAsset) :: others)

/-- The guide of a resolved day; a day without events falls back to its slots. -/
def dayEpgEvents (channelId : String) (day : ResolvedScheduleDay) : Option (List EPGEvent) :=
  if day.programEvents.isEmpty then
    some (day.resolvedSlots.map fun slot =>
      epgEvent channelId day.programmingDayDate (slotStart config day.programmingDayDate slot)
        (slotStart config day.programmingDayDate slot + timedeltaSeconds slot.durationSeconds)
        slot.resolvedAsset)
  else epgLoop config channelId day.programmingDayDate day.resolvedSlots 0 day.programEvents

/-- `_get_programming_day_date`. -/
def programmingDayDate (t : Int) : Date :=
  if t % dayMicros / hourMicros < config.programmingDayStartHour then dateOf (t - dayMicros)
  else dateOf t

/-- The loop of `get_epg_events` over the days of the range. -/
def epgDays (stores : Stores) (channelId : String) (startTime endTime : Int) :
    Nat → Int → Option (List EPGEvent)
  | 0, _ => some []
  | fuel + 1, current =>
    if current < endTime then do
      let here ← match stores.resolved channelId (programmingDayDate config current) with
        | none => some []
        | some day => dayEpgEvents config channelId day
      let later ← epgDays stores channelId startTime endTime fuel (current + dayMicros)
      some (here.filter (fun event => event.startTime < endTime ∧ event.endTime > startTime) ++ later)
    else some []

/-- `get_epg_events`. -/
def getEpgEvents (stores : Stores) (channelId : String) (startTime endTime : Int) :
    Option (List EPGEvent) :=
  epgDays config stores channelId startTime endTime
    ((endTime - startTime) / dayMicros + 1).toNat startTime

end Guide

/-! ### The structural pass -/

section Playout

variable (config : Config)

/-- The types of a playout segment. -/
inductive SegmentType
  | content
  | filler
  | padding
  deriving DecidableEq, Repr

/-- `PlayoutSegment`, with the frame rate of the structural pass. -/
structure PlayoutSegment where
  startUtc : Int
  endUtc : Int
  filePath : Option String
  segmentType : SegmentType
  seekOffsetSeconds : ℚ
  startFrame : Int
  frameCount : Int
  fps : ℚ
  deriving DecidableEq

/-- `timedelta.total_seconds`. -/
def totalSeconds (micros : Int) : ℚ := (micros : ℚ) / 1000000

/-- `PlayoutSegment.from_time_based`. -/
def PlayoutSegment.fromTimeBased (startUtc endUtc : Int) (filePath : String) (fps : ℚ)
    (seekOffsetSeconds : ℚ) (segmentType : SegmentType) : PlayoutSegment :=
  { startUtc := startUtc
    endUtc := endUtc
    filePath := some filePath
    segmentType := segmentType
    seekOffsetSeconds := seekOffsetSeconds
    startFrame := truncate (seekOffsetSeconds * fps)
    frameCount := truncate (totalSeconds (endUtc - startUtc) * fps)
    fps := fps }

/-- `ProgramBlock`. -/
structure ProgramBlock where
  blockStart : Int
  blockEnd : Int
  segments : List PlayoutSegment
  deriving DecidableEq

/-- `_get_programming_day_start`. -/
def programmingDayStart (t : Int) : Int :=
  let dayStart := dateOf t * dayMicros + config.programmingDayStartHour * hourMicros
  if t < dayStart then dayStart - dayMicros else dayStart

/-- `_floor_to_grid_boundary`. -/
def floorToGridBoundary (t : Int) : Int :=
  let dayStart := programmingDayStart config t
  dayStart + (t - dayStart) / config.gridMicros * config.gridMicros

/-- A resolved slot's window, its start and its whole occupancy, contains a time. -/
def inWindow (programmingDayDate : Date) (t : Int) (slot : ResolvedSlot) : Bool :=
  decide (slotStart config programmingDayDate slot ≤ t ∧
    t < slotStart config programmingDayDate slot + timedeltaSeconds slot.durationSeconds)

/-- The first resolved slot of a day whose window contains a time. -/
def findInDay (day : Option ResolvedScheduleDay) (programmingDayDate : Date) (t : Int) :
    Option (ResolvedSlot × Int) :=
  match day with
  | none => none
  | some day =>
    (day.resolvedSlots.find? (inWindow config programmingDayDate t)).map fun slot =>
      (slot, slotStart config programmingDayDate slot)

/-- `_find_resolved_slot_at`: the current programming day, then the previous one. -/
def findResolvedSlotAt (stores : Stores) (channelId : String) (blockStart : Int) :
    Option (ResolvedSlot × Int) :=
  let currentDay := dateOf (programmingDayStart config blockStart)
  let previousDay := dateOf (programmingDayStart config blockStart - dayMicros)
  match findInDay config (stores.resolved channelId currentDay) currentDay blockStart with
  | some found => some found
  | none => findInDay config (stores.resolved channelId previousDay) previousDay blockStart

/-- The content of a slot: its asset's duration, or the slot's where that is zero. -/
def contentSeconds (slot : ResolvedSlot) : ℚ :=
  if slot.resolvedAsset.contentDurationSeconds = 0 then slot.durationSeconds
  else slot.resolvedAsset.contentDurationSeconds

/-- The segments of a block, given the slot found for it. -/
def segmentsOf (found : Option (ResolvedSlot × Int)) (blockStart blockEnd : Int) :
    List PlayoutSegment :=
  match found with
  | none => [.fromTimeBased blockStart blockEnd config.fillerPath 30 0 .filler]
  | some (slot, slotStart) =>
    let slotEnd := slotStart + timedeltaSeconds (contentSeconds slot)
    let content := PlayoutSegment.fromTimeBased blockStart (min slotEnd blockEnd)
      slot.resolvedAsset.filePath 30 (totalSeconds (blockStart - slotStart)) .content
    if slotEnd < blockEnd then
      [content, .fromTimeBased slotEnd blockEnd config.fillerPath 30 0 .filler]
    else [content]

/-- `_build_segments`. -/
def buildSegments (stores : Stores) (channelId : String) (blockStart blockEnd : Int) :
    List PlayoutSegment :=
  segmentsOf config (findResolvedSlotAt config stores channelId blockStart) blockStart blockEnd

/-- `get_program_at`. -/
def getProgramAt (stores : Stores) (channelId : String) (t : Int) : ProgramBlock :=
  let blockStart := floorToGridBoundary config t
  let blockEnd := blockStart + config.gridMicros
  ⟨blockStart, blockEnd, buildSegments config stores channelId blockStart blockEnd⟩

end Playout

end Retrovue.Core.Schedule
