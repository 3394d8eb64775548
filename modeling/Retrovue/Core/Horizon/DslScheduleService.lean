/-
**The rolling horizon of the DSL schedule service** (`runtime/dsl_schedule_service.py`).

* `compileFresh`: one broadcast day through the schedule compiler, with the counters that its day
  offset gives, expanded to scheduled blocks;
* `compileDay`: the same through the database cache;
* `buildInitial`, `maybeExtendHorizon`, `pruneOldBlocks`: how `_blocks` is filled, extended and cut;
* `step`: `load_schedule`, `get_block_at` and the retention purge.

Calls come one after the other, so the guard against concurrent extensions is always down between
them. What the database, the file system and the clock do is carried by the action. The segments of
a block play no part here.
-/

import Mathlib
import Retrovue.Core.Compiler.Schedule
import Retrovue.Foundation.Transition

namespace Retrovue.Core.Horizon

open Retrovue.Core.Schedule Retrovue.Core.Compiler Retrovue.Foundation.Sorting

/-! ### A broadcast day -/

section Day

/-- `ScheduledBlock`, without its segments. -/
structure ScheduledBlock where
  blockId : String
  startUtcMs : Int
  endUtcMs : Int
  deriving DecidableEq

/-- What a `DslScheduleService` is given: the loaded DSL, the catalog, the channel's seed and where
its programming day starts. -/
structure DslService (R : Type) where
  dsl : Dict
  resolver : AssetResolver R
  source : R
  rng : RandomSource
  zoneInfo : String → Option Zone
  /-- `channel_seed`, a hash of the channel. -/
  channelSeed : Int
  /-- `_make_block_id`, a hash of asset and start. -/
  makeBlockId : String → Int → String
  /-- The channel's wall clock at a UTC time, both in seconds from 1970. -/
  localTime : Int → Int
  dayStartHour : Int
  broadcastDayOverride : Option Date

/-- `HORIZON_DAYS`. -/
def horizonDays : Nat := 3

/-- `RECOMPILE_THRESHOLD_HOURS`. -/
def recompileThresholdHours : Int := 6

/-- `dsl[key] = value`. -/
def setKey (entries : Dict) (key : String) (value : Value) : Dict :=
  if Dict.has entries key then
    entries.map fun entry => if entry.1 = key then (key, value) else entry
  else entries ++ [(key, value)]

/-- `len`. -/
def sizeOf : Value → Compile Nat
  | .list items => .ok items.length
  | .str s => .ok s.length
  | .dict entries => .ok entries.length
  | _ => .error .typeError

/-- The minutes from midnight of a time text. -/
def minutesOf (text : String) : Compile Int := do
  let (hour, minute) ← hourAndMinute text
  .ok (hour * 60 + minute.getD 0)

/-- The minutes that a block or marathon fills, as `_block_slots` estimates them. -/
def totalMinutes (bb : Value) : Compile Int := do
  let durationStr ← bb.get "duration" (.str "")
  let startStr ← bb.get "start" (.str "")
  let endStr ← bb.get "end" (.str "")
  if durationStr.truthy then do
    let duration ← parseDuration (← durationStr.asStr)
    .ok (duration / 60)
  else if startStr.truthy && endStr.truthy then do
    let start ← minutesOf (← startStr.asStr)
    let stop ← minutesOf (← endStr.asStr)
    .ok ((if stop ≤ start then stop + 24 * 60 else stop) - start)
  else .ok (24 * 60)

/-- `_block_slots`. -/
def blockSlots (entries : Dict) : Compile Int := do
  let slots := (entries.lookup "slots").getD (.list [])
  let bb := ((entries.lookup "block").getD .null).or
    ((entries.lookup "movie_marathon").getD .null)
  if slots.truthy then do
    let count ← sizeOf slots
    .ok count
  else match bb.truthy, bb with
    | true, .dict _ => do
      let minutes ← totalMinutes bb
      .ok (max 1 (minutes / 30))
    | _, _ =>
      .ok (if Dict.has entries "movie_selector" || Dict.has entries "movie_block" then 1 else 0)

/-- The slots of one schedule entry. -/
def entrySlots : Value → Compile Int
  | .dict entries => blockSlots entries
  | .list items => do
    let counts ← items.mapM fun item =>
      match item with
      | .dict entries => blockSlots entries
      | _ => .ok 0
    .ok counts.sum
  | _ => .ok 0

/-- `_count_slots_in_dsl`. -/
def countSlotsInDsl (dsl : Dict) : Compile Int := do
  let schedule ← ((dsl.lookup "schedule").getD (.dict [])).asDict
  let counts ← schedule.mapM fun entry => entrySlots entry.2
  .ok counts.sum

/-- 1 January 2026, from which the counters count. -/
def counterEpoch : Date := 739617

example : fromIsoformat "2026-01-01" = .ok counterEpoch := rfl

variable {R : Type} (service : DslService R)

/-- The DSL with its broadcast day. -/
def dayDsl (day : Date) : Dict := setKey service.dsl "broadcast_day" (.str (isoformat day))

/-- The counters a day starts with: so many episodes for every day since the epoch. -/
def startingCounters (day : Date) : Compile Counters := do
  let slotsPerDay ← countSlotsInDsl (dayDsl service day)
  let pools ← ((service.dsl.lookup "pools").getD (.dict [])).iterate
  let startingCounter := (day - counterEpoch) * slotsPerDay
  .ok fun poolId => if pools.any fun pool => pool.isStr poolId then startingCounter else 0

/-- What the block compilers make of a day. -/
def dayCompiled (day : Date) : Compile (List ProgramBlockOutput × Counters) := do
  let counters ← startingCounters service day
  compiledBlocks service.resolver service.rng service.zoneInfo (dayDsl service day) service.source
    (some service.channelSeed) counters

/-- One program block as a scheduled block; the asset has to be found again. -/
def expandBlock (zone : Zone) (lookup : Lookup) (block : ProgramBlockOutput) :
    Compile ScheduledBlock := do
  let _ ← lookupId lookup block.assetId
  let startUtcMs := block.startAt.epoch zone * 1000
  .ok ⟨service.makeBlockId block.assetId startUtcMs, startUtcMs,
    startUtcMs + block.slotDurationSec * 1000⟩

/-- `_compile_day` without the cache. -/
def compileFresh (day : Date) : Compile (List ScheduledBlock) := do
  let counters ← startingCounters service day
  let (schedule, _) ← compileSchedule service.resolver service.rng service.zoneInfo
    (dayDsl service day) service.source (some service.channelSeed) counters
  schedule.programBlocks.mapM (expandBlock service (scheduleZone service.zoneInfo (dayDsl service day))
    (service.resolver.lookup (withPools service.resolver (dayDsl service day) service.source)))

end Day

/-! ### The service -/

section Service

/-- The state of a service: its blocks, the days it has compiled, and the days that the database
holds for it. -/
structure HorizonState where
  blocks : List ScheduledBlock
  compiledDays : List Date
  cache : Date → Option (List ScheduledBlock)

/-- Before the first load, on an empty database. -/
def HorizonState.initial : HorizonState := ⟨[], [], fun _ => none⟩

/-- What goes wrong outside, day by day: a cache that cannot be read, a compilation that raises, a
day that cannot be saved. -/
structure Outside where
  unreadable : Date → Bool
  raises : Date → Bool
  unsaved : Date → Bool

variable {R : Type} (service : DslService R)

/-- What the cache holds for a day, if it can be read. -/
def cached (state : HorizonState) (outside : Outside) (day : Date) : Option (List ScheduledBlock) :=
  if outside.unreadable day then none else state.cache day

/-- `_compile_day`: the blocks of a day, if nothing raises. A cached day without blocks is expanded
again, to none. -/
def compileDay (state : HorizonState) (outside : Outside) (day : Date) :
    Option (List ScheduledBlock) :=
  match cached state outside day with
  | some blocks => if blocks = [] ∧ outside.raises day then none else some blocks
  | none => if outside.raises day then none else (compileFresh service day).toOption

/-- `_save_compiled_schedule`, after a compilation. -/
def HorizonState.saved (state : HorizonState) (outside : Outside) (day : Date)
    (blocks : List ScheduledBlock) : HorizonState :=
  if (cached state outside day).isNone ∧ !outside.unsaved day then
    { state with cache := fun other => if other = day then some blocks else state.cache other }
  else state

/-- One day of `_build_initial`: its blocks join, unless its compilation raises. -/
def initialDay (outside : Outside) (building : HorizonState) (day : Date) : HorizonState :=
  match compileDay service building outside day with
  | none => building
  | some blocks =>
    { building.saved outside day blocks with
      blocks := building.blocks ++ blocks
      compiledDays := if day ∈ building.compiledDays then building.compiledDays
        else building.compiledDays ++ [day] }

/-- The programming day of a time: the day before, before the start hour. -/
def startDate (nowSec : Int) : Date :=
  match service.broadcastDayOverride with
  | some day => day
  | none =>
    let wall := service.localTime nowSec
    let day := wall / 86400 + 719163
    if wall % 86400 / 3600 < service.dayStartHour then day - 1 else day

/-- The days of the initial horizon. -/
def initialDays (nowSec : Int) : List Date :=
  (List.range horizonDays).map fun offset => startDate service nowSec + offset

/-- `_build_initial`. -/
def buildInitial (state : HorizonState) (nowSec : Int) (outside : Outside) : HorizonState :=
  if state.blocks ≠ [] then state
  else
    let built := (initialDays service nowSec).foldl (initialDay service outside) state
    { built with blocks := sortByKey ScheduledBlock.startUtcMs built.blocks }

/-- The UTC date of a time in milliseconds. -/
def utcDate (utcMs : Int) : Date := utcMs / 86400000 + 719163

/-- The day that an extension compiles: the one the last block ends on, or the next, unless both are
compiled; nothing while more than the threshold remains. -/
def extensionDay (state : HorizonState) (nowUtcMs : Int) : Option Date :=
  match state.blocks.getLast? with
  | none => none
  | some last =>
    if last.endUtcMs - nowUtcMs > recompileThresholdHours * 3600 * 1000 then none
    else
      let nextDay := utcDate last.endUtcMs
      if nextDay ∉ state.compiledDays then some nextDay
      else if nextDay + 1 ∉ state.compiledDays then some (nextDay + 1)
      else none

/-- `_prune_old_blocks`. -/
def pruneOldBlocks (state : HorizonState) (nowUtcMs : Int) : HorizonState :=
  { state with
    blocks := state.blocks.filter fun block => block.endUtcMs > nowUtcMs - 24 * 3600 * 1000 }

/-- The blocks of a compiled day join the others, in order; a day without blocks leaves no trace. -/
def HorizonState.extended (state : HorizonState) (day : Date) (blocks : List ScheduledBlock) :
    HorizonState :=
  if blocks = [] then state
  else
    { state with
      blocks := sortByKey ScheduledBlock.startUtcMs (state.blocks ++ blocks)
      compiledDays := state.compiledDays ++ [day] }

/-- `_maybe_extend_horizon`. A compilation that raises leaves everything as it is. -/
def maybeExtendHorizon (state : HorizonState) (nowUtcMs : Int) (outside : Outside) : HorizonState :=
  match extensionDay state nowUtcMs with
  | none => state
  | some day =>
    match compileDay service state outside day with
    | none => state
    | some blocks =>
      pruneOldBlocks ((state.saved outside day blocks).extended day blocks) nowUtcMs

/-- `_find_in_memory_block`. -/
def findInMemoryBlock (state : HorizonState) (utcMs : Int) : Option ScheduledBlock :=
  state.blocks.find? fun block => decide (block.startUtcMs ≤ utcMs ∧ utcMs < block.endUtcMs)

/-- The calls on a service, and the purge of what the database keeps. -/
inductive HorizonAction
  | loadSchedule (nowSec : Int) (outside : Outside)
  | getBlockAt (utcMs : Int) (outside : Outside)
  | purge (keeps : Date → Bool)

/-- What a call leaves; `get_block_at` answers with `findInMemoryBlock` in that state. -/
def horizonStep (state : HorizonState) : HorizonAction → Option HorizonState
  | .loadSchedule nowSec outside => some (buildInitial service state nowSec outside)
  | .getBlockAt utcMs outside => some (maybeExtendHorizon service state utcMs outside)
  | .purge keeps =>
    some { state with cache := fun day => if keeps day then state.cache day else none }

end Service

end Retrovue.Core.Horizon
