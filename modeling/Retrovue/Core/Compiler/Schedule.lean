/-
**The schedule compiler** (`runtime/schedule_compiler.py`).

* `expandTemplates`, `resolveDaySchedule`: the schedule section, its templates filled in and its
  layers merged for a date;
* `validateDsl`: the checks made before anything is compiled;
* `compileBlocks`: every block definition of the day through its compiler;
* `normalise`, `validateGridAlignment`, `compact`: the timeline made of the compiled blocks;
* `compileSchedule`: all of it.
-/

import Mathlib
import Retrovue.Core.Compiler.Blocks

namespace Retrovue.Core.Compiler

open Retrovue.Core.Schedule Retrovue.Foundation.Sorting

/-! ### The schedule section -/

section Layers

/-- `"use" in value`, for a dict. -/
def templateName : Value → Option Value
  | .dict entries => entries.lookup "use"
  | _ => none

/-- One entry of `expand_templates`. -/
def expandEntry (templates : Value) (entry : String × Value) : Compile (String × Value) :=
  match templateName entry.2 with
  | none => .ok entry
  | some name => do
    let known ← templates.asDict
    match known.lookup (← name.asStr) with
    | some template => .ok (entry.1, template)
    | none => .error (.compile ("Unknown template: " ++ name.text))

/-- `expand_templates`: the expanded schedule section. -/
def expandTemplates (dsl : Dict) : Compile Dict := do
  let schedule ← ((dsl.lookup "schedule").getD (.dict [])).asDict
  schedule.mapM (expandEntry ((dsl.lookup "templates").getD (.dict [])))

/-- The keys of the layered format. -/
def dowNames : List String :=
  ["monday", "tuesday", "wednesday", "thursday", "friday", "saturday", "sunday"]

/-- `VALID_SCHEDULE_KEYS`. -/
def validScheduleKeys : List String := ["all_day", "weekdays", "weekends"] ++ dowNames

/-- `_ensure_list`. -/
def ensureList : Value → List Value
  | .list items => items
  | .dict entries => [.dict entries]
  | _ => []

/-- The first of the nested block types that the definition holds as a dict. -/
def nestedBlock (entries : Dict) : Option Dict :=
  ["block", "movie_marathon", "movie_block"].findSome? fun key =>
    match entries.lookup key with
    | some (.dict nested) => some nested
    | _ => none

/-- The key of a block definition: its start, or the start of its nested block. -/
def startKey (entries : Dict) : Value :=
  let own := (entries.lookup "start").getD (.str "")
  if own.truthy then own
  else match nestedBlock entries with
    | some nested => (nested.lookup "start").getD (.str "")
    | none => own

/-- Block definitions by start, in insertion order. -/
abbrev Layer := List (Value × Value)

/-- What a `dict` tells keys apart by: `True` is the key `1`. -/
inductive HashKey
  | null
  | number (n : Int)
  | text (s : String)
  | date (ordinal : Date)
  deriving DecidableEq

/-- The key that a value is; a list or a dict is none. -/
def Value.hashKey : Value → Option HashKey
  | .null => some .null
  | .bool b => some (.number (if b then 1 else 0))
  | .int n => some (.number n)
  | .str s => some (.text s)
  | .date ordinal => some (.date ordinal)
  | .list _ | .dict _ => none

/-- Two start keys are the same key. -/
def Value.sameKey (a b : Value) : Bool :=
  match a.hashKey, b.hashKey with
  | some first, some second => first = second
  | _, _ => false

/-- `result[key] = value`: a key that is there keeps its place. -/
def Layer.set (layer : Layer) (key blockDef : Value) : Layer :=
  if layer.any fun entry => entry.1.sameKey key then
    layer.map fun entry => if entry.1.sameKey key then (entry.1, blockDef) else entry
  else layer ++ [(key, blockDef)]

/-- One definition of `_blocks_to_dict`; a list or a dict is no key. -/
def Layer.enter (layer : Layer) (blockDef : Value) : Compile Layer :=
  match blockDef with
  | .dict entries =>
    match (startKey entries).hashKey with
    | none => .error .typeError
    | some _ => .ok (layer.set (startKey entries) blockDef)
  | _ => .ok layer

/-- `_blocks_to_dict`. -/
def blocksToDict (blocks : List Value) : Compile Layer := blocks.foldlM Layer.enter []

/-- `merged.update(layer)`. -/
def Layer.update (merged layer : Layer) : Layer :=
  layer.foldl (fun merged entry => merged.set entry.1 entry.2) merged

/-- The layers of a weekday, lowest first. -/
def layerKeys (dow : Nat) : List String :=
  ["all_day", if dow < 5 then "weekdays" else "weekends", dowNames.getD dow ""]

/-- The text, the number and the date that a key is. -/
def Value.keyText (key : Value) : Option String :=
  match key.hashKey with
  | some (.text s) => some s
  | _ => none

def Value.keyNumber (key : Value) : Option Int :=
  match key.hashKey with
  | some (.number n) => some n
  | _ => none

def Value.keyDate (key : Value) : Option Date :=
  match key.hashKey with
  | some (.date ordinal) => some ordinal
  | _ => none

/-- The definitions by their keys, where all the keys are of one kind. -/
def sortedAs {κ : Type} [LinearOrder κ] (kind : Value → Option κ) (merged : Layer) :
    Option (List Value) :=
  if merged.all fun entry => (kind entry.1).isSome then
    let key : Value × Value → WithBot κ := fun entry => kind entry.1
    some ((sortByKey key merged).map Prod.snd)
  else none

/-- `sorted(merged.keys())`: texts compare with one another, so do numbers and so do dates. -/
def sortedLayer (merged : Layer) : Compile (List Value) :=
  match merged with
  | [] => .ok []
  | [entry] => .ok [entry.2]
  | merged =>
    match (sortedAs Value.keyText merged).or
        ((sortedAs Value.keyNumber merged).or (sortedAs Value.keyDate merged)) with
    | some blocks => .ok blocks
    | none => .error .typeError

/-- `resolve_day_schedule`: a layer above replaces the blocks below that start with its own. -/
def resolveDaySchedule (schedule : Dict) (targetDate : Date) : Compile (List Value) := do
  let layers ← (layerKeys (weekday targetDate)).mapM fun key =>
    blocksToDict (((schedule.lookup key).map ensureList).getD [])
  sortedLayer (layers.foldl Layer.update [])

end Layers

/-! ### Validation -/

section Validation

variable (lookup : Lookup)

/-- `get_grid_minutes` of the channel's template. -/
def gridMinutesOf (dsl : Dict) : Nat :=
  if ((dsl.lookup "template").getD (.str "network_television")).isStr "premium_movie" then 15
  else 30

/-- `validate_grid_alignment`. -/
def startErrors (startTime : Value) (gridMinutes : Nat) : Compile (List String) :=
  if startTime.truthy then do
    let text ← startTime.asStr
    match split text with
    | _ :: minute :: _ => do
      let minute ← pyInt minute
      .ok (if minute % gridMinutes ≠ 0 then
        ["Start time " ++ text ++ " is not aligned to " ++ toString gridMinutes ++ "-minute grid"]
        else [])
    | _ => .ok []
  else .ok []

/-- The start errors of a schedule entry: of the definition itself, or of each one in its list. -/
def entryStartErrors (gridMinutes : Nat) : Value → Compile (List String)
  | .dict entries => startErrors ((entries.lookup "start").getD (.str "")) gridMinutes
  | .list items => do
    let errors ← items.mapM fun item =>
      match item with
      | .dict entries => startErrors ((entries.lookup "start").getD (.str "")) gridMinutes
      | _ => .ok []
    .ok errors.flatten
  | _ => .ok []

/-- The error of a pool that the resolver does not find. -/
def poolErrors (message context : String) (pool : Value) : Compile (List String) := do
  let poolId ← pool.asStr
  .ok (if (lookup poolId).isSome then [] else ["[" ++ context ++ "] " ++ message ++ ": " ++ poolId])

/-- `_validate_block_assets`. -/
def validateBlockAssets (block : Value) (context : String) : Compile (List String) := do
  let slots ← (← block.get "slots" (.list [])).iterate
  let slotErrors ← slots.mapM fun slot => do
    let epSel ← slot.get "episode_selector" (.dict [])
    if epSel.truthy then do
      let pool ← selectorPool epSel (.str "")
      if pool.truthy then poolErrors lookup "Pool/collection not found" context pool else .ok []
    else .ok []
  let mb ← block.get "movie_block" (.dict [])
  let ms ← (if mb.truthy then mb else block).get "movie_selector" (.dict [])
  let plural ← ms.get "pools" (← ms.get "collections" (.list []))
  let single ← ms.get "pool" .null
  let pools ←
    if plural.truthy then plural.iterate
    else .ok (if single.truthy then [single] else [])
  let movieErrors ← pools.mapM (poolErrors lookup "Movie pool/collection not found" context)
  .ok (slotErrors.flatten ++ movieErrors.flatten)

/-- The asset errors of a schedule entry. -/
def entryAssetErrors (entry : String × Value) : Compile (List String) :=
  match entry.2 with
  | .dict _ => validateBlockAssets lookup entry.2 ("schedule:" ++ entry.1)
  | .list items => do
    let errors ← (items.zipIdx).mapM fun item =>
      match item.1 with
      | .dict _ => validateBlockAssets lookup item.1
          ("schedule:" ++ entry.1 ++ "[" ++ toString item.2 ++ "]")
      | _ => .ok []
    .ok errors.flatten
  | _ => .ok []

/-- The asset errors of a template. -/
def templateAssetErrors (entry : String × Value) : Compile (List String) :=
  match entry.2 with
  | .dict _ => validateBlockAssets lookup entry.2 ("template:" ++ entry.1)
  | _ => .ok []

/-- `validate_dsl`. -/
def validateDsl (dsl : Dict) : Compile (List String) := do
  let missing := (["channel", "broadcast_day", "timezone"].filter fun field =>
    !Dict.has dsl field).map fun field => "Missing required field: " ++ field
  match dsl.lookup "schedule" with
  | none => .ok (missing ++ ["Missing required field: schedule"])
  | some schedule => do
    let schedule ← schedule.asDict
    let starts ← schedule.mapM fun entry => entryStartErrors (gridMinutesOf dsl) entry.2
    let templates ← ((dsl.lookup "templates").getD (.dict [])).asDict
    let templateErrors ← templates.mapM (templateAssetErrors lookup)
    let assetErrors ← schedule.mapM (entryAssetErrors lookup)
    .ok (missing ++ starts.flatten ++ templateErrors.flatten ++ assetErrors.flatten)

end Validation

/-! ### The blocks of a day -/

section DayBlocks

variable (rng : RandomSource) (lookup : Lookup) (gridMinutes : Nat) (broadcastDay : String)
  (tz : Option Zone) (seed : Option Int)

/-- What one block compilation leaves for the next: the counters and the movies used. -/
structure Carried where
  counters : Counters
  usedMovieIds : List String

/-- One block definition through its compiler; what is not a dict is skipped. Only the layered
format carries the used movies from one marathon to the next. -/
def compileBlockDef (layered : Bool) (blockDef : Value) (carried : Carried) :
    Compile (List ProgramBlockOutput × Carried) :=
  match blockDef with
  | .dict entries =>
    if Dict.has entries "block" then do
      let (blocks, counters) ←
        compileEpisodeBlock rng lookup gridMinutes blockDef broadcastDay tz seed carried.counters
      .ok (blocks, { carried with counters := counters })
    else if Dict.has entries "movie_marathon" then do
      let (blocks, usedIds) ← compileMovieMarathon rng lookup gridMinutes blockDef broadcastDay tz seed
        (if layered then carried.usedMovieIds else [])
      .ok (blocks, if layered then { carried with usedMovieIds := usedIds } else carried)
    else if Dict.has entries "movie_block" || Dict.has entries "movie_selector" then do
      let blocks ← compileMovieBlock rng lookup gridMinutes blockDef broadcastDay tz seed
      .ok (blocks, carried)
    else do
      let (blocks, counters) ←
        compileSitcomBlock rng lookup gridMinutes blockDef broadcastDay tz seed carried.counters
      .ok (blocks, { carried with counters := counters })
  | _ => .ok ([], carried)

/-- Block definitions one after the other. -/
def compileBlockDefs (layered : Bool) : List Value → Carried →
    Compile (List ProgramBlockOutput × Carried)
  | [], carried => .ok ([], carried)
  | blockDef :: rest, carried => do
    let (blocks, carried) ←
      compileBlockDef rng lookup gridMinutes broadcastDay tz seed layered blockDef carried
    let (others, carried) ← compileBlockDefs layered rest carried
    .ok (blocks ++ others, carried)

/-- A schedule entry of the older format: a sitcom block, or a list of definitions. -/
def compileEntry (entry : Value) (carried : Carried) :
    Compile (List ProgramBlockOutput × Carried) :=
  match entry with
  | .dict _ => do
    let (blocks, counters) ←
      compileSitcomBlock rng lookup gridMinutes entry broadcastDay tz seed carried.counters
    .ok (blocks, { carried with counters := counters })
  | .list items => compileBlockDefs rng lookup gridMinutes broadcastDay tz seed false items carried
  | _ => .ok ([], carried)

/-- The entries of the older format. -/
def compileEntries : List Value → Carried → Compile (List ProgramBlockOutput × Carried)
  | [], carried => .ok ([], carried)
  | entry :: rest, carried => do
    let (blocks, carried) ← compileEntry rng lookup gridMinutes broadcastDay tz seed entry carried
    let (others, carried) ← compileEntries rest carried
    .ok (blocks ++ others, carried)

/-- The compiled blocks of a day: by the layers for its date where the schedule has a key of the
layered format, else entry by entry. -/
def compileBlocks (schedule : Dict) (counters : Counters) :
    Compile (List ProgramBlockOutput × Counters) := do
  let carried : Carried := ⟨counters, []⟩
  if (schedule.any fun entry => validScheduleKeys.contains entry.1) && broadcastDay ≠ "" then do
    let target ← fromIsoformat broadcastDay
    let resolved ← resolveDaySchedule schedule target
    let (blocks, carried) ←
      compileBlockDefs rng lookup gridMinutes broadcastDay tz seed true resolved carried
    .ok (blocks, carried.counters)
  else do
    let (blocks, carried) ←
      compileEntries rng lookup gridMinutes broadcastDay tz seed (schedule.map Prod.snd) carried
    .ok (blocks, carried.counters)

end DayBlocks

/-! ### The timeline -/

section Timeline

variable (zone : Zone) (gridMinutes : Nat)

/-- `start_at.astimezone(UTC)` for the stamps that are not at offset zero. -/
def normalise (block : ProgramBlockOutput) : ProgramBlockOutput :=
  if block.startAt.utcoffset zone ≠ 0 then block.moved (.utc (block.startAt.epoch zone)) else block

/-- The checks of `_validate_grid_alignment` on one block. -/
def checkGridAlignment (block : ProgramBlockOutput) : Compile Unit :=
  let slotUnit : Int := gridMinutes * 60
  if block.startAt.utcoffset zone ≠ 0 then
    .error (.notUtc block.title (block.startAt.utcoffset zone))
  else if block.startAt.epoch zone % slotUnit ≠ 0 then
    .error (.startNotAligned block.title (block.startAt.epoch zone) slotUnit)
  else if block.slotDurationSec % slotUnit ≠ 0 then
    .error (.durationNotAligned block.title block.slotDurationSec slotUnit)
  else .ok ()

/-- `_validate_grid_alignment`. -/
def validateGridAlignment : List ProgramBlockOutput → Compile Unit
  | [] => .ok ()
  | block :: rest => do
    checkGridAlignment zone gridMinutes block
    validateGridAlignment rest

/-- One step of the compaction: a block that the last one runs over starts at its end. -/
def pushed (last : Option ProgramBlockOutput) (block : ProgramBlockOutput) : ProgramBlockOutput :=
  match last with
  | none => block
  | some last => if last.endAt.after zone block.startAt then block.moved last.endAt else block

/-- The compaction loop, with the last block it has put out. -/
def compact : Option ProgramBlockOutput → List ProgramBlockOutput → List ProgramBlockOutput
  | _, [] => []
  | last, block :: rest =>
    pushed zone last block :: compact (some (pushed zone last block)) rest

/-- Sorted by start, brought to UTC, checked, compacted, checked again. -/
def timeline (compiled : List ProgramBlockOutput) : Compile (List ProgramBlockOutput) := do
  let blocks := (sortByKey (fun block => block.startAt.clock) compiled).map (normalise zone)
  validateGridAlignment zone gridMinutes blocks
  let compacted := compact zone none blocks
  validateGridAlignment zone gridMinutes compacted
  .ok compacted

end Timeline

/-! ### The compiler -/

section Compiler

/-- `AssetResolver`: what it finds, and what it is once pools are registered with it. A resolver
that cannot register pools stays as it is. -/
structure AssetResolver (R : Type) where
  lookup : R → Lookup
  registerPools : R → Value → R

/-- What the compiled plan carries, but for its hash and its source record. -/
structure ProgramSchedule where
  channelId : Value
  broadcastDay : String
  timezone : Value
  programBlocks : List ProgramBlockOutput
  notes : Option Value

/-- A required field of the DSL. -/
def required (dsl : Dict) (field : String) : Compile Value :=
  match dsl.lookup field with
  | some value => .ok value
  | none => .error (.keyError field)

variable {R : Type} (resolver : AssetResolver R) (rng : RandomSource)
  (zoneInfo : String → Option Zone)

/-- The resolver with the pools of the DSL. -/
def withPools (dsl : Dict) (source : R) : R :=
  let pools := (dsl.lookup "pools").getD (.dict [])
  if pools.truthy then resolver.registerPools source pools else source

/-- `ZoneInfo(tz_name)`. -/
def zoneOf (timezone : Value) : Option Zone :=
  match timezone with
  | .str name => zoneInfo name
  | _ => none

/-- The zone of the schedule's stamps. Without one there is no compiled block. -/
def scheduleZone (dsl : Dict) : Zone :=
  ((dsl.lookup "timezone").bind (zoneOf zoneInfo)).getD fun _ => 0

/-- The validated DSL through its block compilers. -/
def compiledBlocks (dsl : Dict) (source : R) (seed : Option Int) (counters : Counters) :
    Compile (List ProgramBlockOutput × Counters) := do
  let lookup := resolver.lookup (withPools resolver dsl source)
  let errors ← validateDsl lookup dsl
  if errors.isEmpty then do
    let schedule ← expandTemplates dsl
    let broadcastDay ← required dsl "broadcast_day"
    let timezone ← required dsl "timezone"
    compileBlocks rng lookup (gridMinutesOf dsl) broadcastDay.text (zoneOf zoneInfo timezone) seed schedule counters
  else .error (.validation errors)

/-- `compile_schedule`, with what it leaves of the counters. -/
def compileSchedule (dsl : Dict) (source : R) (seed : Option Int) (counters : Counters) :
    Compile (ProgramSchedule × Counters) := do
  let (compiled, counters) ← compiledBlocks resolver rng zoneInfo dsl source seed counters
  let channelId ← required dsl "channel"
  let broadcastDay ← required dsl "broadcast_day"
  let timezone ← required dsl "timezone"
  let blocks ← timeline (scheduleZone zoneInfo dsl) (gridMinutesOf dsl) compiled
  let notes := (dsl.lookup "notes").filter Value.truthy
  .ok (⟨channelId, broadcastDay.text, timezone, blocks, notes⟩, counters)

end Compiler

end Retrovue.Core.Compiler
