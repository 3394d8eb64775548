/-
**Block compilation** (`runtime/schedule_compiler.py`).

* `selectEpisode`, `selectMovie`, `selectMovieNoRepeat`: choosing an asset;
* `Stamp`: an aware `datetime`, on the channel's clock or in UTC;
* `compileSitcomBlock`, `compileMovieBlock`, `compileMovieMarathon`, `compileEpisodeBlock`: the four
  block compilers, each a reading of its definition and a loop over the time it fills.

The asset catalog and the generator behind `random.Random` are parameters. A time is in seconds from
1970, on whichever clock it is read.
-/

import Mathlib
import Retrovue.Core.Compiler.Dsl
import Retrovue.Foundation.Sorting

namespace Retrovue.Core.Compiler

open Retrovue.Core.Schedule Retrovue.Foundation.Sorting

/-! ### The catalog and the generator -/

section Parameters

/-- What compilation reads of `AssetMetadata`. -/
structure AssetMetadata where
  durationSec : Int
  title : String := ""
  tags : List String := []
  rating : Option String := none
  deriving DecidableEq

/-- `AssetResolver.lookup` at the time of a compilation; `none` is `KeyError`. -/
abbrev Lookup := String → Option AssetMetadata

/-- `random.Random`: a state for each seed, and an index below a bound from each state. -/
structure RandomSource where
  State : Type
  seeded : Value → State
  below : State → Nat → Nat × State

variable (rng : RandomSource) (lookup : Lookup)

/-- `resolver.lookup`. -/
def lookupId (assetId : String) : Compile AssetMetadata :=
  match lookup assetId with
  | some asset => .ok asset
  | none => .error (.keyError assetId)

/-- `rng.choice`. -/
def choice {α : Type} (state : rng.State) (items : List α) : Compile (α × rng.State) :=
  let drawn := rng.below state items.length
  match items[drawn.1]? with
  | some item => .ok (item, drawn.2)
  | none => .error .indexError

end Parameters

/-! ### Selection -/

section Selection

variable (rng : RandomSource) (lookup : Lookup)

/-- `sequential_counters`. -/
abbrev Counters := String → Int

/-- Advancing the counter of one pool. -/
def Counters.advance (counters : Counters) (poolId : String) : Counters := fun other =>
  if other = poolId then counters poolId + 1 else counters other

/-- `select_episode`, with the counters that `compile_schedule` always passes. -/
def selectEpisode (collectionId : String) (mode seed : Value) (counters : Counters) :
    Compile (String × Counters) := do
  let collection ← lookupId lookup collectionId
  let episodeIds := collection.tags
  if episodeIds.isEmpty then
    .error (.noEpisodes collectionId)
  else if mode.isStr "sequential" then
    match episodeIds[(counters collectionId % episodeIds.length).toNat]? with
    | some assetId => .ok (assetId, counters.advance collectionId)
    | none => .error .indexError
  else if mode.isStr "random" || mode.isStr "weighted" then do
    let (assetId, _) ← choice rng (rng.seeded seed) episodeIds
    .ok (assetId, counters)
  else .error (.compile ("Unknown episode selector mode: " ++ mode.text))

/-- A movie selector: the pools and the filters. -/
structure MovieSelector where
  collections : List Value
  ratingCfg : Value
  ratingInclude : Value
  ratingExclude : Value
  maxDurationSec : Value

/-- Reading a movie selector: the plural pools, or the single one where there are none. -/
def movieSelector (ms : Value) : Compile MovieSelector := do
  let plural ← ms.get "pools" (← ms.get "collections" (.list []))
  let single ← ms.get "pool" .null
  let collections ← match plural.truthy, plural with
    | true, .dict _ => .error .typeError
    | true, plural => plural.iterate
    | false, _ => .ok (if single.truthy then [single] else [])
  let ratingCfg ← ms.get "rating" (.dict [])
  let ratingInclude ← ratingCfg.get "include" .null
  let ratingExclude ← ratingCfg.get "exclude" .null
  let maxDurationSec ← ms.get "max_duration_sec" .null
  .ok ⟨collections, ratingCfg, ratingInclude, ratingExclude, maxDurationSec⟩

/-- The assets of the pools, in order. -/
def candidates : List Value → Compile (List String)
  | [] => .ok []
  | pool :: rest => do
    let poolId ← pool.asStr
    let collection ← lookupId lookup poolId
    let others ← candidates rest
    .ok (collection.tags ++ others)

/-- The duration is above the selector's limit. -/
def exceeds (durationSec : Int) : Value → Compile Bool
  | .int limit => .ok (decide (limit < durationSec))
  | .bool true => .ok (decide (1 < durationSec))
  | _ => .error .typeError

/-- The filters of a movie: the ratings, the longest duration, and an hour at least where the
duration is known. -/
def MovieSelector.allows (selector : MovieSelector) (asset : AssetMetadata) : Compile Bool := do
  let included ←
    if selector.ratingInclude.truthy then selector.ratingInclude.contains asset.rating else .ok true
  if !included then .ok false
  else do
    let excluded ←
      if selector.ratingExclude.truthy then selector.ratingExclude.contains asset.rating
      else .ok false
    if excluded then .ok false
    else do
      let tooLong ←
        if selector.maxDurationSec.truthy then exceeds asset.durationSec selector.maxDurationSec
        else .ok false
      if tooLong then .ok false
      else .ok (!(decide (asset.durationSec ≠ 0) && decide (asset.durationSec < 3600)))

/-- The candidates that pass the filters and are not used yet. -/
def filtered (selector : MovieSelector) (usedIds : List String) :
    List String → Compile (List String)
  | [] => .ok []
  | assetId :: rest =>
    if assetId ∈ usedIds then filtered selector usedIds rest
    else do
      let asset ← lookupId lookup assetId
      let allowed ← selector.allows asset
      let others ← filtered selector usedIds rest
      .ok (if allowed then assetId :: others else others)

/-- `select_movie`. -/
def selectMovie (selector : MovieSelector) (seed : Value) : Compile String := do
  let candidates ← candidates lookup selector.collections
  if candidates.isEmpty then .error (.noMovieCandidates selector.collections)
  else do
    let movies ← filtered lookup selector [] candidates
    if movies.isEmpty then
      .error (.noMoviesMatch selector.ratingInclude selector.maxDurationSec)
    else do
      let (assetId, _) ← choice rng (rng.seeded seed) (sortByKey id movies)
      .ok assetId

/-- `_select_movie_no_repeat`. -/
def selectMovieNoRepeat (selector : MovieSelector) (seed : Value) (usedIds : List String) :
    Compile (Option String) := do
  let candidates ← candidates lookup selector.collections
  if candidates.isEmpty then .ok none
  else do
    let movies ← filtered lookup selector usedIds candidates
    if movies.isEmpty then .ok none
    else do
      let (assetId, _) ← choice rng (rng.seeded seed) (sortByKey id movies)
      .ok (some assetId)

end Selection

/-! ### Times and blocks -/

section Stamps

/-- A time zone: the UTC offset at each wall time, the earlier one where a wall time is read twice. -/
abbrev Zone := Int → Int

/-- An aware `datetime`, in the channel's zone or in UTC. -/
inductive Stamp
  | zoned (wall : Int)
  | utc (epoch : Int)
  deriving DecidableEq

/-- What the clock reads; stamps of one zone compare by it. -/
def Stamp.clock : Stamp → Int
  | .zoned wall => wall
  | .utc epoch => epoch

/-- `datetime.utcoffset`. -/
def Stamp.utcoffset (zone : Zone) : Stamp → Int
  | .zoned wall => zone wall
  | .utc _ => 0

/-- `datetime.timestamp`. -/
def Stamp.epoch (zone : Zone) : Stamp → Int
  | .zoned wall => wall - zone wall
  | .utc epoch => epoch

/-- `start + timedelta(seconds=…)`: the clock moves on, the zone stays. -/
def Stamp.plus : Stamp → Int → Stamp
  | .zoned wall, seconds => .zoned (wall + seconds)
  | .utc epoch, seconds => .utc (epoch + seconds)

/-- `later > earlier`: by the clock in one zone, by the instant across zones. -/
def Stamp.after (zone : Zone) : Stamp → Stamp → Bool
  | .zoned later, .zoned earlier => decide (earlier < later)
  | .utc later, .utc earlier => decide (earlier < later)
  | later, earlier => decide (earlier.epoch zone < later.epoch zone)

/-- `ProgramBlockOutput`. -/
structure ProgramBlockOutput where
  title : Value
  assetId : String
  startAt : Stamp
  slotDurationSec : Int
  episodeDurationSec : Int
  collection : Value
  selector : Value

/-- `end_at`. -/
def ProgramBlockOutput.endAt (block : ProgramBlockOutput) : Stamp :=
  block.startAt.plus block.slotDurationSec

/-- `replace(block, start_at=…)`. -/
def ProgramBlockOutput.moved (block : ProgramBlockOutput) (startAt : Stamp) : ProgramBlockOutput :=
  { block with startAt := startAt }

/-- The grid slots an episode takes, one at least. -/
def slotsNeeded (gridMinutes : Nat) (episodeDurationSec : Int) : Int :=
  max 1 (-((-episodeDurationSec) / (gridMinutes * 60)))

/-- `_grid_slot_duration`. -/
def gridSlotDuration (gridMinutes : Nat) (episodeDurationSec : Int) : Int :=
  slotsNeeded gridMinutes episodeDurationSec * (gridMinutes * 60)

/-- A block of an asset at a wall time. -/
def programBlock (gridMinutes : Nat) (title : Value) (assetId : String) (wall : Int)
    (asset : AssetMetadata) (collection selector : Value) : ProgramBlockOutput :=
  { title := title
    assetId := assetId
    startAt := .zoned wall
    slotDurationSec := gridSlotDuration gridMinutes asset.durationSec
    episodeDurationSec := asset.durationSec
    collection := collection
    selector := selector }

/-- Times before this hour belong to the next calendar day. -/
def broadcastDayStartHour : Int := 6

/-- `_parse_time`: the wall time of a broadcast day in a zone, if there is such a zone. -/
def parseTime (timeStr broadcastDay : String) (tz : Option Zone) : Compile Int := do
  if tz.isNone then .error .noZone else .ok ()
  let day ← fromIsoformat broadcastDay
  let (hour, minute) ← hourAndMinute timeStr
  let minute := minute.getD 0
  if 0 ≤ hour ∧ hour < 24 ∧ 0 ≤ minute ∧ minute < 60 then
    let day := if hour < broadcastDayStartHour then day + 1 else day
    .ok ((day - 719163) * 86400 + hour * 3600 + minute * 60)
  else .error .valueError

end Stamps

/-! ### The block compilers -/

section Compilers

variable (rng : RandomSource) (lookup : Lookup) (gridMinutes : Nat)

/-- The pool of an episode selector: `pool`, or the older `collection`. -/
def selectorPool (epSel : Value) (absent : Value) : Compile Value := do
  let pool ← epSel.get "pool" .null
  let collection ← epSel.get "collection" absent
  .ok (pool.or collection)

/-- One slot of a sitcom block: its title, its asset and what selected it. -/
def sitcomSlot (seed : Value) (slot : Value) (counters : Counters) :
    Compile (Value × String × Value × Value × Counters) := do
  let title ← slot.get "title" (.str "")
  let programId ← slot.get "program" (.str "")
  let epSel ← slot.get "episode_selector" (.dict [])
  if epSel.truthy then do
    let poolId ← (← selectorPool epSel (.str "")).asStr
    let mode ← epSel.get "mode" (.str "sequential")
    let epSeed ← epSel.get "seed" seed
    let (assetId, counters) ← selectEpisode rng lookup poolId mode epSeed counters
    let collection ← selectorPool epSel .null
    .ok (title, assetId, collection, .dict [("mode", mode), ("seed", epSeed)], counters)
  else do
    let assetId ← programId.asStr
    .ok (title, assetId, .null, .null, counters)

/-- The loop of `_compile_sitcom_block`: an episode longer than a slot takes the slots that follow.
Every iteration takes one at least. -/
def sitcomLoop (seed : Value) :
    Nat → List Value → Int → Counters → Compile (List ProgramBlockOutput × Counters)
  | 0, _, _, counters => .ok ([], counters)
  | _ + 1, [], _, counters => .ok ([], counters)
  | fuel + 1, slot :: rest, currentTime, counters => do
    let (title, assetId, collection, selector, counters) ←
      sitcomSlot rng lookup seed slot counters
    let asset ← lookupId lookup assetId
    let (blocks, counters) ← sitcomLoop seed fuel
      ((slot :: rest).drop (slotsNeeded gridMinutes asset.durationSec).toNat)
      (currentTime + gridSlotDuration gridMinutes asset.durationSec) counters
    .ok (programBlock gridMinutes title assetId currentTime asset collection selector :: blocks,
      counters)

/-- An optional seed as a value. -/
def seedValue : Option Int → Value
  | some n => .int n
  | none => .null

/-- `_compile_sitcom_block`. -/
def compileSitcomBlock (blockDef : Value) (broadcastDay : String) (tz : Option Zone) (seed : Option Int)
    (counters : Counters) : Compile (List ProgramBlockOutput × Counters) := do
  let startStr ← (← blockDef.get "start" (.str "20:00")).asStr
  let currentTime ← parseTime startStr broadcastDay tz
  let slots ← (← blockDef.get "slots" (.list [])).iterate
  sitcomLoop rng lookup gridMinutes (seedValue seed) slots.length slots currentTime counters

/-- The title of an asset, or what stands in for it. -/
def titleOr (asset : AssetMetadata) (fallback : String) : Value :=
  .str (if asset.title = "" then fallback else asset.title)

/-- The first pool of a selector. -/
def firstPool (selector : MovieSelector) : Value := selector.collections.headD .null

/-- What a movie block records of its selection. -/
def movieSelection (selector : MovieSelector) (seed : Value) : Value :=
  .dict [("collections", .list selector.collections), ("rating", selector.ratingCfg), ("seed", seed)]

/-- `_compile_movie_block`. -/
def compileMovieBlock (blockDef : Value) (broadcastDay : String) (tz : Option Zone) (seed : Option Int) :
    Compile (List ProgramBlockOutput) := do
  let startStr ← (← blockDef.get "start" (.str "20:00")).asStr
  let currentTime ← parseTime startStr broadcastDay tz
  let mb ← blockDef.get "movie_block" (.dict [])
  let ms ← (if mb.truthy then mb else blockDef).get "movie_selector" (.dict [])
  let selector ← movieSelector ms
  let assetId ← selectMovie rng lookup selector (seedValue seed)
  let asset ← lookupId lookup assetId
  .ok [programBlock gridMinutes (titleOr asset assetId) assetId currentTime asset
    (firstPool selector) (movieSelection selector (seedValue seed))]

/-- The loop of `_compile_movie_marathon`. Without bleeding, a movie that runs past the end is taken
back and the marathon ends. -/
def marathonLoop (selector : MovieSelector) (endTime : Int) (allowBleed : Bool) :
    Nat → Int → Int → List String → Compile (List ProgramBlockOutput × List String)
  | 0, _, _, usedIds => .ok ([], usedIds)
  | attempts + 1, currentTime, movieSeed, usedIds =>
    if endTime ≤ currentTime then .ok ([], usedIds)
    else do
      match ← selectMovieNoRepeat rng lookup selector (.int movieSeed) usedIds with
      | none => marathonLoop selector endTime allowBleed attempts currentTime (movieSeed + 1) []
      | some assetId => do
        let asset ← lookupId lookup assetId
        let block := programBlock gridMinutes (titleOr asset assetId) assetId currentTime asset
          (firstPool selector) (movieSelection selector (.int movieSeed))
        let next := currentTime + gridSlotDuration gridMinutes asset.durationSec
        if endTime < next ∧ !allowBleed then .ok ([], assetId :: usedIds)
        else do
          let (blocks, usedIds) ← marathonLoop selector endTime allowBleed attempts next
            (movieSeed + 1) (assetId :: usedIds)
          .ok (block :: blocks, usedIds)

/-- An end at or before the start is on the next day. -/
def wrapped (start stop : Int) : Int := if stop ≤ start then stop + 86400 else stop

/-- `_compile_movie_marathon`. -/
def compileMovieMarathon (blockDef : Value) (broadcastDay : String) (tz : Option Zone) (seed : Option Int)
    (usedIds : List String) : Compile (List ProgramBlockOutput × List String) := do
  let mm ← blockDef.get "movie_marathon" (.dict [])
  let startStr ← ((← mm.get "start" .null).or (← blockDef.get "start" (.str "09:00"))).asStr
  let endStr ← (← mm.get "end" (.str "22:00")).asStr
  let allowBleed ← mm.get "allow_bleed" (.bool false)
  let ms ← mm.get "movie_selector" (.dict [])
  let currentTime ← parseTime startStr broadcastDay tz
  let endTime ← parseTime endStr broadcastDay tz
  let selector ← movieSelector ms
  marathonLoop rng lookup gridMinutes selector (wrapped currentTime endTime) allowBleed.truthy 200
    currentTime (seed.getD 42) usedIds

/-- What the loop of an episode block reads. -/
structure EpisodeBlock where
  pools : List Value
  mode : Value
  title : Value
  seed : Option Int
  endTime : Int

/-- The pool of an iteration: in turn for `shuffle` and `sequential`, drawn for `random`. -/
def EpisodeBlock.pickPool (block : EpisodeBlock) (poolIndex : Nat) (state : rng.State) :
    Compile (Value × Nat × rng.State) :=
  if block.pools.length = 0 then .error .zeroDivision
  else if block.mode.isStr "random" ∧ 1 < block.pools.length then do
    let (pool, state) ← choice rng state block.pools
    .ok (pool, poolIndex, state)
  else
    let turns := (block.mode.isStr "shuffle" || block.mode.isStr "sequential") &&
      decide (1 < block.pools.length)
    match block.pools[poolIndex % block.pools.length]? with
    | some pool => .ok (pool, if turns then poolIndex + 1 else poolIndex, state)
    | none => .error .indexError

/-- The seed of an iteration: drawn for `random`. -/
def EpisodeBlock.pickSeed (block : EpisodeBlock) (state : rng.State) : Value × rng.State :=
  if block.mode.isStr "random" then
    let drawn := rng.below state (2 ^ 31 + 1)
    (.int drawn.1, drawn.2)
  else (seedValue block.seed, state)

/-- The selection mode of an iteration. -/
def EpisodeBlock.selectMode (block : EpisodeBlock) : Value :=
  if block.mode.isStr "sequential" || block.mode.isStr "shuffle" then .str "sequential"
  else block.mode

/-- The loop of `_compile_episode_block`: episodes one after the other while the start is before the
end; the last may run past it. -/
def episodeLoop (block : EpisodeBlock) : Nat → Int → Nat → rng.State → Counters →
    Compile (List ProgramBlockOutput × Counters)
  | 0, _, _, _, counters => .ok ([], counters)
  | iterations + 1, currentTime, poolIndex, state, counters =>
    if currentTime < block.endTime then do
      let (pool, poolIndex, state) ← block.pickPool rng poolIndex state
      let poolId ← pool.asStr
      let (epSeed, state) := block.pickSeed rng state
      let (assetId, counters) ← selectEpisode rng lookup poolId block.selectMode epSeed counters
      let asset ← lookupId lookup assetId
      let (blocks, counters) ← episodeLoop block iterations
        (currentTime + gridSlotDuration gridMinutes asset.durationSec) poolIndex state counters
      .ok (programBlock gridMinutes (block.title.or (titleOr asset poolId)) assetId currentTime
        asset pool (.dict [("mode", block.mode), ("pool", pool)]) :: blocks, counters)
    else .ok ([], counters)

/-- The end of an episode block: its duration, else its end, else a day. -/
def episodeEnd (bb : Value) (broadcastDay : String) (tz : Option Zone) (currentTime : Int) : Compile Int := do
  let durationStr ← bb.get "duration" (.str "")
  let endStr ← bb.get "end" (.str "")
  if durationStr.truthy then do
    let duration ← parseDuration (← durationStr.asStr)
    .ok (currentTime + duration)
  else if endStr.truthy then do
    let endTime ← parseTime (← endStr.asStr) broadcastDay tz
    .ok (wrapped currentTime endTime)
  else .ok (currentTime + 86400)

/-- `seed or 42`. -/
def seedOr42 (seed : Option Int) : Int := if seed.getD 0 = 0 then 42 else seed.getD 0

/-- One pool, or a list of them. -/
def poolList : Value → Compile (List Value)
  | .str poolId => .ok [.str poolId]
  | poolSpec => poolSpec.iterate

/-- `_compile_episode_block`. -/
def compileEpisodeBlock (blockDef : Value) (broadcastDay : String) (tz : Option Zone) (seed : Option Int)
    (counters : Counters) : Compile (List ProgramBlockOutput × Counters) := do
  let bb ← blockDef.get "block" (.dict [])
  let startStr ← ((← bb.get "start" .null).or (← blockDef.get "start" (.str "06:00"))).asStr
  let title ← bb.get "title" (.str "")
  let mode ← bb.get "mode" (.str "sequential")
  let poolSpec ← bb.get "pool" (.str "")
  let pools ← poolList poolSpec
  let currentTime ← parseTime startStr broadcastDay tz
  let endTime ← episodeEnd bb broadcastDay tz currentTime
  episodeLoop rng lookup gridMinutes ⟨pools, mode, title, seed, endTime⟩ 500 currentTime 0
    (rng.seeded (.int (seedOr42 seed))) counters

end Compilers

end Retrovue.Core.Compiler
