/-
**The traffic library** (`catalog/db_asset_library.py`): what a channel may air in its breaks.

* `TrafficPolicy`: the policy of a channel, out of its configuration over the defaults;
* `DatabaseAssetLibrary.getFillerAssets`: what the library offers, under the reads of one call and any
  shuffle; `getDurationMs`, `getMarkers`, `logPlay`;
* `Eligible`: an asset may air, said of the whole log of plays;
* `getFillerAssets_eligible`: the offers are the eligible assets, in any order, up to the count.

The policy is that of the configuration files when the library first reads them.
-/

import Retrovue.Foundation.Sorting
import Retrovue.Core.Assets.Rows
import Retrovue.Core.Planning.Pipeline

namespace Retrovue.Core.Playlog

open Retrovue.Foundation.Sorting Retrovue.Core.Planning Retrovue.Core.Assets

/-! ### The policy -/

section Policy

/-- A traffic policy. -/
structure TrafficPolicy where
  allowedTypes : List String
  defaultCooldownSeconds : ℤ
  typeCooldowns : List (String × ℤ)
  maxPlaysPerDay : ℤ
  deriving DecidableEq, Repr

/-- `DEFAULT_TRAFFIC_POLICY`. -/
def DEFAULT_TRAFFIC_POLICY : TrafficPolicy where
  allowedTypes := ["commercial", "promo", "station_id", "psa", "stinger", "bumper", "filler"]
  defaultCooldownSeconds := 3600
  typeCooldowns := []
  maxPlaysPerDay := 0

/-- The `traffic` of a configuration file: the keys that it has. -/
structure TrafficConfig where
  allowedTypes : Option (List String) := none
  defaultCooldownSeconds : Option ℤ := none
  typeCooldowns : Option (List (String × ℤ)) := none
  maxPlaysPerDay : Option ℤ := none
  deriving DecidableEq, Repr

/-- `policy.update`. -/
def TrafficPolicy.update (policy : TrafficPolicy) (traffic : TrafficConfig) : TrafficPolicy where
  allowedTypes := traffic.allowedTypes.getD policy.allowedTypes
  defaultCooldownSeconds := traffic.defaultCooldownSeconds.getD policy.defaultCooldownSeconds
  typeCooldowns := traffic.typeCooldowns.getD policy.typeCooldowns
  maxPlaysPerDay := traffic.maxPlaysPerDay.getD policy.maxPlaysPerDay

/-- `_load_channel_traffic_policy`: the `traffic` of `_defaults.yaml` and of the channel's file. -/
def loadChannelTrafficPolicy (defaults channel : Option TrafficConfig) : TrafficPolicy :=
  let policy := defaults.elim DEFAULT_TRAFFIC_POLICY DEFAULT_TRAFFIC_POLICY.update
  channel.elim policy policy.update

namespace TrafficPolicy

variable (policy : TrafficPolicy)

/-- The cooldown of a type, in microseconds. -/
def cooldownUs (assetType : String) : ℤ :=
  ((policy.typeCooldowns.lookup assetType).getD policy.defaultCooldownSeconds) * 1000000

/-- `max_cooldown`. -/
def maxCooldown : ℤ :=
  max policy.defaultCooldownSeconds ((policy.typeCooldowns.map Prod.snd).max?.getD 0)

end TrafficPolicy

end Policy

/-! ### The library -/

section Library

/-- A row of `traffic_play_log`; times are in microseconds. -/
structure TrafficPlay where
  channelSlug : String
  assetUuid : String
  assetUri : String
  assetType : String
  playedAt : ℤ
  deriving DecidableEq, Repr

/-- An asset with the `interstitial_type` of its editorial payload. -/
structure AssetRow where
  uuid : String
  uri : String
  canonicalUri : String
  durationMs : Option ℤ
  collectionUuid : String
  state : AssetState
  interstitialType : Option String := none
  deriving DecidableEq, Repr

/-- The type that an asset has for the policy. -/
def AssetRow.assetType (asset : AssetRow) : String := asset.interstitialType.getD "filler"

/-- The asset as it is offered. -/
def AssetRow.filler (asset : AssetRow) (durationMs : ℤ) : FillerAsset :=
  ⟨asset.canonicalUri, durationMs, asset.assetType⟩

/-- A row of `markers`, with the `title` of its payload. -/
structure MarkerRow where
  assetUuid : String
  kind : String
  startMs : ℤ
  title : Option String := none
  deriving DecidableEq, Repr

/-- What one call reads: the tables, the clock each time it looks at it, and its shuffle. -/
structure TrafficReading where
  collections : List (String × String)
  assets : List AssetRow
  log : List TrafficPlay
  cutoffNow : ℤ
  cooldownNow : ℤ
  todayNow : ℤ
  shuffle : List AssetRow → List AssetRow
  shuffle_perm : ∀ candidates, (shuffle candidates).Perm candidates
  cutoff_le : cutoffNow ≤ cooldownNow
  cooldown_le : cooldownNow ≤ todayNow

/-- Midnight, UTC. -/
def dayStart (nowUs : ℤ) : ℤ := nowUs - nowUs % 86400000000

/-- **`DatabaseAssetLibrary`**, with the policy of its channel. -/
structure DatabaseAssetLibrary where
  channelSlug : Option String := none
  interstitialCollectionName : String := "Interstitials"
  policy : TrafficPolicy := DEFAULT_TRAFFIC_POLICY

namespace DatabaseAssetLibrary

variable (library : DatabaseAssetLibrary) (reading : TrafficReading)

/-- The channel, where there is one: an empty slug is none. -/
def channel : Option String := library.channelSlug.filter (· ≠ "")

/-- The plays of a channel. -/
def channelPlays (slug : String) : List TrafficPlay :=
  reading.log.filter fun play => play.channelSlug = slug

/-- `_get_interstitial_collection_uuid`. -/
def getInterstitialCollectionUuid : Option String :=
  reading.collections.lookup library.interstitialCollectionName

/-- `_get_cooled_down_uris`. -/
def getCooledDownUris : List String :=
  match library.channel with
  | none => []
  | some slug =>
    if library.policy.maxCooldown ≤ 0 then []
    else
      let cutoff := reading.cutoffNow - library.policy.maxCooldown * 1000000
      let recentPlays := (channelPlays reading slug).filter fun play => cutoff ≤ play.playedAt
      (recentPlays.filter fun play =>
        reading.cooldownNow - play.playedAt < library.policy.cooldownUs play.assetType).map
          TrafficPlay.assetUri

/-- The plays of an asset from a time on. -/
def playsSince (slug uuid : String) (start : ℤ) : List TrafficPlay :=
  (channelPlays reading slug).filter fun play => play.assetUuid = uuid ∧ start ≤ play.playedAt

/-- `_get_daily_capped_uuids`, for an asset. -/
def dailyCapped (uuid : String) : Bool :=
  match library.channel with
  | none => false
  | some slug =>
    let plays := (playsSince reading slug uuid (dayStart reading.todayNow)).length
    decide (0 < library.policy.maxPlaysPerDay) && decide (library.policy.maxPlaysPerDay ≤ plays)

/-- The filter of the query: a ready asset of the collection that fits. -/
def fits (collectionUuid : String) (maxDurationMs : ℤ) (asset : AssetRow) : Bool :=
  decide (asset.collectionUuid = collectionUuid) && decide (asset.state = .ready) &&
    asset.durationMs.any fun durationMs => decide (0 < durationMs) && decide (durationMs ≤ maxDurationMs)

/-- The loop over the rows. -/
def candidates (collectionUuid : String) (maxDurationMs : ℤ) : List AssetRow :=
  let rows := reading.assets.filter (fits collectionUuid maxDurationMs)
  rows.filter fun asset =>
    decide (asset.assetType ∈ library.policy.allowedTypes) &&
      !decide (asset.canonicalUri ∈ library.getCooledDownUris reading) &&
      !library.dailyCapped reading asset.uuid

/-- The assets that are offered. -/
def offers (maxDurationMs : ℤ) (count : ℕ) : List AssetRow :=
  match library.getInterstitialCollectionUuid reading with
  | none => []
  | some collectionUuid =>
    (reading.shuffle (library.candidates reading collectionUuid maxDurationMs)).take count

/-- `get_filler_assets`. -/
def getFillerAssets (maxDurationMs : ℤ) (count : ℕ) : List FillerAsset :=
  (library.offers reading maxDurationMs count).map fun asset => asset.filler (asset.durationMs.getD 0)

end DatabaseAssetLibrary

/-- `get_duration_ms`. -/
def getDurationMs (assets : List AssetRow) (assetUri : String) : ℤ :=
  let asset := (assets.find? fun asset => asset.canonicalUri = assetUri).or
    (assets.find? fun asset => asset.uri = assetUri)
  (asset.bind AssetRow.durationMs).getD 0

/-- `get_markers`. -/
def getMarkers (assets : List AssetRow) (markers : List MarkerRow) (assetUri : String) :
    List MarkerInfo :=
  match assets.find? fun asset => asset.canonicalUri = assetUri with
  | none => []
  | some asset =>
    (sortByKey MarkerRow.startMs (markers.filter fun marker => marker.assetUuid = asset.uuid)).map
      fun marker => ⟨marker.kind, marker.startMs, marker.title.getD ""⟩

/-- `log_play`: without a channel nothing is recorded. -/
def logPlay (library : DatabaseAssetLibrary) (asset : AssetRow) (playedAt : ℤ)
    (log : List TrafficPlay) : List TrafficPlay :=
  match library.channel with
  | none => log
  | some slug => log ++ [⟨slug, asset.uuid, asset.canonicalUri, asset.assetType, playedAt⟩]

end Library

/-! ### What is offered -/

section Offers

namespace TrafficPolicy

variable (policy : TrafficPolicy)

/-- No type has a longer cooldown. -/
theorem cooldownUs_le (assetType : String) :
    policy.cooldownUs assetType ≤ policy.maxCooldown * 1000000 := by
  refine Int.mul_le_mul_of_nonneg_right ?_ (by decide)
  unfold maxCooldown
  cases found : policy.typeCooldowns.lookup assetType with
  | none => exact le_max_left _ _
  | some cooldown =>
    obtain ⟨before, after, split, -⟩ := List.lookup_eq_some_iff.mp found
    have member : cooldown ∈ policy.typeCooldowns.map Prod.snd :=
      List.mem_map.mpr ⟨(assetType, cooldown), by rw [split]; simp, rfl⟩
    obtain ⟨largest, is⟩ := Option.isSome_iff_exists.mp
      (List.isSome_max?_of_mem member)
    rw [is]
    exact le_max_of_le_right ((List.max?_eq_some_iff.mp is).2 _ member)

end TrafficPolicy

/-- Not past midnight again: a time since the start of the day is on that day. -/
theorem dayStart_le_iff {playedAt nowUs : ℤ} (past : playedAt ≤ nowUs) :
    dayStart nowUs ≤ playedAt ↔ dayStart playedAt = dayStart nowUs := by
  unfold dayStart
  omega

namespace DatabaseAssetLibrary

variable {library : DatabaseAssetLibrary} {reading : TrafficReading}

/-- The plays of an asset on the day of a time. -/
def playsOn (log : List TrafficPlay) (slug uuid : String) (nowUs : ℤ) : List TrafficPlay :=
  log.filter fun play =>
    play.channelSlug = slug ∧ play.assetUuid = uuid ∧ dayStart play.playedAt = dayStart nowUs

/-- No play of the asset on the channel is within the cooldown of the type that it was played as. -/
def Rested (policy : TrafficPolicy) (log : List TrafficPlay) (slug : String) (asset : AssetRow)
    (nowUs : ℤ) : Prop :=
  ∀ play ∈ log, play.channelSlug = slug → play.assetUri = asset.canonicalUri →
    policy.cooldownUs play.assetType ≤ nowUs - play.playedAt

/-- The asset has plays left on the channel for the day. -/
def Uncapped (policy : TrafficPolicy) (log : List TrafficPlay) (slug : String) (asset : AssetRow)
    (nowUs : ℤ) : Prop :=
  0 < policy.maxPlaysPerDay → ((playsOn log slug asset.uuid nowUs).length : ℤ) < policy.maxPlaysPerDay

/-- **An asset may air**: a ready asset of the collection that fits, of an allowed type, rested and below
its cap on the channel. -/
structure Eligible (library : DatabaseAssetLibrary) (reading : TrafficReading) (maxDurationMs : ℤ)
    (asset : AssetRow) : Prop where
  listed : library.getInterstitialCollectionUuid reading = some asset.collectionUuid
  ready : asset.state = .ready
  lasts : ∃ durationMs, asset.durationMs = some durationMs ∧ 0 < durationMs ∧
    durationMs ≤ maxDurationMs
  allowed : asset.assetType ∈ library.policy.allowedTypes
  rested : ∀ slug, library.channel = some slug →
    Rested library.policy reading.log slug asset reading.cooldownNow
  uncapped : ∀ slug, library.channel = some slug →
    Uncapped library.policy reading.log slug asset reading.todayNow

/-- The log was written in the past. -/
def Past (reading : TrafficReading) : Prop := ∀ play ∈ reading.log, play.playedAt ≤ reading.cutoffNow

variable {collectionUuid slug : String} {asset : AssetRow} {maxDurationMs : ℤ}

/-- **The cutoff loses no play**: an asset is cooled down exactly when it is not rested. -/
theorem mem_getCooledDownUris (past : Past reading) (on : library.channel = some slug) :
    asset.canonicalUri ∈ library.getCooledDownUris reading ↔
      ¬ Rested library.policy reading.log slug asset reading.cooldownNow := by
  have ordered := reading.cutoff_le
  unfold getCooledDownUris Rested
  rw [on]
  simp only [not_forall, not_le]
  split_ifs with none
  · constructor
    · exact nofun
    · rintro ⟨play, logged, -, -, recent⟩
      have bound := library.policy.cooldownUs_le play.assetType
      have written := past play logged
      omega
  · simp only [channelPlays, List.mem_map, List.mem_filter, decide_eq_true_eq]
    constructor
    · rintro ⟨play, ⟨⟨⟨logged, here⟩, -⟩, recent⟩, same⟩
      exact ⟨play, logged, here, same, recent⟩
    · rintro ⟨play, logged, here, same, recent⟩
      have bound := library.policy.cooldownUs_le play.assetType
      exact ⟨play, ⟨⟨⟨logged, here⟩, by omega⟩, recent⟩, same⟩

/-- The plays since midnight are those of the day. -/
theorem dailyCapped_eq (past : Past reading) (on : library.channel = some slug) :
    library.dailyCapped reading asset.uuid = false ↔
      Uncapped library.policy reading.log slug asset reading.todayNow := by
  have same : playsSince reading slug asset.uuid (dayStart reading.todayNow) =
      playsOn reading.log slug asset.uuid reading.todayNow := by
    unfold playsSince channelPlays playsOn
    rw [List.filter_filter]
    refine List.filter_congr fun play logged => ?_
    have written := (past play logged).trans (reading.cutoff_le.trans reading.cooldown_le)
    have day := dayStart_le_iff written
    simp only [day, Bool.decide_and]
    grind
  unfold dailyCapped Uncapped
  rw [on]
  simp only [same, Bool.and_eq_false_iff, decide_eq_false_iff_not, not_lt, not_le]
  constructor
  · exact fun either open' => either.resolve_left (not_le.mpr open')
  · exact fun left => (le_or_gt _ _).imp id left

/-- What the query asks of an asset. -/
theorem fits_iff : fits collectionUuid maxDurationMs asset = true ↔
    asset.collectionUuid = collectionUuid ∧ asset.state = .ready ∧
      ∃ durationMs, asset.durationMs = some durationMs ∧ 0 < durationMs ∧ durationMs ≤ maxDurationMs := by
  unfold fits
  simp only [Bool.and_eq_true, decide_eq_true_eq, Option.any_eq_true, and_assoc]

/-- Neither cooled down nor capped: rested and below the cap, where there is a channel. -/
theorem free_iff (past : Past reading) :
    (asset.canonicalUri ∉ library.getCooledDownUris reading ∧
        library.dailyCapped reading asset.uuid = false) ↔
      (∀ slug, library.channel = some slug →
        Rested library.policy reading.log slug asset reading.cooldownNow) ∧
      ∀ slug, library.channel = some slug →
        Uncapped library.policy reading.log slug asset reading.todayNow := by
  cases on : library.channel with
  | none =>
    unfold getCooledDownUris dailyCapped
    rw [on]
    exact ⟨fun _ => ⟨nofun, nofun⟩, fun _ => ⟨List.not_mem_nil, rfl⟩⟩
  | some slug =>
    rw [mem_getCooledDownUris past on, not_not, dailyCapped_eq past on]
    constructor
    · rintro ⟨rested, uncapped⟩
      refine ⟨?_, ?_⟩ <;> rintro _ ⟨⟩
      · exact rested
      · exact uncapped
    · exact fun ⟨rested, uncapped⟩ => ⟨rested slug rfl, uncapped slug rfl⟩

open Classical in
/-- The candidates of a collection that is there are the eligible assets. -/
theorem candidates_eq (past : Past reading)
    (named : library.getInterstitialCollectionUuid reading = some collectionUuid) :
    library.candidates reading collectionUuid maxDurationMs =
      reading.assets.filter fun asset => Eligible library reading maxDurationMs asset := by
  unfold candidates
  rw [List.filter_filter]
  refine List.filter_congr fun asset _ => Bool.eq_iff_iff.mpr ?_
  simp only [fits_iff, Bool.and_eq_true, decide_eq_true_eq, Bool.not_eq_true',
    decide_eq_false_iff_not]
  constructor
  · rintro ⟨⟨⟨allowed, uncooled⟩, uncapped⟩, here, ready, lasts⟩
    have ⟨rested, below⟩ := (free_iff past).mp ⟨uncooled, uncapped⟩
    exact ⟨here ▸ named, ready, lasts, allowed, rested, below⟩
  · intro eligible
    have here := Option.some.inj (named.symm.trans eligible.listed)
    have ⟨uncooled, uncapped⟩ := (free_iff past).mpr ⟨eligible.rested, eligible.uncapped⟩
    exact ⟨⟨⟨eligible.allowed, uncooled⟩, uncapped⟩, here.symm, eligible.ready, eligible.lasts⟩

/-- The library that has no collection of that name has nothing eligible. -/
theorem not_eligible (unnamed : library.getInterstitialCollectionUuid reading = none) :
    ¬ Eligible library reading maxDurationMs asset := by
  intro eligible
  have listed := eligible.listed
  rw [unnamed] at listed
  cases listed

open Classical in
/-- What is offered is eligible. -/
theorem eligible_of_offered (past : Past reading) {count : ℕ}
    (offered : asset ∈ library.offers reading maxDurationMs count) :
    Eligible library reading maxDurationMs asset := by
  unfold offers at offered
  split at offered
  · cases offered
  · rename_i collectionUuid named
    have member := (reading.shuffle_perm _).mem_iff.mp (List.mem_of_mem_take offered)
    rw [candidates_eq past named] at member
    exact of_decide_eq_true (List.mem_filter.mp member).2

open Classical in
/-- **The library offers what may air**: whatever its shuffle, the first assets, up to the count, of some
arrangement of exactly the eligible ones; each as it lasts. -/
theorem getFillerAssets_eligible (past : Past reading) (maxDurationMs : ℤ) (count : ℕ) :
    ∃ arranged : List AssetRow,
      arranged.Perm (reading.assets.filter fun asset => Eligible library reading maxDurationMs asset) ∧
      library.getFillerAssets reading maxDurationMs count =
        (arranged.take count).map fun asset => asset.filler (asset.durationMs.getD 0) := by
  unfold getFillerAssets offers
  cases named : library.getInterstitialCollectionUuid reading with
  | none =>
    refine ⟨[], .of_eq (List.filter_eq_nil_iff.mpr fun asset _ eligible => ?_).symm, ?_⟩
    · exact not_eligible named (of_decide_eq_true eligible)
    · rw [List.take_nil]
  | some collectionUuid =>
    refine ⟨_, (reading.shuffle_perm _).trans (.of_eq (candidates_eq past named)), rfl⟩

/-- Half an hour after a promo and a commercial were played. -/
def breakReading : TrafficReading where
  collections := [("Interstitials", "spots")]
  assets := [⟨"a", "a.ts", "/spots/a.ts", some 30000, "spots", .ready, some "promo"⟩,
    ⟨"b", "b.ts", "/spots/b.ts", some 15000, "spots", .ready, some "commercial"⟩]
  log := [⟨"retro", "a", "/spots/a.ts", "promo", 0⟩, ⟨"retro", "b", "/spots/b.ts", "commercial", 0⟩]
  cutoffNow := 1800000000
  cooldownNow := 1800000000
  todayNow := 1800000000
  shuffle := List.reverse
  shuffle_perm := List.reverse_perm
  cutoff_le := le_rfl
  cooldown_le := le_rfl

/-- The library of a channel whose commercials rest for ten minutes. -/
def breakLibrary : DatabaseAssetLibrary where
  channelSlug := some "retro"
  policy := loadChannelTrafficPolicy none (some { typeCooldowns := some [("commercial", 600)] })

example : breakLibrary.getFillerAssets breakReading 60000 5 = [⟨"/spots/b.ts", 15000, "commercial"⟩] := by
  decide

theorem breakReading_past : Past breakReading := by
  unfold Past
  decide

open Classical in
theorem getFillerAssets_breakReading :
    ∃ arranged : List AssetRow,
      arranged.Perm (breakReading.assets.filter fun asset =>
        Eligible breakLibrary breakReading 60000 asset) ∧
      breakLibrary.getFillerAssets breakReading 60000 5 =
        (arranged.take 5).map fun asset => asset.filler (asset.durationMs.getD 0) :=
  getFillerAssets_eligible breakReading_past 60000 5

end DatabaseAssetLibrary

end Offers

end Retrovue.Core.Playlog
