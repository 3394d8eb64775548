/-
**Filling and logging under the traffic policy** (`catalog/db_asset_library.py`,
`runtime/traffic_manager.py`).

* `TrafficAction`, `Traffic.step`: calls of libraries, with a pick out of what they offer, and logged
  plays, on one clock; `Prompt`: a play is logged before its channel plays anything that the call had not
  seen; `Paced`: the log keeps the policy, and so will each pick;
* `spaced_of_run`: prompt plays keep the cooldowns and the daily caps of their channels;
* `DatabaseAssetLibrary.assetLibrary`: the library as the filling of blocks sees it; `Placed`: what is put
  into a break; `placed_of_library`: the spots of a filled block were eligible when they were picked.
-/

import Retrovue.Foundation.Fallible
import Retrovue.Foundation.Transition
import Retrovue.Core.Playlog.Blocks
import Retrovue.Core.Playlog.Traffic

namespace Retrovue.Core.Playlog

open Retrovue.Foundation.Fallible Retrovue.Foundation.Transition Retrovue.Core.Planning

/-! ### Calls and plays -/

section Runs

/-- The configuration files of the channels. -/
structure ChannelConfigs where
  defaults : Option TrafficConfig := none
  channels : String → Option TrafficConfig := fun _ => none

/-- `_get_channel_policy` of a channel. -/
def ChannelConfigs.policy (configs : ChannelConfigs) (slug : String) : TrafficPolicy :=
  loadChannelTrafficPolicy configs.defaults (configs.channels slug)

/-- The library that is made for a slug. -/
def ChannelConfigs.library (configs : ChannelConfigs) (channelSlug : Option String) :
    DatabaseAssetLibrary where
  channelSlug := channelSlug
  policy := (channelSlug.filter (· ≠ "")).elim DEFAULT_TRAFFIC_POLICY configs.policy

/-- A shuffle. -/
structure Shuffle where
  order : List AssetRow → List AssetRow
  perm : ∀ candidates, (order candidates).Perm candidates

/-- An asset that was picked from what a library offered: the call that offered it had seen the first
`seen` plays of the log. -/
structure Pick where
  library : DatabaseAssetLibrary
  asset : AssetRow
  seen : ℕ
  cooldownNow : ℤ
  todayNow : ℤ

/-- The clock, the log and the picks. -/
structure Traffic where
  now : ℤ
  log : List TrafficPlay := []
  picks : List Pick := []

/-- What happens: time passes; a library is asked under its tables, looks at the clock again after `pause`
and `rest` microseconds, and one of its offers is picked; a pick is played and logged. -/
inductive TrafficAction
  | wait (us : ℕ)
  | pick (channelSlug : Option String) (collections : List (String × String)) (assets : List AssetRow)
      (pause rest : ℕ) (shuffle : Shuffle) (maxDurationMs : ℤ) (count chosen : ℕ)
  | play (index : ℕ)

namespace Traffic

variable (configs : ChannelConfigs)

/-- What a call reads. -/
def reading (s : Traffic) (collections : List (String × String)) (assets : List AssetRow)
    (pause rest : ℕ) (shuffle : Shuffle) : TrafficReading where
  collections := collections
  assets := assets
  log := s.log
  cutoffNow := s.now
  cooldownNow := s.now + pause
  todayNow := s.now + pause + rest
  shuffle := shuffle.order
  shuffle_perm := shuffle.perm
  cutoff_le := Int.le_add_of_nonneg_right (Int.natCast_nonneg pause)
  cooldown_le := Int.le_add_of_nonneg_right (Int.natCast_nonneg rest)

/-- A step. -/
def step (s : Traffic) : TrafficAction → Option Traffic
  | .wait us => some { s with now := s.now + us }
  | .pick channelSlug collections assets pause rest shuffle maxDurationMs count chosen =>
    let library := configs.library channelSlug
    let reading := s.reading collections assets pause rest shuffle
    ((library.offers reading maxDurationMs count)[chosen]?).map fun asset =>
      { s with
        now := reading.todayNow
        picks := s.picks ++
          [⟨library, asset, s.log.length, reading.cooldownNow, reading.todayNow⟩] }
  | .play index =>
    (s.picks[index]?).map fun pick =>
      { s with log := logPlay pick.library pick.asset s.now s.log }

/-- **A play is prompt**: since the call that offered the asset, its channel has played nothing. -/
def Prompt (s : Traffic) : TrafficAction → Prop
  | .play index => ∀ pick ∈ s.picks[index]?, ∀ slug ∈ pick.library.channel,
      ∀ play ∈ s.log.drop pick.seen, play.channelSlug ≠ slug
  | _ => True

instance (s : Traffic) : DecidablePred s.Prompt
  | .play index => inferInstanceAs (Decidable (∀ pick ∈ s.picks[index]?,
      ∀ slug ∈ pick.library.channel, ∀ play ∈ s.log.drop pick.seen, play.channelSlug ≠ slug))
  | .wait _ | .pick .. => inferInstanceAs (Decidable True)

/-- Two plays, the first before the second, keep the cooldown of the first. -/
def Apart (earlier later : TrafficPlay) : Prop :=
  earlier.channelSlug = later.channelSlug → earlier.assetUri = later.assetUri →
    (configs.policy earlier.channelSlug).cooldownUs earlier.assetType ≤
      later.playedAt - earlier.playedAt

/-- A channel that has a cap plays no asset more often on a day. -/
def Capped (log : List TrafficPlay) : Prop :=
  ∀ slug uuid nowUs, 0 < (configs.policy slug).maxPlaysPerDay →
    ((DatabaseAssetLibrary.playsOn log slug uuid nowUs).length : ℤ) ≤
      (configs.policy slug).maxPlaysPerDay

/-- What a pick's call had seen lets its asset air. -/
structure Picked (s : Traffic) (pick : Pick) : Prop where
  seen : pick.seen ≤ s.log.length
  cooldown_le : pick.cooldownNow ≤ s.now
  today_le : pick.todayNow ≤ s.now
  before : ∀ play ∈ s.log.take pick.seen, play.playedAt ≤ pick.todayNow
  policy : ∀ slug ∈ pick.library.channel, pick.library.policy = configs.policy slug
  rested : ∀ slug ∈ pick.library.channel, DatabaseAssetLibrary.Rested pick.library.policy
    (s.log.take pick.seen) slug pick.asset pick.cooldownNow
  uncapped : ∀ slug ∈ pick.library.channel, DatabaseAssetLibrary.Uncapped pick.library.policy
    (s.log.take pick.seen) slug pick.asset pick.todayNow

/-- **The log keeps the policy**, and so will each pick. -/
structure Paced (s : Traffic) : Prop where
  past : ∀ play ∈ s.log, play.playedAt ≤ s.now
  apart : s.log.Pairwise (Apart configs)
  capped : Capped configs s.log
  picked : ∀ pick ∈ s.picks, s.Picked configs pick

variable {configs : ChannelConfigs} {s next : Traffic} {pick : Pick} {slug : String}

/-- A pick stays as it is while the log grows. -/
theorem Picked.later (picked : s.Picked configs pick) {more : List TrafficPlay}
    (grown : next.log = s.log ++ more) (now_le : s.now ≤ next.now) : next.Picked configs pick := by
  have same : next.log.take pick.seen = s.log.take pick.seen := by
    rw [grown, List.take_append_of_le_length picked.seen]
  refine ⟨?_, picked.cooldown_le.trans now_le, picked.today_le.trans now_le, ?_, picked.policy, ?_, ?_⟩
  · rw [grown, List.length_append]
    exact picked.seen.trans (Nat.le_add_right _ _)
  · rw [same]
    exact picked.before
  · rw [same]
    exact picked.rested
  · rw [same]
    exact picked.uncapped

/-- The library of a channel has the channel's policy. -/
theorem library_policy {channelSlug : Option String} {slug : String}
    (on : slug ∈ (configs.library channelSlug).channel) :
    (configs.library channelSlug).policy = configs.policy slug := by
  have named : channelSlug.filter (· ≠ "") = some slug := on
  unfold ChannelConfigs.library
  rw [named]
  rfl

/-- What a prompt pick's channel has played is what its call had seen. -/
theorem mem_seen (prompt : ∀ play ∈ s.log.drop pick.seen, play.channelSlug ≠ slug)
    {play : TrafficPlay} (logged : play ∈ s.log) (here : play.channelSlug = slug) :
    play ∈ s.log.take pick.seen := by
  rw [← List.take_append_drop pick.seen s.log] at logged
  rcases List.mem_append.mp logged with seen | missed
  · exact seen
  · exact absurd here (prompt play missed)

theorem playsOn_seen (prompt : ∀ play ∈ s.log.drop pick.seen, play.channelSlug ≠ slug)
    (uuid : String) (nowUs : ℤ) :
    DatabaseAssetLibrary.playsOn s.log slug uuid nowUs =
      DatabaseAssetLibrary.playsOn (s.log.take pick.seen) slug uuid nowUs := by
  have none : DatabaseAssetLibrary.playsOn (s.log.drop pick.seen) slug uuid nowUs = [] := by
    refine List.filter_eq_nil_iff.mpr fun play missed => ?_
    rw [decide_eq_true_eq]
    exact fun same => prompt play missed same.1
  calc DatabaseAssetLibrary.playsOn s.log slug uuid nowUs
      = DatabaseAssetLibrary.playsOn (s.log.take pick.seen ++ s.log.drop pick.seen) slug uuid
          nowUs := by rw [List.take_append_drop]
    _ = DatabaseAssetLibrary.playsOn (s.log.take pick.seen) slug uuid nowUs ++
          DatabaseAssetLibrary.playsOn (s.log.drop pick.seen) slug uuid nowUs := List.filter_append ..
    _ = DatabaseAssetLibrary.playsOn (s.log.take pick.seen) slug uuid nowUs := by
      rw [none, List.append_nil]

/-- **A prompt play is apart** from every play before it. -/
theorem Picked.apart (picked : s.Picked configs pick) (on : slug ∈ pick.library.channel)
    (prompt : ∀ play ∈ s.log.drop pick.seen, play.channelSlug ≠ slug) {play : TrafficPlay}
    (logged : play ∈ s.log) :
    Apart configs play
      ⟨slug, pick.asset.uuid, pick.asset.canonicalUri, pick.asset.assetType, s.now⟩ := by
  rintro rfl uri
  have rested := picked.rested _ on play (mem_seen prompt logged rfl) rfl uri
  rw [picked.policy _ on] at rested
  have passed := picked.cooldown_le
  exact rested.trans (sub_le_sub_right passed _)

/-- **A prompt play is below the cap** of its day: either the day is that of the call, or nothing was
played on it. -/
theorem Picked.below (picked : s.Picked configs pick) (on : slug ∈ pick.library.channel)
    (prompt : ∀ play ∈ s.log.drop pick.seen, play.channelSlug ≠ slug)
    (capped : 0 < (configs.policy slug).maxPlaysPerDay) :
    ((DatabaseAssetLibrary.playsOn s.log slug pick.asset.uuid s.now).length : ℤ) <
      (configs.policy slug).maxPlaysPerDay := by
  rw [playsOn_seen prompt]
  have uncapped := picked.uncapped slug on
  rw [picked.policy slug on] at uncapped
  by_cases sameDay : dayStart pick.todayNow = dayStart s.now
  · have below := uncapped capped
    unfold DatabaseAssetLibrary.playsOn at *
    rwa [sameDay] at below
  · have none : DatabaseAssetLibrary.playsOn (s.log.take pick.seen) slug pick.asset.uuid s.now = [] := by
      unfold DatabaseAssetLibrary.playsOn
      refine List.filter_eq_nil_iff.mpr fun play seen => ?_
      simp only [decide_eq_true_eq, not_and]
      intro _ _ today
      have before := picked.before play seen
      have passed := picked.today_le
      unfold dayStart at *
      omega
    rw [none]
    exact capped

/-- A play of a channel that has nothing to say changes nothing; else it is the next one. -/
theorem logPlay_cases (library : DatabaseAssetLibrary) (asset : AssetRow) (playedAt : ℤ)
    (log : List TrafficPlay) :
    logPlay library asset playedAt log = log ∨ ∃ slug ∈ library.channel,
      logPlay library asset playedAt log =
        log ++ [⟨slug, asset.uuid, asset.canonicalUri, asset.assetType, playedAt⟩] := by
  unfold logPlay
  split
  · exact .inl rfl
  · rename_i slug on
    exact .inr ⟨slug, on, rfl⟩

/-- **A prompt play** keeps the policy. -/
theorem Paced.play (paced : s.Paced configs) (member : pick ∈ s.picks)
    (prompt : ∀ slug ∈ pick.library.channel, ∀ play ∈ s.log.drop pick.seen, play.channelSlug ≠ slug) :
    ({ s with log := logPlay pick.library pick.asset s.now s.log } : Traffic).Paced configs := by
  have picked := paced.picked pick member
  rcases logPlay_cases pick.library pick.asset s.now s.log with same | ⟨slug, on, grown⟩
  · rw [same]
    exact paced
  · rw [grown]
    refine ⟨?_, ?_, ?_, fun other there => (paced.picked other there).later rfl le_rfl⟩
    · intro play logged
      rcases List.mem_append.mp logged with before | here
      · exact paced.past play before
      · rw [List.mem_singleton.mp here]
    · refine List.pairwise_append.mpr ⟨paced.apart, List.pairwise_singleton _ _, ?_⟩
      intro play logged later here
      rw [List.mem_singleton.mp here]
      exact picked.apart on (prompt slug on) logged
    · intro other uuid nowUs capped
      have before := paced.capped other uuid nowUs capped
      unfold DatabaseAssetLibrary.playsOn at *
      rw [List.filter_append, List.length_append, List.filter_cons, List.filter_nil]
      split_ifs with counted
      · obtain ⟨rfl, rfl, today⟩ := of_decide_eq_true counted
        have below := picked.below on (prompt slug on) capped
        unfold DatabaseAssetLibrary.playsOn at below
        simp only [← today, List.length_singleton, Nat.cast_add, Nat.cast_one]
        omega
      · simpa using before

/-- **One step** keeps the policy. -/
theorem paced_step {action : TrafficAction} (paced : s.Paced configs) (prompt : s.Prompt action)
    (taken : s.step configs action = some next) : next.Paced configs := by
  cases action with
  | wait us =>
    obtain rfl := Option.some.inj taken
    have later : s.now ≤ s.now + us := Int.le_add_of_nonneg_right (Int.natCast_nonneg us)
    exact ⟨fun play logged => (paced.past play logged).trans later, paced.apart, paced.capped,
      fun pick member => (paced.picked pick member).later (List.append_nil _).symm later⟩
  | pick channelSlug collections assets pause rest shuffle maxDurationMs count chosen =>
    obtain ⟨asset, offered, rfl⟩ := Option.map_eq_some_iff.mp taken
    have past : DatabaseAssetLibrary.Past (s.reading collections assets pause rest shuffle) :=
      paced.past
    have eligible := DatabaseAssetLibrary.eligible_of_offered past
      (List.mem_of_getElem? offered)
    have later : s.now ≤ (s.reading collections assets pause rest shuffle).todayNow :=
      (s.reading collections assets pause rest shuffle).cutoff_le.trans
        (s.reading collections assets pause rest shuffle).cooldown_le
    refine ⟨fun play logged => (paced.past play logged).trans later, paced.apart, paced.capped, ?_⟩
    intro pick member
    rcases List.mem_append.mp member with old | new
    · exact (paced.picked pick old).later (List.append_nil _).symm later
    · rw [List.mem_singleton.mp new]
      have seen : s.log.take s.log.length = s.log := List.take_length
      refine ⟨le_rfl, (s.reading collections assets pause rest shuffle).cooldown_le, le_rfl, ?_,
        fun slug on => library_policy on, ?_, ?_⟩
      · rw [seen]
        exact fun play logged => (paced.past play logged).trans later
      · rw [seen]
        exact eligible.rested
      · rw [seen]
        exact eligible.uncapped
  | play index =>
    obtain ⟨pick, found, rfl⟩ := Option.map_eq_some_iff.mp taken
    exact paced.play (List.mem_of_getElem? found) (prompt pick found)

/-- **Prompt plays keep their cooldowns and their caps**: in every run in which each play is logged before
its channel has played anything that the call had not seen, two plays of an asset on a channel are at least
the cooldown of the first one's type apart, and no asset is played more often on a day than the channel's
cap, if it has one. -/
theorem spaced_of_run {now : ℤ} {actions : List TrafficAction} {final : Traffic}
    (prompt : Along (step configs) Prompt { now := now } actions)
    (ran : runActions (step configs) { now := now } actions = some final) :
    final.log.Pairwise (Apart configs) ∧ Capped configs final.log := by
  have first : ({ now := now } : Traffic).Paced configs :=
    ⟨nofun, .nil, fun _ _ _ capped => capped.le, nofun⟩
  have paced := invariant_along (step configs) (Paced configs) Prompt
    (fun s action next paced prompt taken => paced_step paced prompt taken) actions first prompt ran
  exact ⟨paced.apart, paced.capped⟩

/-- A channel whose promos rest for ten minutes and air twice a day. -/
def promoConfigs : ChannelConfigs where
  channels _ := some { typeCooldowns := some [("promo", 600)], maxPlaysPerDay := some 2 }

/-- A pick from the same tables each time. -/
def promoPick : TrafficAction :=
  .pick (some "retro") [("Interstitials", "spots")]
    [⟨"a", "a.ts", "/spots/a.ts", some 30000, "spots", .ready, some "promo"⟩] 2 3
    ⟨List.reverse, List.reverse_perm⟩ 60000 5 0

/-- One promo, picked and played twice, ten minutes apart. -/
def promoRun : List TrafficAction :=
  [promoPick, .wait 5000000, .play 0, .wait 600000000, promoPick, .play 1]

theorem spaced_of_promoRun : ∃ final : Traffic,
    runActions (step promoConfigs) { now := 0 } promoRun = some final ∧ final.log.length = 2 ∧
      final.log.Pairwise (Apart promoConfigs) ∧ Capped promoConfigs final.log := by
  obtain ⟨final, ran, twice⟩ := exists_run (step promoConfigs) { now := 0 } promoRun
    (fun final => final.log.length = 2) (by decide)
  exact ⟨final, ran, twice, spaced_of_run (by decide) ran⟩

end Traffic

end Runs

/-! ### Filling from the library -/

section Filling

namespace DatabaseAssetLibrary

variable {library : DatabaseAssetLibrary} {reading : TrafficReading} {asset : AssetRow}
  {maxDurationMs : ℤ}

/-- What is offered fits. -/
theorem lasts_of_offered {count : ℕ} (offered : asset ∈ library.offers reading maxDurationMs count) :
    0 < asset.durationMs.getD 0 ∧ asset.durationMs.getD 0 ≤ maxDurationMs := by
  unfold offers at offered
  split at offered
  · cases offered
  · have member := (reading.shuffle_perm _).mem_iff.mp (List.mem_of_mem_take offered)
    obtain ⟨-, -, durationMs, lasts, positive, fits⟩ :=
      fits_iff.mp (List.mem_filter.mp (List.mem_filter.mp member).1).2
    rw [lasts]
    exact ⟨positive, fits⟩

/-- **The library as the filling sees it**: one reading for each call. -/
def assetLibrary (library : DatabaseAssetLibrary) (assets : List AssetRow) (markers : List MarkerRow) :
    AssetLibrary (Stream' TrafficReading) where
  getMarkers := Playlog.getMarkers assets markers
  getDurationMs := Playlog.getDurationMs assets
  getFillerAssets readings maxDurationMs count :=
    (library.getFillerAssets readings.head maxDurationMs count, readings.tail)
  filler_pos readings maxDurationMs count filler member := by
    obtain ⟨asset, offered, rfl⟩ := List.mem_map.mp member
    exact (lasts_of_offered offered).1
  filler_le readings maxDurationMs count filler member := by
    obtain ⟨asset, offered, rfl⟩ := List.mem_map.mp member
    exact (lasts_of_offered offered).2

end DatabaseAssetLibrary

variable {library : DatabaseAssetLibrary} {assets : List AssetRow} {markers : List MarkerRow}
  {readings : Stream' TrafficReading}

/-- The spot of an asset. -/
def spot (asset : AssetRow) : ScheduledSegment :=
  plainSegment (spotType asset.assetType) asset.canonicalUri (asset.durationMs.getD 0)

/-- **What is put into a break** of a duration: a spot that was eligible at one of the calls, a black pad,
or the filler file, where nothing was eligible. -/
inductive Placed (library : DatabaseAssetLibrary) (readings : Stream' TrafficReading)
    (fillerUri : String) (breakMs : ℤ) : ScheduledSegment → Prop
  | spot (call : ℕ) (maxDurationMs : ℤ) (asset : AssetRow)
      (eligible : library.Eligible (readings.get call) maxDurationMs asset) :
      Placed library readings fillerUri breakMs (spot asset)
  | pad (durationMs : ℤ) (positive : 0 < durationMs) :
      Placed library readings fillerUri breakMs (plainSegment "pad" "" durationMs)
  | filler (call : ℕ) (empty : 0 < breakMs → ∀ asset ∈ (readings.get call).assets,
        ¬ library.Eligible (readings.get call) breakMs asset) :
      Placed library readings fillerUri breakMs (plainSegment "filler" fillerUri breakMs)

open Classical in
/-- Where nothing is offered, nothing is eligible. -/
theorem not_eligible_of_offers {reading : TrafficReading} {maxDurationMs : ℤ} {count : ℕ}
    (past : DatabaseAssetLibrary.Past reading)
    (empty : library.getFillerAssets reading maxDurationMs (count + 1) = []) :
    ∀ asset ∈ reading.assets, ¬ library.Eligible reading maxDurationMs asset := by
  intro asset listed eligible
  obtain ⟨arranged, perm, offered⟩ :=
    DatabaseAssetLibrary.getFillerAssets_eligible past maxDurationMs (count + 1)
  rw [empty] at offered
  have taken := List.map_eq_nil_iff.mp offered.symm
  rcases List.take_eq_nil_iff.mp taken with none | none
  · cases none
  · rw [none] at perm
    have all := List.filter_eq_nil_iff.mp perm.symm.eq_nil asset listed
    exact all (decide_eq_true eligible)

/-- A filler that was eligible at one of the calls. -/
def Drawn (library : DatabaseAssetLibrary) (readings : Stream' TrafficReading) (pick : FillerAsset) :
    Prop :=
  ∃ call maxDurationMs asset, library.Eligible (readings.get call) maxDurationMs asset ∧
    pick = asset.filler (asset.durationMs.getD 0)

variable (library assets markers)

/-- **The picks of a break** were eligible, and the next break goes on with the readings. -/
theorem pickLoop_drawn (past : ∀ call, DatabaseAssetLibrary.Past (readings.get call)) :
    ∀ (fuel first : ℕ) (remainingMs : ℤ),
      (∀ pick ∈ (pickLoop (library.assetLibrary assets markers) fuel (readings.drop first)
        remainingMs).1, Drawn library readings pick) ∧
      ∃ later, (pickLoop (library.assetLibrary assets markers) fuel (readings.drop first)
        remainingMs).2 = readings.drop later
  | 0, first, remainingMs => ⟨nofun, first, rfl⟩
  | fuel + 1, first, remainingMs => by
    rw [pickLoop]
    split_ifs with left
    · simp only [DatabaseAssetLibrary.assetLibrary, Stream'.head_drop, Stream'.tail_drop']
      split
      · exact ⟨nofun, first + 1, rfl⟩
      · rename_i pick others offered
        obtain ⟨drawn, later, ends⟩ := pickLoop_drawn past fuel (first + 1)
          (remainingMs - pick.durationMs)
        refine ⟨List.forall_mem_cons.mpr ⟨?_, drawn⟩, later, ends⟩
        have member : pick ∈ library.getFillerAssets (readings.get first) remainingMs 5 := by
          rw [offered]
          exact List.mem_cons_self
        obtain ⟨asset, from', rfl⟩ := List.mem_map.mp member
        exact ⟨first, remainingMs, asset,
          DatabaseAssetLibrary.eligible_of_offered (past first) from', rfl⟩
    · exact ⟨nofun, first, rfl⟩

/-- A break without picks had nothing eligible. -/
theorem pickLoop_nil (past : ∀ call, DatabaseAssetLibrary.Past (readings.get call)) {first : ℕ}
    {breakMs : ℤ} (lasts : 0 < breakMs)
    (none : (pickLoop (library.assetLibrary assets markers) breakMs.toNat (readings.drop first)
      breakMs).1 = []) :
    ∀ asset ∈ (readings.get first).assets,
      ¬ library.Eligible (readings.get first) breakMs asset := by
  obtain ⟨fuel, enough⟩ : ∃ fuel, breakMs.toNat = fuel + 1 := ⟨breakMs.toNat - 1, by omega⟩
  rw [enough, pickLoop, if_pos lasts] at none
  simp only [DatabaseAssetLibrary.assetLibrary, Stream'.head_drop] at none
  split at none
  · rename_i empty
    exact not_eligible_of_offers (past first) empty
  · cases none

/-- The spots and pads of picks. -/
theorem spotSegments_of_picks {holds : ScheduledSegment → Prop}
    (padded : ∀ durationMs, 0 < durationMs → holds (plainSegment "pad" "" durationMs)) :
    ∀ (picks : List FillerAsset) (pads : List ℤ),
      (∀ pick ∈ picks, holds (plainSegment (spotType pick.assetType) pick.assetUri pick.durationMs)) →
      ∀ segment ∈ spotSegments picks pads, holds segment
  | [], _, _ => nofun
  | _ :: _, [], _ => nofun
  | pick :: picks, padMs :: pads, picked => by
    have ⟨here, later⟩ := List.forall_mem_cons.mp picked
    intro segment member
    rw [spotSegments, List.mem_cons, List.mem_append] at member
    rcases member with rfl | pad | rest
    · exact here
    · split at pad
      · rename_i positive
        rw [List.mem_singleton.mp pad]
        exact padded padMs positive
      · cases pad
    · exact spotSegments_of_picks padded picks pads later segment rest

/-- A break leaves the next readings. -/
theorem fillBreak_readings (past : ∀ call, DatabaseAssetLibrary.Past (readings.get call))
    (fillerUri : String) (fillerDurationMs breakMs : ℤ) (first : ℕ) :
    ∃ later, (fillBreak (some (library.assetLibrary assets markers)) fillerUri fillerDurationMs
      (readings.drop first) breakMs).2 = readings.drop later := by
  obtain ⟨-, later, ends⟩ := pickLoop_drawn library assets markers past breakMs.toNat first breakMs
  refine ⟨later, ?_⟩
  rw [← ends]
  unfold fillBreak fillBreakWithInterstitials
  dsimp only
  by_cases empty : (pickLoop (library.assetLibrary assets markers) breakMs.toNat
    (readings.drop first) breakMs).1.isEmpty = true
  · rw [if_pos empty]
  · rw [if_neg empty]
    split_ifs <;> rfl

/-- **What a break is filled with.** -/
theorem fillBreak_placed (past : ∀ call, DatabaseAssetLibrary.Past (readings.get call))
    {fillerUri : String} {fillerDurationMs breakMs : ℤ} {first : ℕ} {filled : List ScheduledSegment}
    (done : (fillBreak (some (library.assetLibrary assets markers)) fillerUri fillerDurationMs
      (readings.drop first) breakMs).1 = .ok filled) :
    ∀ segment ∈ filled, Placed library readings fillerUri breakMs segment := by
  have ⟨drawn, _⟩ := pickLoop_drawn library assets markers past breakMs.toNat first breakMs
  unfold fillBreak fillBreakWithInterstitials at done
  dsimp only at done
  by_cases empty : (pickLoop (library.assetLibrary assets markers) breakMs.toNat
    (readings.drop first) breakMs).1.isEmpty = true
  · rw [if_pos empty] at done
    simp only [staticFiller] at done
    split_ifs at done
    cases done
    intro segment member
    rw [List.mem_singleton.mp member]
    exact .filler first fun lasts =>
      pickLoop_nil library assets markers past lasts (List.isEmpty_iff.mp empty)
  · rw [if_neg empty] at done
    split_ifs at done
    cases done
    refine spotSegments_of_picks .pad _ _ fun pick picked => ?_
    obtain ⟨call, maxDurationMs, asset, eligible, rfl⟩ := drawn pick picked
    exact .spot call maxDurationMs asset eligible

/-- **A filled block**: its own segments, and for each placeholder what was put there. -/
theorem fillSegments_placed (past : ∀ call, DatabaseAssetLibrary.Past (readings.get call))
    {fillerUri : String} {fillerDurationMs : ℤ} :
    ∀ (segments : List ScheduledSegment) (first : ℕ) (filled : List ScheduledSegment),
      fillSegments (some (library.assetLibrary assets markers)) fillerUri fillerDurationMs
        (readings.drop first) segments = .ok filled →
      ∀ segment ∈ filled, (segment ∈ segments ∧ segment.isPlaceholder = false) ∨
        ∃ hole ∈ segments, hole.isPlaceholder = true ∧
          Placed library readings fillerUri hole.segmentDurationMs segment
  | [], _, filled, done => by
    cases done
    exact nofun
  | head :: rest, first, filled, done => by
    have wider : ∀ {segment : ScheduledSegment},
        ((segment ∈ rest ∧ segment.isPlaceholder = false) ∨
          ∃ hole ∈ rest, hole.isPlaceholder = true ∧
            Placed library readings fillerUri hole.segmentDurationMs segment) →
        (segment ∈ head :: rest ∧ segment.isPlaceholder = false) ∨
          ∃ hole ∈ head :: rest, hole.isPlaceholder = true ∧
            Placed library readings fillerUri hole.segmentDurationMs segment := by
      rintro segment (⟨member, own⟩ | ⟨hole, member, empty, placed⟩)
      · exact .inl ⟨List.mem_cons_of_mem _ member, own⟩
      · exact .inr ⟨hole, List.mem_cons_of_mem _ member, empty, placed⟩
    rw [fillSegments] at done
    split at done
    · rename_i hole
      obtain ⟨later, ends⟩ := fillBreak_readings library assets markers past fillerUri
        fillerDurationMs head.segmentDurationMs first
      obtain ⟨broken, broke, done⟩ := bind_eq_ok.mp done
      obtain ⟨others, filledRest, done⟩ := bind_eq_ok.mp done
      cases done
      have filledRest : fillSegments (some (library.assetLibrary assets markers)) fillerUri
          fillerDurationMs (fillBreak (some (library.assetLibrary assets markers)) fillerUri
            fillerDurationMs (readings.drop first) head.segmentDurationMs).2 rest = .ok others :=
        filledRest
      rw [ends] at filledRest
      intro segment member
      rcases List.mem_append.mp member with here | there
      · exact .inr ⟨head, List.mem_cons_self, hole,
          fillBreak_placed library assets markers past broke segment here⟩
      · exact wider (fillSegments_placed past rest later others filledRest segment there)
    · rename_i own
      obtain ⟨others, filledRest, done⟩ := bind_eq_ok.mp done
      cases done
      intro segment member
      rcases List.mem_cons.mp member with rfl | there
      · exact .inl ⟨List.mem_cons_self, Bool.eq_false_iff.mpr own⟩
      · exact wider (fillSegments_placed past rest first others filledRest segment there)

/-- **A block that is filled from the library** holds its own segments and, for each placeholder, spots
that were eligible when they were picked, black pads, or the filler file where nothing was eligible. -/
theorem placed_of_library (past : ∀ call, DatabaseAssetLibrary.Past (readings.get call))
    {fillerUri : String} {fillerDurationMs : ℤ} {block filled : ScheduledBlock}
    (done : fillAdBlocks (some (library.assetLibrary assets markers)) fillerUri fillerDurationMs
      readings block = .ok filled) :
    ∀ segment ∈ filled.segments, (segment ∈ block.segments ∧ segment.isPlaceholder = false) ∨
      ∃ hole ∈ block.segments, hole.isPlaceholder = true ∧
        Placed library readings fillerUri hole.segmentDurationMs segment := by
  unfold fillAdBlocks at done
  split at done
  · cases done
  · obtain ⟨segments, placed, done⟩ := bind_eq_ok.mp done
    cases done
    exact fillSegments_placed library assets markers past block.segments 0 segments placed

/-- A block with a break of forty seconds. -/
def breakBlock : ScheduledBlock where
  blockId := "block"
  startUtcMs := 0
  endUtcMs := 60000
  segments := [plainSegment "episode" "/shows/e.ts" 20000, placeholder 40000]

theorem placed_of_breakLibrary : ∃ filled,
    fillAdBlocks (some (DatabaseAssetLibrary.breakLibrary.assetLibrary [] [])) "/filler.ts" 3600000
      (fun _ => DatabaseAssetLibrary.breakReading) breakBlock = .ok filled ∧
    ∀ segment ∈ filled.segments,
      (segment ∈ breakBlock.segments ∧ segment.isPlaceholder = false) ∨
      ∃ hole ∈ breakBlock.segments, hole.isPlaceholder = true ∧
        Placed DatabaseAssetLibrary.breakLibrary (fun _ => DatabaseAssetLibrary.breakReading)
          "/filler.ts" hole.segmentDurationMs segment := by
  obtain ⟨filled, done⟩ : ∃ filled, fillAdBlocks
      (some (DatabaseAssetLibrary.breakLibrary.assetLibrary [] [])) "/filler.ts" 3600000
      (fun _ => DatabaseAssetLibrary.breakReading) breakBlock = .ok filled := ⟨_, rfl⟩
  exact ⟨filled, done, placed_of_library _ _ _ (fun _ => DatabaseAssetLibrary.breakReading_past) done⟩

end Filling

end Retrovue.Core.Playlog
