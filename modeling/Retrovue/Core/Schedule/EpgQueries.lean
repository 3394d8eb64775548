/-
**The two EPG queries** (`runtime/schedule_manager.py`, `runtime/horizon_backed_schedule_service.py`).

Both services read the same store of resolved days, and step from the start of the window by 24 hours
at a time, asking at each step for the programming day that holds it.

* `HorizonBackedScheduleService.getEpgEvents`: the read-only service's copy of `get_epg_events`;
* `storedEvents`: the program events of a day, each from its first slot;
* `Answers`: a guide has exactly the stored events that overlap the window, in start order;
* `Stepped`: the programming days that the steps meet;
* `guides_complete_iff`: both services answer every query completely and agree exactly when the
  overlapping events are on those days, which are laid out in order.

The day that holds the window's end is met only when the window's start is as late in its own day, and
the day before the first one never is.
-/

import Retrovue.Core.Schedule.Manager

namespace Retrovue.Core.Schedule

/-! ### The stored events -/

section Stored

variable (config : Config)

/-- The program events of a day, from the slot they start at; an event without one has no time. -/
def laidEvents (channelId : String) (date : Date) (slots : List ResolvedSlot) :
    Nat → List ProgramEvent → List EPGEvent
  | _, [] => []
  | slotIdx, event :: rest =>
    (slots[slotIdx]?.map fun slot =>
        epgEvent channelId date (slotStart config date slot)
          (slotStart config date slot + event.blockSpanCount * config.gridMicros)
          (event.resolvedAsset.getD slot.resolvedAsset)).toList ++
      laidEvents channelId date slots (slotIdx + event.blockSpanCount.toNat) rest

/-- **The stored program events of a programming day.** -/
def storedEvents (stores : Stores) (channelId : String) (date : Date) : List EPGEvent :=
  match stores.resolved channelId date with
  | none => []
  | some day => laidEvents config channelId date day.resolvedSlots 0 day.programEvents

/-- The overlap of an event with a half-open window. -/
def EPGEvent.InWindow (startTime endTime : Int) (event : EPGEvent) : Prop :=
  event.startTime < endTime ∧ event.endTime > startTime

instance (startTime endTime : Int) (event : EPGEvent) :
    Decidable (event.InWindow startTime endTime) :=
  inferInstanceAs (Decidable (_ ∧ _))

/-- **A complete guide**: of every programming day exactly the stored events that overlap the window,
each once, and all of them in start order. -/
structure Answers (stores : Stores) (channelId : String) (startTime endTime : Int)
    (guide : List EPGEvent) : Prop where
  complete : ∀ date, (guide.filter fun event => event.programmingDayDate = date).Perm
    ((storedEvents config stores channelId date).filter fun event =>
      event.InWindow startTime endTime)
  ordered : guide.Pairwise fun earlier later => earlier.startTime ≤ later.startTime

/-- The stores of days that were resolved one after another. -/
def Stores.ofDays (days : List (String × ResolvedScheduleDay)) : Stores :=
  days.foldl (fun stores entry => stores.store entry.1 entry.2)
    ⟨fun _ _ => 0, fun _ _ => none⟩

/-- Every day is stored under its own date. -/
def Stores.Dated (stores : Stores) : Prop :=
  ∀ channelId date day, stores.resolved channelId date = some day → day.programmingDayDate = date

/-- Storing a day keeps the dates. -/
theorem Stores.Dated.store {stores : Stores} (dated : stores.Dated) (channelId : String)
    (day : ResolvedScheduleDay) : (stores.store channelId day).Dated := by
  intro channel date found stored
  simp only [Stores.store] at stored
  split at stored
  · next same =>
    cases stored
    exact same.2.symm
  · exact dated channel date found stored

theorem Stores.dated_ofDays (days : List (String × ResolvedScheduleDay)) :
    (Stores.ofDays days).Dated :=
  days.foldlRecOn _ (fun _ _ _ stored => by cases stored) fun _ dated entry _ =>
    dated.store entry.1 entry.2

end Stored

/-! ### The read-only service -/

section Service

/-- The asset of a guide record. -/
structure EpgAsset where
  filePath : String
  assetId : Option String
  durationSeconds : ℚ
  deriving DecidableEq

/-- A record of the read-only guide; its times stand for their ISO texts. -/
structure EpgRecord where
  channelId : String
  startTime : Int
  endTime : Int
  title : String
  episodeTitle : Option String
  episodeId : Option String
  programmingDayDate : Date
  asset : EpgAsset
  deriving DecidableEq

/-- `HorizonBackedScheduleService`: the store, if there is one, and the day's layout. -/
structure HorizonBackedScheduleService where
  resolvedStore : Option (String → Date → Option ResolvedScheduleDay)
  dayStartHour : Int
  gridMinutes : Nat

namespace HorizonBackedScheduleService

variable (service : HorizonBackedScheduleService)

/-- `_broadcast_date_for`. -/
def broadcastDateFor (t : Int) : Date :=
  if t % dayMicros / hourMicros < service.dayStartHour then dateOf (t - dayMicros) else dateOf t

/-- The record of an event. -/
def record (channelId : String) (date : Date) (eventStart eventEnd : Int) (asset : ResolvedAsset) :
    EpgRecord where
  channelId := channelId
  startTime := eventStart
  endTime := eventEnd
  title := asset.title
  episodeTitle := asset.episodeTitle
  episodeId := asset.episodeId
  programmingDayDate := date
  asset := ⟨asset.filePath, asset.assetId, asset.contentDurationSeconds⟩

/-- The loop over the events of a day, which ends where the slots do. -/
def epgLoop (channelId : String) (date : Date) (startTime endTime : Int)
    (slots : List ResolvedSlot) : Nat → List ProgramEvent → List EpgRecord
  | _, [] => []
  | slotIdx, event :: rest =>
    match slots[slotIdx]? with
    | none => []
    | some firstSlot =>
      let gridSeconds : Int := service.gridMinutes * 60
      let eventStart := slotToDatetime service.dayStartHour date firstSlot.slotTime
      let eventEnd := eventStart + event.blockSpanCount * (gridSeconds * 1000000)
      let others :=
        epgLoop channelId date startTime endTime slots (slotIdx + event.blockSpanCount.toNat) rest
      if eventStart < endTime ∧ eventEnd > startTime then
        record channelId date eventStart eventEnd
          (event.resolvedAsset.getD firstSlot.resolvedAsset) :: others
      else others

/-- The loop over the days. -/
def epgDays (get : String → Date → Option ResolvedScheduleDay) (channelId : String)
    (startTime endTime : Int) : Nat → Int → List EpgRecord
  | 0, _ => []
  | fuel + 1, current =>
    if current < endTime then
      let date := service.broadcastDateFor current
      (match get channelId date with
        | none => []
        | some day =>
          service.epgLoop channelId date startTime endTime day.resolvedSlots 0 day.programEvents) ++
        epgDays get channelId startTime endTime fuel (current + dayMicros)
    else []

/-- **`get_epg_events`.** -/
def getEpgEvents (channelId : String) (startTime endTime : Int) : List EpgRecord :=
  match service.resolvedStore with
  | none => []
  | some get =>
    service.epgDays get channelId startTime endTime
      ((endTime - startTime) / dayMicros + 1).toNat startTime

end HorizonBackedScheduleService

/-- The read-only service over a manager's store, with the same layout of the day. -/
def Config.horizonService (config : Config) (stores : Stores) : HorizonBackedScheduleService where
  resolvedStore := some stores.resolved
  dayStartHour := config.programmingDayStartHour
  gridMinutes := config.gridMinutes

/-- What the read-only service says of an event. -/
def EPGEvent.record (event : EPGEvent) : EpgRecord where
  channelId := event.channelId
  startTime := event.startTime
  endTime := event.endTime
  title := event.title
  episodeTitle := event.episodeTitle
  episodeId := event.episodeId
  programmingDayDate := event.programmingDayDate
  asset := ⟨event.resolvedAsset.filePath, event.resolvedAsset.assetId,
    event.resolvedAsset.contentDurationSeconds⟩

/-- **Both services answer a query completely, and agree.** -/
def GuidesComplete (config : Config) (stores : Stores) (channelId : String)
    (startTime endTime : Int) : Prop :=
  ∃ guide, getEpgEvents config stores channelId startTime endTime = some guide ∧
    (config.horizonService stores).getEpgEvents channelId startTime endTime =
      guide.map EPGEvent.record ∧
    Answers config stores channelId startTime endTime guide

end Service

/-! ### The days that are met -/

section Steps

variable (config : Config)

/-- A programming day that holds a step of 24 hours from the start of the window, before its end. -/
def Stepped (startTime endTime : Int) (date : Date) : Prop :=
  programmingDayDate config startTime ≤ date ∧
    startTime + (date - programmingDayDate config startTime) * dayMicros < endTime

instance (startTime endTime : Int) (date : Date) : Decidable (Stepped config startTime endTime date) :=
  inferInstanceAs (Decidable (_ ∧ _))

/-- The days of the loop, in the order it meets them. -/
def steppedDays (endTime : Int) : Nat → Int → List Date
  | 0, _ => []
  | fuel + 1, current =>
    if current < endTime then
      programmingDayDate config current :: steppedDays endTime fuel (current + dayMicros)
    else []

/-- A day later is the next programming day. -/
theorem programmingDayDate_add_day (t : Int) :
    programmingDayDate config (t + dayMicros) = programmingDayDate config t + 1 := by
  have hour : (t + dayMicros) % dayMicros = t % dayMicros := Int.add_emod_right t dayMicros
  have next (u : Int) : (u + dayMicros) / dayMicros = u / dayMicros + 1 := by
    unfold dayMicros
    omega
  unfold programmingDayDate dateOf
  rw [hour]
  split_ifs
  · rw [← next, sub_add_cancel, add_sub_cancel_right]
  · exact next t

/-- **The days that are met**, with steps enough to reach the end. -/
theorem mem_steppedDays (endTime date : Int) (fuel : Nat) (current : Int)
    (enough : endTime - current ≤ fuel * dayMicros) :
    date ∈ steppedDays config endTime fuel current ↔ Stepped config current endTime date := by
  have day_pos : (0 : Int) < dayMicros := by decide
  induction fuel generalizing current with
  | zero =>
    simp only [steppedDays, List.not_mem_nil, Stepped, false_iff, not_and, not_lt]
    intro later
    have ahead := mul_nonneg (sub_nonneg.mpr later) day_pos.le
    push_cast at enough
    linarith
  | succ fuel ih =>
    unfold steppedDays
    split_ifs with within
    · have rest := ih (current + dayMicros) (by push_cast at enough; linarith)
      unfold Stepped at rest ⊢
      rw [programmingDayDate_add_day] at rest
      rw [List.mem_cons]
      refine Iff.trans (or_congr Iff.rfl rest) ?_
      constructor
      · rintro (rfl | ⟨later, before⟩)
        · exact ⟨le_rfl, by rw [sub_self, zero_mul, add_zero]; exact within⟩
        · exact ⟨(Int.le_add_one le_rfl).trans later, by linarith⟩
      · rintro ⟨later, before⟩
        rcases later.eq_or_lt with same | after
        · exact .inl same.symm
        · exact .inr ⟨after, by linarith⟩
    · simp only [List.not_mem_nil, Stepped, false_iff, not_and, not_lt]
      intro later
      have ahead := mul_nonneg (sub_nonneg.mpr later) day_pos.le
      linarith

/-- The steps of `get_epg_events` reach the end. -/
theorem enough_steps (startTime endTime : Int) :
    endTime - startTime ≤ (((endTime - startTime) / dayMicros + 1).toNat : Int) * dayMicros := by
  unfold dayMicros
  omega

/-- The days come in order. -/
theorem steppedDays_increasing (endTime : Int) (fuel : Nat) (current : Int) :
    (steppedDays config endTime fuel current).Pairwise (· < ·) ∧
      ∀ date ∈ steppedDays config endTime fuel current,
        programmingDayDate config current ≤ date := by
  induction fuel generalizing current with
  | zero => exact ⟨.nil, fun date among => absurd among List.not_mem_nil⟩
  | succ fuel ih =>
    unfold steppedDays
    split_ifs with within
    · obtain ⟨increasing, later⟩ := ih (current + dayMicros)
      simp only [programmingDayDate_add_day] at later
      refine ⟨List.pairwise_cons.mpr ⟨fun date among => later date among, increasing⟩, ?_⟩
      intro date among
      rcases List.mem_cons.mp among with rfl | after
      · exact le_rfl
      · exact (later date after).trans' (Int.le_add_one le_rfl)
    · exact ⟨.nil, fun date among => absurd among List.not_mem_nil⟩

end Steps

/-! ### One day -/

section OneDay

variable (config : Config) {stores : Stores} {channelId : String} {startTime endTime : Int}

/-- Where the slots have ended no event has a time. -/
theorem laidEvents_beyond (date : Date) {slots : List ResolvedSlot} {slotIdx : Nat}
    (events : List ProgramEvent) (beyond : slots.length ≤ slotIdx) :
    laidEvents config channelId date slots slotIdx events = [] := by
  induction events generalizing slotIdx with
  | nil => rfl
  | cons event rest ih =>
    rw [laidEvents, List.getElem?_eq_none beyond, ih (beyond.trans (Nat.le_add_right _ _))]
    rfl

/-- An event has one time at most. -/
theorem laidEvents_length_le (date : Date) (slots : List ResolvedSlot) (slotIdx : Nat)
    (events : List ProgramEvent) :
    (laidEvents config channelId date slots slotIdx events).length ≤ events.length := by
  induction events generalizing slotIdx with
  | nil => exact le_rfl
  | cons event rest ih =>
    rw [laidEvents, List.length_append, List.length_cons]
    have others := ih (slotIdx + event.blockSpanCount.toNat)
    have here : ∀ time : Option EPGEvent, time.toList.length ≤ 1 := by
      rintro (_ | _) <;> simp
    have first := here (slots[slotIdx]?.map fun slot =>
      epgEvent channelId date (slotStart config date slot)
        (slotStart config date slot + event.blockSpanCount * config.gridMicros)
        (event.resolvedAsset.getD slot.resolvedAsset))
    omega

/-- **The manager's loop** has every event of the day, and fails when one has no slot. -/
theorem epgLoop_eq (date : Date) (slots : List ResolvedSlot) (slotIdx : Nat)
    (events : List ProgramEvent) :
    epgLoop config channelId date slots slotIdx events =
      if (laidEvents config channelId date slots slotIdx events).length = events.length then
        some (laidEvents config channelId date slots slotIdx events)
      else none := by
  induction events generalizing slotIdx with
  | nil => rfl
  | cons event rest ih =>
    have shorter : (laidEvents config channelId date slots (slotIdx + event.blockSpanCount.toNat)
        rest).length ≤ rest.length :=
      laidEvents_length_le config date slots _ rest
    rw [epgLoop, ih, laidEvents]
    cases slots[slotIdx]? with
    | none =>
      simp only [Option.map_none, Option.toList_none, List.nil_append, List.length_cons]
      exact (if_neg (by omega)).symm
    | some slot =>
      simp only [Option.map_some, Option.toList_some, List.cons_append, List.nil_append,
        List.length_cons, Nat.add_right_cancel_iff]
      split_ifs <;> rfl

/-- **The read-only loop** has the events of the day that overlap the window. -/
theorem horizonLoop_eq (date : Date) (slots : List ResolvedSlot) (slotIdx : Nat)
    (events : List ProgramEvent) :
    (config.horizonService stores).epgLoop channelId date startTime endTime slots slotIdx events =
      ((laidEvents config channelId date slots slotIdx events).filter fun event =>
        event.InWindow startTime endTime).map EPGEvent.record := by
  induction events generalizing slotIdx with
  | nil => rfl
  | cons event rest ih =>
    rw [HorizonBackedScheduleService.epgLoop, laidEvents, ih]
    cases found : slots[slotIdx]? with
    | none =>
      have beyond := List.getElem?_eq_none_iff.mp found
      rw [laidEvents_beyond config date rest (beyond.trans (Nat.le_add_right _ _))]
      rfl
    | some slot =>
      simp only [Option.map_some, Option.toList_some, List.cons_append, List.nil_append,
        List.filter_cons, decide_eq_true_eq]
      by_cases inside : EPGEvent.InWindow startTime endTime
          (epgEvent channelId date (slotStart config date slot)
            (slotStart config date slot + event.blockSpanCount * config.gridMicros)
            (event.resolvedAsset.getD slot.resolvedAsset))
      · rw [if_pos inside, List.map_cons]
        exact if_pos inside
      · rw [if_neg inside]
        exact if_neg inside

/-- The stored events of a day bear its date, and start within it. -/
theorem mem_laidEvents {date : Date} {slots : List ResolvedSlot} {slotIdx : Nat}
    {events : List ProgramEvent} {event : EPGEvent}
    (among : event ∈ laidEvents config channelId date slots slotIdx events) :
    event.programmingDayDate = date ∧ ∃ slot ∈ slots, event.startTime = slotStart config date slot := by
  induction events generalizing slotIdx with
  | nil => exact absurd among List.not_mem_nil
  | cons first rest ih =>
    rw [laidEvents, List.mem_append] at among
    rcases among with here | later
    · obtain ⟨slot, found, rfl⟩ := Option.map_eq_some_iff.mp (Option.mem_toList.mp here)
      exact ⟨rfl, slot, List.mem_of_getElem? found, rfl⟩
    · exact ih later

theorem mem_storedEvents {date : Date} {event : EPGEvent}
    (among : event ∈ storedEvents config stores channelId date) :
    event.programmingDayDate = date ∧ ∃ slot : ResolvedSlot,
      event.startTime = slotStart config date slot := by
  unfold storedEvents at among
  split at among
  · exact absurd among List.not_mem_nil
  · obtain ⟨dated, slot, -, starts⟩ := mem_laidEvents config among
    exact ⟨dated, slot, starts⟩

/-- A slot starts within its programming day. -/
theorem slotStart_bounds (date : Int) (slot : ResolvedSlot) :
    date * dayMicros + config.programmingDayStartHour * hourMicros ≤ slotStart config date slot ∧
      slotStart config date slot <
        (date + 1) * dayMicros + config.programmingDayStartHour * hourMicros := by
  have nonneg := slot.slotTime.nonneg
  have below := slot.slotTime.lt_day
  have early := config.hour_nonneg
  have late := config.hour_lt
  unfold slotStart slotToDatetime combine TimeOfDay.hour hourMicros
  rw [add_mul, one_mul]
  unfold dayMicros at below ⊢
  split_ifs with carried <;> omega

/-- The events of an earlier day start earlier. -/
theorem start_lt_of_date_lt {first second : Date} (earlier : first < second) {a b : EPGEvent}
    (among : a ∈ storedEvents config stores channelId first)
    (later : b ∈ storedEvents config stores channelId second) : a.startTime < b.startTime := by
  obtain ⟨-, slot, starts⟩ := mem_storedEvents config among
  obtain ⟨-, other, follows⟩ := mem_storedEvents config later
  have ends := (slotStart_bounds config first slot).2
  have begins := (slotStart_bounds config second other).1
  have next : (first + 1) * dayMicros ≤ second * dayMicros :=
    mul_le_mul_of_nonneg_right (Int.add_one_le_iff.mpr earlier) (by decide)
  rw [starts, follows]
  linarith

/-- What the manager reads of a day. -/
def dayGuide (stores : Stores) (channelId : String) (date : Date) : Option (List EPGEvent) :=
  match stores.resolved channelId date with
  | none => some []
  | some day => dayEpgEvents config channelId day

/-- **What the manager reads of a day** are its stored events, where each of them has a slot; a day
without program events is read from its slots. -/
theorem dayGuide_of_events (dated : stores.Dated) {date : Date} {day : ResolvedScheduleDay}
    (stored : stores.resolved channelId date = some day) (some_ : day.programEvents ≠ []) :
    dayGuide config stores channelId date =
      if (storedEvents config stores channelId date).length = day.programEvents.length then
        some (storedEvents config stores channelId date)
      else none := by
  have present : day.programEvents.isEmpty = false := by simpa using some_
  rw [dayGuide, storedEvents, stored]
  dsimp only
  rw [dayEpgEvents, present, dated channelId date day stored]
  exact epgLoop_eq config date day.resolvedSlots 0 day.programEvents

/-- The guide of a slot, on a day without program events. -/
def slotEvent (channelId : String) (date : Date) (slot : ResolvedSlot) : EPGEvent :=
  epgEvent channelId date (slotStart config date slot)
    (slotStart config date slot + timedeltaSeconds slot.durationSeconds) slot.resolvedAsset

theorem dayGuide_of_slots (dated : stores.Dated) {date : Date} {day : ResolvedScheduleDay}
    (stored : stores.resolved channelId date = some day) (none_ : day.programEvents = []) :
    storedEvents config stores channelId date = [] ∧
      dayGuide config stores channelId date =
        some (day.resolvedSlots.map (slotEvent config channelId date)) := by
  rw [dayGuide, storedEvents, stored]
  dsimp only
  rw [dayEpgEvents, none_, dated channelId date day stored]
  exact ⟨rfl, rfl⟩

/-- What is read of a day bears its date. -/
theorem date_of_mem_dayGuide (dated : stores.Dated) {date : Date} {guide : List EPGEvent}
    (read : dayGuide config stores channelId date = some guide) {event : EPGEvent}
    (among : event ∈ guide) : event.programmingDayDate = date := by
  cases stored : stores.resolved channelId date with
  | none =>
    rw [dayGuide, stored] at read
    cases read
    exact absurd among List.not_mem_nil
  | some day =>
    by_cases none_ : day.programEvents = []
    · rw [(dayGuide_of_slots config dated stored none_).2] at read
      cases read
      obtain ⟨slot, -, rfl⟩ := List.mem_map.mp among
      rfl
    · rw [dayGuide_of_events config dated stored none_] at read
      split_ifs at read
      cases read
      exact (mem_storedEvents config among).1

end OneDay

/-! ### All the days -/

section AllDays

variable (config : Config) (stores : Stores) (channelId : String) (startTime endTime : Int)

/-- What is read of a day and overlaps the window; nothing where the reading fails. -/
def dayAnswer (date : Date) : List EPGEvent :=
  ((dayGuide config stores channelId date).getD []).filter fun event =>
    event.InWindow startTime endTime

/-- A step of the manager's query. -/
theorem epgDays_succ (fuel : Nat) (current : Int) :
    epgDays config stores channelId startTime endTime (fuel + 1) current =
      if current < endTime then
        (dayGuide config stores channelId (programmingDayDate config current)).bind fun here =>
          (epgDays config stores channelId startTime endTime fuel (current + dayMicros)).bind
            fun later => some ((here.filter fun event => event.InWindow startTime endTime) ++ later)
      else some [] := by
  rw [epgDays, dayGuide]
  split_ifs with within
  · cases stores.resolved channelId (programmingDayDate config current) <;> rfl
  · rfl

/-- **The manager's query** reads the days it steps on, and fails when one of them does. -/
theorem epgDays_eq_some_iff (fuel : Nat) (current : Int) (guide : List EPGEvent) :
    epgDays config stores channelId startTime endTime fuel current = some guide ↔
      (∀ date ∈ steppedDays config endTime fuel current,
        (dayGuide config stores channelId date).isSome = true) ∧
      guide = (steppedDays config endTime fuel current).flatMap
        (dayAnswer config stores channelId startTime endTime) := by
  have nothing (guide : List EPGEvent) : some [] = some guide ↔
      (∀ date ∈ ([] : List Date), (dayGuide config stores channelId date).isSome = true) ∧
        guide = ([] : List Date).flatMap (dayAnswer config stores channelId startTime endTime) := by
    rw [Option.some.injEq, List.flatMap_nil]
    exact ⟨fun empty => ⟨fun date among => absurd among List.not_mem_nil, empty.symm⟩,
      fun both => both.2.symm⟩
  induction fuel generalizing current guide with
  | zero => exact nothing guide
  | succ fuel ih =>
    rw [epgDays_succ, steppedDays]
    by_cases within : current < endTime
    · rw [if_pos within, if_pos within, List.forall_mem_cons, List.flatMap_cons, dayAnswer]
      cases dayGuide config stores channelId (programmingDayDate config current) with
      | none => simp
      | some here =>
        rw [Option.bind_some, Option.bind_eq_some_iff, Option.isSome_some, Option.getD_some]
        constructor
        · rintro ⟨later, read, together⟩
          obtain ⟨all, rfl⟩ := (ih _ later).mp read
          exact ⟨⟨rfl, all⟩, (Option.some.inj together).symm⟩
        · rintro ⟨⟨-, all⟩, rfl⟩
          exact ⟨_, (ih _ _).mpr ⟨all, rfl⟩, rfl⟩
    · rw [if_neg within, if_neg within]
      exact nothing guide

/-- **The read-only query** has the stored events of the same days. -/
theorem horizonDays_eq (fuel : Nat) (current : Int) :
    (config.horizonService stores).epgDays stores.resolved channelId startTime endTime fuel current =
      ((steppedDays config endTime fuel current).flatMap fun date =>
        (storedEvents config stores channelId date).filter fun event =>
          event.InWindow startTime endTime).map EPGEvent.record := by
  induction fuel generalizing current with
  | zero => rfl
  | succ fuel ih =>
    have same : (config.horizonService stores).broadcastDateFor current =
        programmingDayDate config current := rfl
    rw [HorizonBackedScheduleService.epgDays, steppedDays]
    by_cases within : current < endTime
    · rw [if_pos within, if_pos within, List.flatMap_cons, List.map_append, ← ih]
      dsimp only
      rw [same, storedEvents]
      cases stores.resolved channelId (programmingDayDate config current) with
      | none => rfl
      | some day =>
        dsimp only
        rw [horizonLoop_eq]
    · rw [if_neg within, if_neg within]
      rfl

end AllDays

/-! ### Complete guides -/

section Completeness

variable (config : Config) (stores : Stores) (channelId : String) (startTime endTime : Int)

/-- **What a query must meet**: every stored event that overlaps its window is of a day that it steps
on; on those days the overlapping events are stored in start order, every event has a slot, and a day
without program events has no slot in the window. -/
structure WindowFits : Prop where
  reached : ∀ date, ∀ event ∈ storedEvents config stores channelId date,
    event.InWindow startTime endTime → Stepped config startTime endTime date
  inOrder : ∀ date, Stepped config startTime endTime date →
    ((storedEvents config stores channelId date).filter fun event =>
      event.InWindow startTime endTime).Pairwise
        fun earlier later => earlier.startTime ≤ later.startTime
  slotted : ∀ date day, Stepped config startTime endTime date →
    stores.resolved channelId date = some day →
      (storedEvents config stores channelId date).length = day.programEvents.length
  planned : ∀ date day, Stepped config startTime endTime date →
    stores.resolved channelId date = some day → day.programEvents = [] →
      ∀ slot ∈ day.resolvedSlots,
        ¬ (slotEvent config channelId date slot).InWindow startTime endTime

variable {config stores channelId startTime endTime}

/-- The part of one date, in groups that each bear their date. -/
theorem filter_flatMap_date {dates : List Date} (distinct : dates.Nodup)
    {group : Date → List EPGEvent}
    (bears : ∀ date ∈ dates, ∀ event ∈ group date, event.programmingDayDate = date) (date : Date) :
    (dates.flatMap group).filter (fun event => event.programmingDayDate = date) =
      if date ∈ dates then group date else [] := by
  induction dates with
  | nil => rfl
  | cons first rest ih =>
    obtain ⟨apart, distinct⟩ := List.nodup_cons.mp distinct
    rw [List.flatMap_cons, List.filter_append,
      ih distinct fun other among => bears other (List.mem_cons_of_mem _ among)]
    have here := bears first List.mem_cons_self
    by_cases same : first = date
    · subst same
      have kept : (group first).filter (fun event => event.programmingDayDate = first) = group first :=
        List.filter_eq_self.mpr fun event among => decide_eq_true (here event among)
      rw [kept, if_neg apart, if_pos List.mem_cons_self, List.append_nil]
    · have dropped : (group first).filter (fun event => event.programmingDayDate = date) = [] := by
        refine List.filter_eq_nil_iff.mpr fun event among => ?_
        rw [here event among, decide_eq_true_eq]
        exact same
      rw [dropped, List.nil_append]
      simp only [List.mem_cons, Ne.symm same, false_or]

/-- The days that a query steps on. -/
theorem mem_queryDays (date : Date) :
    date ∈ steppedDays config endTime ((endTime - startTime) / dayMicros + 1).toNat startTime ↔
      Stepped config startTime endTime date :=
  mem_steppedDays config endTime date _ startTime (enough_steps startTime endTime)

/-- What is answered of a day that is read whole. -/
theorem dayAnswer_of_fits (dated : stores.Dated)
    (fits : WindowFits config stores channelId startTime endTime) {date : Date}
    (stepped : Stepped config startTime endTime date) :
    (dayGuide config stores channelId date).isSome = true ∧
      dayAnswer config stores channelId startTime endTime date =
        (storedEvents config stores channelId date).filter fun event =>
          event.InWindow startTime endTime := by
  cases stored : stores.resolved channelId date with
  | none =>
    simp only [dayAnswer, dayGuide, storedEvents, stored]
    exact ⟨rfl, rfl⟩
  | some day =>
    by_cases none_ : day.programEvents = []
    · obtain ⟨nothing, read⟩ := dayGuide_of_slots config dated stored none_
      rw [dayAnswer, read, nothing]
      refine ⟨rfl, List.filter_eq_nil_iff.mpr fun event among => ?_⟩
      obtain ⟨slot, listed, rfl⟩ := List.mem_map.mp among
      rw [decide_eq_true_eq]
      exact fits.planned date day stepped stored none_ slot listed
    · have read := dayGuide_of_events config dated stored none_
      rw [if_pos (fits.slotted date day stepped stored)] at read
      rw [dayAnswer, read]
      exact ⟨rfl, rfl⟩

/-- What is read of a day bears its date. -/
theorem date_of_mem_dayAnswer (dated : stores.Dated) (date : Date) :
    ∀ event ∈ dayAnswer config stores channelId startTime endTime date,
      event.programmingDayDate = date := by
  intro event among
  have read := (List.mem_filter.mp among).1
  cases found : dayGuide config stores channelId date with
  | none =>
    rw [found] at read
    exact absurd read List.not_mem_nil
  | some guide =>
    rw [found] at read
    exact date_of_mem_dayGuide config dated found read

/-- The part of one date in what the manager returns. -/
theorem answer_of_date (dated : stores.Dated) (date : Date) :
    ((steppedDays config endTime ((endTime - startTime) / dayMicros + 1).toNat startTime).flatMap
        (dayAnswer config stores channelId startTime endTime)).filter
        (fun event => event.programmingDayDate = date) =
      if Stepped config startTime endTime date then
        dayAnswer config stores channelId startTime endTime date
      else [] := by
  have distinct := (steppedDays_increasing config endTime
    ((endTime - startTime) / dayMicros + 1).toNat startTime).1.imp ne_of_lt
  rw [filter_flatMap_date distinct fun other _ => date_of_mem_dayAnswer dated other]
  simp only [mem_queryDays]

/-- **A query that fits is answered completely by both services.** -/
theorem guidesComplete_of_fits (dated : stores.Dated)
    (fits : WindowFits config stores channelId startTime endTime) :
    GuidesComplete config stores channelId startTime endTime := by
  let days := steppedDays config endTime ((endTime - startTime) / dayMicros + 1).toNat startTime
  have answered : ∀ date ∈ days, (dayGuide config stores channelId date).isSome = true ∧
      dayAnswer config stores channelId startTime endTime date =
        (storedEvents config stores channelId date).filter fun event =>
          event.InWindow startTime endTime :=
    fun date among => dayAnswer_of_fits dated fits ((mem_queryDays date).mp among)
  refine ⟨days.flatMap (dayAnswer config stores channelId startTime endTime),
    (epgDays_eq_some_iff ..).mpr ⟨fun date among => (answered date among).1, rfl⟩, ?_, ?_, ?_⟩
  · have same := List.flatMap_congr fun date among => (answered date among).2
    rw [same]
    exact horizonDays_eq config stores channelId startTime endTime _ startTime
  · intro date
    rw [answer_of_date dated]
    split_ifs with stepped
    · rw [(answered date ((mem_queryDays date).mpr stepped)).2]
    · have none_ : (storedEvents config stores channelId date).filter
          (fun event => event.InWindow startTime endTime) = [] := by
        refine List.filter_eq_nil_iff.mpr fun event among inside => ?_
        exact stepped (fits.reached date event among (of_decide_eq_true inside))
      rw [none_]
  · refine List.pairwise_flatMap.mpr ⟨?_, ?_⟩
    · intro date among
      rw [(answered date among).2]
      exact fits.inOrder date ((mem_queryDays date).mp among)
    · refine (steppedDays_increasing config endTime _ startTime).1.imp_of_mem ?_
      intro first second listed follows earlier a inFirst b inSecond
      rw [(answered first listed).2] at inFirst
      rw [(answered second follows).2] at inSecond
      exact (start_lt_of_date_lt config earlier (List.mem_filter.mp inFirst).1
        (List.mem_filter.mp inSecond).1).le

/-- **A query that both services answer completely fits.** -/
theorem fits_of_guidesComplete (dated : stores.Dated)
    (complete : GuidesComplete config stores channelId startTime endTime) :
    WindowFits config stores channelId startTime endTime := by
  obtain ⟨guide, answered, -, whole⟩ := complete
  obtain ⟨read, rfl⟩ := (epgDays_eq_some_iff ..).mp answered
  have perm := whole.complete
  simp only [answer_of_date dated] at perm
  have readOn : ∀ date, Stepped config startTime endTime date →
      (dayGuide config stores channelId date).isSome = true :=
    fun date stepped => read date ((mem_queryDays date).mpr stepped)
  have slotted : ∀ date day, Stepped config startTime endTime date →
      stores.resolved channelId date = some day →
        (storedEvents config stores channelId date).length = day.programEvents.length := by
    intro date day stepped stored
    by_cases none_ : day.programEvents = []
    · rw [(dayGuide_of_slots config dated stored none_).1, none_]
      rfl
    · by_contra short
      have present := readOn date stepped
      rw [dayGuide_of_events config dated stored none_, if_neg short] at present
      cases present
  refine ⟨?_, ?_, slotted, ?_⟩
  · intro date event among inside
    by_contra missed
    have nothing := perm date
    rw [if_neg missed] at nothing
    have empty := List.filter_eq_nil_iff.mp nothing.symm.eq_nil event among
    rw [decide_eq_true_eq] at empty
    exact empty inside
  · intro date stepped
    cases stored : stores.resolved channelId date with
    | none => simp [storedEvents, stored]
    | some day =>
      by_cases none_ : day.programEvents = []
      · rw [(dayGuide_of_slots config dated stored none_).1]
        exact .nil
      · have kept := whole.ordered.filter fun event => event.programmingDayDate = date
        rw [answer_of_date dated, if_pos stepped, dayAnswer,
          dayGuide_of_events config dated stored none_,
          if_pos (slotted date day stepped stored)] at kept
        exact kept
  · intro date day stepped stored none_ slot listed inside
    obtain ⟨nothing, read⟩ := dayGuide_of_slots config dated stored none_
    have empty := perm date
    rw [if_pos stepped, nothing, List.filter_nil] at empty
    have among : slotEvent config channelId date slot ∈
        dayAnswer config stores channelId startTime endTime date := by
      rw [dayAnswer, read]
      exact List.mem_filter.mpr ⟨List.mem_map_of_mem listed, decide_eq_true inside⟩
    rw [empty.eq_nil] at among
    exact absurd among List.not_mem_nil

/-- **Both services answer a query completely, and agree, exactly when it fits the days that they
step on.** -/
theorem guides_complete_iff (config : Config) (days : List (String × ResolvedScheduleDay))
    (channelId : String) (startTime endTime : Int) :
    GuidesComplete config (Stores.ofDays days) channelId startTime endTime ↔
      WindowFits config (Stores.ofDays days) channelId startTime endTime :=
  ⟨fits_of_guidesComplete (Stores.dated_ofDays days), guidesComplete_of_fits (Stores.dated_ofDays days)⟩

end Completeness

/-! ### The day that holds the end -/

section Missed

theorem halfHourGrid_pos : 0 < 30 := by decide

theorem morningHour_nonneg : (0 : Int) ≤ 6 := by decide

theorem morningHour_lt : (6 : Int) < 24 := by decide

/-- A channel of half-hour blocks whose day starts at six. -/
def halfHourConfig : Config where
  gridMinutes := 30
  grid_pos := halfHourGrid_pos
  getProgram _ := none
  fillerPath := "/filler.mp4"
  programmingDayStartHour := 6
  hour_nonneg := morningHour_nonneg
  hour_lt := morningHour_lt

/-- Six in the morning. -/
def morningSix : TimeOfDay := ⟨6 * hourMicros, by decide, by decide⟩

/-- A day with one event of half an hour, at six. -/
def morningDay (date : Date) : ResolvedScheduleDay where
  programmingDayDate := date
  resolvedSlots := [⟨morningSix, ⟨.file, "/show.mp4"⟩, { filePath := "/show.mp4" }, 1800, ""⟩]
  resolutionTimestamp := 0
  programEvents := [{ id := "e", programId := "p", episodeId := "", startUtcMs := 0,
                      durationMs := 1800000, blockSpanCount := 1 }]

/-- **From ten in the evening to ten in the morning** the guide is empty, though the next programming
day has an event at six. -/
theorem morning_event_is_missed :
    getEpgEvents halfHourConfig (Stores.ofDays [("ch", morningDay 739000), ("ch", morningDay 739001)])
      "ch" (739000 * dayMicros + 22 * hourMicros) (739001 * dayMicros + 10 * hourMicros) = some [] ∧
    ¬ GuidesComplete halfHourConfig
      (Stores.ofDays [("ch", morningDay 739000), ("ch", morningDay 739001)]) "ch"
      (739000 * dayMicros + 22 * hourMicros) (739001 * dayMicros + 10 * hourMicros) := by
  have empty : getEpgEvents halfHourConfig
      (Stores.ofDays [("ch", morningDay 739000), ("ch", morningDay 739001)]) "ch"
      (739000 * dayMicros + 22 * hourMicros) (739001 * dayMicros + 10 * hourMicros) = some [] := by
    decide
  refine ⟨empty, ?_⟩
  rintro ⟨guide, answered, -, whole⟩
  rw [empty] at answered
  cases answered
  have perm := (whole.complete 739001).length_eq
  exact absurd perm (by decide)

end Missed

end Retrovue.Core.Schedule
