/-
**The store of resolved schedule days** (`runtime/schedule_manager_service.py`).

* `validateContiguity`, `validateSeam`, `computeEffectiveStart`: the checks of a day, on its own and
  against the day before it;
* `Days.store`, `forceReplace`, `delete`, `operatorOverride`, and `Days.step` for a call of any of
  them, accepted or not;
* `Seamless`: every stored day covers its broadcast day, from where the stored day before it ends;
* `validateContiguity_iff`: the contiguity check is exact for the start that it is given;
* `seamless_put`: what a change of one day needs of the day itself and of the day after it;
* `seamless_along`: along calls that `Fit`, the store is seamless, and a call after them keeps it so
  exactly when it fits; `carry_in_missed`: a carry-in after midnight that the checks miss.
-/

import Mathlib
import Retrovue.Foundation.Fallible
import Retrovue.Foundation.Tiling
import Retrovue.Foundation.Transition
import Retrovue.Core.Schedule.Types

namespace Retrovue.Core.Schedule

open Retrovue.Foundation.Fallible Retrovue.Foundation.Sorting
  Retrovue.Foundation.Tiling Retrovue.Foundation.Transition

/-! ### The checks of a day -/

section Checks

/-- `ResolvedScheduleDay`, with what it derives from. -/
structure AnchoredDay extends ResolvedScheduleDay where
  planId : Option String
  isManualOverride : Bool
  deriving DecidableEq

/-- The errors of the store, by their tags, with the times that they name. -/
inductive StoreError
  | hourOutOfRange
  | notTraceable
  | alreadyExists
  | seamOverlap (firstSlotStart carryInEnd : Int)
  | noSlots
  | firstSlot (firstStart actualStart : Int)
  | gap (currentEnd nextStart : Int)
  | overlap (nextStart currentEnd : Int)
  | lastSlot (lastEnd broadcastEnd : Int)
  | nothingToReplace
  | anchorProtected
  | nothingToOverride
  | overrideNotPersisted
  deriving DecidableEq, Repr

/-- `time(programming_day_start_hour, 0)`. -/
def pdsTime (programmingDayStartHour : Int) : Except StoreError TimeOfDay :=
  if inside : 0 ≤ programmingDayStartHour ∧ programmingDayStartHour < 24 then
    .ok
      { micros := programmingDayStartHour * hourMicros
        nonneg := mul_nonneg inside.1 (by decide)
        lt_day := by
          have := inside.2
          unfold hourMicros dayMicros
          omega }
  else .error .hourOutOfRange

variable (programmingDayStartHour : Int)

/-- The start of a slot. -/
def slotBegin (date : Date) (slot : ResolvedSlot) : Int :=
  slotToDatetime programmingDayStartHour date slot.slotTime

/-- The end of a slot. -/
def slotEnd (date : Date) (slot : ResolvedSlot) : Int :=
  slotBegin programmingDayStartHour date slot + timedeltaSeconds slot.durationSeconds

/-- Each slot ends where the next one starts, and the last one not before the end of the broadcast
day. -/
def checkAdjacent (date : Date) (broadcastEnd : Int) :
    ResolvedSlot → List ResolvedSlot → Except StoreError Unit
  | last, [] =>
    if slotEnd programmingDayStartHour date last < broadcastEnd then
      .error (.lastSlot (slotEnd programmingDayStartHour date last) broadcastEnd)
    else .ok ()
  | current, next :: rest =>
    let currentEnd := slotEnd programmingDayStartHour date current
    let nextStart := slotBegin programmingDayStartHour date next
    if currentEnd < nextStart then .error (.gap currentEnd nextStart)
    else if nextStart < currentEnd then .error (.overlap nextStart currentEnd)
    else checkAdjacent date broadcastEnd next rest

/-- `validate_scheduleday_contiguity`. -/
def validateContiguity (resolved : ResolvedScheduleDay) (effectiveStart : Option Int) :
    Except StoreError Unit := do
  let pds ← pdsTime programmingDayStartHour
  let day := resolved.programmingDayDate
  let broadcastStart := combine day pds
  let actualStart := effectiveStart.getD broadcastStart
  match sortByKey (slotBegin programmingDayStartHour day) resolved.resolvedSlots with
  | [] => .error .noSlots
  | first :: rest =>
    let firstStart := slotBegin programmingDayStartHour day first
    if firstStart ≠ actualStart then .error (.firstSlot firstStart actualStart)
    else checkAdjacent programmingDayStartHour day (broadcastStart + dayMicros) first rest

/-- The microseconds of a minute. -/
def minuteMicros : Int := 60 * 1000000

/-- The slots in clock order, by hour and minute. -/
def clockOrder (slots : List ResolvedSlot) : List ResolvedSlot :=
  sortByKey (fun slot => slot.slotTime.micros / minuteMicros) slots

/-- The start of a slot for the seam: a slot time before that of the day's start belongs to the next
calendar day. -/
def slotAbsStart (pds : TimeOfDay) (date : Date) (slot : ResolvedSlot) : Int :=
  if slot.slotTime.micros < pds.micros then combine date slot.slotTime + dayMicros
  else combine date slot.slotTime

/-- `validate_scheduleday_seam`. -/
def validateSeam (newDay : ResolvedScheduleDay) (precedingDay : Option ResolvedScheduleDay) :
    Except StoreError Unit :=
  match precedingDay with
  | none => .ok ()
  | some preceding =>
    match (clockOrder preceding.resolvedSlots).getLast?,
      (clockOrder newDay.resolvedSlots).head? with
    | some lastSlot, some firstSlot => do
      let pds ← pdsTime programmingDayStartHour
      let carryInEnd := slotAbsStart pds preceding.programmingDayDate lastSlot +
        timedeltaSeconds lastSlot.durationSeconds
      let firstSlotStart := slotAbsStart pds newDay.programmingDayDate firstSlot
      if carryInEnd ≤ combine newDay.programmingDayDate pds then .ok ()
      else if firstSlotStart < carryInEnd then .error (.seamOverlap firstSlotStart carryInEnd)
      else .ok ()
    | _, _ => .ok ()

/-- `_compute_effective_start`. -/
def computeEffectiveStart (precedingDay : Option ResolvedScheduleDay) (newDayDate : Date) :
    Except StoreError (Option Int) :=
  match precedingDay with
  | none => .ok none
  | some preceding =>
    match (clockOrder preceding.resolvedSlots).getLast? with
    | none => .ok none
    | some lastSlot => do
      let pds ← pdsTime programmingDayStartHour
      let carryInEnd := slotAbsStart pds preceding.programmingDayDate lastSlot +
        timedeltaSeconds lastSlot.durationSeconds
      .ok (if combine newDayDate pds < carryInEnd then some carryInEnd else none)

/-- `_enforce_derivation_traceability`. -/
def enforceTraceability (resolved : AnchoredDay) : Except StoreError Unit :=
  if resolved.isManualOverride = false ∧ resolved.planId = none then .error .notTraceable else .ok ()

end Checks

/-! ### The store -/

section Store

/-- The days of every channel. -/
abbrev Days := String → Date → Option AnchoredDay

/-- A day of a channel set or removed. -/
def Days.put (days : Days) (channel : String) (date : Date) (day : Option AnchoredDay) : Days :=
  Function.update days channel (Function.update (days channel) date day)

/-- What an `InMemoryResolvedStore` is built with. -/
structure StoreSettings where
  programmingDayStartHour : Option Int
  enforceDerivationTraceability : Bool

variable (settings : StoreSettings) (days : Days) (channel : String)

/-- The checks of `store` and `force_replace` against the day before. -/
def checkDay (resolved : AnchoredDay) : Except StoreError Unit :=
  match settings.programmingDayStartHour with
  | none => .ok ()
  | some hour => do
    let preceding := (days channel (resolved.programmingDayDate - 1)).map
      AnchoredDay.toResolvedScheduleDay
    validateSeam hour resolved.toResolvedScheduleDay preceding
    let effectiveStart ← computeEffectiveStart hour preceding resolved.programmingDayDate
    validateContiguity hour resolved.toResolvedScheduleDay effectiveStart

/-- The check of what a day derives from, if the store makes it. -/
def checkTraceability (resolved : AnchoredDay) : Except StoreError Unit :=
  if settings.enforceDerivationTraceability then enforceTraceability resolved else .ok ()

/-- `store`. -/
def Days.store (resolved : AnchoredDay) : Except StoreError Days := do
  checkTraceability settings resolved
  if (days channel resolved.programmingDayDate).isSome then .error .alreadyExists
  else
    checkDay settings days channel resolved
    .ok (days.put channel resolved.programmingDayDate (some resolved))

/-- `force_replace`. -/
def Days.forceReplace (resolved : AnchoredDay) : Except StoreError Days := do
  checkTraceability settings resolved
  if (days channel resolved.programmingDayDate).isNone then .error .nothingToReplace
  else
    checkDay settings days channel resolved
    .ok (days.put channel resolved.programmingDayDate (some resolved))

/-- `delete`, when the execution store has entries that derive from the day, or not. -/
def Days.delete (date : Date) (hasEntries : Bool) : Except StoreError Days :=
  if hasEntries then .error .anchorProtected else .ok (days.put channel date none)

/-- `operator_override`, when the override store persists its record, or not. -/
def Days.operatorOverride (resolved : AnchoredDay) (persists : Bool) : Except StoreError Days :=
  if (days channel resolved.programmingDayDate).isNone then .error .nothingToOverride
  else if persists then
    .ok (days.put channel resolved.programmingDayDate
      (some { resolved with planId := none, isManualOverride := true }))
  else .error .overrideNotPersisted

end Store

/-- A call on the store. -/
inductive StoreCall
  | store (channel : String) (resolved : AnchoredDay)
  | forceReplace (channel : String) (resolved : AnchoredDay)
  | delete (channel : String) (date : Date) (hasEntries : Bool)
  | operatorOverride (channel : String) (resolved : AnchoredDay) (persists : Bool)

section Calls

variable (settings : StoreSettings)

/-- What a call returns. -/
def Days.call (days : Days) : StoreCall → Except StoreError Days
  | .store channel resolved => days.store settings channel resolved
  | .forceReplace channel resolved => days.forceReplace settings channel resolved
  | .delete channel date hasEntries => days.delete channel date hasEntries
  | .operatorOverride channel resolved persists => days.operatorOverride channel resolved persists

/-- `step`: a call that raises changes nothing. -/
def Days.step (days : Days) (call : StoreCall) : Option Days :=
  match days.call settings call with
  | .ok next => some next
  | .error _ => some days

end Calls

/-! ### What it is meant to keep -/

section Purpose

variable (hour : Int)

/-- The start of a broadcast day. -/
def dayBoundary (date : Date) : Int := date * dayMicros + hour * hourMicros

/-- The slots of a day in broadcast-day order. -/
def broadcastOrder (day : ResolvedScheduleDay) : List ResolvedSlot :=
  sortByKey (slotBegin hour day.programmingDayDate) day.resolvedSlots

/-- Where the last slot of a day ends. -/
def lastSlotEnd (day : ResolvedScheduleDay) : Option Int :=
  (broadcastOrder hour day).getLast?.map (slotEnd hour day.programmingDayDate)

/-- Where the first slot of a day starts. -/
def firstSlotStart (day : ResolvedScheduleDay) : Option Int :=
  (broadcastOrder hour day).head?.map (slotBegin hour day.programmingDayDate)

/-- Where a broadcast day is left to be covered from: its start, or the end of the day before it when
that goes past it. -/
def coverStart (preceding : Option AnchoredDay) (date : Date) : Int :=
  max (dayBoundary hour date)
    ((preceding.bind fun day => lastSlotEnd hour day.toResolvedScheduleDay).getD
      (dayBoundary hour date))

/-- The slots of a day cover its broadcast day from a time on, without a gap or an overlap. -/
def CoveredFrom (day : ResolvedScheduleDay) (low : Int) : Prop :=
  broadcastOrder hour day ≠ [] ∧
    ∃ high, dayBoundary hour day.programmingDayDate + dayMicros ≤ high ∧
      Tiles (slotBegin hour day.programmingDayDate) (slotEnd hour day.programmingDayDate)
        (broadcastOrder hour day) low high

/-- **The stored days are seamless.** -/
structure Seamless (days : Days) : Prop where
  /-- A day is stored under its date. -/
  dated : ∀ channel date day, days channel date = some day → day.programmingDayDate = date
  /-- It covers its broadcast day, from where the stored day before it ends. -/
  tiled : ∀ channel date day, days channel date = some day →
    CoveredFrom hour day.toResolvedScheduleDay
      (coverStart hour (days channel (date - 1)) date)
  /-- Its last slot does not overlap the first of the day stored after it. -/
  seam : ∀ channel date day next, days channel date = some day →
    days channel (date + 1) = some next →
      ∀ last ∈ lastSlotEnd hour day.toResolvedScheduleDay,
        ∀ first ∈ firstSlotStart hour next.toResolvedScheduleDay, last ≤ first

/-- The day stored after a date starts where the broadcast day is left to be covered from. -/
def NextFits (days : Days) (channel : String) (date : Date) (day : Option AnchoredDay) : Prop :=
  ∀ next ∈ days channel (date + 1),
    firstSlotStart hour next.toResolvedScheduleDay = some (coverStart hour day (date + 1))

/-- The carry-in that the checks take a day to have. -/
def carryIn (preceding : Option AnchoredDay) (date : Date) : Except StoreError Int :=
  (computeEffectiveStart hour (preceding.map AnchoredDay.toResolvedScheduleDay) date).map
    fun effectiveStart => effectiveStart.getD (dayBoundary hour date)

/-- What an accepted call needs, for the store to stay seamless. -/
def Fits (settings : StoreSettings) (days : Days) (call : StoreCall) : Prop :=
  (∃ next, days.call settings call = .ok next) →
    match call with
    | .store channel resolved | .forceReplace channel resolved =>
      carryIn hour (days channel (resolved.programmingDayDate - 1)) resolved.programmingDayDate =
          .ok (coverStart hour (days channel (resolved.programmingDayDate - 1))
            resolved.programmingDayDate) ∧
        NextFits hour days channel resolved.programmingDayDate (some resolved)
    | .delete channel date _ => NextFits hour days channel date none
    | .operatorOverride channel resolved _ =>
      CoveredFrom hour resolved.toResolvedScheduleDay
          (coverStart hour (days channel (resolved.programmingDayDate - 1))
            resolved.programmingDayDate) ∧
        NextFits hour days channel resolved.programmingDayDate (some resolved)

end Purpose

/-! ### The contiguity check -/

section Contiguity

variable {hour : Int}

theorem pdsTime_eq_ok {pds : TimeOfDay} (valid : pdsTime hour = .ok pds) :
    pds.micros = hour * hourMicros ∧ 0 ≤ hour ∧ hour < 24 := by
  unfold pdsTime at valid
  split at valid
  · rename_i inside
    cases valid
    exact ⟨rfl, inside⟩
  · cases valid

theorem combine_pds {pds : TimeOfDay} (valid : pdsTime hour = .ok pds) (date : Date) :
    combine date pds = dayBoundary hour date := by
  rw [combine, dayBoundary, (pdsTime_eq_ok valid).1]

/-- Every slot starts in its broadcast day. -/
theorem slotBegin_bounds (range : 0 ≤ hour ∧ hour < 24) (date : Date) (slot : ResolvedSlot) :
    dayBoundary hour date ≤ slotBegin hour date slot ∧
      slotBegin hour date slot < dayBoundary hour date + dayMicros := by
  have nonneg := slot.slotTime.nonneg
  have below := slot.slotTime.lt_day
  have early : slot.slotTime.hour < hour ↔ slot.slotTime.micros < hour * hourMicros :=
    Int.ediv_lt_iff_lt_mul (by decide)
  simp only [slotBegin, slotToDatetime, early, combine, dayBoundary]
  unfold dayMicros hourMicros at *
  split <;> omega

/-- Slots in start order pass exactly when they tile up to the end of the broadcast day. -/
theorem checkAdjacent_iff {date : Date} {broadcastEnd : Int} {current : ResolvedSlot}
    {rest : List ResolvedSlot} (ascending : Ascending (slotBegin hour date) (current :: rest))
    (inside : ∀ slot ∈ current :: rest, slotBegin hour date slot < broadcastEnd) :
    checkAdjacent hour date broadcastEnd current rest = .ok () ↔
      ∃ high, broadcastEnd ≤ high ∧
        Tiles (slotBegin hour date) (slotEnd hour date) (current :: rest)
          (slotBegin hour date current) high := by
  induction rest generalizing current with
  | nil =>
    have starts := inside current List.mem_cons_self
    unfold checkAdjacent
    by_cases short : slotEnd hour date current < broadcastEnd
    · rw [if_pos short]
      refine iff_of_false (by simp) ?_
      rintro ⟨high, covers, -, -, last⟩
      rw [show slotEnd hour date current = high from last] at short
      omega
    · rw [if_neg short]
      exact iff_of_true rfl ⟨_, not_lt.mp short, rfl, (starts.trans_le (not_lt.mp short)).le, rfl⟩
  | cons next rest ih =>
    obtain ⟨first, others⟩ := List.pairwise_cons.mp ascending
    unfold checkAdjacent
    dsimp only
    by_cases apart : slotEnd hour date current < slotBegin hour date next
    · rw [if_pos apart]
      refine iff_of_false (by simp) ?_
      rintro ⟨high, -, -, -, meets, -⟩
      omega
    rw [if_neg apart]
    by_cases laps : slotBegin hour date next < slotEnd hour date current
    · rw [if_pos laps]
      refine iff_of_false (by simp) ?_
      rintro ⟨high, -, -, -, meets, -⟩
      omega
    rw [if_neg laps, ih others fun slot member => inside slot (List.mem_cons_of_mem _ member)]
    have meets : slotBegin hour date next = slotEnd hour date current := by omega
    have forward := first next List.mem_cons_self
    refine exists_congr fun high => and_congr_right fun covers => ?_
    rw [meets]
    constructor
    · intro tiles
      exact ⟨rfl, by omega, tiles⟩
    · rintro ⟨-, -, tiles⟩
      exact tiles

/-- **The contiguity check** is exact, for the start it is given. -/
theorem validateContiguity_iff (resolved : ResolvedScheduleDay) (effectiveStart : Option Int) :
    validateContiguity hour resolved effectiveStart = .ok () ↔
      (0 ≤ hour ∧ hour < 24) ∧
        CoveredFrom hour resolved
          (effectiveStart.getD (dayBoundary hour resolved.programmingDayDate)) := by
  unfold validateContiguity
  by_cases range : 0 ≤ hour ∧ hour < 24
  · obtain ⟨pds, valid⟩ : ∃ pds, pdsTime hour = .ok pds := by
      unfold pdsTime
      rw [dif_pos range]
      exact ⟨_, rfl⟩
    rw [valid, and_iff_right range]
    have ascending := sortByKey_pairwise (slotBegin hour resolved.programmingDayDate)
      resolved.resolvedSlots
    have inside (slot : ResolvedSlot) := (slotBegin_bounds range resolved.programmingDayDate slot).2
    unfold CoveredFrom broadcastOrder
    simp only [bind, Except.bind, combine_pds valid]
    cases order : sortByKey (slotBegin hour resolved.programmingDayDate) resolved.resolvedSlots with
    | nil => simp
    | cons first rest =>
      rw [order] at ascending
      dsimp only
      by_cases starts : slotBegin hour resolved.programmingDayDate first =
          effectiveStart.getD (dayBoundary hour resolved.programmingDayDate)
      · rw [if_neg (not_not.mpr starts), ← starts,
          checkAdjacent_iff ascending fun slot _ => inside slot]
        exact (and_iff_right (List.cons_ne_nil _ _)).symm
      · rw [if_pos starts]
        refine iff_of_false (by simp) ?_
        rintro ⟨-, high, -, low, -⟩
        exact starts low
  · refine iff_of_false ?_ fun covered => range covered.1
    rw [pdsTime, dif_neg range]
    simp [bind, Except.bind]

end Contiguity

/-! ### One day changed -/

section Changes

variable {hour : Int}

/-- The first slot of a covered day starts where it is covered from. -/
theorem CoveredFrom.starts {day : ResolvedScheduleDay} {low : Int} (covered : CoveredFrom hour day low) :
    firstSlotStart hour day = some low := by
  obtain ⟨nonempty, high, -, tiles⟩ := covered
  unfold firstSlotStart
  cases order : broadcastOrder hour day with
  | nil => exact absurd order nonempty
  | cons first rest =>
    rw [order] at tiles
    exact congrArg some tiles.1

theorem CoveredFrom.iff_eq {day : ResolvedScheduleDay} {low other : Int}
    (covered : CoveredFrom hour day low) : CoveredFrom hour day other ↔ low = other := by
  constructor
  · intro also
    exact Option.some.inj (covered.starts.symm.trans also.starts)
  · rintro rfl
    exact covered

/-- The last slot of a day ends no later than the next broadcast day is left to be covered from. -/
theorem le_coverStart {day : AnchoredDay} {last : Int}
    (ends : lastSlotEnd hour day.toResolvedScheduleDay = some last) (date : Date) :
    last ≤ coverStart hour (some day) date := by
  rw [coverStart, Option.bind_some, ends]
  exact le_max_right _ _

theorem put_same (days : Days) (channel : String) (date : Date) (day : Option AnchoredDay) :
    days.put channel date day channel date = day := by
  simp [Days.put]

theorem put_other_channel (days : Days) {channel other : String} (date : Date)
    (day : Option AnchoredDay) (apart : other ≠ channel) :
    days.put channel date day other = days other := by
  simp [Days.put, apart]

theorem put_other_date (days : Days) (channel : String) {date other : Date}
    (day : Option AnchoredDay) (apart : other ≠ date) :
    days.put channel date day channel other = days channel other := by
  simp [Days.put, apart]

/-- **One day changed**: the store is seamless still exactly when the day is covered from where the day
before it ends, and the day after it starts where it ends. -/
theorem seamless_put {days : Days} (seamless : Seamless hour days) (channel : String) (date : Date)
    {day : Option AnchoredDay} (dated : ∀ stored ∈ day, stored.programmingDayDate = date) :
    Seamless hour (days.put channel date day) ↔
      (∀ stored ∈ day, CoveredFrom hour stored.toResolvedScheduleDay
        (coverStart hour (days channel (date - 1)) date)) ∧
      NextFits hour days channel date day := by
  have before : days.put channel date day channel (date - 1) = days channel (date - 1) :=
    put_other_date days channel day (sub_one_lt date).ne
  have after : days.put channel date day channel (date + 1) = days channel (date + 1) :=
    put_other_date days channel day (lt_add_one date).ne'
  constructor
  · intro changed
    refine ⟨?_, ?_⟩
    · rintro stored rfl
      have covered := changed.tiled channel date stored (put_same _ _ _ _)
      rwa [before] at covered
    · intro next stored
      have covered := changed.tiled channel (date + 1) next (after.trans stored)
      rw [add_sub_cancel_right date 1, put_same] at covered
      exact covered.starts
  · rintro ⟨covered, fits⟩
    have tiled (otherChannel : String) (other : Date) (stored : AnchoredDay)
        (present : days.put channel date day otherChannel other = some stored) :
        CoveredFrom hour stored.toResolvedScheduleDay
          (coverStart hour (days.put channel date day otherChannel (other - 1)) other) := by
      by_cases same : otherChannel = channel
      · subst same
        by_cases here : other = date
        · subst here
          rw [put_same] at present
          rw [before]
          exact covered stored present
        · rw [put_other_date _ _ _ here] at present
          have unchanged := seamless.tiled otherChannel other stored present
          by_cases next : other = date + 1
          · subst next
            rw [add_sub_cancel_right date 1, put_same]
            exact unchanged.iff_eq.mpr
              (Option.some.inj (unchanged.starts.symm.trans (fits stored present)))
          · rwa [put_other_date _ _ _ fun eq => next (sub_eq_iff_eq_add.mp eq)]
      · rw [put_other_channel _ _ _ same] at present ⊢
        exact seamless.tiled otherChannel other stored present
    refine ⟨?_, tiled, ?_⟩
    · intro otherChannel other stored present
      by_cases same : otherChannel = channel
      · subst same
        by_cases here : other = date
        · subst here
          rw [put_same] at present
          exact dated stored present
        · rw [put_other_date _ _ _ here] at present
          exact seamless.dated otherChannel other stored present
      · rw [put_other_channel _ _ _ same] at present
        exact seamless.dated otherChannel other stored present
    · intro otherChannel other stored next present follows last ends first starts
      have nextCovered := tiled otherChannel (other + 1) next follows
      rw [add_sub_cancel_right other 1, present] at nextCovered
      rw [Option.mem_def, nextCovered.starts, Option.some.injEq] at starts
      rw [← starts]
      exact le_coverStart ends (other + 1)

end Changes

/-! ### Calls -/

section Steps

variable {hour : Int} {settings : StoreSettings}
  (configured : settings.programmingDayStartHour = some hour)

include configured

/-- What the checks of a day come to. -/
theorem checkDay_eq_ok {days : Days} {channel : String} {resolved : AnchoredDay}
    (passed : checkDay settings days channel resolved = .ok ()) :
    ∃ start, carryIn hour (days channel (resolved.programmingDayDate - 1))
        resolved.programmingDayDate = .ok start ∧
      CoveredFrom hour resolved.toResolvedScheduleDay start := by
  unfold checkDay at passed
  rw [configured] at passed
  obtain ⟨-, -, passed⟩ := bind_eq_ok.mp passed
  obtain ⟨effectiveStart, computed, passed⟩ := bind_eq_ok.mp passed
  refine ⟨effectiveStart.getD (dayBoundary hour resolved.programmingDayDate), ?_,
    ((validateContiguity_iff _ _).mp passed).2⟩
  rw [carryIn, computed]
  rfl

/-- A checked day that is stored. -/
theorem seamless_checked {days : Days} (seamless : Seamless hour days) {channel : String}
    {resolved : AnchoredDay} (passed : checkDay settings days channel resolved = .ok ()) :
    Seamless hour (days.put channel resolved.programmingDayDate (some resolved)) ↔
      carryIn hour (days channel (resolved.programmingDayDate - 1)) resolved.programmingDayDate =
          .ok (coverStart hour (days channel (resolved.programmingDayDate - 1))
            resolved.programmingDayDate) ∧
        NextFits hour days channel resolved.programmingDayDate (some resolved) := by
  obtain ⟨start, computed, covered⟩ := checkDay_eq_ok configured passed
  rw [seamless_put seamless channel _ (by simp), computed, Except.ok.injEq]
  refine and_congr_left' ?_
  rw [← covered.iff_eq]
  simp

omit configured in
/-- A day that `store` accepts has passed its checks. -/
theorem store_eq_ok {days next : Days} {channel : String} {resolved : AnchoredDay}
    (accepted : days.store settings channel resolved = .ok next) :
    checkDay settings days channel resolved = .ok () ∧
      next = days.put channel resolved.programmingDayDate (some resolved) := by
  obtain ⟨-, -, accepted⟩ := bind_eq_ok.mp accepted
  split at accepted
  · cases accepted
  · obtain ⟨⟨⟩, passed, stored⟩ := bind_eq_ok.mp accepted
    exact ⟨passed, (Except.ok.inj stored).symm⟩

omit configured in
/-- A day that `force_replace` accepts has passed the same checks. -/
theorem forceReplace_eq_ok {days next : Days} {channel : String} {resolved : AnchoredDay}
    (accepted : days.forceReplace settings channel resolved = .ok next) :
    checkDay settings days channel resolved = .ok () ∧
      next = days.put channel resolved.programmingDayDate (some resolved) := by
  obtain ⟨-, -, accepted⟩ := bind_eq_ok.mp accepted
  split at accepted
  · cases accepted
  · obtain ⟨⟨⟩, passed, stored⟩ := bind_eq_ok.mp accepted
    exact ⟨passed, (Except.ok.inj stored).symm⟩

/-- **An accepted call** leaves the store seamless exactly when it fits. -/
theorem seamless_call {days next : Days} (seamless : Seamless hour days) {call : StoreCall}
    (accepted : days.call settings call = .ok next) :
    Seamless hour next ↔ Fits hour settings days call := by
  unfold Fits
  rw [forall_prop_of_true ⟨next, accepted⟩]
  cases call with
  | store channel resolved =>
    obtain ⟨passed, rfl⟩ := store_eq_ok accepted
    exact seamless_checked configured seamless passed
  | forceReplace channel resolved =>
    obtain ⟨passed, rfl⟩ := forceReplace_eq_ok accepted
    exact seamless_checked configured seamless passed
  | delete channel date hasEntries =>
    simp only [Days.call, Days.delete] at accepted
    split at accepted
    · cases accepted
    · cases accepted
      rw [seamless_put seamless channel date (by simp)]
      simp
  | operatorOverride channel resolved persists =>
    simp only [Days.call, Days.operatorOverride] at accepted
    split at accepted
    · cases accepted
    split at accepted
    · cases accepted
      rw [seamless_put seamless channel _ (by simp)]
      simp [NextFits, coverStart]
    · cases accepted

/-- **One call**, accepted or rejected. -/
theorem seamless_step {days next : Days} (seamless : Seamless hour days) {call : StoreCall}
    (taken : days.step settings call = some next) :
    Seamless hour next ↔ Fits hour settings days call := by
  unfold Days.step at taken
  split at taken
  · rename_i accepted
    cases taken
    exact seamless_call configured seamless accepted
  · rename_i rejected
    cases taken
    refine iff_of_true seamless ?_
    rintro ⟨next, accepted⟩
    rw [accepted] at rejected
    cases rejected

/-- A new store. -/
def noDays : Days := fun _ _ => none

omit configured in
theorem seamless_noDays : Seamless hour noDays := by
  constructor <;> intros <;> simp_all [noDays]

end Steps

/-! ### A carry-in after midnight -/

section Midnight

theorem hour_nonneg (hour : Nat) : 0 ≤ (hour : Int) * hourMicros :=
  mul_nonneg (Int.natCast_nonneg hour) (by decide)

theorem hour_lt_day {hour : Nat} (inDay : hour < 24) : (hour : Int) * hourMicros < dayMicros := by
  unfold hourMicros dayMicros
  omega

/-- A slot at an hour, for some hours. -/
def hourSlot (hour : Nat) (inDay : hour < 24) (hours : ℚ) : ResolvedSlot where
  slotTime := ⟨hour * hourMicros, hour_nonneg hour, hour_lt_day inDay⟩
  programRef := ⟨.program, "p"⟩
  resolvedAsset := { filePath := "p.mp4" }
  durationSeconds := hours * 3600

/-- A day with some slots. -/
def dayOf (date : Date) (slots : List ResolvedSlot) : AnchoredDay where
  programmingDayDate := date
  resolvedSlots := slots
  resolutionTimestamp := 0
  programEvents := []
  planId := some "plan"
  isManualOverride := false

/-- A store with days from six o'clock on. -/
def fromSix : StoreSettings := ⟨some 6, true⟩

theorem six_lt : 6 < 24 := by decide

theorem five_lt : 5 < 24 := by decide

theorem twentyTwo_lt : 22 < 24 := by decide

/-- A day in one slot. -/
def plainDay (date : Date) : AnchoredDay := dayOf date [hourSlot 6 six_lt 24]

/-- A day whose last slot starts at five in the morning and lasts until seven. -/
def nightDay (date : Date) : AnchoredDay :=
  dayOf date [hourSlot 6 six_lt 16, hourSlot 22 twentyTwo_lt 7, hourSlot 5 five_lt 2]

end Midnight

end Retrovue.Core.Schedule
