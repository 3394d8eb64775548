/-
**Zones expanded into slots** (`_zone_to_slots` of `runtime/planning_pipeline.py`), against the
validator.

* `zoneToSlots`, `expandZones`: the slots of one zone, and of a day's zones;
* `SlotsTile`, `InstantsTile`: the slots are the grid blocks of the programming day, each once; and every
  instant of it is in one zone's window;
* `zones_agree_iff`: for the zones of a day of an accepted plan both hold exactly when no time has
  seconds and no zone is without programs;
* `zones_disagree`: the whole day as one zone loses its last block, since 24:00 is stored with seconds.
-/

import Mathlib
import Retrovue.Core.Zones.Coverage

namespace Retrovue.Core.Zones

open Retrovue.Foundation.Arcs Retrovue.Core.Schedule

/-! ### The expansion -/

section Expansion

/-- `ZoneDirective`. -/
structure ZoneDirective where
  startTime : TimeOfDay
  endTime : TimeOfDay
  programs : List ProgramRef
  label : String := ""
  dayFilter : Option (List Day) := none

/-- `datetime.time()`. -/
def timeOf (t : ℤ) : TimeOfDay where
  micros := t % dayMicros
  nonneg := Int.emod_nonneg _ (by decide)
  lt_day := Int.emod_lt_of_pos _ (by decide)

/-- `_zone_to_slots`. Its first steps are those of `_slot_to_datetime`. -/
def zoneToSlots (gridBlockMinutes programmingDayStartHour : ℤ) (broadcastDate : Date)
    (zone : ZoneDirective) : Except ZoneError (List ScheduleSlot) :=
  let gridSeconds := gridBlockMinutes * 60
  let zoneStartDt := slotToDatetime programmingDayStartHour broadcastDate zone.startTime
  let sameDayEnd := slotToDatetime programmingDayStartHour broadcastDate zone.endTime
  let zoneEndDt := if sameDayEnd ≤ zoneStartDt then sameDayEnd + dayMicros else sameDayEnd
  if gridSeconds = 0 then .error .zeroDivisionError
  else
    let numSlots := ((zoneEndDt - zoneStartDt).tdiv (gridSeconds * 1000000)).toNat
    match zone.programs with
    | [] => if numSlots = 0 then .ok [] else .error .zeroDivisionError
    | first :: rest =>
      .ok ((List.range numSlots).map fun i =>
        let ref := (first :: rest).getD (i % (first :: rest).length) first
        { slotTime := timeOf (zoneStartDt + i * gridSeconds * 1000000)
          programRef := ref
          durationSeconds := gridSeconds
          label := if zone.label = "" then ref.refId else zone.label })

/-- The loop of `resolve_schedule_day` over the zones. -/
def expandZones (gridBlockMinutes programmingDayStartHour : ℤ) (broadcastDate : Date) :
    List ZoneDirective → Except ZoneError (List ScheduleSlot)
  | [] => .ok []
  | zone :: rest => do
    let slots ← zoneToSlots gridBlockMinutes programmingDayStartHour broadcastDate zone
    let others ← expandZones gridBlockMinutes programmingDayStartHour broadcastDate rest
    return slots ++ others

/-- The directive of a zone. -/
def Zone.directive (programs : Zone → List ProgramRef) (z : Zone) : ZoneDirective where
  startTime := z.startTime
  endTime := z.endTime
  programs := programs z
  label := z.name
  dayFilter := z.dayFilters

end Expansion

/-! ### What the expansion is for -/

section Purpose

/-- The microseconds of a minute. -/
def minuteMicros : ℤ := 60000000

/-- Where a time of day is in the programming day, in microseconds from its start. -/
def dayOffset (programmingDayStartHour : ℤ) (broadcastDate : Date) (t : TimeOfDay) : ℤ :=
  slotToDatetime programmingDayStartHour broadcastDate t -
    (broadcastDate * dayMicros + programmingDayStartHour * hourMicros)

/-- **The slots are the day's grid blocks**, each once. -/
def SlotsTile (gridBlockMinutes programmingDayStartHour : ℤ) (broadcastDate : Date)
    (slots : List ScheduleSlot) : Prop :=
  (∀ slot ∈ slots, slot.durationSeconds = ((gridBlockMinutes * 60 : ℤ) : ℚ) ∧
    ∃ k, 0 ≤ k ∧ k < minutesOfDay / gridBlockMinutes ∧
      dayOffset programmingDayStartHour broadcastDate slot.slotTime =
        k * (gridBlockMinutes * minuteMicros)) ∧
  ∀ k, 0 ≤ k → k < minutesOfDay / gridBlockMinutes →
    slots.countP (fun slot => decide (dayOffset programmingDayStartHour broadcastDate slot.slotTime =
      k * (gridBlockMinutes * minuteMicros))) = 1

/-- A time as it is meant, in microseconds: the stored end of the day is 24:00. -/
def wallMicros (t : TimeOfDay) : ℤ := if t = endOfDay then dayMicros else t.micros

/-- The instant `x` of the programming day is in the zone's half-open window. -/
def Zone.CoversInstant (programmingDayStartHour : ℤ) (z : Zone) (x : ℤ) : Prop :=
  InArc dayMicros (wallMicros z.startTime) (wallMicros z.endTime)
    (x + programmingDayStartHour * hourMicros)

instance (programmingDayStartHour : ℤ) (z : Zone) :
    DecidablePred (z.CoversInstant programmingDayStartHour) :=
  fun x => inferInstanceAs (Decidable (InArc _ _ _ (x + programmingDayStartHour * hourMicros)))

/-- **Every instant of the programming day is in one window.** -/
def InstantsTile (programmingDayStartHour : ℤ) (zones : List Zone) : Prop :=
  ∀ x, 0 ≤ x → x < dayMicros →
    zones.countP (fun z => decide (z.CoversInstant programmingDayStartHour x)) = 1

/-- A time without seconds. -/
def WholeMinute (t : TimeOfDay) : Prop := t.micros % minuteMicros = 0

instance : DecidablePred WholeMinute :=
  fun t => inferInstanceAs (Decidable (t.micros % minuteMicros = 0))

end Purpose

/-! ### Times and their minutes -/

section Times

/-- What rounding to minutes takes from a time. -/
def excess (t : TimeOfDay) : ℤ := t.micros - minuteMicros * timeToMinutes t

theorem micros_eq (t : TimeOfDay) : t.micros = minuteMicros * timeToMinutes t + excess t := by
  unfold excess
  ring

/-- Rounding moves a time by half a minute at most. -/
theorem excess_bounds (t : TimeOfDay) : -minuteMicros < excess t ∧ excess t < minuteMicros := by
  unfold excess timeToMinutes
  by_cases sentinel : t = endOfDay
  · rw [if_pos sentinel, sentinel]
    decide
  · rw [if_neg sentinel]
    unfold TimeOfDay.hour minuteOf secondOf hourMicros minuteMicros
    split_ifs <;> omega

theorem excess_eq_zero {t : TimeOfDay} : excess t = 0 ↔ WholeMinute t := by
  unfold excess timeToMinutes WholeMinute
  by_cases sentinel : t = endOfDay
  · rw [if_pos sentinel, sentinel]
    decide
  · rw [if_neg sentinel]
    have nonneg := t.nonneg
    unfold TimeOfDay.hour minuteOf secondOf hourMicros minuteMicros
    split_ifs <;> omega

/-- The stored end of the day is a moment early. -/
theorem excess_endOfDay : excess endOfDay = -1 := by decide

theorem wallMicros_of_nonneg {t : TimeOfDay} (nonneg : 0 ≤ excess t) : wallMicros t = t.micros := by
  unfold wallMicros
  rw [if_neg]
  rintro rfl
  rw [excess_endOfDay] at nonneg
  omega

/-- **Where a time of day is in the programming day**: so far from the day's start, around the clock. -/
theorem dayOffset_eq {hour : ℤ} (nonneg : 0 ≤ hour) (lt : hour < 24) (broadcastDate : Date)
    (t : TimeOfDay) :
    dayOffset hour broadcastDate t = (t.micros - hour * hourMicros) % dayMicros := by
  have tNonneg := t.nonneg
  have tLt := t.lt_day
  unfold dayOffset slotToDatetime combine
  unfold TimeOfDay.hour
  unfold dayMicros hourMicros at *
  split_ifs <;> omega

end Times

/-! ### The slots of a zone -/

section Slots

variable {gridBlockMinutes hour : ℤ} (broadcastDate : Date) (programs : Zone → List ProgramRef)

/-- How many slots a zone has. -/
def slotCount (gridBlockMinutes : ℤ) (z : Zone) : ℕ :=
  (arcLength dayMicros z.startTime.micros z.endTime.micros /
    (gridBlockMinutes * minuteMicros)).toNat

/-- Where the slots of a zone are in the programming day. -/
def slotOffsets (gridBlockMinutes hour : ℤ) (z : Zone) : List ℤ :=
  (List.range (slotCount gridBlockMinutes z)).map fun i : ℕ =>
    (z.startTime.micros - hour * hourMicros + i * (gridBlockMinutes * minuteMicros)) % dayMicros

/-- The window of a zone is as long as the way around the clock from its start to its end. -/
theorem window_eq (nonneg : 0 ≤ hour) (lt : hour < 24) (start stop : TimeOfDay) :
    (if slotToDatetime hour broadcastDate stop ≤ slotToDatetime hour broadcastDate start then
      slotToDatetime hour broadcastDate stop + dayMicros else slotToDatetime hour broadcastDate stop) -
        slotToDatetime hour broadcastDate start = arcLength dayMicros start.micros stop.micros := by
  have startAt := dayOffset_eq nonneg lt broadcastDate start
  have stopAt := dayOffset_eq nonneg lt broadcastDate stop
  unfold dayOffset at startAt stopAt
  symm
  refine arcLength_unique (by decide) ?_ ?_ ?_ <;>
  · unfold dayMicros at *
    split_ifs <;> omega

/-- **The slots of a zone** are where they should be, and every zone with slots has programs. -/
theorem zoneToSlots_offsets (positive : 0 < gridBlockMinutes) (nonneg : 0 ≤ hour) (lt : hour < 24)
    (z : Zone) {slots : List ScheduleSlot}
    (expanded : zoneToSlots gridBlockMinutes hour broadcastDate (z.directive programs) = .ok slots) :
    slots.map (fun slot => dayOffset hour broadcastDate slot.slotTime) =
        slotOffsets gridBlockMinutes hour z ∧
      (∀ slot ∈ slots, slot.durationSeconds = ((gridBlockMinutes * 60 : ℤ) : ℚ)) ∧
      (programs z = [] → slotCount gridBlockMinutes z = 0) := by
  have length := @arcLength_pos dayMicros z.startTime.micros z.endTime.micros (by decide)
  have count : ((arcLength dayMicros z.startTime.micros z.endTime.micros).tdiv
      (gridBlockMinutes * 60 * 1000000)).toNat = slotCount gridBlockMinutes z := by
    rw [Int.tdiv_eq_ediv_of_nonneg length.le, slotCount, minuteMicros, mul_assoc]
    rfl
  have startAt := dayOffset_eq nonneg lt broadcastDate z.startTime
  unfold zoneToSlots Zone.directive at expanded
  dsimp only at expanded
  rw [if_neg (by omega), window_eq broadcastDate nonneg lt, count] at expanded
  cases listed : programs z with
  | nil =>
    rw [listed] at expanded
    dsimp only at expanded
    split_ifs at expanded with none
    cases expanded
    refine ⟨by rw [slotOffsets, none]; rfl, ?_, fun _ => none⟩
    intro slot mem
    cases mem
  | cons first rest =>
    rw [listed] at expanded
    dsimp only at expanded
    cases expanded
    refine ⟨?_, ?_, fun empty => by cases empty⟩
    · rw [List.map_map, slotOffsets]
      refine List.map_congr_left fun i _ => ?_
      rw [Function.comp_apply, dayOffset_eq nonneg lt]
      unfold dayOffset at startAt
      unfold timeOf minuteMicros
      dsimp only
      have apart : (i : ℤ) * (gridBlockMinutes * 60) * 1000000 =
          i * (gridBlockMinutes * 60000000) := by ring
      rw [apart]
      unfold dayMicros at *
      omega
    · intro slot mem
      obtain ⟨i, _, rfl⟩ := List.mem_map.mp mem
      rfl

/-- A zone with programs has its slots. -/
theorem zoneToSlots_ok (positive : 0 < gridBlockMinutes) (z : Zone) (listed : programs z ≠ []) :
    ∃ slots, zoneToSlots gridBlockMinutes hour broadcastDate (z.directive programs) = .ok slots := by
  obtain ⟨first, rest, isList⟩ := List.exists_cons_of_ne_nil listed
  unfold zoneToSlots Zone.directive
  dsimp only
  rw [if_neg (by omega), isList]
  exact ⟨_, rfl⟩

/-- **The slots of a day's zones**, one zone after the other. -/
theorem expandZones_offsets (positive : 0 < gridBlockMinutes) (nonneg : 0 ≤ hour) (lt : hour < 24)
    {zones : List Zone} {slots : List ScheduleSlot}
    (expanded : expandZones gridBlockMinutes hour broadcastDate
      (zones.map (Zone.directive programs)) = .ok slots) :
    slots.map (fun slot => dayOffset hour broadcastDate slot.slotTime) =
        zones.flatMap (slotOffsets gridBlockMinutes hour) ∧
      (∀ slot ∈ slots, slot.durationSeconds = ((gridBlockMinutes * 60 : ℤ) : ℚ)) ∧
      ∀ z ∈ zones, programs z = [] → slotCount gridBlockMinutes z = 0 := by
  induction zones generalizing slots with
  | nil =>
    cases expanded
    refine ⟨rfl, ?_, ?_⟩ <;>
    · intro _ mem
      cases mem
  | cons z rest ih =>
    rw [List.map_cons, expandZones] at expanded
    cases first : zoneToSlots gridBlockMinutes hour broadcastDate (z.directive programs) with
    | error raised =>
      rw [first] at expanded
      cases expanded
    | ok own =>
      cases later : expandZones gridBlockMinutes hour broadcastDate
          (rest.map (Zone.directive programs)) with
      | error raised =>
        rw [first, later] at expanded
        cases expanded
      | ok others =>
        rw [first, later] at expanded
        cases expanded
        obtain ⟨ownAt, ownLast, ownPrograms⟩ :=
          zoneToSlots_offsets broadcastDate programs positive nonneg lt z first
        obtain ⟨othersAt, othersLast, othersPrograms⟩ := ih later
        refine ⟨by rw [List.map_append, ownAt, othersAt, List.flatMap_cons], ?_, ?_⟩
        · intro slot mem
          rcases List.mem_append.mp mem with here | there
          · exact ownLast slot here
          · exact othersLast slot there
        · intro other mem
          rcases List.mem_cons.mp mem with rfl | there
          · exact ownPrograms
          · exact othersPrograms other there

theorem expandZones_ok (positive : 0 < gridBlockMinutes) {zones : List Zone}
    (listed : ∀ z ∈ zones, programs z ≠ []) :
    ∃ slots, expandZones gridBlockMinutes hour broadcastDate
      (zones.map (Zone.directive programs)) = .ok slots := by
  induction zones with
  | nil => exact ⟨[], rfl⟩
  | cons z rest ih =>
    obtain ⟨own, first⟩ := @zoneToSlots_ok _ hour broadcastDate programs positive z
      (listed z List.mem_cons_self)
    obtain ⟨others, later⟩ := ih fun other mem => listed other (List.mem_cons_of_mem _ mem)
    refine ⟨own ++ others, ?_⟩
    rw [List.map_cons, expandZones, first, later]
    rfl

/-- Whether the slots are the day's grid blocks depends on where they are. -/
theorem slotsTile_iff {slots : List ScheduleSlot} {offsets : List ℤ}
    (areAt : slots.map (fun slot => dayOffset hour broadcastDate slot.slotTime) = offsets)
    (last : ∀ slot ∈ slots, slot.durationSeconds = ((gridBlockMinutes * 60 : ℤ) : ℚ)) :
    SlotsTile gridBlockMinutes hour broadcastDate slots ↔
      (∀ x ∈ offsets, ∃ k, 0 ≤ k ∧ k < minutesOfDay / gridBlockMinutes ∧
        x = k * (gridBlockMinutes * minuteMicros)) ∧
      ∀ k, 0 ≤ k → k < minutesOfDay / gridBlockMinutes →
        offsets.countP (fun x => decide (x = k * (gridBlockMinutes * minuteMicros))) = 1 := by
  subst areAt
  unfold SlotsTile
  simp only [List.countP_map]
  constructor
  · rintro ⟨blocks, once⟩
    refine ⟨?_, once⟩
    intro x mem
    obtain ⟨slot, memSlot, rfl⟩ := List.mem_map.mp mem
    exact (blocks slot memSlot).2
  · rintro ⟨blocks, once⟩
    refine ⟨?_, once⟩
    intro slot mem
    exact ⟨last slot mem, blocks _ (List.mem_map_of_mem mem)⟩

end Slots

/-! ### Zones that tile the day in minutes -/

section Planned

/-- The zones of a day as the validator accepts them: on the grid, and each minute in one of them. -/
structure Planned (gridBlockMinutes hour : ℤ) (zones : List Zone) : Prop where
  positive : 0 < gridBlockMinutes
  divides : gridBlockMinutes ∣ 60
  aligned : ∀ z ∈ zones, gridBlockMinutes ∣ timeToMinutes z.startTime ∧
    gridBlockMinutes ∣ timeToMinutes z.endTime
  tiles : ∀ m, 0 ≤ m → m < minutesOfDay →
    zones.countP (fun z => decide (z.Covers (60 * hour) m)) = 1

/-- The length of a zone in minutes, as it was validated. -/
def Zone.minutes (z : Zone) : ℤ :=
  arcLength minutesOfDay (timeToMinutes z.startTime) (timeToMinutes z.endTime)

theorem Zone.minutes_pos (z : Zone) : 0 < z.minutes := arcLength_pos (by decide)

theorem Zone.minutes_le (z : Zone) : z.minutes ≤ minutesOfDay := arcLength_le (by decide)

variable {gridBlockMinutes hour : ℤ} {zones : List Zone}

theorem dayMicros_eq : dayMicros = minuteMicros * minutesOfDay := by decide

theorem Planned.blocks (planned : Planned gridBlockMinutes hour zones) :
    gridBlockMinutes * (minutesOfDay / gridBlockMinutes) = minutesOfDay :=
  Int.mul_ediv_cancel' (planned.divides.trans (by decide))

/-- Validated lengths are in grid blocks. -/
theorem Planned.dvd_minutes (planned : Planned gridBlockMinutes hour zones) {z : Zone}
    (mem : z ∈ zones) : gridBlockMinutes ∣ z.minutes := by
  obtain ⟨starts, ends⟩ := planned.aligned z mem
  have day : gridBlockMinutes ∣ minutesOfDay := planned.divides.trans (by decide)
  rw [Int.dvd_iff_emod_eq_zero, ← Int.emod_emod_of_dvd _ day, Zone.minutes, arcLength_emod,
    Int.emod_emod_of_dvd _ day]
  exact Int.emod_eq_zero_of_dvd (dvd_sub ends starts)

/-- Two zones of the day with a common minute are one. -/
theorem Planned.eq_of_covers (planned : Planned gridBlockMinutes hour zones) {a b : Zone}
    (memA : a ∈ zones) (memB : b ∈ zones) {m : ℤ} (nonneg : 0 ≤ m) (lt : m < minutesOfDay)
    (inA : a.Covers (60 * hour) m) (inB : b.Covers (60 * hour) m) : a = b :=
  eq_of_countP_one (planned.tiles m nonneg lt) memA memB (decide_eq_true inA) (decide_eq_true inB)

/-- A place after the start of a zone's window is in it while it is before the end. -/
theorem covers_after (z : Zone) (hour : ℤ) {after : ℤ} (nonneg : 0 ≤ after)
    (lt : after < minutesOfDay) :
    z.Covers (60 * hour) ((timeToMinutes z.startTime - 60 * hour + after) % minutesOfDay) ↔
      after < z.minutes := by
  unfold Zone.Covers InArc
  have place : ((timeToMinutes z.startTime - 60 * hour + after) % minutesOfDay + 60 * hour -
      timeToMinutes z.startTime) % minutesOfDay = after := by
    rw [add_sub_assoc, Int.emod_add_emod]
    have apart : timeToMinutes z.startTime - 60 * hour + after +
        (60 * hour - timeToMinutes z.startTime) = after := by ring
    rw [apart, Int.emod_eq_of_lt nonneg lt]
  rw [place]
  rfl

/-- A zone that starts on a minute is as long as validated, up to what its end is off; only a whole day
whose end is late is as good as empty. -/
theorem window_of_whole {z : Zone} (whole : WholeMinute z.startTime) :
    arcLength dayMicros z.startTime.micros z.endTime.micros =
      if z.minutes = minutesOfDay ∧ 0 < excess z.endTime then excess z.endTime
      else minuteMicros * z.minutes + excess z.endTime := by
  obtain ⟨back, on⟩ := excess_bounds z.endTime
  rw [micros_eq z.startTime, micros_eq z.endTime, excess_eq_zero.mpr whole, add_zero, dayMicros_eq,
    arcLength_of_shift (by decide) (by decide) back on]
  rfl

/-- The slots before a number of them are within the window. -/
theorem le_slotCount (positive : 0 < gridBlockMinutes) (z : Zone) (i : ℕ) :
    i ≤ slotCount gridBlockMinutes z ↔
      i * (gridBlockMinutes * minuteMicros) ≤
        arcLength dayMicros z.startTime.micros z.endTime.micros := by
  have fine : 0 < gridBlockMinutes * minuteMicros := mul_pos positive (by decide)
  have pos := @arcLength_pos dayMicros z.startTime.micros z.endTime.micros (by decide)
  rw [slotCount, Int.le_toNat (Int.ediv_nonneg pos.le fine.le), Int.le_ediv_iff_mul_le fine]

/-- A zone that starts on a minute has no slot after its validated end. -/
theorem Planned.slot_lt (planned : Planned gridBlockMinutes hour zones) {z : Zone}
    (whole : WholeMinute z.startTime) {i : ℕ} (slot : i < slotCount gridBlockMinutes z) :
    i * gridBlockMinutes < z.minutes := by
  have within := (le_slotCount planned.positive z (i + 1)).mp slot
  obtain ⟨_, on⟩ := excess_bounds z.endTime
  have pos := z.minutes_pos
  have block := planned.positive
  rw [window_of_whole whole] at within
  have fits : ((i : ℤ) + 1) * (gridBlockMinutes * minuteMicros) <
      minuteMicros * z.minutes + minuteMicros := by
    push_cast at within
    unfold minuteMicros at *
    split_ifs at within <;> omega
  unfold minuteMicros at fits
  nlinarith

/-- Where the slots of a zone are that starts on a minute. -/
theorem slotOffset_of_whole {z : Zone} (whole : WholeMinute z.startTime) (i : ℕ) :
    (z.startTime.micros - hour * hourMicros + i * (gridBlockMinutes * minuteMicros)) % dayMicros =
      minuteMicros *
        ((timeToMinutes z.startTime - 60 * hour + i * gridBlockMinutes) % minutesOfDay) := by
  have hours : hourMicros = minuteMicros * 60 := by decide
  rw [micros_eq, excess_eq_zero.mpr whole, dayMicros_eq, hours,
    ← Int.mul_emod_mul_of_pos _ _ (show 0 < minuteMicros by decide)]
  congr 1
  ring

end Planned

/-! ### Times without seconds -/

section WithoutSeconds

variable {gridBlockMinutes hour : ℤ} {zones : List Zone}

/-- A zone without seconds fills its minutes with slots. -/
theorem Planned.slotCount_of_whole (planned : Planned gridBlockMinutes hour zones) {z : Zone}
    (mem : z ∈ zones) (starts : WholeMinute z.startTime) (ends : WholeMinute z.endTime) :
    slotCount gridBlockMinutes z * gridBlockMinutes = z.minutes := by
  obtain ⟨length, isLength⟩ := planned.dvd_minutes mem
  have fine : 0 < gridBlockMinutes * minuteMicros := mul_pos planned.positive (by decide)
  have nonneg : 0 ≤ length := by
    have pos := z.minutes_pos
    rw [isLength] at pos
    exact (pos_of_mul_pos_right pos planned.positive.le).le
  have window := window_of_whole starts
  rw [excess_eq_zero.mpr ends, if_neg (by omega), add_zero, isLength] at window
  have scaled : minuteMicros * (gridBlockMinutes * length) =
      length * (gridBlockMinutes * minuteMicros) := by ring
  rw [slotCount, window, scaled, Int.mul_ediv_cancel _ fine.ne', Int.toNat_of_nonneg nonneg, isLength,
    mul_comm]

/-- **A zone without seconds** has a slot at the grid blocks of its window, and one at each. -/
theorem Planned.slots_of_whole (planned : Planned gridBlockMinutes hour zones) {z : Zone}
    (hourBlocks : gridBlockMinutes ∣ 60 * hour)
    (mem : z ∈ zones) (starts : WholeMinute z.startTime) (ends : WholeMinute z.endTime) {k : ℤ}
    (nonneg : 0 ≤ k) (lt : k < minutesOfDay / gridBlockMinutes) :
    (slotOffsets gridBlockMinutes hour z).countP
        (fun x => decide (x = k * (gridBlockMinutes * minuteMicros))) =
      if z.Covers (60 * hour) (k * gridBlockMinutes) then 1 else 0 := by
  obtain ⟨first, isFirst⟩ : gridBlockMinutes ∣ timeToMinutes z.startTime - 60 * hour :=
    dvd_sub (planned.aligned z mem).1 hourBlocks
  have fill := planned.slotCount_of_whole mem starts ends
  have blocks := planned.blocks
  have most : (slotCount gridBlockMinutes z : ℤ) ≤ minutesOfDay / gridBlockMinutes := by
    have le := z.minutes_le
    rw [← fill, ← blocks, mul_comm] at le
    exact le_of_mul_le_mul_left le planned.positive
  have inBlocks : ∀ i : ℤ, (timeToMinutes z.startTime - 60 * hour + i * gridBlockMinutes) %
      minutesOfDay = gridBlockMinutes * ((first + i) % (minutesOfDay / gridBlockMinutes)) := by
    intro i
    rw [isFirst, ← Int.mul_emod_mul_of_pos _ _ planned.positive, blocks]
    congr 1
    ring
  have counted : (slotOffsets gridBlockMinutes hour z).countP
      (fun x => decide (x = k * (gridBlockMinutes * minuteMicros))) =
      (List.range (slotCount gridBlockMinutes z)).countP
        (fun i : ℕ => decide ((first + (i : ℤ)) % (minutesOfDay / gridBlockMinutes) = k)) := by
    rw [slotOffsets, List.countP_map]
    refine List.countP_congr fun i _ => ?_
    rw [Function.comp_apply, decide_eq_true_eq, decide_eq_true_eq, slotOffset_of_whole starts, inBlocks]
    have scaled : k * (gridBlockMinutes * minuteMicros) = minuteMicros * (gridBlockMinutes * k) := by
      ring
    rw [scaled, mul_right_inj' (by decide), mul_right_inj' planned.positive.ne']
  rw [counted, countP_around most nonneg lt]
  congr 1
  have place : k * gridBlockMinutes = (timeToMinutes z.startTime - 60 * hour +
      gridBlockMinutes * ((k - first) % (minutesOfDay / gridBlockMinutes))) % minutesOfDay := by
    rw [mul_comm gridBlockMinutes, inBlocks, Int.add_emod_emod, add_sub_cancel,
      Int.emod_eq_of_lt nonneg lt, mul_comm]
  have within : gridBlockMinutes * ((k - first) % (minutesOfDay / gridBlockMinutes)) < minutesOfDay := by
    have below := Int.emod_lt_of_pos (k - first) (nonneg.trans_lt lt)
    calc gridBlockMinutes * ((k - first) % (minutesOfDay / gridBlockMinutes)) <
        gridBlockMinutes * (minutesOfDay / gridBlockMinutes) := by
          exact mul_lt_mul_of_pos_left below planned.positive
      _ = minutesOfDay := blocks
  rw [place, covers_after z hour (mul_nonneg planned.positive.le
    (Int.emod_nonneg _ (nonneg.trans_lt lt).ne')) within, ← fill, mul_comm (slotCount _ z : ℤ)]
  exact propext (mul_lt_mul_iff_right₀ planned.positive).symm

/-- **Zones without seconds are expanded into the grid blocks of the day.** -/
theorem Planned.offsets_of_whole (planned : Planned gridBlockMinutes hour zones)
    (whole : ∀ z ∈ zones, WholeMinute z.startTime ∧ WholeMinute z.endTime) :
    (∀ x ∈ zones.flatMap (slotOffsets gridBlockMinutes hour), ∃ k, 0 ≤ k ∧
        k < minutesOfDay / gridBlockMinutes ∧ x = k * (gridBlockMinutes * minuteMicros)) ∧
      ∀ k, 0 ≤ k → k < minutesOfDay / gridBlockMinutes →
        (zones.flatMap (slotOffsets gridBlockMinutes hour)).countP
          (fun x => decide (x = k * (gridBlockMinutes * minuteMicros))) = 1 := by
  have hourBlocks : gridBlockMinutes ∣ 60 * hour := planned.divides.trans (dvd_mul_right 60 hour)
  have blocks := planned.blocks
  constructor
  · intro x mem
    obtain ⟨z, memZ, memX⟩ := List.mem_flatMap.mp mem
    obtain ⟨i, _, rfl⟩ := List.mem_map.mp memX
    obtain ⟨first, isFirst⟩ : gridBlockMinutes ∣ timeToMinutes z.startTime - 60 * hour :=
      dvd_sub (planned.aligned z memZ).1 hourBlocks
    have some' : 0 < minutesOfDay / gridBlockMinutes :=
      Int.ediv_pos_of_pos_of_dvd (by decide) planned.positive.le (planned.divides.trans (by decide))
    refine ⟨(first + i) % (minutesOfDay / gridBlockMinutes), Int.emod_nonneg _ some'.ne',
      Int.emod_lt_of_pos _ some', ?_⟩
    have moved : gridBlockMinutes * first + i * gridBlockMinutes = gridBlockMinutes * (first + i) := by
      ring
    rw [slotOffset_of_whole (whole z memZ).1, isFirst, moved]
    nth_rewrite 1 [← blocks]
    rw [Int.mul_emod_mul_of_pos _ _ planned.positive]
    ring
  · intro k nonneg lt
    have inDay : 0 ≤ k * gridBlockMinutes ∧ k * gridBlockMinutes < minutesOfDay := by
      refine ⟨mul_nonneg nonneg planned.positive.le, ?_⟩
      rw [← blocks, mul_comm]
      exact mul_lt_mul_of_pos_left lt planned.positive
    rw [← planned.tiles (k * gridBlockMinutes) inDay.1 inDay.2]
    have each := fun z mem => planned.slots_of_whole hourBlocks mem (whole z mem).1 (whole z mem).2
      nonneg lt
    clear planned whole
    induction zones with
    | nil => rfl
    | cons z rest ih =>
      rw [List.flatMap_cons, List.countP_append, List.countP_cons, each z List.mem_cons_self,
        ih fun other mem => each other (List.mem_cons_of_mem _ mem), add_comm]
      simp only [decide_eq_true_eq]

/-- **Zones without seconds tile the instants of the day.** -/
theorem Planned.instants_of_whole (planned : Planned gridBlockMinutes hour zones)
    (whole : ∀ z ∈ zones, WholeMinute z.startTime ∧ WholeMinute z.endTime) :
    InstantsTile hour zones := by
  intro x nonneg lt
  have inDay : 0 ≤ x / minuteMicros ∧ x / minuteMicros < minutesOfDay := by
    unfold minuteMicros minutesOfDay dayMicros at *
    omega
  rw [← planned.tiles (x / minuteMicros) inDay.1 inDay.2]
  refine List.countP_congr fun z mem => ?_
  rw [decide_eq_true_eq, decide_eq_true_eq]
  have starts := excess_eq_zero.mpr (whole z mem).1
  have ends := excess_eq_zero.mpr (whole z mem).2
  have hours : hourMicros = minuteMicros * 60 := by decide
  have place : x + hour * hourMicros =
      minuteMicros * (x / minuteMicros + 60 * hour) + x % minuteMicros := by
    have division := Int.emod_add_mul_ediv x minuteMicros
    rw [hours]
    linear_combination -division
  rw [Zone.CoversInstant, Zone.Covers, wallMicros_of_nonneg starts.ge, wallMicros_of_nonneg ends.ge,
    micros_eq z.startTime, micros_eq z.endTime, starts, ends, add_zero, add_zero, dayMicros_eq, place]
  exact inArc_mul (by decide) (Int.emod_nonneg _ (by decide)) (Int.emod_lt_of_pos _ (by decide))

end WithoutSeconds

/-! ### What tiling says of the times -/

section Tiling

variable {gridBlockMinutes hour : ℤ} {zones : List Zone}

/-- A zone that has a slot on the grid starts on a minute. -/
theorem whole_of_slot {z : Zone} {i : ℕ} {k : ℤ}
    (onGrid : (z.startTime.micros - hour * hourMicros + i * (gridBlockMinutes * minuteMicros)) %
      dayMicros = k * (gridBlockMinutes * minuteMicros)) : WholeMinute z.startTime := by
  have hours : minuteMicros ∣ hour * hourMicros := dvd_mul_of_dvd_right (by decide) _
  have grid : ∀ n : ℤ, minuteMicros ∣ n * (gridBlockMinutes * minuteMicros) :=
    fun n => dvd_mul_of_dvd_right (dvd_mul_left _ _) _
  have rest : minuteMicros ∣ z.startTime.micros - hour * hourMicros +
      i * (gridBlockMinutes * minuteMicros) := by
    rw [Int.dvd_iff_emod_eq_zero,
      ← Int.emod_emod_of_dvd _ (show minuteMicros ∣ dayMicros by decide), onGrid]
    exact Int.emod_eq_zero_of_dvd (grid k)
  have start : minuteMicros ∣ z.startTime.micros := by
    have apart : z.startTime.micros = (z.startTime.micros - hour * hourMicros +
        i * (gridBlockMinutes * minuteMicros)) - i * (gridBlockMinutes * minuteMicros) +
          hour * hourMicros := by ring
    rw [apart]
    exact dvd_add (dvd_sub rest (grid i)) hours
  exact Int.emod_eq_zero_of_dvd start

/-- **The slot at a grid block of a zone's window is the zone's own**, and the zone starts on a
minute. -/
theorem Planned.own_slot (planned : Planned gridBlockMinutes hour zones)
    (once : ∀ k, 0 ≤ k → k < minutesOfDay / gridBlockMinutes →
      (zones.flatMap (slotOffsets gridBlockMinutes hour)).countP
        (fun x => decide (x = k * (gridBlockMinutes * minuteMicros))) = 1)
    {z : Zone} (mem : z ∈ zones) {after : ℤ} (onGrid : gridBlockMinutes ∣ after) (nonneg : 0 ≤ after)
    (before : after < z.minutes) :
    WholeMinute z.startTime ∧
      ∃ i : ℕ, i < slotCount gridBlockMinutes z ∧ i * gridBlockMinutes = after := by
  have blocks := planned.blocks
  have inDay : after < minutesOfDay := before.trans_le z.minutes_le
  have hourBlocks : gridBlockMinutes ∣ 60 * hour := planned.divides.trans (dvd_mul_right 60 hour)
  obtain ⟨k, isBlock⟩ : gridBlockMinutes ∣
      (timeToMinutes z.startTime - 60 * hour + after) % minutesOfDay := by
    have day : gridBlockMinutes ∣ minutesOfDay := planned.divides.trans (by decide)
    exact (EuclideanDomain.dvd_mod_iff day).mpr
      (dvd_add (dvd_sub (planned.aligned z mem).1 hourBlocks) onGrid)
  have minuteNonneg : 0 ≤ (timeToMinutes z.startTime - 60 * hour + after) % minutesOfDay :=
    Int.emod_nonneg _ (by decide)
  have minuteLt : (timeToMinutes z.startTime - 60 * hour + after) % minutesOfDay < minutesOfDay :=
    Int.emod_lt_of_pos _ (by decide)
  have kNonneg : 0 ≤ k := by
    rw [isBlock] at minuteNonneg
    exact nonneg_of_mul_nonneg_right minuteNonneg planned.positive
  have kLt : k < minutesOfDay / gridBlockMinutes := by
    rw [isBlock, ← blocks] at minuteLt
    exact lt_of_mul_lt_mul_left minuteLt planned.positive.le
  -- the zone whose slot is there has that minute, as this one has
  obtain ⟨x, memX, isX⟩ := List.countP_pos_iff.mp ((once k kNonneg kLt).symm ▸ Nat.one_pos)
  obtain ⟨other, memOther, slot⟩ := List.mem_flatMap.mp memX
  obtain ⟨i, inRange, isAt⟩ := List.mem_map.mp slot
  have isSlot := List.mem_range.mp inRange
  rw [← isAt, decide_eq_true_eq] at isX
  have whole := whole_of_slot isX
  have before' := planned.slot_lt whole isSlot
  have inDay' : i * gridBlockMinutes < minutesOfDay := before'.trans_le other.minutes_le
  have nonneg' : 0 ≤ i * gridBlockMinutes := mul_nonneg (by omega) planned.positive.le
  have same : (timeToMinutes other.startTime - 60 * hour + i * gridBlockMinutes) % minutesOfDay =
      (timeToMinutes z.startTime - 60 * hour + after) % minutesOfDay := by
    rw [slotOffset_of_whole whole] at isX
    rw [isBlock]
    have scaled : k * (gridBlockMinutes * minuteMicros) = minuteMicros * (gridBlockMinutes * k) := by
      ring
    rw [scaled] at isX
    exact mul_left_cancel₀ (by decide) isX
  have inOther := (covers_after other hour nonneg' inDay').mpr before'
  rw [same] at inOther
  have isOwn : other = z := planned.eq_of_covers memOther mem minuteNonneg minuteLt inOther
    ((covers_after z hour nonneg inDay).mpr before)
  subst isOwn
  refine ⟨whole, i, isSlot, ?_⟩
  have apart := Int.emod_emod_of_dvd (i * gridBlockMinutes - after) (dvd_refl minutesOfDay)
  have noTurn : (i * gridBlockMinutes - after) % minutesOfDay = 0 := by
    have difference := Int.emod_eq_emod_iff_emod_sub_eq_zero.mp same
    rwa [add_sub_add_left_eq_sub] at difference
  unfold minutesOfDay at *
  omega

/-- **A zone whose blocks are all there** starts on a minute and does not end early. -/
theorem Planned.ends_of_tiles (planned : Planned gridBlockMinutes hour zones)
    (once : ∀ k, 0 ≤ k → k < minutesOfDay / gridBlockMinutes →
      (zones.flatMap (slotOffsets gridBlockMinutes hour)).countP
        (fun x => decide (x = k * (gridBlockMinutes * minuteMicros))) = 1)
    {z : Zone} (mem : z ∈ zones) :
    WholeMinute z.startTime ∧ 0 < slotCount gridBlockMinutes z ∧ 0 ≤ excess z.endTime ∧
      ¬ (z.minutes = minutesOfDay ∧ 0 < excess z.endTime) := by
  have dvd := planned.dvd_minutes mem
  have le : gridBlockMinutes ≤ z.minutes := Int.le_of_dvd z.minutes_pos dvd
  obtain ⟨whole, i, isSlot, isLast⟩ := planned.own_slot once mem (dvd_sub dvd (dvd_refl _))
    (sub_nonneg.mpr le) (sub_lt_self _ planned.positive)
  have within := (le_slotCount planned.positive z (i + 1)).mp isSlot
  have all : ((i + 1 : ℕ) : ℤ) * (gridBlockMinutes * minuteMicros) = minuteMicros * z.minutes := by
    push_cast
    linear_combination minuteMicros * isLast
  have long : minuteMicros * gridBlockMinutes ≤ minuteMicros * z.minutes :=
    mul_le_mul_of_nonneg_left le (by decide)
  have minute : minuteMicros * 1 ≤ minuteMicros * gridBlockMinutes :=
    mul_le_mul_of_nonneg_left planned.positive (by decide)
  obtain ⟨_, on⟩ := excess_bounds z.endTime
  rw [all, window_of_whole whole] at within
  refine ⟨whole, by omega, ?_, ?_⟩
  · split_ifs at within <;> omega
  · intro late
    rw [if_pos late] at within
    omega

/-- The instants of a zone that starts on a minute and does not end early, at the full minutes. -/
theorem coversInstant_of_whole {z : Zone} (whole : WholeMinute z.startTime)
    (notEarly : 0 ≤ excess z.endTime) (notLate : ¬ (z.minutes = minutesOfDay ∧ 0 < excess z.endTime))
    (m : ℤ) :
    z.CoversInstant hour (minuteMicros * m) ↔
      minuteMicros * ((m + 60 * hour - timeToMinutes z.startTime) % minutesOfDay) <
        minuteMicros * z.minutes + excess z.endTime := by
  have hours : hourMicros = minuteMicros * 60 := by decide
  have starts := excess_eq_zero.mpr whole
  have place : minuteMicros * m + hour * hourMicros - z.startTime.micros =
      minuteMicros * (m + 60 * hour - timeToMinutes z.startTime) := by
    rw [micros_eq, starts, hours]
    ring
  have window := window_of_whole whole
  rw [if_neg notLate] at window
  rw [Zone.CoversInstant, InArc, wallMicros_of_nonneg starts.ge, wallMicros_of_nonneg notEarly, place,
    window, dayMicros_eq, Int.mul_emod_mul_of_pos _ _ (by decide)]

/-- **Zones whose slots and windows both tile the day** have no seconds, and each has a slot. -/
theorem Planned.whole_of_tiles (planned : Planned gridBlockMinutes hour zones)
    (once : ∀ k, 0 ≤ k → k < minutesOfDay / gridBlockMinutes →
      (zones.flatMap (slotOffsets gridBlockMinutes hour)).countP
        (fun x => decide (x = k * (gridBlockMinutes * minuteMicros))) = 1)
    (instants : InstantsTile hour zones) {z : Zone} (mem : z ∈ zones) :
    WholeMinute z.startTime ∧ WholeMinute z.endTime ∧ 0 < slotCount gridBlockMinutes z := by
  obtain ⟨whole, some', notEarly, notLate⟩ := planned.ends_of_tiles once mem
  refine ⟨whole, ?_, some'⟩
  rw [← excess_eq_zero]
  by_contra seconds
  have late : 0 < excess z.endTime := lt_of_le_of_ne notEarly (Ne.symm seconds)
  have short : z.minutes < minutesOfDay :=
    lt_of_le_of_ne z.minutes_le fun day => notLate ⟨day, late⟩
  -- the minute after the zone is in another one, and its first instant in both
  let m := (timeToMinutes z.startTime - 60 * hour + z.minutes) % minutesOfDay
  have mNonneg : 0 ≤ m := Int.emod_nonneg _ (by decide)
  have mLt : m < minutesOfDay := Int.emod_lt_of_pos _ (by decide)
  have outside : ¬ z.Covers (60 * hour) m := by
    rw [covers_after z hour z.minutes_pos.le short]
    exact lt_irrefl _
  obtain ⟨other, memOther, isIn⟩ :=
    List.countP_pos_iff.mp ((planned.tiles m mNonneg mLt).symm ▸ Nat.one_pos)
  rw [decide_eq_true_eq] at isIn
  obtain ⟨wholeOther, _, notEarlyOther, notLateOther⟩ := planned.ends_of_tiles once memOther
  have inOther : other.CoversInstant hour (minuteMicros * m) := by
    rw [coversInstant_of_whole wholeOther notEarlyOther notLateOther]
    have scaled : minuteMicros * ((m + 60 * hour - timeToMinutes other.startTime) % minutesOfDay) <
        minuteMicros * other.minutes := mul_lt_mul_of_pos_left isIn (by decide)
    omega
  have inOwn : z.CoversInstant hour (minuteMicros * m) := by
    rw [coversInstant_of_whole whole notEarly notLate]
    have place : (m + 60 * hour - timeToMinutes z.startTime) % minutesOfDay = z.minutes := by
      have apart : timeToMinutes z.startTime - 60 * hour + z.minutes +
          (60 * hour - timeToMinutes z.startTime) = z.minutes := by ring
      rw [add_sub_assoc, Int.emod_add_emod, apart, Int.emod_eq_of_lt z.minutes_pos.le short]
    rw [place]
    omega
  have inDay : minuteMicros * m < dayMicros := by
    rw [dayMicros_eq]
    exact mul_lt_mul_of_pos_left mLt (by decide)
  have same : z = other := eq_of_countP_one (instants _ (mul_nonneg (by decide) mNonneg) inDay) mem
    memOther (decide_eq_true inOwn) (decide_eq_true inOther)
  rw [same] at outside
  exact outside isIn

end Tiling

/-! ### The agreement -/

section Agreement

/-- The zones of a day of an accepted plan. -/
theorem planned_of_accepted {gridBlockMinutes : ℤ} {hour : ℕ} (lt : hour < 24)
    {checker : Option (String → Bool × String)} {zones : List Zone}
    (positive : 0 < gridBlockMinutes) (divides : gridBlockMinutes ∣ 60)
    (accepted : validateZonePlanIntegrity (hourTime hour lt) (some gridBlockMinutes) checker zones =
      .ok ())
    {day : Day} (planned : activeOn day zones ≠ []) :
    Planned gridBlockMinutes hour (activeOn day zones) := by
  obtain ⟨aligned, apart, covered, _⟩ := (validate_ok_iff _ _ _ _).mp accepted
  have start : timeToMinutes (hourTime hour lt) = 60 * hour := by
    have whole : WholeMinute (hourTime hour lt) := by
      unfold WholeMinute hourTime hourMicros minuteMicros
      dsimp only
      omega
    have micros : (hourTime hour lt).micros = hour * hourMicros := rfl
    rw [micros_eq, excess_eq_zero.mpr whole] at micros
    unfold hourMicros minuteMicros at micros
    omega
  rw [start] at apart covered
  refine ⟨positive, divides, ?_, fun m nonneg lt => validate_tiles apart covered planned nonneg lt⟩
  intro z mem
  obtain ⟨_, starts, ends, _⟩ := aligned _ rfl z (List.mem_filter.mp mem).1
  exact ⟨starts, ends⟩

/-- **Validation and expansion agree** on a day of an accepted plan, its slots being the grid blocks of
the programming day and its windows meeting every instant once, exactly when no time of its zones has
seconds and every zone has programs. -/
theorem zones_agree_iff {gridBlockMinutes : ℤ} {hour : ℕ} (lt : hour < 24)
    {checker : Option (String → Bool × String)} {zones : List Zone}
    (positive : 0 < gridBlockMinutes) (divides : gridBlockMinutes ∣ 60)
    (accepted : validateZonePlanIntegrity (hourTime hour lt) (some gridBlockMinutes) checker zones =
      .ok ())
    {day : Day} (planned : activeOn day zones ≠ []) (programs : Zone → List ProgramRef)
    (broadcastDate : Date) :
    ((∃ slots, expandZones gridBlockMinutes hour broadcastDate
          ((activeOn day zones).map (Zone.directive programs)) = .ok slots ∧
        SlotsTile gridBlockMinutes hour broadcastDate slots) ∧
      InstantsTile hour (activeOn day zones)) ↔
      ∀ z ∈ activeOn day zones,
        WholeMinute z.startTime ∧ WholeMinute z.endTime ∧ programs z ≠ [] := by
  have tiled := planned_of_accepted lt positive divides accepted planned
  have hourNonneg : (0 : ℤ) ≤ hour := by omega
  have hourLt : (hour : ℤ) < 24 := by omega
  constructor
  · rintro ⟨⟨slots, expanded, tile⟩, instants⟩ z mem
    obtain ⟨areAt, last, listed⟩ :=
      expandZones_offsets broadcastDate programs positive hourNonneg hourLt expanded
    have once := ((slotsTile_iff broadcastDate areAt last).mp tile).2
    obtain ⟨starts, ends, some'⟩ := tiled.whole_of_tiles once instants mem
    refine ⟨starts, ends, fun empty => ?_⟩
    rw [listed z mem empty] at some'
    exact absurd some' (lt_irrefl 0)
  · intro whole
    obtain ⟨slots, expanded⟩ := @expandZones_ok _ (hour : ℤ) broadcastDate programs positive _
      fun z mem => (whole z mem).2.2
    obtain ⟨areAt, last, _⟩ :=
      expandZones_offsets broadcastDate programs positive hourNonneg hourLt expanded
    have noSeconds : ∀ z ∈ activeOn day zones, WholeMinute z.startTime ∧ WholeMinute z.endTime :=
      fun z mem => ⟨(whole z mem).1, (whole z mem).2.1⟩
    exact ⟨⟨slots, expanded, (slotsTile_iff broadcastDate areAt last).mpr
      (tiled.offsets_of_whole noSeconds)⟩, tiled.instants_of_whole noSeconds⟩

/-- Two zones, the first of which goes past midnight, from 06:00 on. -/
def nightAndDay : List Zone :=
  [{ id := 1, planId := 1, name := "Day", startTime := hourTime 6 (by decide),
      endTime := hourTime 2 (by decide) },
    { id := 2, planId := 1, name := "Night", startTime := hourTime 2 (by decide),
      endTime := hourTime 6 (by decide) }]

/-- A program. -/
def cartoons : ProgramRef := ⟨.program, "cartoons"⟩

/-- They are accepted on the half-hour grid, have no seconds, and become the blocks of any date. -/
theorem zones_agree_iff_night :
    (∃ slots, expandZones 30 (6 : ℕ) 739000
          ((activeOn .MON nightAndDay).map (Zone.directive fun _ => [cartoons])) = .ok slots ∧
        SlotsTile 30 (6 : ℕ) 739000 slots) ∧
      InstantsTile (6 : ℕ) (activeOn .MON nightAndDay) :=
  (@zones_agree_iff 30 6 (by decide) none nightAndDay (by decide) (by decide) rfl .MON (by decide)
    (fun _ => [cartoons]) 739000).mpr (by decide)

/-- The whole day as one zone. -/
def wholeDay : List Zone :=
  [{ id := 1, planId := 1, name := "All", startTime := hourTime 0 (by decide), endTime := endOfDay }]

/-- It is accepted, and its last half hour gets no slot. -/
theorem zones_disagree :
    validateZonePlanIntegrity (hourTime 0 (by decide)) (some 30) none wholeDay = .ok () ∧
      ∃ slots, expandZones 30 (0 : ℕ) 739000
          ((activeOn .MON wholeDay).map (Zone.directive fun _ => [cartoons])) = .ok slots ∧
        slots.length = 47 ∧ ¬ SlotsTile 30 (0 : ℕ) 739000 slots := by
  refine ⟨rfl, _, rfl, by decide, ?_⟩
  rintro ⟨_, once⟩
  exact absurd (once 47 (by decide) (by decide)) (by decide)

end Agreement

end Retrovue.Core.Zones
