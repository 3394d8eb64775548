/-
**Schedule types** (`runtime/schedule_types.py`) and the calendar they live on.

* `Date`, `TimeOfDay`: civil dates and times of day; a naive `datetime` is an `Int`, in microseconds
  from ordinal zero;
* `timedeltaSeconds`: a span given in seconds, rounded to microseconds as `timedelta` rounds;
* `ScheduleSlot`, `Program`, `ResolvedSlot`, `ProgramEvent`, `ResolvedScheduleDay`: the schedule
  before and after resolution;
* `slotToDatetime`: a slot time before the day's start hour belongs to the next calendar day.

Seconds that the source holds in floats are rationals here.
-/

import Mathlib

namespace Retrovue.Core.Schedule

/-! ### Civil time -/

section Calendar

/-- A date, by its proleptic ordinal. -/
abbrev Date := Int

/-- The microseconds of a day. -/
def dayMicros : Int := 86400 * 1000000

/-- The microseconds of an hour. -/
def hourMicros : Int := 3600 * 1000000

/-- `datetime.time`: microseconds since midnight. -/
structure TimeOfDay where
  micros : Int
  nonneg : 0 ≤ micros
  lt_day : micros < dayMicros
  deriving DecidableEq

/-- `time.hour`. -/
def TimeOfDay.hour (time : TimeOfDay) : Int := time.micros / hourMicros

/-- `datetime.combine`. -/
def combine (date : Date) (time : TimeOfDay) : Int := date * dayMicros + time.micros

/-- `datetime.date()`. -/
def dateOf (t : Int) : Date := t / dayMicros

/-- A number with leading zeros. -/
def zeroPad (width n : Nat) : String :=
  String.ofList (List.replicate (width - n.repr.length) '0') ++ n.repr

/-- `date.isoformat`: the civil year, month and day of an ordinal, counted from 1 March. -/
def isoformat (date : Date) : String :=
  let day := date + 305
  let era := day / 146097
  let dayOfEra := day % 146097
  let yearOfEra := (dayOfEra - dayOfEra / 1460 + dayOfEra / 36524 - dayOfEra / 146096) / 365
  let dayOfYear := dayOfEra - (365 * yearOfEra + yearOfEra / 4 - yearOfEra / 100)
  let shifted := (5 * dayOfYear + 2) / 153
  let month := if shifted < 10 then shifted + 3 else shifted - 9
  let year := yearOfEra + era * 400 + if month ≤ 2 then 1 else 0
  zeroPad 4 year.toNat ++ "-" ++ zeroPad 2 month.toNat ++ "-" ++
    zeroPad 2 (dayOfYear - (153 * shifted + 2) / 5 + 1).toNat

example : isoformat 739000 = "2024-04-24" := by decide

/-- The epoch, in microseconds from ordinal zero. -/
def epochMicros : Int := 719163 * dayMicros

/-- `int(utc_dt.timestamp() * 1000)`, which truncates towards zero. -/
def utcMs (t : Int) : Int := (t - epochMicros).tdiv 1000

/-- Rounding to the nearest integer, halves to the even one. -/
def roundHalfEven (q : ℚ) : Int :=
  let floor := q.floor
  let rest := q - floor
  if rest < 1 / 2 then floor
  else if 1 / 2 < rest then floor + 1
  else if floor % 2 = 0 then floor
  else floor + 1

/-- `timedelta(seconds=…)`, in microseconds. -/
def timedeltaSeconds (seconds : ℚ) : Int := roundHalfEven (seconds * 1000000)

/-- A rounded value is at least every integer that the value is at least. -/
theorem le_roundHalfEven {n : Int} {q : ℚ} (le : (n : ℚ) ≤ q) : n ≤ roundHalfEven q := by
  have floored : n ≤ q.floor := Rat.le_floor_iff.mpr le
  unfold roundHalfEven
  dsimp only
  split
  · exact floored
  · split
    · omega
    · split <;> omega

/-- A rounded integer is that integer. -/
@[simp] theorem roundHalfEven_intCast (n : Int) : roundHalfEven (n : ℚ) = n := by
  unfold roundHalfEven
  dsimp only
  rw [Rat.floor_intCast, if_pos (by norm_num)]

theorem timedeltaSeconds_intCast (n : Int) : timedeltaSeconds (n : ℚ) = n * 1000000 := by
  unfold timedeltaSeconds
  have cast : (n : ℚ) * 1000000 = ((n * 1000000 : Int) : ℚ) := by push_cast; ring
  rw [cast, roundHalfEven_intCast]

end Calendar

/-! ### Programs, slots and resolved days -/

section Types

/-- `ProgramRefType`. -/
inductive ProgramRefType
  | program
  | asset
  | file
  deriving DecidableEq, Repr

/-- `ProgramRef`. -/
structure ProgramRef where
  refType : ProgramRefType
  refId : String
  deriving DecidableEq, Repr

/-- `ScheduleSlot`. -/
structure ScheduleSlot where
  slotTime : TimeOfDay
  programRef : ProgramRef
  durationSeconds : ℚ
  label : String := ""
  deriving DecidableEq

/-- `Episode`. -/
structure Episode where
  episodeId : String
  title : String
  filePath : String
  durationSeconds : ℚ
  deriving DecidableEq

/-- `Program`; `playMode` is the source's string. -/
structure Program where
  programId : String
  name : String
  playMode : String
  episodes : List Episode
  deriving DecidableEq

/-- `ResolvedAsset`. -/
structure ResolvedAsset where
  filePath : String
  assetId : Option String := none
  title : String := ""
  episodeTitle : Option String := none
  episodeId : Option String := none
  contentDurationSeconds : ℚ := 0
  deriving DecidableEq

/-- `ResolvedSlot`. -/
structure ResolvedSlot where
  slotTime : TimeOfDay
  programRef : ProgramRef
  resolvedAsset : ResolvedAsset
  durationSeconds : ℚ
  label : String := ""
  deriving DecidableEq

/-- `ProgramEvent`: a single scheduled airing. -/
structure ProgramEvent where
  id : String
  programId : String
  episodeId : String
  startUtcMs : Int
  durationMs : Int
  blockSpanCount : Int
  resolvedAsset : Option ResolvedAsset := none
  deriving DecidableEq

/-- `ResolvedScheduleDay`. -/
structure ResolvedScheduleDay where
  programmingDayDate : Date
  resolvedSlots : List ResolvedSlot
  resolutionTimestamp : Int
  programEvents : List ProgramEvent
  deriving DecidableEq

/-- `EPGEvent`. -/
structure EPGEvent where
  channelId : String
  startTime : Int
  endTime : Int
  title : String
  episodeTitle : Option String
  episodeId : Option String
  resolvedAsset : ResolvedAsset
  programmingDayDate : Date
  deriving DecidableEq

/-- `_slot_to_datetime`: a slot before the day's start hour belongs to the next calendar day. -/
def slotToDatetime (programmingDayStartHour : Int) (programmingDayDate : Date)
    (slotTime : TimeOfDay) : Int :=
  if slotTime.hour < programmingDayStartHour then combine programmingDayDate slotTime + dayMicros
  else combine programmingDayDate slotTime

end Types

end Retrovue.Core.Schedule
