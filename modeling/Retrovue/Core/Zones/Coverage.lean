/-
**Zones of a plan and their validation** (`usecases/zone_coverage_check.py`).

* `Zone`: a named window of the broadcast day, on some days of the week;
* `checkGridAlignment`, `checkOverlap`, `checkCoverage`, `checkAssetEligibility`: the four checks, with
  the texts of their violations;
* `GridAligned`, `NoOverlap`, `FullCoverage`: what they are for, minute by minute;
* `validate_ok_iff`: the validator accepts exactly the plans with these properties;
* `validate_tiles`: in an accepted plan every minute of a planned day is in exactly one zone.
-/

import Mathlib
import Retrovue.Foundation.Sorting
import Retrovue.Foundation.Arcs
import Retrovue.Core.Schedule.Types

namespace Retrovue.Core.Zones

open Retrovue.Foundation.Sorting Retrovue.Foundation.Arcs Retrovue.Core.Schedule

/-! ### Times and zones -/

section Types

/-- `time.minute`. -/
def minuteOf (t : TimeOfDay) : ℤ := t.micros / 60000000 % 60

/-- `time.second`. -/
def secondOf (t : TimeOfDay) : ℤ := t.micros / 1000000 % 60

/-- `END_OF_DAY`: 24:00 is stored as 23:59:59.999999. -/
def endOfDay : TimeOfDay := ⟨dayMicros - 1, by decide, by decide⟩

/-- The full hour. -/
def hourTime (hour : ℕ) (lt : hour < 24) : TimeOfDay where
  micros := hour * hourMicros
  nonneg := by unfold hourMicros; omega
  lt_day := by unfold hourMicros dayMicros; omega

/-- The broadcast days, in the order of their names. -/
inductive Day where
  | FRI
  | MON
  | SAT
  | SUN
  | THU
  | TUE
  | WED
  deriving DecidableEq

/-- `ALL_DAYS`, sorted. -/
def allDays : List Day := [.FRI, .MON, .SAT, .SUN, .THU, .TUE, .WED]

theorem mem_allDays (day : Day) : day ∈ allDays := by
  cases day <;> decide

instance : Fintype Day where
  elems := allDays.toFinset
  complete := fun day => List.mem_toFinset.mpr (mem_allDays day)

def Day.name : Day → String
  | .FRI => "FRI"
  | .MON => "MON"
  | .SAT => "SAT"
  | .SUN => "SUN"
  | .THU => "THU"
  | .TUE => "TUE"
  | .WED => "WED"

/-- `Zone`; an id is the number of its UUID. -/
structure Zone where
  id : ℕ
  planId : ℕ
  name : String
  startTime : TimeOfDay
  endTime : TimeOfDay
  schedulableAssets : List String := []
  dayFilters : Option (List Day) := none
  enabled : Bool := true
  effectiveStart : Option Date := none
  effectiveEnd : Option Date := none
  dstPolicy : Option String := none
  deriving DecidableEq

/-- What the use cases raise. -/
inductive ZoneError where
  | valueError (message : String)
  | zeroDivisionError
  deriving DecidableEq

end Types

/-! ### The checks -/

section Checks

/-- `_DAY_MINUTES`. -/
def minutesOfDay : ℤ := 1440

/-- `_time_to_minutes`. -/
def timeToMinutes (t : TimeOfDay) : ℤ :=
  if t = endOfDay then minutesOfDay
  else t.hour * 60 + minuteOf t + if 30 ≤ secondOf t then 1 else 0

/-- `_normalize_intervals`. -/
def normalizeIntervals (rawStart rawEnd pdsMin : ℤ) : List (ℤ × ℤ) :=
  let s := (rawStart - pdsMin) % minutesOfDay
  let e' := (rawEnd - pdsMin) % minutesOfDay
  let e := if e' = 0 then minutesOfDay else e'
  if s < e then [(s, e)]
  else (if s < minutesOfDay then [(s, minutesOfDay)] else []) ++ if e > 0 then [(0, e)] else []

/-- The intervals of a zone. -/
def Zone.intervals (pdsMin : ℤ) (z : Zone) : List (ℤ × ℤ) :=
  normalizeIntervals (timeToMinutes z.startTime) (timeToMinutes z.endTime) pdsMin

/-- `_effective_days`. -/
def effectiveDays (z : Zone) : Finset Day :=
  match z.dayFilters with
  | none | some [] => Finset.univ
  | some days => days.toFinset

/-- `_days_overlap`. -/
def daysOverlap (a b : Zone) : Finset Day := effectiveDays a ∩ effectiveDays b

/-- `_interval_pair_overlap`. -/
def intervalPairOverlap (a b : ℤ × ℤ) : Option (ℤ × ℤ) :=
  let lo := max a.1 b.1
  let hi := min a.2 b.2
  if lo < hi then some (lo, hi) else none

/-- `HH:MM`. -/
def minutesToHhmm (m : ℤ) : String := zeroPad 2 (m / 60).toNat ++ ":" ++ zeroPad 2 (m % 60).toNat

/-- `_norm_to_wall`. -/
def normToWall (normMin pdsMin : ℤ) : String :=
  let wall := if normMin = minutesOfDay then pdsMin % minutesOfDay else (normMin + pdsMin) % minutesOfDay
  if normMin = minutesOfDay ∧ wall = 0 then "24:00" else minutesToHhmm wall

/-- The enabled zones. -/
def active (zones : List Zone) : List Zone := zones.filter Zone.enabled

/-- `check_overlap` of two zones. -/
def pairViolations (pdsMin : ℤ) (a b : Zone) : List String :=
  if daysOverlap a b = ∅ then []
  else (a.intervals pdsMin).flatMap fun i => (b.intervals pdsMin).filterMap fun j =>
    (intervalPairOverlap i j).map fun hit =>
      "INV-PLAN-NO-ZONE-OVERLAP-001-VIOLATED: zones '" ++ a.name ++ "' and '" ++ b.name ++
        "' overlap [" ++ normToWall hit.1 pdsMin ++ "-" ++ normToWall hit.2 pdsMin ++ "] on days [" ++
        ",".intercalate ((allDays.filter (· ∈ daysOverlap a b)).map Day.name) ++ "]"

/-- `check_overlap` of each zone with those after it. -/
def overlaps (pdsMin : ℤ) : List Zone → List String
  | [] => []
  | a :: rest => rest.flatMap (pairViolations pdsMin a) ++ overlaps pdsMin rest

/-- `check_overlap`. -/
def checkOverlap (programmingDayStart : TimeOfDay) (zones : List Zone) : List String :=
  overlaps (timeToMinutes programmingDayStart) (active zones)

/-- The intervals merged from the last one on. -/
def mergeFrom : ℤ × ℤ → List (ℤ × ℤ) → List (ℤ × ℤ)
  | last, [] => [last]
  | last, (s, e) :: rest =>
    if s ≤ last.2 then mergeFrom (last.1, max last.2 e) rest else last :: mergeFrom (s, e) rest

/-- The report of a gap. -/
def gapOn (pdsMin : ℤ) (day : Day) (lo hi : ℤ) : String :=
  "INV-PLAN-FULL-COVERAGE-001-VIOLATED: gap on " ++ day.name ++ " [" ++ normToWall lo pdsMin ++ "-" ++
    normToWall hi pdsMin ++ "]"

/-- The gaps after the first merged interval. -/
def gapsAfter (pdsMin : ℤ) (day : Day) : ℤ × ℤ → List (ℤ × ℤ) → List String
  | last, [] => if last.2 < minutesOfDay then [gapOn pdsMin day last.2 minutesOfDay] else []
  | last, next :: rest =>
    (if last.2 < next.1 then [gapOn pdsMin day last.2 next.1] else []) ++
      gapsAfter pdsMin day next rest

/-- The gaps between merged intervals. -/
def gaps (pdsMin : ℤ) (day : Day) : List (ℤ × ℤ) → List String
  | [] => []
  | first :: rest =>
    (if first.1 > 0 then [gapOn pdsMin day 0 first.1] else []) ++ gapsAfter pdsMin day first rest

/-- `check_coverage` of one day. -/
def dayViolations (pdsMin : ℤ) (zones : List Zone) (day : Day) : List String :=
  let intervals := (zones.filter fun z => day ∈ effectiveDays z).flatMap (Zone.intervals pdsMin)
  match sortByKey (fun i => toLex i) intervals with
  | [] => ["INV-PLAN-FULL-COVERAGE-001-VIOLATED: day " ++ day.name ++ " has no zone coverage at all"]
  | first :: rest => gaps pdsMin day (mergeFrom first rest)

/-- The days that a plan is for. -/
def planDays (zones : List Zone) : List Day :=
  allDays.filter fun day => (active zones).any fun z => day ∈ effectiveDays z

/-- `check_coverage`. -/
def checkCoverage (programmingDayStart : TimeOfDay) (zones : List Zone) : List String :=
  if active zones = [] then
    ["INV-PLAN-FULL-COVERAGE-001-VIOLATED: no enabled zones — broadcast day has no coverage"]
  else (planDays zones).flatMap (dayViolations (timeToMinutes programmingDayStart) (active zones))

/-- `check_grid_alignment` of one zone. -/
def gridViolations (gridBlockMinutes : ℤ) (z : Zone) : List String :=
  let s := timeToMinutes z.startTime
  let e := timeToMinutes z.endTime
  let duration := (e - s) % minutesOfDay
  let tag := "INV-PLAN-GRID-ALIGNMENT-001-VIOLATED: zone '" ++ z.name ++ "' "
  (if s % gridBlockMinutes ≠ 0 then
    [tag ++ "start_time (" ++ minutesToHhmm s ++ ") is not aligned to grid_block_minutes (" ++
      toString gridBlockMinutes ++ ")"] else []) ++
  (if e % gridBlockMinutes ≠ 0 then
    [tag ++ "end_time (" ++ minutesToHhmm e ++ ") is not aligned to grid_block_minutes (" ++
      toString gridBlockMinutes ++ ")"] else []) ++
  if duration > 0 ∧ duration % gridBlockMinutes ≠ 0 then
    [tag ++ "duration (" ++ toString duration ++ " minutes) is not a multiple of grid_block_minutes (" ++
      toString gridBlockMinutes ++ ")"] else []

/-- `check_grid_alignment`; a grid of zero divides nothing. -/
def checkGridAlignment (gridBlockMinutes : Option ℤ) (zones : List Zone) :
    Except ZoneError (List String) :=
  match gridBlockMinutes with
  | none => .ok []
  | some grid =>
    if grid = 0 ∧ active zones ≠ [] then .error .zeroDivisionError
    else .ok ((active zones).flatMap (gridViolations grid))

/-- `check_asset_eligibility`. -/
def checkAssetEligibility (checker : Option (String → Bool × String)) (zones : List Zone) :
    List String :=
  match checker with
  | none => []
  | some check =>
    (active zones).flatMap fun z => z.schedulableAssets.filterMap fun assetId =>
      if (check assetId).1 then none
      else some ("INV-PLAN-ELIGIBLE-ASSETS-ONLY-001-VIOLATED: zone '" ++ z.name ++
        "' references ineligible asset '" ++ assetId ++ "': " ++ (check assetId).2)

/-- The first violation is raised. -/
def raiseFirst : List String → Except ZoneError Unit
  | [] => .ok ()
  | violation :: _ => .error (.valueError violation)

/-- `validate_zone_plan_integrity`. -/
def validateZonePlanIntegrity (programmingDayStart : TimeOfDay) (gridBlockMinutes : Option ℤ)
    (checker : Option (String → Bool × String)) (zones : List Zone) : Except ZoneError Unit := do
  let gridViolations ← checkGridAlignment gridBlockMinutes zones
  raiseFirst gridViolations
  raiseFirst (checkOverlap programmingDayStart zones)
  raiseFirst (checkCoverage programmingDayStart zones)
  raiseFirst (checkAssetEligibility checker zones)

end Checks

/-! ### What the checks are for -/

section Purpose

/-- The minute `m` of the broadcast day is in the zone's window. -/
def Zone.Covers (pdsMin : ℤ) (z : Zone) (m : ℤ) : Prop :=
  InArc minutesOfDay (timeToMinutes z.startTime) (timeToMinutes z.endTime) (m + pdsMin)

instance (pdsMin : ℤ) (z : Zone) : DecidablePred (z.Covers pdsMin) :=
  fun m => inferInstanceAs (Decidable (InArc _ _ _ (m + pdsMin)))

/-- No two enabled zones share a minute of a day. -/
def NoOverlap (pdsMin : ℤ) (zones : List Zone) : Prop :=
  (active zones).Pairwise fun a b =>
    ∀ day ∈ daysOverlap a b, ∀ m, 0 ≤ m → m < minutesOfDay → ¬ (a.Covers pdsMin m ∧ b.Covers pdsMin m)

/-- Some zone is enabled, and on every day that an enabled zone is for, every minute is in one. -/
def FullCoverage (pdsMin : ℤ) (zones : List Zone) : Prop :=
  active zones ≠ [] ∧ ∀ day, (∃ z ∈ active zones, day ∈ effectiveDays z) →
    ∀ m, 0 ≤ m → m < minutesOfDay → ∃ z ∈ active zones, day ∈ effectiveDays z ∧ z.Covers pdsMin m

/-- Every enabled zone begins and ends on the grid, and its length is in grid blocks. -/
def GridAligned (gridBlockMinutes : Option ℤ) (zones : List Zone) : Prop :=
  ∀ grid, gridBlockMinutes = some grid → ∀ z ∈ active zones, grid ≠ 0 ∧
    grid ∣ timeToMinutes z.startTime ∧ grid ∣ timeToMinutes z.endTime ∧
      grid ∣ (timeToMinutes z.endTime - timeToMinutes z.startTime) % minutesOfDay

/-- Every asset of an enabled zone is eligible. -/
def AssetsEligible (checker : Option (String → Bool × String)) (zones : List Zone) : Prop :=
  ∀ check, checker = some check → ∀ z ∈ active zones, ∀ assetId ∈ z.schedulableAssets,
    (check assetId).1 = true

end Purpose

/-! ### The intervals of a zone -/

section Intervals

/-- A window is one interval of the broadcast day, or what is after a time and what is before one. -/
theorem normalizeIntervals_cases (rawStart rawEnd pdsMin : ℤ) :
    ∃ s e, s = (rawStart - pdsMin) % minutesOfDay ∧ 0 < e ∧ e ≤ minutesOfDay ∧
      e % minutesOfDay = (rawEnd - pdsMin) % minutesOfDay ∧
      (s < e ∧ normalizeIntervals rawStart rawEnd pdsMin = [(s, e)] ∨
        e ≤ s ∧ normalizeIntervals rawStart rawEnd pdsMin = [(s, minutesOfDay), (0, e)]) := by
  obtain ⟨e, isEnd, pos, le, same⟩ : ∃ e, e = (if (rawEnd - pdsMin) % minutesOfDay = 0 then minutesOfDay
      else (rawEnd - pdsMin) % minutesOfDay) ∧ 0 < e ∧ e ≤ minutesOfDay ∧
      e % minutesOfDay = (rawEnd - pdsMin) % minutesOfDay := by
    refine ⟨_, rfl, ?_⟩
    unfold minutesOfDay
    split_ifs <;> omega
  have inside : (rawStart - pdsMin) % minutesOfDay < minutesOfDay := Int.emod_lt_of_pos _ (by decide)
  refine ⟨_, e, rfl, pos, le, same, ?_⟩
  unfold normalizeIntervals
  dsimp only
  rw [← isEnd]
  by_cases before : (rawStart - pdsMin) % minutesOfDay < e
  · exact .inl ⟨before, if_pos before⟩
  · exact .inr ⟨not_lt.mp before, by rw [if_neg before, if_pos inside, if_pos pos]; rfl⟩

/-- The intervals are proper ones of the broadcast day. -/
theorem intervals_bounds {pdsMin : ℤ} {z : Zone} {i : ℤ × ℤ} (mem : i ∈ z.intervals pdsMin) :
    0 ≤ i.1 ∧ i.1 < i.2 ∧ i.2 ≤ minutesOfDay := by
  obtain ⟨s, e, isStart, pos, le, _, ⟨before, one⟩ | ⟨_, two⟩⟩ :=
    normalizeIntervals_cases (timeToMinutes z.startTime) (timeToMinutes z.endTime) pdsMin
  all_goals
    have nonneg : 0 ≤ s := isStart ▸ Int.emod_nonneg _ (by decide)
    have inside : s < minutesOfDay := isStart ▸ Int.emod_lt_of_pos _ (by decide)
  · rw [Zone.intervals, one, List.mem_singleton] at mem
    subst mem
    exact ⟨nonneg, before, le⟩
  · rw [Zone.intervals, two, List.mem_cons, List.mem_singleton] at mem
    rcases mem with rfl | rfl
    · exact ⟨nonneg, inside, le_refl _⟩
    · exact ⟨le_refl _, pos, le⟩

/-- **The intervals are the window**: a minute of the broadcast day is in one of them when it is in the
zone's window. -/
theorem mem_intervals (pdsMin : ℤ) (z : Zone) {m : ℤ} (nonneg : 0 ≤ m) (lt : m < minutesOfDay) :
    (∃ i ∈ z.intervals pdsMin, i.1 ≤ m ∧ m < i.2) ↔ z.Covers pdsMin m := by
  obtain ⟨s, e, isStart, pos, le, same, ⟨before, one⟩ | ⟨after, two⟩⟩ :=
    normalizeIntervals_cases (timeToMinutes z.startTime) (timeToMinutes z.endTime) pdsMin
  all_goals
    have startNonneg : 0 ≤ s := isStart ▸ Int.emod_nonneg _ (by decide)
    have startLt : s < minutesOfDay := isStart ▸ Int.emod_lt_of_pos _ (by decide)
    unfold Zone.Covers InArc
    unfold minutesOfDay at *
  · rw [Zone.intervals, one, arcLength_unique (by decide) (sub_pos.mpr before) (by omega) (by omega)]
    simp only [List.mem_singleton, exists_eq_left]
    omega
  · rw [Zone.intervals, two, @arcLength_unique 1440 _ _ (by decide) (1440 + e - s) (by omega) (by omega)
      (by omega)]
    simp only [List.mem_cons, List.not_mem_nil, or_false, exists_eq_or_imp, exists_eq_left]
    omega

end Intervals

/-! ### The overlap check -/

section Overlap

theorem intervalPairOverlap_none {a b : ℤ × ℤ} :
    intervalPairOverlap a b = none ↔ ∀ m, ¬ ((a.1 ≤ m ∧ m < a.2) ∧ b.1 ≤ m ∧ m < b.2) := by
  unfold intervalPairOverlap
  dsimp only
  constructor
  · intro apart m inside
    by_contra
    split_ifs at apart with hit
    omega
  · intro apart
    rw [if_neg]
    intro hit
    exact apart (max a.1 b.1) (by omega)

/-- Two zones are reported when they share a minute of a day. -/
theorem pairViolations_nil (pdsMin : ℤ) (a b : Zone) :
    pairViolations pdsMin a b = [] ↔
      ∀ day ∈ daysOverlap a b, ∀ m, 0 ≤ m → m < minutesOfDay →
        ¬ (a.Covers pdsMin m ∧ b.Covers pdsMin m) := by
  unfold pairViolations
  by_cases none : daysOverlap a b = ∅
  · simp [none]
  · obtain ⟨shared, isShared⟩ := Finset.nonempty_iff_ne_empty.mpr none
    rw [if_neg none, List.flatMap_eq_nil_iff]
    simp only [List.filterMap_eq_nil_iff, Option.map_eq_none_iff, intervalPairOverlap_none]
    constructor
    · rintro apart day _ m nonneg lt ⟨inA, inB⟩
      obtain ⟨i, memA, insideA⟩ := (mem_intervals pdsMin a nonneg lt).mpr inA
      obtain ⟨j, memB, insideB⟩ := (mem_intervals pdsMin b nonneg lt).mpr inB
      exact apart i memA j memB m ⟨insideA, insideB⟩
    · rintro apart i memA j memB m ⟨insideA, insideB⟩
      obtain ⟨nonneg, _, le⟩ := intervals_bounds memA
      refine apart shared isShared m (by omega) (by omega) ⟨?_, ?_⟩
      · exact (mem_intervals pdsMin a (by omega) (by omega)).mp ⟨i, memA, insideA⟩
      · exact (mem_intervals pdsMin b (by omega) (by omega)).mp ⟨j, memB, insideB⟩

theorem overlaps_nil (pdsMin : ℤ) (zones : List Zone) :
    overlaps pdsMin zones = [] ↔ zones.Pairwise fun a b =>
      ∀ day ∈ daysOverlap a b, ∀ m, 0 ≤ m → m < minutesOfDay →
        ¬ (a.Covers pdsMin m ∧ b.Covers pdsMin m) := by
  induction zones with
  | nil => simp [overlaps]
  | cons a rest ih =>
    rw [overlaps, List.append_eq_nil_iff, ih, List.pairwise_cons, List.flatMap_eq_nil_iff]
    simp only [pairViolations_nil]

/-- **The overlap check** accepts the plans without overlap. -/
theorem checkOverlap_nil (programmingDayStart : TimeOfDay) (zones : List Zone) :
    checkOverlap programmingDayStart zones = [] ↔
      NoOverlap (timeToMinutes programmingDayStart) zones :=
  overlaps_nil _ _

end Overlap

/-! ### The coverage check -/

section CoverageCheck

/-- Merging keeps the start. -/
theorem mergeFrom_head (last : ℤ × ℤ) (rest : List (ℤ × ℤ)) :
    ∃ stop later, mergeFrom last rest = (last.1, stop) :: later := by
  induction rest generalizing last with
  | nil => exact ⟨last.2, [], rfl⟩
  | cons next rest ih =>
    rw [mergeFrom]
    split_ifs
    · exact ih _
    · exact ⟨last.2, _, rfl⟩

/-- What is merged into one interval has no gap. -/
theorem mem_of_mergeFrom {last : ℤ × ℤ} {rest : List (ℤ × ℤ)} {stop : ℤ}
    (merged : mergeFrom last rest = [(last.1, stop)]) {m : ℤ} (inside : last.1 ≤ m ∧ m < stop) :
    ∃ i ∈ last :: rest, i.1 ≤ m ∧ m < i.2 := by
  induction rest generalizing last with
  | nil =>
    rw [mergeFrom, List.singleton_inj] at merged
    refine ⟨last, List.mem_singleton_self _, inside.1, ?_⟩
    rw [merged]
    exact inside.2
  | cons next rest ih =>
    rw [mergeFrom] at merged
    split_ifs at merged with touches
    · obtain ⟨i, mem, here⟩ := ih merged inside
      rcases List.mem_cons.mp mem with rfl | later
      · by_cases early : m < last.2
        · exact ⟨last, List.mem_cons_self, here.1, early⟩
        · have late : m < next.2 := by
            rcases lt_max_iff.mp here.2 with before | before
            · exact absurd before early
            · exact before
          exact ⟨next, by simp, touches.trans (not_lt.mp early), late⟩
      · exact ⟨i, by simp [later], here⟩
    · obtain ⟨_, later, isHead⟩ := mergeFrom_head next rest
      rw [isHead] at merged
      simp at merged

/-- Intervals without a gap, in the order of their starts, are merged into one that reaches the end of
the day. -/
theorem mergeFrom_covers {last : ℤ × ℤ} {rest : List (ℤ × ℤ)}
    (ordered : rest.Pairwise fun i j => i.1 ≤ j.1) (starts : ∀ i ∈ rest, i.1 < minutesOfDay)
    (covered : ∀ m, last.2 ≤ m → m < minutesOfDay → ∃ i ∈ rest, i.1 ≤ m ∧ m < i.2) :
    ∃ stop, mergeFrom last rest = [(last.1, stop)] ∧ minutesOfDay ≤ stop := by
  induction rest generalizing last with
  | nil =>
    refine ⟨last.2, rfl, ?_⟩
    by_contra short
    obtain ⟨i, mem, _⟩ := covered last.2 (le_refl _) (not_le.mp short)
    cases mem
  | cons next rest ih =>
    obtain ⟨least, orderedRest⟩ := List.pairwise_cons.mp ordered
    have touches : next.1 ≤ last.2 := by
      by_contra gap
      obtain ⟨i, mem, before, _⟩ := covered last.2 (le_refl _)
        ((not_le.mp gap).trans (starts next List.mem_cons_self))
      rcases List.mem_cons.mp mem with rfl | later
      · exact gap before
      · exact gap ((least i later).trans before)
    rw [mergeFrom, if_pos touches]
    refine ih orderedRest (fun i mem => starts i (List.mem_cons_of_mem _ mem)) ?_
    intro m after lt
    obtain ⟨i, mem, here⟩ := covered m ((le_max_left _ _).trans after) lt
    rcases List.mem_cons.mp mem with rfl | later
    · exact absurd here.2 (not_lt.mpr ((le_max_right _ _).trans after))
    · exact ⟨i, later, here⟩

/-- Merged intervals are apart, so that more than one leave a gap. -/
theorem gapsAfter_mergeFrom_nil (pdsMin : ℤ) (day : Day) (last : ℤ × ℤ) (rest : List (ℤ × ℤ)) :
    (∃ stop, mergeFrom last rest = [(last.1, stop)] ∧ minutesOfDay ≤ stop) ∨
      ∀ first later, mergeFrom last rest = first :: later → gapsAfter pdsMin day first later ≠ [] := by
  induction rest generalizing last with
  | nil =>
    by_cases reaches : minutesOfDay ≤ last.2
    · exact .inl ⟨last.2, rfl, reaches⟩
    · right
      intro first later merged
      rw [mergeFrom, List.cons.injEq] at merged
      rw [← merged.1, ← merged.2, gapsAfter, if_pos (not_le.mp reaches)]
      exact List.cons_ne_nil _ _
  | cons next rest ih =>
    rw [mergeFrom]
    split_ifs with touches
    · exact ih _
    · right
      intro first later merged
      rw [List.cons.injEq] at merged
      obtain ⟨stop, others, isHead⟩ := mergeFrom_head next rest
      rw [← merged.1, ← merged.2, isHead, gapsAfter, if_pos (not_le.mp touches)]
      exact List.cons_ne_nil _ _

theorem gaps_mergeFrom_nil (pdsMin : ℤ) (day : Day) (first : ℤ × ℤ) (rest : List (ℤ × ℤ)) :
    gaps pdsMin day (mergeFrom first rest) = [] ↔
      first.1 ≤ 0 ∧ ∃ stop, mergeFrom first rest = [(first.1, stop)] ∧ minutesOfDay ≤ stop := by
  obtain ⟨head, later, isHead⟩ := mergeFrom_head first rest
  constructor
  · intro none
    rw [isHead, gaps, List.append_eq_nil_iff] at none
    refine ⟨?_, ?_⟩
    · by_contra starts
      rw [if_pos (not_le.mp starts)] at none
      exact List.cons_ne_nil _ _ none.1
    · rcases gapsAfter_mergeFrom_nil pdsMin day first rest with whole | gap
      · exact whole
      · exact absurd none.2 (gap _ _ isHead)
  · rintro ⟨starts, stop, whole, reaches⟩
    rw [whole, gaps, gapsAfter, if_neg (not_lt.mpr starts), if_neg (not_lt.mpr reaches)]
    rfl

/-- A day is reported when a minute of it is in no zone. -/
theorem dayViolations_nil (pdsMin : ℤ) (zones : List Zone) (day : Day) :
    dayViolations pdsMin zones day = [] ↔
      ∀ m, 0 ≤ m → m < minutesOfDay →
        ∃ z ∈ zones, day ∈ effectiveDays z ∧ z.Covers pdsMin m := by
  unfold dayViolations
  dsimp only
  generalize gathered : (zones.filter fun z => day ∈ effectiveDays z).flatMap
    (Zone.intervals pdsMin) = intervals
  have bounds : ∀ i ∈ intervals, 0 ≤ i.1 ∧ i.1 < i.2 ∧ i.2 ≤ minutesOfDay := by
    intro i mem
    rw [← gathered, List.mem_flatMap] at mem
    obtain ⟨z, _, here⟩ := mem
    exact intervals_bounds here
  have covers : ∀ m, 0 ≤ m → m < minutesOfDay → ((∃ i ∈ intervals, i.1 ≤ m ∧ m < i.2) ↔
      ∃ z ∈ zones, day ∈ effectiveDays z ∧ z.Covers pdsMin m) := by
    intro m nonneg lt
    simp only [← gathered, List.mem_flatMap, List.mem_filter, decide_eq_true_eq,
      ← mem_intervals pdsMin _ nonneg lt]
    constructor
    · rintro ⟨i, ⟨z, ⟨mem, on⟩, here⟩, inside⟩
      exact ⟨z, mem, on, i, here, inside⟩
    · rintro ⟨z, mem, on, i, here, inside⟩
      exact ⟨i, ⟨z, ⟨mem, on⟩, here⟩, inside⟩
  have sameMem : ∀ i, i ∈ sortByKey (fun i => toLex i) intervals ↔ i ∈ intervals :=
    fun i => mem_sortByKey _
  have ordered : (sortByKey (fun i => toLex i) intervals).Pairwise fun i j => i.1 ≤ j.1 := by
    refine (sortByKey_pairwise (fun i : ℤ × ℤ => toLex i) intervals).imp ?_
    intro i j below
    rcases Prod.Lex.toLex_le_toLex.mp below with lt | ⟨same, _⟩
    · exact lt.le
    · exact same.le
  cases sorted : sortByKey (fun i => toLex i) intervals with
  | nil =>
    dsimp only
    refine ⟨fun reported => absurd reported (List.cons_ne_nil _ _), fun covered => ?_⟩
    obtain ⟨i, mem, _⟩ := (covers 0 (le_refl 0) (by decide)).mpr (covered 0 (le_refl 0) (by decide))
    rw [← sameMem, sorted] at mem
    cases mem
  | cons first rest =>
    dsimp only
    rw [sorted] at sameMem ordered
    obtain ⟨least, orderedRest⟩ := List.pairwise_cons.mp ordered
    rw [gaps_mergeFrom_nil]
    constructor
    · rintro ⟨starts, stop, whole, reaches⟩ m nonneg lt
      refine (covers m nonneg lt).mp ?_
      obtain ⟨i, mem, here⟩ := mem_of_mergeFrom whole
        ⟨starts.trans nonneg, lt.trans_le reaches⟩
      exact ⟨i, (sameMem i).mp mem, here⟩
    · intro covered
      refine ⟨?_, mergeFrom_covers orderedRest ?_ ?_⟩
      · obtain ⟨i, mem, before, _⟩ :=
          (covers 0 (le_refl 0) (by decide)).mpr (covered 0 (le_refl 0) (by decide))
        rcases List.mem_cons.mp ((sameMem i).mpr mem) with rfl | later
        · exact before
        · exact (least i later).trans before
      · intro i mem
        obtain ⟨_, proper, le⟩ := bounds i ((sameMem i).mp (List.mem_cons_of_mem _ mem))
        exact proper.trans_le le
      · intro m after lt
        obtain ⟨nonneg, proper, _⟩ := bounds first ((sameMem first).mp List.mem_cons_self)
        have early : 0 ≤ m := by omega
        obtain ⟨i, mem, here⟩ := (covers m early lt).mpr (covered m early lt)
        rcases List.mem_cons.mp ((sameMem i).mpr mem) with rfl | later
        · exact absurd here.2 (not_lt.mpr after)
        · exact ⟨i, later, here⟩

/-- **The coverage check** accepts the plans that cover their days. -/
theorem checkCoverage_nil (programmingDayStart : TimeOfDay) (zones : List Zone) :
    checkCoverage programmingDayStart zones = [] ↔
      FullCoverage (timeToMinutes programmingDayStart) zones := by
  unfold checkCoverage FullCoverage
  by_cases empty : active zones = []
  · simp [empty]
  · rw [if_neg empty, List.flatMap_eq_nil_iff]
    simp only [dayViolations_nil, planDays, List.mem_filter, List.any_eq_true, decide_eq_true_eq]
    constructor
    · intro covered
      exact ⟨empty, fun day planned => covered day ⟨mem_allDays day, planned⟩⟩
    · rintro ⟨_, covered⟩ day ⟨_, planned⟩
      exact covered day planned

end CoverageCheck

/-! ### The validator -/

section Validator

theorem gridViolations_nil (grid : ℤ) (z : Zone) :
    gridViolations grid z = [] ↔
      grid ∣ timeToMinutes z.startTime ∧ grid ∣ timeToMinutes z.endTime ∧
        grid ∣ (timeToMinutes z.endTime - timeToMinutes z.startTime) % minutesOfDay := by
  have nonneg := Int.emod_nonneg (timeToMinutes z.endTime - timeToMinutes z.startTime)
    (show minutesOfDay ≠ 0 by decide)
  unfold gridViolations
  dsimp only
  rw [List.append_eq_nil_iff, List.append_eq_nil_iff, Int.dvd_iff_emod_eq_zero,
    Int.dvd_iff_emod_eq_zero, Int.dvd_iff_emod_eq_zero]
  generalize timeToMinutes z.endTime - timeToMinutes z.startTime = apart at nonneg ⊢
  constructor
  · rintro ⟨⟨starts, ends⟩, lasts⟩
    split_ifs at starts ends lasts with onStart onEnd onLength
    refine ⟨not_ne_iff.mp onStart, not_ne_iff.mp onEnd, ?_⟩
    rcases nonneg.lt_or_eq with pos | zero
    · by_contra off
      exact onLength ⟨pos, off⟩
    · rw [← zero, Int.zero_emod]
  · rintro ⟨starts, ends, lasts⟩
    simp [starts, ends, lasts]

theorem checkGridAlignment_nil (gridBlockMinutes : Option ℤ) (zones : List Zone) :
    checkGridAlignment gridBlockMinutes zones = .ok [] ↔ GridAligned gridBlockMinutes zones := by
  unfold checkGridAlignment GridAligned
  cases gridBlockMinutes with
  | none => simp
  | some grid =>
    dsimp only
    by_cases divides : grid = 0 ∧ active zones ≠ []
    · rw [if_pos divides]
      obtain ⟨z, mem⟩ := List.exists_mem_of_ne_nil _ divides.2
      constructor
      · intro raised
        cases raised
      · intro aligned
        exact absurd divides.1 (aligned grid rfl z mem).1
    · rw [if_neg divides, Except.ok.injEq, List.flatMap_eq_nil_iff]
      simp only [gridViolations_nil, Option.some.injEq]
      constructor
      · rintro aligned grid rfl z mem
        exact ⟨fun zero => divides ⟨zero, List.ne_nil_of_mem mem⟩, aligned z mem⟩
      · intro aligned z mem
        exact (aligned grid rfl z mem).2

theorem checkAssetEligibility_nil (checker : Option (String → Bool × String)) (zones : List Zone) :
    checkAssetEligibility checker zones = [] ↔ AssetsEligible checker zones := by
  unfold checkAssetEligibility AssetsEligible
  cases checker with
  | none => simp
  | some check =>
    dsimp only
    rw [List.flatMap_eq_nil_iff]
    simp only [List.filterMap_eq_nil_iff, Option.some.injEq]
    constructor
    · rintro eligible check rfl z mem assetId listed
      by_contra refused
      have reported := eligible z mem assetId listed
      rw [if_neg refused] at reported
      cases reported
    · intro eligible z mem assetId listed
      rw [if_pos (eligible check rfl z mem assetId listed)]

theorem raiseFirst_ok (violations : List String) : raiseFirst violations = .ok () ↔ violations = [] := by
  cases violations with
  | nil => simp [raiseFirst]
  | cons violation rest => simp [raiseFirst]

/-- **The validator** accepts exactly the plans that are aligned, without overlap, covered and
eligible. -/
theorem validate_ok_iff (programmingDayStart : TimeOfDay) (gridBlockMinutes : Option ℤ)
    (checker : Option (String → Bool × String)) (zones : List Zone) :
    validateZonePlanIntegrity programmingDayStart gridBlockMinutes checker zones = .ok () ↔
      GridAligned gridBlockMinutes zones ∧ NoOverlap (timeToMinutes programmingDayStart) zones ∧
        FullCoverage (timeToMinutes programmingDayStart) zones ∧ AssetsEligible checker zones := by
  rw [← checkGridAlignment_nil, ← checkOverlap_nil, ← checkCoverage_nil, ← checkAssetEligibility_nil]
  unfold validateZonePlanIntegrity
  cases checkGridAlignment gridBlockMinutes zones with
  | error raised => simp [bind, Except.bind]
  | ok violations =>
    cases violations with
    | cons violation rest => simp [bind, Except.bind, raiseFirst]
    | nil =>
      cases checkOverlap programmingDayStart zones with
      | cons violation rest => simp [bind, Except.bind, raiseFirst]
      | nil =>
        cases checkCoverage programmingDayStart zones with
        | cons violation rest => simp [bind, Except.bind, raiseFirst]
        | nil => simpa [bind, Except.bind, raiseFirst] using raiseFirst_ok _

/-- The zones that are enabled and for a day. -/
def activeOn (day : Day) (zones : List Zone) : List Zone :=
  (active zones).filter fun z => day ∈ effectiveDays z

/-- Of items no two of which have a property, at most one has it. -/
theorem countP_le_one {α : Type*} {p : α → Bool} {items : List α}
    (apart : items.Pairwise fun a b => ¬ (p a = true ∧ p b = true)) : items.countP p ≤ 1 := by
  induction items with
  | nil => exact Nat.zero_le 1
  | cons a rest ih =>
    obtain ⟨alone, apartRest⟩ := List.pairwise_cons.mp apart
    rw [List.countP_cons]
    by_cases here : p a = true
    · have noneLater : rest.countP p = 0 :=
        List.countP_eq_zero.mpr fun b later there => alone b later ⟨here, there⟩
      rw [noneLater, if_pos here]
    · rw [if_neg here]
      exact ih apartRest

/-- Items with a property that one item has are that item. -/
theorem eq_of_countP_one {α : Type*} {p : α → Bool} {items : List α} (one : items.countP p = 1)
    {a b : α} (memA : a ∈ items) (memB : b ∈ items) (hasA : p a = true) (hasB : p b = true) :
    a = b := by
  rw [List.countP_eq_length_filter, List.length_eq_one_iff] at one
  obtain ⟨only, isOnly⟩ := one
  have isA : a ∈ items.filter p := List.mem_filter.mpr ⟨memA, hasA⟩
  have isB : b ∈ items.filter p := List.mem_filter.mpr ⟨memB, hasB⟩
  rw [isOnly, List.mem_singleton] at isA isB
  rw [isA, isB]

/-- **In an accepted plan** every minute of a planned day is in exactly one zone of that day. -/
theorem validate_tiles {pdsMin : ℤ} {zones : List Zone} (apart : NoOverlap pdsMin zones)
    (covered : FullCoverage pdsMin zones) {day : Day} (planned : activeOn day zones ≠ []) {m : ℤ}
    (nonneg : 0 ≤ m) (lt : m < minutesOfDay) :
    (activeOn day zones).countP (fun z => decide (z.Covers pdsMin m)) = 1 := by
  have disjoint : (activeOn day zones).Pairwise fun a b =>
      ¬ (a.Covers pdsMin m ∧ b.Covers pdsMin m) := by
    refine List.Pairwise.imp_of_mem ?_ (apart.filter _)
    intro a b memA memB noMinute
    have onA := (List.mem_filter.mp memA).2
    have onB := (List.mem_filter.mp memB).2
    rw [decide_eq_true_eq] at onA onB
    exact noMinute day (Finset.mem_inter.mpr ⟨onA, onB⟩) m nonneg lt
  obtain ⟨other, mem⟩ := List.exists_mem_of_ne_nil _ planned
  obtain ⟨memActive, on⟩ := List.mem_filter.mp mem
  rw [decide_eq_true_eq] at on
  obtain ⟨z, memZ, onZ, covers⟩ := covered.2 day ⟨other, memActive, on⟩ m nonneg lt
  refine le_antisymm (countP_le_one (by simpa using disjoint)) ?_
  exact List.countP_pos_iff.mpr
    ⟨z, List.mem_filter.mpr ⟨memZ, decide_eq_true onZ⟩, decide_eq_true covers⟩

end Validator

end Retrovue.Core.Zones
