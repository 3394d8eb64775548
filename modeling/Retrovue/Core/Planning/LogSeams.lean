/-
**The seams of a transmission log** (`runtime/planning_pipeline.py`,
`runtime/transmission_log_validator.py`).

The zones of a plan are listed as grid slots, one zone after another; a program takes the next slots of
the list, and each entry of the log starts at the time of its slot.

* `zoneToSlots`, `planLog`: from zones to the log;
* `validateTransmissionLogSeams`, `validateTransmissionLogGridAlignment`: the checks;
* `LogKept`: what the log owes: the checks where the zones cover the day, and elsewhere the times that
  its slots were planned for, with every event on consecutive ones;
* `EventBegins`, `ZonesFit`: when it gives that; `log_kept_iff`: it does exactly then.

A slot keeps only its time of day, and an event takes slots by their place in the list: a zone that runs
past the end of the day comes back at its start, and an event runs on into the next zone over any gap.
-/

import Retrovue.Core.Planning.ContentSlices

namespace Retrovue.Core.Planning

open Retrovue.Core.Schedule

/-! ### Zones and slots -/

section Zones

/-- `ZoneDirective`. -/
structure ZoneDirective where
  startTime : TimeOfDay
  endTime : TimeOfDay
  programs : List ProgramRef
  label : String := ""

/-- `SchedulePlanArtifact`: a grid block is not empty, the start hour is an hour. -/
structure SchedulePlan where
  channelId : String
  gridBlockMinutes : Nat
  grid_pos : 0 < gridBlockMinutes
  programmingDayStartHour : Int
  hour_nonneg : 0 ≤ programmingDayStartHour
  hour_lt : programmingDayStartHour < 24
  zones : List ZoneDirective

/-- What stops the pipeline before there is a log. -/
inductive PipelineError
  /-- `program_idx % len(zone.programs)` of a zone without programs. -/
  | zeroDivision
  | schedule (error : ScheduleError)

theorem timeOf_nonneg (t : Int) : 0 ≤ t % dayMicros := Int.emod_nonneg t (by decide)

theorem timeOf_lt_day (t : Int) : t % dayMicros < dayMicros := Int.emod_lt_of_pos t (by decide)

/-- `datetime.time()`. -/
def timeOf (t : Int) : TimeOfDay := ⟨t % dayMicros, timeOf_nonneg t, timeOf_lt_day t⟩

variable (plan : SchedulePlan) (date : Date) (zone : ZoneDirective)

namespace SchedulePlan

/-- A grid block, in microseconds. -/
def gridMicros : Int := plan.gridBlockMinutes * 60 * 1000000

/-- The start of the programming day. -/
def dayBegin : Int := date * dayMicros + plan.programmingDayStartHour * hourMicros

/-- `zone_start_dt`. -/
def zoneStart : Int := slotToDatetime plan.programmingDayStartHour date zone.startTime

/-- `zone_end_dt`: a zone that would not end after its start ends a day later. -/
def zoneEnd : Int :=
  let stop := slotToDatetime plan.programmingDayStartHour date zone.endTime
  if stop ≤ plan.zoneStart date zone then stop + dayMicros else stop

/-- `num_slots`. -/
def numSlots : Nat :=
  ((plan.zoneEnd date zone - plan.zoneStart date zone) / plan.gridMicros).toNat

/-- `slot_dt`: the time that the `i`-th slot of a zone is planned for. -/
def slotDt (i : Nat) : Int := plan.zoneStart date zone + i * plan.gridMicros

/-- The slot of a planned time: of the time only the time of day is kept. -/
def slotOf (ref : ProgramRef) (i : Nat) : ScheduleSlot where
  slotTime := timeOf (plan.slotDt date zone i)
  programRef := ref
  durationSeconds := (plan.gridBlockMinutes * 60 : Nat)
  label := if zone.label = "" then ref.refId else zone.label

/-- **`_zone_to_slots`.** -/
def zoneToSlots : Except PipelineError (List ScheduleSlot) :=
  match zone.programs with
  | [] => if plan.numSlots date zone = 0 then .ok [] else .error .zeroDivision
  | first :: rest =>
    .ok ((List.range (plan.numSlots date zone)).map fun i =>
      plan.slotOf date zone ((first :: rest).getD (i % (rest.length + 1)) first) i)

/-- The slots of zones, one zone after another. -/
def listSlots : List ZoneDirective → Except PipelineError (List ScheduleSlot)
  | [] => .ok []
  | zone :: rest => do
    let slots ← plan.zoneToSlots date zone
    let others ← listSlots rest
    .ok (slots ++ others)

/-- The times that the slots of zones are planned for. -/
def plannedTimes (zones : List ZoneDirective) : List Int :=
  zones.flatMap fun zone => (List.range (plan.numSlots date zone)).map (plan.slotDt date zone)

end SchedulePlan

/-- **`resolve_schedule_day`, `segment_blocks`, filling and assembly**: the resolved day, and its
log. -/
def planLog {Source : Type} (config : Config)
    (seedHash : String → String → Date → TimeOfDay → Nat) (stores : Stores)
    (assetLibrary : AssetLibrary Source) (source : Source)
    (breakProfile : Option SyntheticBreakProfile) (policy : Option BreakFillPolicy)
    (resolutionTime : Int) : Except PipelineError (ResolvedScheduleDay × TransmissionLog) := do
  let slots ← plan.listSlots date plan.zones
  match resolveScheduleDay config seedHash stores plan.channelId date slots resolutionTime with
  | .error error => .error (.schedule error)
  | .ok (day, _) =>
    .ok (day, planDay assetLibrary source day plan.gridBlockMinutes breakProfile policy plan.channelId
      date plan.programmingDayStartHour)

end Zones

/-! ### The checks -/

section Checks

/-- `TransmissionLogSeamError`, by its invariant, with the entry. -/
inductive SeamError
  | nonPositive (index : Nat) (entry : TransmissionLogEntry)
  | duration (index : Nat) (entry : TransmissionLogEntry) (expectedMs : Int)
  | boundary (index : Nat) (entry next : TransmissionLogEntry)
  | order (index : Nat) (entry next : TransmissionLogEntry)

/-- The loop of `validate_transmission_log_seams`. -/
def validateSeamsFrom (expectedMs : Int) :
    Nat → List TransmissionLogEntry → Except SeamError Unit
  | _, [] => .ok ()
  | index, entry :: rest =>
    if entry.endUtcMs ≤ entry.startUtcMs then .error (.nonPositive index entry)
    else if entry.endUtcMs - entry.startUtcMs ≠ expectedMs then
      .error (.duration index entry expectedMs)
    else
      match rest with
      | [] => .ok ()
      | next :: others =>
        if entry.endUtcMs ≠ next.startUtcMs then .error (.boundary index entry next)
        else if next.startUtcMs ≤ entry.startUtcMs then .error (.order index entry next)
        else validateSeamsFrom expectedMs (index + 1) (next :: others)

/-- **`validate_transmission_log_seams`.** -/
def validateTransmissionLogSeams (log : TransmissionLog) (gridBlockMinutes : Nat) :
    Except SeamError Unit :=
  validateSeamsFrom (blockMs gridBlockMinutes) 0 log.entries

/-- The `ValueError` of the alignment: the entry and the time, with the boundaries around it. -/
structure AlignmentError where
  index : Nat
  blockId : String
  label : String
  valueMs : Int
  floorMs : Int
  ceilMs : Int

/-- A boundary that is not on the grid. -/
def alignmentError (gridMs : Int) (index : Nat) (entry : TransmissionLogEntry) (label : String)
    (valueMs : Int) : AlignmentError :=
  ⟨index, entry.blockId, label, valueMs, valueMs / gridMs * gridMs, valueMs / gridMs * gridMs + gridMs⟩

/-- The loop of `validate_transmission_log_grid_alignment`. -/
def validateAlignmentFrom (gridMs : Int) :
    Nat → List TransmissionLogEntry → Except AlignmentError Unit
  | _, [] => .ok ()
  | index, entry :: rest =>
    if entry.startUtcMs % gridMs ≠ 0 then
      .error (alignmentError gridMs index entry "start_utc_ms" entry.startUtcMs)
    else if entry.endUtcMs % gridMs ≠ 0 then
      .error (alignmentError gridMs index entry "end_utc_ms" entry.endUtcMs)
    else validateAlignmentFrom gridMs (index + 1) rest

/-- **`validate_transmission_log_grid_alignment`.** -/
def validateTransmissionLogGridAlignment (log : TransmissionLog) (gridBlockMinutes : Nat) :
    Except AlignmentError Unit :=
  validateAlignmentFrom (blockMs gridBlockMinutes) 0 log.entries

end Checks

/-! ### What the log owes -/

section Owed

variable (plan : SchedulePlan) (date : Date)

/-- **The zones cover the programming day.** -/
def Covers : Prop :=
  ∀ t, plan.dayBegin date ≤ t → t < plan.dayBegin date + dayMicros →
    ∃ zone ∈ plan.zones, plan.zoneStart date zone ≤ t ∧ t < plan.zoneEnd date zone

/-- The starts of the entries. -/
def startsOf (log : TransmissionLog) : List Int := log.entries.map TransmissionLogEntry.startUtcMs

/-- The blocks of every event are consecutive grid blocks. -/
def EventsConsecutive (day : ResolvedScheduleDay) (log : TransmissionLog) : Prop :=
  ∀ run ∈ eventRuns 0 day.resolvedSlots day.programEvents, ∀ k < run.slots.length, ∀ first later,
    (startsOf log)[run.first]? = some first → (startsOf log)[run.first + k]? = some later →
      later = first + k * blockMs plan.gridBlockMinutes

/-- **What the log owes**: where the zones cover the day, it passes both checks; where they do not, every
entry is at the time its slot was planned for, and every event on consecutive grid blocks. -/
structure LogKept (day : ResolvedScheduleDay) (log : TransmissionLog) : Prop where
  covered : Covers plan date → validateTransmissionLogSeams log plan.gridBlockMinutes = .ok () ∧
    validateTransmissionLogGridAlignment log plan.gridBlockMinutes = .ok ()
  uncovered : ¬ Covers plan date →
    startsOf log = (plan.plannedTimes date plan.zones).map utcMs ∧ EventsConsecutive plan day log

/-- The zones that have slots. -/
def slottedZones : List ZoneDirective := plan.zones.filter fun zone => 0 < plan.numSlots date zone

/-- The slots of a zone start within the programming day. -/
def ZoneWithin (zone : ZoneDirective) : Prop :=
  ∀ i < plan.numSlots date zone, plan.slotDt date zone i < plan.dayBegin date + dayMicros

/-- A slot and the next one of its zone are a grid block apart in milliseconds. -/
def EvenStep (zone : ZoneDirective) (i : Nat) : Prop :=
  utcMs (plan.slotDt date zone (i + 1)) =
    utcMs (plan.slotDt date zone i) + blockMs plan.gridBlockMinutes

/-- Where the slots of a zone end. -/
def slotsEndMs (zone : ZoneDirective) : Int :=
  utcMs (plan.slotDt date zone (plan.numSlots date zone - 1)) + blockMs plan.gridBlockMinutes

/-- **Each zone starts where the slots of the one before end**, or something begins there; `position` is
that of the first slot. -/
def HandsOver (begins : Nat → Prop) : Nat → List ZoneDirective → Prop
  | _, [] => True
  | position, zone :: rest =>
    (∀ i, i + 1 < plan.numSlots date zone → EvenStep plan date zone i ∨ begins (position + i + 1)) ∧
    (∀ next ∈ rest.head?, utcMs (plan.zoneStart date next) = slotsEndMs plan date zone ∨
      begins (position + plan.numSlots date zone)) ∧
    HandsOver begins (position + plan.numSlots date zone) rest

/-- **An event begins at a place of the list**: the first slot begins one, and the slots that its
content spans belong to it. -/
inductive EventBegins (config : Config) (seedHash : String → String → Date → TimeOfDay → Nat)
    (channelId : String) (date : Date) : Stores → List ScheduleSlot → Nat → Prop
  | here (stores : Stores) (slot : ScheduleSlot) (rest : List ScheduleSlot) :
      EventBegins config seedHash channelId date stores (slot :: rest) 0
  | later {stores after : Stores} {slot : ScheduleSlot} {rest : List ScheduleSlot}
      {asset : ResolvedAsset} {position : Nat}
      (answer : resolveProgramRef config seedHash stores channelId slot.programRef date
        slot.slotTime = .ok (asset, after))
      (tail : EventBegins config seedHash channelId date after
        ((slot :: rest).drop (blockSpan config asset.contentDurationSeconds)) position) :
      EventBegins config seedHash channelId date stores (slot :: rest)
        (blockSpan config asset.contentDurationSeconds + position)

/-- **When the log gives what it owes**: the slots of every zone start within the day; and where the
zones cover it, each starts where the slots of the one before end, the first of them on the grid of the
epoch; where they do not, an event begins with each zone that starts elsewhere. -/
structure ZonesFit (config : Config) (seedHash : String → String → Date → TimeOfDay → Nat)
    (stores : Stores) : Prop where
  within : ∀ zone ∈ plan.zones, ZoneWithin plan date zone
  covered : Covers plan date → HandsOver plan date (fun _ => False) 0 (slottedZones plan date) ∧
    ∀ first ∈ (slottedZones plan date).head?,
      utcMs (plan.zoneStart date first) % blockMs plan.gridBlockMinutes = 0
  uncovered : ¬ Covers plan date → ∀ slots, plan.listSlots date plan.zones = .ok slots →
    HandsOver plan date (EventBegins config seedHash plan.channelId date stores slots) 0
      (slottedZones plan date)

end Owed

/-! ### The checks of a log of grid blocks -/

section CheckLemmas

variable {gridMs : Int} {entries : List TransmissionLogEntry}

/-- **The seams of entries that are each a grid block long** hold exactly when each starts a grid block
after the one before. -/
theorem validateSeamsFrom_ok_iff (positive : 0 < gridMs)
    (long : ∀ entry ∈ entries, entry.endUtcMs = entry.startUtcMs + gridMs) (index : Nat) :
    validateSeamsFrom gridMs index entries = .ok () ↔
      (entries.map TransmissionLogEntry.startUtcMs).IsChain fun a b => b = a + gridMs := by
  induction entries generalizing index with
  | nil => simp [validateSeamsFrom]
  | cons entry rest ih =>
    obtain ⟨here, later⟩ := List.forall_mem_cons.mp long
    have lasts : ¬ entry.endUtcMs ≤ entry.startUtcMs := by omega
    have exact_ : ¬ entry.endUtcMs - entry.startUtcMs ≠ gridMs := by omega
    cases rest with
    | nil =>
      rw [validateSeamsFrom.eq_def]
      simp [lasts, exact_]
    | cons next others =>
      rw [List.map_cons, List.map_cons, List.isChain_cons_cons, ← List.map_cons, ← ih later (index + 1),
        validateSeamsFrom, if_neg lasts, if_neg exact_]
      by_cases meets : entry.endUtcMs = next.startUtcMs
      · have after : ¬ next.startUtcMs ≤ entry.startUtcMs := by omega
        rw [if_neg (not_not.mpr meets), if_neg after]
        exact (and_iff_right (by omega)).symm
      · rw [if_pos meets]
        simp only [reduceCtorEq, false_iff, not_and]
        intro step
        omega

/-- **Their alignment** is that of their starts. -/
theorem validateAlignmentFrom_ok_iff
    (long : ∀ entry ∈ entries, entry.endUtcMs = entry.startUtcMs + gridMs) (index : Nat) :
    validateAlignmentFrom gridMs index entries = .ok () ↔
      ∀ start ∈ entries.map TransmissionLogEntry.startUtcMs, start % gridMs = 0 := by
  induction entries generalizing index with
  | nil => simp [validateAlignmentFrom]
  | cons entry rest ih =>
    obtain ⟨here, later⟩ := List.forall_mem_cons.mp long
    have ends : entry.endUtcMs % gridMs = entry.startUtcMs % gridMs := by
      rw [here, Int.add_emod_right]
    rw [validateAlignmentFrom, List.map_cons, List.forall_mem_cons, ends, ← ih later (index + 1)]
    by_cases aligned : entry.startUtcMs % gridMs = 0
    · rw [if_neg (not_not.mpr aligned), if_neg (not_not.mpr aligned)]
      exact (and_iff_right aligned).symm
    · rw [if_pos aligned]
      simp [aligned]

/-- Starts a grid block apart are all on the grid when the first is. -/
theorem aligned_of_chain {starts : List Int} (chain : starts.IsChain fun a b => b = a + gridMs) :
    (∀ start ∈ starts, start % gridMs = 0) ↔ ∀ first ∈ starts.head?, first % gridMs = 0 := by
  induction starts with
  | nil => simp
  | cons first rest ih =>
    simp only [List.head?_cons, Option.mem_def, Option.some.injEq, forall_eq',
      List.forall_mem_cons]
    refine and_iff_left_of_imp fun aligned => ?_
    rw [ih chain.tail]
    intro next found
    cases rest with
    | nil => cases found
    | cons second others =>
      cases found
      rw [(List.isChain_cons_cons.mp chain).1, Int.add_emod_right]
      exact aligned

end CheckLemmas

/-! ### The entries -/

section Entries

variable {Source : Type} (assetLibrary : AssetLibrary Source)

/-- Filling leaves the slots and the lengths of the blocks. -/
theorem fillBreaks_map (policy : BreakFillPolicy) (source : Source) (blocks : List SegmentedBlock) :
    (fillBreaks assetLibrary policy source blocks).1.map (fun fb =>
        (fb.resolvedSlot, fb.blockDurationMs)) =
      blocks.map fun block => (block.resolvedSlot, block.blockDurationMs) := by
  induction blocks generalizing source with
  | nil => rfl
  | cons block rest ih =>
    rw [fillBreaks, List.map_cons, List.map_cons, ih]

/-- The blocks of a run have its slots, and are a grid block long. -/
theorem eventBlocks_map (grid : Nat) (profile : SyntheticBreakProfile) (run : EventRun) :
    (eventBlocks assetLibrary grid profile run).map (fun block =>
        (block.resolvedSlot, block.blockDurationMs)) =
      run.slots.map fun slot => (slot, blockMs grid) :=
  List.ext_getElem (by simp [eventBlocks]) fun i _ _ => by simp [eventBlocks, segmentBlock]

/-- The runs take all the slots, when the events span as many. -/
theorem eventRuns_slots (first : Nat) (slots : List ResolvedSlot) (events : List ProgramEvent)
    (enough : slots.length ≤ (events.map fun event => event.blockSpanCount.toNat).sum) :
    (eventRuns first slots events).flatMap EventRun.slots = slots := by
  induction events generalizing first slots with
  | nil =>
    rw [List.map_nil, List.sum_nil, Nat.le_zero, List.length_eq_zero_iff] at enough
    rw [enough]
    rfl
  | cons event rest ih =>
    rw [List.map_cons, List.sum_cons] at enough
    rw [eventRuns, List.flatMap_cons, ih _ _ (by rw [List.length_drop]; omega),
      List.take_append_drop]

/-- **The entries of a planned day**: one for each slot, at its time, a grid block long. -/
theorem planDay_entries (source : Source) (day : ResolvedScheduleDay) (grid : Nat)
    (breakProfile : Option SyntheticBreakProfile) (policy : Option BreakFillPolicy)
    (channelId : String) (date : Date) (hour : Int)
    (enough : day.resolvedSlots.length ≤
      (day.programEvents.map fun event => event.blockSpanCount.toNat).sum) :
    (planDay assetLibrary source day grid breakProfile policy channelId date hour).entries.map
        (fun entry => (entry.startUtcMs, entry.endUtcMs)) =
      day.resolvedSlots.map fun slot =>
        (utcMs (slotToDatetime hour date slot.slotTime),
          utcMs (slotToDatetime hour date slot.slotTime) + blockMs grid) := by
  have blocks : (segmentBlocks assetLibrary day grid breakProfile).map (fun block =>
      (block.resolvedSlot, block.blockDurationMs)) =
        day.resolvedSlots.map fun slot => (slot, blockMs grid) := by
    rw [segmentBlocks_eq_runs, List.map_flatMap]
    simp only [eventBlocks_map]
    rw [← List.map_flatMap, eventRuns_slots 0 _ _ enough]
  have filled := fillBreaks_map assetLibrary (policy.getD {}) source
    (segmentBlocks assetLibrary day grid breakProfile)
  rw [blocks] at filled
  have shown := congrArg (List.map fun pair : ResolvedSlot × Int =>
    (utcMs (slotToDatetime hour date pair.1.slotTime),
      utcMs (slotToDatetime hour date pair.1.slotTime) + pair.2)) filled
  rw [List.map_map, List.map_map] at shown
  refine Eq.trans ?_ shown
  exact List.ext_getElem (by simp [planDay, assembleTransmissionLog]) fun i _ _ => by
    simp [planDay, assembleTransmissionLog, assembleEntry]

/-- A laid day's slots keep the times of the list, and its events span them all. -/
theorem laid_times {config : Config} {seedHash : String → String → Date → TimeOfDay → Nat}
    {channelId : String} {date : Date} {stores : Stores} {slots : List ScheduleSlot}
    {resolved : List ResolvedSlot} {events : List ProgramEvent}
    (laid : Laid config seedHash channelId date stores slots resolved events) :
    resolved.map ResolvedSlot.slotTime = slots.map ScheduleSlot.slotTime := by
  induction laid with
  | nil => rfl
  | @event stores after slot rest asset n slotIdx slots events answer span tail ih =>
    rw [List.map_cons, List.map_cons, List.map_append, List.map_map, ih]
    congr 1
    have own : (rest.take n).map (ResolvedSlot.slotTime ∘ resolvedSlot config slot asset) =
        (rest.take n).map ScheduleSlot.slotTime := rfl
    rw [own, ← List.map_append, List.take_append_drop]

theorem laid_enough {config : Config} {seedHash : String → String → Date → TimeOfDay → Nat}
    {channelId : String} {date : Date} {stores : Stores} {slots : List ScheduleSlot}
    {resolved : List ResolvedSlot} {events : List ProgramEvent}
    (laid : Laid config seedHash channelId date stores slots resolved events) :
    resolved.length ≤ (events.map fun event => event.blockSpanCount.toNat).sum := by
  rw [laid_length_eq laid]
  induction laid with
  | nil => exact le_rfl
  | @event stores after slot rest asset n slotIdx slots events answer span tail ih =>
    have count : (programEvent config channelId date slotIdx slot asset).blockSpanCount.toNat =
        n + 1 := by
      rw [programEvent_blockSpanCount, Int.toNat_natCast, span]
    rw [List.map_cons, List.sum_cons, count, List.length_cons]
    rw [List.length_drop] at ih
    omega

end Entries

/-! ### Where slots are placed -/

section Places

variable (plan : SchedulePlan) (date : Date)

/-- Where the slot of a planned time is placed: by its time of day alone. -/
def placed (t : Int) : Int := slotToDatetime plan.programmingDayStartHour date (timeOf t)

/-- A time of day is placed within the programming day. -/
theorem slotToDatetime_bounds (slotTime : TimeOfDay) :
    plan.dayBegin date ≤ slotToDatetime plan.programmingDayStartHour date slotTime ∧
      slotToDatetime plan.programmingDayStartHour date slotTime < plan.dayBegin date + dayMicros := by
  have nonneg := slotTime.nonneg
  have below := slotTime.lt_day
  have early := plan.hour_nonneg
  have late := plan.hour_lt
  unfold slotToDatetime SchedulePlan.dayBegin combine TimeOfDay.hour
  unfold dayMicros hourMicros at *
  split_ifs <;> constructor <;> omega

variable {plan date} {t : Int} {zone : ZoneDirective}

/-- A time of the programming day is placed where it is. -/
theorem placed_eq (after : plan.dayBegin date ≤ t) (before : t < plan.dayBegin date + dayMicros) :
    placed plan date t = t := by
  have early := plan.hour_nonneg
  have late := plan.hour_lt
  unfold placed timeOf slotToDatetime combine TimeOfDay.hour
  unfold SchedulePlan.dayBegin dayMicros hourMicros at *
  dsimp only
  split_ifs <;> omega

/-- A time of the next one is placed a day too early. -/
theorem placed_wrapped (after : plan.dayBegin date + dayMicros ≤ t)
    (before : t < plan.dayBegin date + 2 * dayMicros) : placed plan date t = t - dayMicros := by
  have early := plan.hour_nonneg
  have late := plan.hour_lt
  unfold placed timeOf slotToDatetime combine TimeOfDay.hour
  unfold SchedulePlan.dayBegin dayMicros hourMicros at *
  dsimp only
  split_ifs <;> omega

theorem gridMicros_pos (plan : SchedulePlan) : 0 < plan.gridMicros := by
  have grid := plan.grid_pos
  unfold SchedulePlan.gridMicros
  omega

theorem blockMs_pos (plan : SchedulePlan) : 0 < blockMs plan.gridBlockMinutes := by
  have grid := plan.grid_pos
  unfold blockMs
  omega

theorem gridMicros_eq (plan : SchedulePlan) :
    plan.gridMicros = 1000 * blockMs plan.gridBlockMinutes := by
  unfold SchedulePlan.gridMicros blockMs
  ring

/-- A zone ends within a day of its start. -/
theorem zoneEnd_bounds (plan : SchedulePlan) (date : Date) (zone : ZoneDirective) :
    plan.zoneStart date zone < plan.zoneEnd date zone ∧
      plan.zoneEnd date zone ≤ plan.zoneStart date zone + dayMicros := by
  have start := slotToDatetime_bounds plan date zone.startTime
  have stop := slotToDatetime_bounds plan date zone.endTime
  have day : 0 < dayMicros := by decide
  unfold SchedulePlan.zoneEnd
  unfold SchedulePlan.zoneStart at *
  dsimp only
  split_ifs <;> constructor <;> omega

/-- The slots of a zone are inside it. -/
theorem slotDt_bounds {i : Nat} (bound : i < plan.numSlots date zone) :
    plan.zoneStart date zone ≤ plan.slotDt date zone i ∧
      plan.slotDt date zone i + plan.gridMicros ≤ plan.zoneEnd date zone := by
  have grid := gridMicros_pos plan
  have lasts := (zoneEnd_bounds plan date zone).1
  have fits : plan.gridMicros * (plan.numSlots date zone : Int) ≤
      plan.zoneEnd date zone - plan.zoneStart date zone := by
    unfold SchedulePlan.numSlots
    rw [Int.toNat_of_nonneg (Int.ediv_nonneg (by omega) grid.le)]
    exact Int.mul_ediv_self_le grid.ne'
  have below : ((i : Int) + 1) * plan.gridMicros ≤
      plan.numSlots date zone * plan.gridMicros :=
    mul_le_mul_of_nonneg_right (by omega) grid.le
  have offset : 0 ≤ (i : Int) * plan.gridMicros := by positivity
  unfold SchedulePlan.slotDt
  constructor
  · omega
  · linarith

/-- A slot is placed where it was planned, or a day before. -/
theorem placed_slotDt {i : Nat} (bound : i < plan.numSlots date zone) :
    (plan.slotDt date zone i < plan.dayBegin date + dayMicros →
      placed plan date (plan.slotDt date zone i) = plan.slotDt date zone i) ∧
    (plan.dayBegin date + dayMicros ≤ plan.slotDt date zone i →
      placed plan date (plan.slotDt date zone i) = plan.slotDt date zone i - dayMicros) := by
  have start : plan.dayBegin date ≤ plan.zoneStart date zone ∧
      plan.zoneStart date zone < plan.dayBegin date + dayMicros :=
    slotToDatetime_bounds plan date zone.startTime
  have stop := zoneEnd_bounds plan date zone
  have inside := slotDt_bounds bound
  have grid := gridMicros_pos plan
  exact ⟨fun today => placed_eq (by omega) today,
    fun tomorrow => placed_wrapped tomorrow (by omega)⟩

/-- The milliseconds of a time are within one of its own. -/
theorem utcMs_bounds (t : Int) :
    t - epochMicros - 999 ≤ 1000 * utcMs t ∧ 1000 * utcMs t ≤ t - epochMicros + 999 := by
  unfold utcMs
  rcases le_total 0 (t - epochMicros) with after | before
  · rw [Int.tdiv_eq_ediv_of_nonneg after]
    constructor <;> omega
  · have negated : (t - epochMicros).tdiv 1000 = -((-(t - epochMicros)) / 1000) := by
      rw [← Int.tdiv_eq_ediv_of_nonneg (by omega), Int.neg_tdiv, neg_neg]
    rw [negated]
    constructor <;> omega

/-- **A slot has its planned time exactly when that is within the programming day.** -/
theorem utcMs_placed_iff {i : Nat} (bound : i < plan.numSlots date zone) :
    utcMs (placed plan date (plan.slotDt date zone i)) = utcMs (plan.slotDt date zone i) ↔
      plan.slotDt date zone i < plan.dayBegin date + dayMicros := by
  obtain ⟨today, tomorrow⟩ := placed_slotDt bound
  constructor
  · intro same
    by_contra late
    rw [tomorrow (by omega)] at same
    have moved := utcMs_bounds (plan.slotDt date zone i - dayMicros)
    have kept := utcMs_bounds (plan.slotDt date zone i)
    have day : dayMicros = 86400000000 := rfl
    omega
  · intro within
    rw [today within]

end Places

/-! ### The starts of a log -/

section Starts

variable {plan : SchedulePlan} {date : Date}

/-- The slots of a zone are placed at its planned times. -/
theorem zoneToSlots_times {zone : ZoneDirective} {slots : List ScheduleSlot}
    (listed : plan.zoneToSlots date zone = .ok slots) :
    slots.map (fun slot => slotToDatetime plan.programmingDayStartHour date slot.slotTime) =
      ((List.range (plan.numSlots date zone)).map (plan.slotDt date zone)).map
        (placed plan date) := by
  unfold SchedulePlan.zoneToSlots at listed
  cases programs : zone.programs with
  | nil =>
    rw [programs] at listed
    dsimp only at listed
    split_ifs at listed with none_
    obtain rfl := Except.ok.inj listed
    rw [none_]
    rfl
  | cons first rest =>
    rw [programs] at listed
    obtain rfl := Except.ok.inj listed
    rw [List.map_map, List.map_map]
    exact List.map_congr_left fun i _ => rfl

/-- **The list of a plan's slots**: each is placed at its planned time. -/
theorem listSlots_times {zones : List ZoneDirective} {slots : List ScheduleSlot}
    (listed : plan.listSlots date zones = .ok slots) :
    slots.map (fun slot => slotToDatetime plan.programmingDayStartHour date slot.slotTime) =
      (plan.plannedTimes date zones).map (placed plan date) := by
  induction zones generalizing slots with
  | nil =>
    obtain rfl := Except.ok.inj listed
    rfl
  | cons zone rest ih =>
    unfold SchedulePlan.listSlots at listed
    cases own : plan.zoneToSlots date zone with
    | error reason =>
      rw [own] at listed
      cases listed
    | ok here =>
      cases tail : plan.listSlots date rest with
      | error reason =>
        rw [own, tail] at listed
        cases listed
      | ok others =>
        rw [own, tail] at listed
        obtain rfl := Except.ok.inj listed
        rw [SchedulePlan.plannedTimes, List.flatMap_cons, List.map_append, List.map_append,
          zoneToSlots_times own]
        exact congrArg _ (ih tail)

variable {Source : Type} {config : Config}
  {seedHash : String → String → Date → TimeOfDay → Nat} {stores before : Stores}
  {assetLibrary : AssetLibrary Source} {source : Source}
  {breakProfile : Option SyntheticBreakProfile} {policy : Option BreakFillPolicy}
  {resolutionTime : Int} {day : ResolvedScheduleDay} {log : TransmissionLog}

/-- **The day of a plan is resolved once**: it is about to be, or the one in the stores was resolved
from the plan's slots. -/
structure ResolvesPlan (config : Config) (seedHash : String → String → Date → TimeOfDay → Nat)
    (plan : SchedulePlan) (date : Date) (before stores : Stores) : Prop where
  fresh : before.resolved plan.channelId date = none
  once : stores = before ∨ ∃ slots time day after,
    plan.listSlots date plan.zones = .ok slots ∧
      resolveScheduleDay config seedHash before plan.channelId date slots time = .ok (day, after) ∧
      stores.resolved plan.channelId date = some day

/-- A log is that of the plan's slots, laid out. -/
theorem planLog_laid (resolves : ResolvesPlan config seedHash plan date before stores)
    (planned : planLog plan date config seedHash stores assetLibrary source breakProfile policy
      resolutionTime = .ok (day, log)) :
    ∃ slots, plan.listSlots date plan.zones = .ok slots ∧
      Laid config seedHash plan.channelId date before slots day.resolvedSlots day.programEvents ∧
      log = planDay assetLibrary source day plan.gridBlockMinutes breakProfile policy plan.channelId
        date plan.programmingDayStartHour := by
  unfold planLog at planned
  cases listed : plan.listSlots date plan.zones with
  | error reason =>
    rw [listed] at planned
    cases planned
  | ok slots =>
    rw [listed] at planned
    simp only [bind, Except.bind] at planned
    cases answer : resolveScheduleDay config seedHash stores plan.channelId date slots
        resolutionTime with
    | error reason =>
      rw [answer] at planned
      cases planned
    | ok out =>
      rw [answer] at planned
      obtain ⟨rfl, rfl⟩ := Prod.mk.inj (Except.ok.inj planned)
      refine ⟨slots, rfl, ?_, rfl⟩
      rcases resolves.once with rfl | ⟨own, time, first, after, same, resolved, stored⟩
      · obtain ⟨resolved, events, shape, laid, -⟩ := resolveScheduleDay_laid resolves.fresh answer
        rw [shape]
        exact laid
      · -- the day is the one in the stores
        obtain rfl := Except.ok.inj (listed.symm.trans same)
        obtain ⟨resolved, events, shape, laid, -⟩ :=
          resolveScheduleDay_laid resolves.fresh resolved
        unfold resolveScheduleDay at answer
        rw [stored] at answer
        rw [← (Prod.mk.inj (Except.ok.inj answer)).1, shape]
        exact laid

/-- **The entries start where the slots of the plan are placed**, each a grid block long. -/
theorem planLog_starts (resolves : ResolvesPlan config seedHash plan date before stores)
    (planned : planLog plan date config seedHash stores assetLibrary source breakProfile policy
      resolutionTime = .ok (day, log)) :
    startsOf log = (plan.plannedTimes date plan.zones).map (fun t => utcMs (placed plan date t)) ∧
      ∀ entry ∈ log.entries,
        entry.endUtcMs = entry.startUtcMs + blockMs plan.gridBlockMinutes := by
  obtain ⟨slots, listed, laid, rfl⟩ := planLog_laid resolves planned
  have entries := planDay_entries assetLibrary source day plan.gridBlockMinutes breakProfile policy
    plan.channelId date plan.programmingDayStartHour (laid_enough laid)
  constructor
  · have starts := congrArg (List.map Prod.fst) entries
    rw [List.map_map, List.map_map] at starts
    have times := congrArg (List.map fun time : TimeOfDay =>
      slotToDatetime plan.programmingDayStartHour date time) (laid_times laid)
    rw [List.map_map, List.map_map] at times
    have places := congrArg (List.map utcMs) (times.trans (listSlots_times listed))
    rw [List.map_map, List.map_map] at places
    exact starts.trans places
  · intro entry member
    have among := List.mem_map_of_mem (f := fun entry : TransmissionLogEntry =>
      (entry.startUtcMs, entry.endUtcMs)) member
    rw [entries] at among
    obtain ⟨slot, -, same⟩ := List.mem_map.mp among
    obtain ⟨start, stop⟩ := Prod.mk.inj same
    rw [← start, ← stop]

end Starts

/-! ### From zone to zone -/

section Seams

/-- Each start is a step after the one before, or something begins there. -/
def Seams (stepMs : Int) (begins : Nat → Prop) (position : Nat) (starts : List Int) : Prop :=
  (starts.zipIdx position).IsChain fun a b => b.1 = a.1 + stepMs ∨ begins b.2

variable {stepMs : Int} {begins : Nat → Prop} {position : Nat}

theorem seams_iff {starts : List Int} : Seams stepMs begins position starts ↔
    ∀ i start next, starts[i]? = some start → starts[i + 1]? = some next →
      next = start + stepMs ∨ begins (position + i + 1) := by
  unfold Seams
  rw [List.isChain_iff_getElem]
  constructor
  · intro chain i start next here there
    obtain ⟨_, rfl⟩ := List.getElem?_eq_some_iff.mp here
    obtain ⟨bound, rfl⟩ := List.getElem?_eq_some_iff.mp there
    have step := chain i (by rw [List.length_zipIdx]; exact bound)
    rw [List.getElem_zipIdx, List.getElem_zipIdx] at step
    exact step
  · intro steps i bound
    rw [List.length_zipIdx] at bound
    rw [List.getElem_zipIdx, List.getElem_zipIdx]
    exact steps i _ _ (List.getElem?_eq_getElem (by omega)) (List.getElem?_eq_getElem bound)

/-- Where nothing begins they go step by step. -/
theorem seams_false {starts : List Int} : Seams stepMs (fun _ => False) position starts ↔
    starts.IsChain fun a b => b = a + stepMs := by
  have plain : (starts.zipIdx position).map Prod.fst = starts := List.zipIdx_map_fst position starts
  conv_rhs => rw [← plain, List.isChain_map]
  simp only [Seams, or_false]

/-- Two lists, one after the other, and the seam between them. -/
theorem seams_append {first second : List Int} :
    Seams stepMs begins position (first ++ second) ↔
      Seams stepMs begins position first ∧
      (∀ last ∈ first.getLast?, ∀ next ∈ second.head?,
        next = last + stepMs ∨ begins (position + first.length)) ∧
      Seams stepMs begins (position + first.length) second := by
  have ends : ((first.zipIdx position).getLast?).map Prod.fst = first.getLast? := by
    rw [← List.getLast?_map, List.zipIdx_map_fst]
  have heads : (second.zipIdx (position + first.length)).head? =
      second.head?.map fun next => (next, position + first.length) := by
    cases second <;> rfl
  unfold Seams
  rw [List.zipIdx_append, List.isChain_append, and_congr_right_iff]
  refine fun _ => and_comm.trans (and_congr_left fun _ => ?_)
  rw [heads, ← ends]
  simp only [Option.mem_def, Option.map_eq_some_iff, forall_exists_index, and_imp,
    forall_apply_eq_imp_iff₂]

variable {plan : SchedulePlan} {date : Date}

/-- Zones without slots plan nothing. -/
theorem plannedTimes_slotted :
    plan.plannedTimes date plan.zones = plan.plannedTimes date (slottedZones plan date) := by
  unfold slottedZones SchedulePlan.plannedTimes
  induction plan.zones with
  | nil => rfl
  | cons zone rest ih =>
    rw [List.flatMap_cons, List.filter_cons, ih]
    by_cases slotted : 0 < plan.numSlots date zone
    · rw [if_pos (decide_eq_true slotted), List.flatMap_cons]
    · rw [if_neg (by simpa using slotted), Nat.eq_zero_of_not_pos slotted]
      rfl

/-- A list of zones that have slots starts with the start of the first. -/
theorem plannedTimes_head {zones : List ZoneDirective}
    (slotted : ∀ zone ∈ zones, 0 < plan.numSlots date zone) :
    (plan.plannedTimes date zones).head? = zones.head?.map (plan.zoneStart date) := by
  cases zones with
  | nil => rfl
  | cons zone rest =>
    obtain ⟨n, many⟩ := Nat.exists_eq_succ_of_ne_zero (slotted zone List.mem_cons_self).ne'
    rw [SchedulePlan.plannedTimes, List.flatMap_cons, many, List.range_succ_eq_map]
    simp [SchedulePlan.slotDt]

/-- The seams of a list given by its places. -/
theorem seams_map_range (f : Nat → Int) (n : Nat) :
    Seams stepMs begins position ((List.range n).map f) ↔
      ∀ i, i + 1 < n → f (i + 1) = f i + stepMs ∨ begins (position + i + 1) := by
  rw [seams_iff]
  constructor
  · intro steps i bound
    refine steps i _ _ ?_ ?_
    · rw [List.getElem?_map, List.getElem?_range (by omega)]
      rfl
    · rw [List.getElem?_map, List.getElem?_range bound]
      rfl
  · intro steps i start next here there
    obtain ⟨_, rfl⟩ := List.getElem?_eq_some_iff.mp here
    obtain ⟨bound, rfl⟩ := List.getElem?_eq_some_iff.mp there
    rw [List.length_map, List.length_range] at bound
    rw [List.getElem_map, List.getElem_map, List.getElem_range, List.getElem_range]
    exact steps i bound

/-- **The seams of planned times** are those inside each zone, and where one hands over to the next. -/
theorem seams_plannedTimes {zones : List ZoneDirective}
    (slotted : ∀ zone ∈ zones, 0 < plan.numSlots date zone) :
    Seams (blockMs plan.gridBlockMinutes) begins position
        ((plan.plannedTimes date zones).map utcMs) ↔
      HandsOver plan date begins position zones := by
  induction zones generalizing position with
  | nil => exact iff_of_true .nil trivial
  | cons zone rest ih =>
    obtain ⟨some_, others⟩ := List.forall_mem_cons.mp slotted
    have last : (((List.range (plan.numSlots date zone)).map (plan.slotDt date zone)).map
        utcMs).getLast? =
          some (utcMs (plan.slotDt date zone (plan.numSlots date zone - 1))) := by
      rw [List.getLast?_map, List.getLast?_map, List.getLast?_range, if_neg some_.ne']
      rfl
    have head : ((plan.plannedTimes date rest).map utcMs).head? =
        rest.head?.map fun next => utcMs (plan.zoneStart date next) := by
      rw [List.head?_map, plannedTimes_head others, Option.map_map]
      rfl
    have junction : (∀ stop ∈ some (utcMs (plan.slotDt date zone (plan.numSlots date zone - 1))),
        ∀ next ∈ rest.head?.map fun next => utcMs (plan.zoneStart date next),
          next = stop + blockMs plan.gridBlockMinutes ∨
            begins (position + plan.numSlots date zone)) ↔
        ∀ next ∈ rest.head?, utcMs (plan.zoneStart date next) = slotsEndMs plan date zone ∨
          begins (position + plan.numSlots date zone) := by
      simp only [Option.mem_def, Option.some.injEq, forall_eq', Option.map_eq_some_iff,
        forall_exists_index, and_imp, forall_apply_eq_imp_iff₂]
      rfl
    have tail : Seams (blockMs plan.gridBlockMinutes) begins (position + plan.numSlots date zone)
        ((plan.plannedTimes date rest).map utcMs) ↔
          HandsOver plan date begins (position + plan.numSlots date zone) rest := ih others
    unfold SchedulePlan.plannedTimes at tail head ⊢
    rw [List.flatMap_cons, List.map_append, seams_append, HandsOver, last, head, List.length_map,
      List.length_map, List.length_range, junction, tail, List.map_map, seams_map_range]
    rfl

end Seams

/-! ### The events of a log -/

section Events

/-- Every slot is in a run, when the events span them all. -/
theorem eventRuns_place (first : Nat) (slots : List ResolvedSlot) (events : List ProgramEvent)
    (enough : slots.length ≤ (events.map fun event => event.blockSpanCount.toNat).sum) {i : Nat}
    (bound : i < slots.length) :
    ∃ run ∈ eventRuns first slots events,
      run.first ≤ first + i ∧ first + i < run.first + run.slots.length := by
  induction events generalizing first slots i with
  | nil =>
    rw [List.map_nil, List.sum_nil] at enough
    omega
  | cons event rest ih =>
    rw [List.map_cons, List.sum_cons] at enough
    rw [eventRuns]
    rcases lt_or_ge i event.blockSpanCount.toNat with own | later
    · refine ⟨_, List.mem_cons_self, Nat.le_add_right _ _, ?_⟩
      dsimp only
      rw [List.length_take]
      omega
    · have taken : min event.blockSpanCount.toNat slots.length = event.blockSpanCount.toNat := by
        omega
      obtain ⟨run, member, low, high⟩ := ih (first + event.blockSpanCount.toNat)
        (slots.drop event.blockSpanCount.toNat) (i := i - event.blockSpanCount.toNat)
        (by rw [List.length_drop]; omega) (by rw [List.length_drop]; omega)
      rw [taken]
      exact ⟨run, List.mem_cons_of_mem _ member, by omega, by omega⟩

/-- The runs follow each other. -/
theorem eventRuns_apart (first : Nat) (slots : List ResolvedSlot) (events : List ProgramEvent) :
    (∀ run ∈ eventRuns first slots events, first ≤ run.first) ∧
      (eventRuns first slots events).Pairwise fun a b => a.first + a.slots.length ≤ b.first := by
  induction events generalizing first slots with
  | nil => exact ⟨fun _ member => (List.not_mem_nil member).elim, .nil⟩
  | cons event rest ih =>
    obtain ⟨after, apart⟩ := ih (first + min event.blockSpanCount.toNat slots.length)
      (slots.drop event.blockSpanCount.toNat)
    rw [eventRuns]
    refine ⟨List.forall_mem_cons.mpr ⟨le_rfl, fun run member => ?_⟩, List.pairwise_cons.mpr
      ⟨fun run member => ?_, apart⟩⟩
    · exact (Nat.le_add_right _ _).trans (after run member)
    · dsimp only
      rw [List.length_take]
      exact after run member

/-- No run begins inside another. -/
theorem eventRuns_inside {first : Nat} {slots : List ResolvedSlot} {events : List ProgramEvent}
    {run other : EventRun} (member : run ∈ eventRuns first slots events)
    (listed : other ∈ eventRuns first slots events) (after : run.first < other.first) :
    ¬ other.first < run.first + run.slots.length := by
  have apart := List.pairwise_iff_getElem.mp (eventRuns_apart first slots events).2
  obtain ⟨i, iBound, rfl⟩ := List.getElem_of_mem member
  obtain ⟨j, jBound, rfl⟩ := List.getElem_of_mem listed
  rcases lt_trichotomy i j with earlier | rfl | later
  · exact not_lt.mpr (apart i j iBound jBound earlier)
  · exact absurd after (lt_irrefl _)
  · have before := apart j i jBound iBound later
    omega

/-- **Events are on consecutive steps** exactly when only their beginnings are off the step before. -/
theorem seams_runs {stepMs : Int} {starts : List Int} {slots : List ResolvedSlot}
    {events : List ProgramEvent} (same : starts.length = slots.length)
    (enough : slots.length ≤ (events.map fun event => event.blockSpanCount.toNat).sum) :
    (∀ run ∈ eventRuns 0 slots events, ∀ k < run.slots.length, ∀ first later,
        starts[run.first]? = some first → starts[run.first + k]? = some later →
          later = first + k * stepMs) ↔
      Seams stepMs (fun position => ∃ run ∈ eventRuns 0 slots events, run.first = position) 0
        starts := by
  rw [seams_iff]
  constructor
  · intro consecutive i start next here there
    obtain ⟨bound, -⟩ := List.getElem?_eq_some_iff.mp there
    obtain ⟨run, member, low, high⟩ := eventRuns_place 0 slots events enough (i := i + 1) (by omega)
    rcases Nat.eq_or_lt_of_le low with begins | inside
    · exact .inr ⟨run, member, by omega⟩
    · -- both are blocks of the run
      left
      obtain ⟨first, isFirst⟩ : ∃ first, starts[run.first]? = some first :=
        ⟨_, List.getElem?_eq_getElem (by omega)⟩
      have earlier := consecutive run member (i - run.first) (by omega) first start isFirst
        (by rw [show run.first + (i - run.first) = i by omega]; exact here)
      have later := consecutive run member (i + 1 - run.first) (by omega) first next isFirst
        (by rw [show run.first + (i + 1 - run.first) = i + 1 by omega]; exact there)
      have places : ((i + 1 - run.first : Nat) : Int) = ((i - run.first : Nat) : Int) + 1 := by
        omega
      rw [later, earlier, places]
      ring
  · intro steps run member k inside first later isFirst isLater
    induction k generalizing later with
    | zero =>
      rw [Nat.add_zero, isFirst] at isLater
      obtain rfl := Option.some.inj isLater
      rw [Nat.cast_zero, zero_mul, add_zero]
    | succ k ih =>
      obtain ⟨bound, -⟩ := List.getElem?_eq_some_iff.mp isLater
      obtain ⟨before, isBefore⟩ : ∃ before, starts[run.first + k]? = some before :=
        ⟨_, List.getElem?_eq_getElem (by omega)⟩
      rcases steps _ _ _ isBefore isLater with step | ⟨other, listed, begins⟩
      · rw [step, ih (by omega) before isBefore]
        push_cast
        ring
      · exact (eventRuns_inside member listed (by omega) (by omega)).elim

variable {config : Config} {seedHash : String → String → Date → TimeOfDay → Nat}
  {channelId : String} {date : Date} {stores : Stores} {slots : List ScheduleSlot}
  {resolved : List ResolvedSlot} {events : List ProgramEvent}

/-- **The events of a laid day begin where its runs do.** -/
theorem eventBegins_iff
    (laid : Laid config seedHash channelId date stores slots resolved events) (first position : Nat) :
    EventBegins config seedHash channelId date stores slots position ↔
      ∃ run ∈ eventRuns first resolved events, run.first = first + position := by
  induction laid generalizing first position with
  | nil =>
    refine iff_of_false (fun begins => by cases begins) ?_
    rintro ⟨run, member, -⟩
    cases member
  | @event stores after slot rest asset n slotIdx slots events answer span tail ih =>
    have others := laid_length_eq tail
    rw [List.length_drop] at others
    have parts := @resolved_parts config slot asset rest n slots others
    have count : (programEvent config channelId date slotIdx slot asset).blockSpanCount.toNat =
        n + 1 := by
      rw [programEvent_blockSpanCount, Int.toNat_natCast, span]
    have dropped : (slot :: rest).drop (n + 1) = rest.drop n := List.drop_succ_cons
    rw [eventRuns, count, List.take_succ_cons, List.drop_succ_cons, parts.1, parts.2,
      List.length_cons, List.length_append, List.length_map, List.length_take]
    constructor
    · intro begins
      cases begins with
      | here => exact ⟨_, List.mem_cons_self, (add_zero first).symm⟩
      | @later _ again _ _ other position reanswer begins =>
        obtain ⟨rfl, rfl⟩ := Prod.mk.inj (Except.ok.inj (answer.symm.trans reanswer))
        rw [span, dropped] at begins
        rw [span]
        -- an event after this one has a slot, so the slots do not run out before
        have longer : n < rest.length := by
          by_contra short
          rw [List.drop_eq_nil_of_le (by omega)] at begins
          cases begins
        obtain ⟨run, member, place⟩ :=
          (ih (first + min (n + 1) (min n rest.length + slots.length + 1)) position).mp begins
        exact ⟨run, List.mem_cons_of_mem _ member, by omega⟩
    · rintro ⟨run, member, place⟩
      rcases List.mem_cons.mp member with rfl | later
      · obtain rfl : position = 0 := by
          dsimp only at place
          omega
        exact .here stores slot rest
      · have longer : n < rest.length := by
          by_contra short
          rw [List.drop_eq_nil_of_le (by omega)] at tail
          cases tail
          cases later
        have after := (eventRuns_apart _ _ _).1 run later
        have begins := (ih (first + min (n + 1) (min n rest.length + slots.length + 1))
          (position - (n + 1))).mpr ⟨run, later, by omega⟩
        have whole : EventBegins config seedHash channelId date stores (slot :: rest)
            (blockSpan config asset.contentDurationSeconds + (position - (n + 1))) :=
          .later answer (by rw [span, dropped]; exact begins)
        rw [span] at whole
        rwa [show n + 1 + (position - (n + 1)) = position by omega] at whole

end Events

/-! ### The log of a plan -/

section Log

variable {plan : SchedulePlan} {date : Date}

/-- The slots of a zone that are placed a step apart are all within the day. -/
theorem zoneWithin_of_steps {zone : ZoneDirective}
    (steps : ∀ i, i + 1 < plan.numSlots date zone →
      utcMs (placed plan date (plan.slotDt date zone (i + 1))) =
        utcMs (placed plan date (plan.slotDt date zone i)) + blockMs plan.gridBlockMinutes) :
    ZoneWithin plan date zone := by
  intro i bound
  induction i with
  | zero =>
    unfold SchedulePlan.slotDt
    rw [Nat.cast_zero, zero_mul, add_zero]
    exact (slotToDatetime_bounds plan date zone.startTime).2
  | succ i ih =>
    -- a slot of the next day would be placed before the one before it
    by_contra late
    have step := steps i bound
    rw [(placed_slotDt bound).2 (by omega), (placed_slotDt (by omega)).1 (ih (by omega))] at step
    have moved := utcMs_bounds (plan.slotDt date zone (i + 1) - dayMicros)
    have kept := utcMs_bounds (plan.slotDt date zone i)
    have next : plan.slotDt date zone (i + 1) = plan.slotDt date zone i + plan.gridMicros := by
      unfold SchedulePlan.slotDt
      push_cast
      ring
    have grid := gridMicros_eq plan
    have day : dayMicros = 86400000000 := rfl
    omega

/-- **Slots placed step by step are all within the day.** -/
theorem zonesWithin_of_chain {zones : List ZoneDirective}
    (chain : ((plan.plannedTimes date zones).map fun t => utcMs (placed plan date t)).IsChain
      fun a b => b = a + blockMs plan.gridBlockMinutes) :
    ∀ zone ∈ zones, ZoneWithin plan date zone := by
  induction zones with
  | nil => exact fun _ member => (List.not_mem_nil member).elim
  | cons zone rest ih =>
    rw [SchedulePlan.plannedTimes, List.flatMap_cons, List.map_append, List.isChain_append] at chain
    obtain ⟨own, others, -⟩ := chain
    refine List.forall_mem_cons.mpr ⟨zoneWithin_of_steps ?_, ih others⟩
    rw [List.map_map, ← @seams_false _ 0, seams_map_range] at own
    intro i bound
    exact (own i bound).resolve_right id

/-- **Every slot has its planned time** exactly when all are within the day. -/
theorem onTime_iff {zones : List ZoneDirective} :
    (plan.plannedTimes date zones).map (fun t => utcMs (placed plan date t)) =
        (plan.plannedTimes date zones).map utcMs ↔
      ∀ zone ∈ zones, ZoneWithin plan date zone := by
  rw [List.map_inj_left]
  constructor
  · intro same zone member i bound
    refine (utcMs_placed_iff bound).mp (same _ (List.mem_flatMap.mpr ⟨zone, member, ?_⟩))
    exact List.mem_map_of_mem (List.mem_range.mpr bound)
  · intro within t member
    obtain ⟨zone, listed, own⟩ := List.mem_flatMap.mp member
    obtain ⟨i, range, rfl⟩ := List.mem_map.mp own
    have bound := List.mem_range.mp range
    exact (utcMs_placed_iff bound).mpr (within zone listed i bound)

/-- The zones that have slots have some. -/
theorem slottedZones_pos : ∀ zone ∈ slottedZones plan date, 0 < plan.numSlots date zone :=
  fun _ member => of_decide_eq_true (List.mem_filter.mp member).2

/-- **Planned times pass the checks** exactly when each zone hands over to the next and the first starts
on the grid of the epoch. -/
theorem plannedTimes_checked_iff :
    (((plan.plannedTimes date plan.zones).map utcMs).IsChain
        (fun a b => b = a + blockMs plan.gridBlockMinutes) ∧
      ∀ first ∈ ((plan.plannedTimes date plan.zones).map utcMs).head?,
        first % blockMs plan.gridBlockMinutes = 0) ↔
      HandsOver plan date (fun _ => False) 0 (slottedZones plan date) ∧
        ∀ first ∈ (slottedZones plan date).head?,
          utcMs (plan.zoneStart date first) % blockMs plan.gridBlockMinutes = 0 := by
  rw [plannedTimes_slotted, ← @seams_false _ 0, seams_plannedTimes slottedZones_pos,
    List.head?_map, plannedTimes_head slottedZones_pos, Option.map_map]
  refine and_congr_right fun _ => ?_
  simp only [Option.mem_def, Option.map_eq_some_iff, Function.comp_apply, forall_exists_index,
    and_imp, forall_apply_eq_imp_iff₂]

variable {Source : Type} {config : Config}
  {seedHash : String → String → Date → TimeOfDay → Nat} {stores before : Stores}
  {assetLibrary : AssetLibrary Source} {source : Source}
  {breakProfile : Option SyntheticBreakProfile} {policy : Option BreakFillPolicy}
  {resolutionTime : Int} {day : ResolvedScheduleDay} {log : TransmissionLog}

/-- A log of grid blocks passes both checks exactly when its starts are a grid block apart, from one that
is on the grid. -/
theorem checked_iff
    (long : ∀ entry ∈ log.entries, entry.endUtcMs = entry.startUtcMs + blockMs plan.gridBlockMinutes) :
    (validateTransmissionLogSeams log plan.gridBlockMinutes = .ok () ∧
        validateTransmissionLogGridAlignment log plan.gridBlockMinutes = .ok ()) ↔
      (startsOf log).IsChain (fun a b => b = a + blockMs plan.gridBlockMinutes) ∧
        ∀ first ∈ (startsOf log).head?, first % blockMs plan.gridBlockMinutes = 0 := by
  unfold validateTransmissionLogSeams validateTransmissionLogGridAlignment
  rw [validateSeamsFrom_ok_iff (blockMs_pos plan) long, validateAlignmentFrom_ok_iff long]
  exact and_congr_right fun chain => aligned_of_chain chain

/-- **The transmission log of a plan**: it gives what it owes exactly when the zones fit. -/
theorem log_kept_iff (resolves : ResolvesPlan config seedHash plan date before stores)
    (planned : planLog plan date config seedHash stores assetLibrary source breakProfile policy
      resolutionTime = .ok (day, log)) :
    LogKept plan date day log ↔ ZonesFit plan date config seedHash before := by
  obtain ⟨starts, long⟩ := planLog_starts resolves planned
  obtain ⟨slots, listed, laid, -⟩ := planLog_laid resolves planned
  have checks := @checked_iff plan log long
  have onTime : startsOf log = (plan.plannedTimes date plan.zones).map utcMs ↔
      ∀ zone ∈ plan.zones, ZoneWithin plan date zone := by
    rw [starts]
    exact onTime_iff
  have events (within : ∀ zone ∈ plan.zones, ZoneWithin plan date zone) :
      EventsConsecutive plan day log ↔
        HandsOver plan date (EventBegins config seedHash plan.channelId date before slots) 0
          (slottedZones plan date) := by
    have same := onTime.mpr within
    have places := congrArg List.length (listSlots_times listed)
    rw [List.length_map, List.length_map] at places
    have lengths : (startsOf log).length = day.resolvedSlots.length := by
      rw [same, List.length_map, laid_length_eq laid, places]
    have begins : (fun position => ∃ run ∈ eventRuns 0 day.resolvedSlots day.programEvents,
        run.first = position) =
          EventBegins config seedHash plan.channelId date before slots := by
      funext position
      rw [eventBegins_iff laid 0 position, Nat.zero_add]
    unfold EventsConsecutive
    rw [seams_runs lengths (laid_enough laid), begins, same, plannedTimes_slotted,
      seams_plannedTimes slottedZones_pos]
  constructor
  · intro kept
    by_cases covers : Covers plan date
    · have checked := checks.mp (kept.covered covers)
      have within : ∀ zone ∈ plan.zones, ZoneWithin plan date zone := by
        rw [starts] at checked
        exact zonesWithin_of_chain checked.1
      rw [onTime.mpr within, plannedTimes_checked_iff] at checked
      exact ⟨within, fun _ => checked, fun uncovered => absurd covers uncovered⟩
    · obtain ⟨same, consecutive⟩ := kept.uncovered covers
      have within := onTime.mp same
      refine ⟨within, fun covered => absurd covered covers, fun _ others again => ?_⟩
      obtain rfl := Except.ok.inj (listed.symm.trans again)
      exact (events within).mp consecutive
  · rintro ⟨within, covered, uncovered⟩
    refine ⟨fun covers => checks.mpr ?_, fun covers => ?_⟩
    · rw [onTime.mpr within, plannedTimes_checked_iff]
      exact covered covers
    · exact ⟨onTime.mpr within, (events within).mpr (uncovered covers slots listed)⟩

/-- A zone of the film between two half hours. -/
def filmZone (start stop : Fin 48) : ZoneDirective where
  startTime := (halfHourSlot start "film").slotTime
  endTime := (halfHourSlot stop "film").slotTime
  programs := [⟨.program, "film"⟩]

theorem tenOClock_lt : 20 < 48 := by decide

theorem halfPastTen_lt : 21 < 48 := by decide

/-- Ten o'clock. -/
def tenOClock : Fin 48 := ⟨20, tenOClock_lt⟩

/-- Half past ten. -/
def halfPastTen : Fin 48 := ⟨21, halfPastTen_lt⟩

/-- Half an hour from six, and half an hour from ten. -/
def splitPlan : SchedulePlan where
  channelId := "ch"
  gridBlockMinutes := 30
  grid_pos := filmConfig.grid_pos
  programmingDayStartHour := 6
  hour_nonneg := filmConfig.hour_nonneg
  hour_lt := filmConfig.hour_lt
  zones := [filmZone sixOClock halfPastSix, filmZone tenOClock halfPastTen]

/-- What planning it gives. -/
def splitPlanning : ResolvedScheduleDay × TransmissionLog :=
  ((planLog splitPlan 739000 filmConfig (fun _ _ _ _ => 0) freshStores filmLibrary () none none
    0).toOption).getD (⟨739000, [], 0, []⟩, ⟨"ch", 739000, [], false⟩)

theorem splitPlanning_eq :
    planLog splitPlan 739000 filmConfig (fun _ _ _ _ => 0) freshStores filmLibrary () none none 0 =
      .ok (splitPlanning.1, splitPlanning.2) := by
  have succeeds : (planLog splitPlan 739000 filmConfig (fun _ _ _ _ => 0) freshStores filmLibrary ()
      none none 0).toOption.isSome = true := by decide +kernel
  unfold splitPlanning
  cases answer : planLog splitPlan 739000 filmConfig (fun _ _ _ _ => 0) freshStores filmLibrary ()
      none none 0 with
  | error reason =>
    rw [answer] at succeeds
    cases succeeds
  | ok planning => rfl

theorem splitPlan_kept_iff :
    LogKept splitPlan 739000 splitPlanning.1 splitPlanning.2 ↔
      ZonesFit splitPlan 739000 filmConfig (fun _ _ _ _ => 0) freshStores :=
  log_kept_iff ⟨rfl, .inl rfl⟩ splitPlanning_eq

/-- **The second half of the film is at ten**: an hour's film that starts at six in a zone of half an hour
goes on in the next zone. -/
theorem film_continues_at_ten :
    planLog splitPlan 739000 filmConfig (fun _ _ _ _ => 0) freshStores filmLibrary () none none 0 =
        .ok (splitPlanning.1, splitPlanning.2) ∧
      startsOf splitPlanning.2 =
        [utcMs (739000 * dayMicros + 6 * hourMicros), utcMs (739000 * dayMicros + 10 * hourMicros)] ∧
      ¬ LogKept splitPlan 739000 splitPlanning.1 splitPlanning.2 := by
  have starts : startsOf splitPlanning.2 = [utcMs (739000 * dayMicros + 6 * hourMicros),
      utcMs (739000 * dayMicros + 10 * hourMicros)] := by decide +kernel
  refine ⟨splitPlanning_eq, starts, fun kept => ?_⟩
  have uncovered : ¬ Covers splitPlan 739000 := by
    intro covers
    -- at seven no zone is on
    obtain ⟨zone, member, low, high⟩ := covers sevenOClock (by decide) (by decide)
    have outside : ∀ zone ∈ splitPlan.zones, ¬ (splitPlan.zoneStart 739000 zone ≤ sevenOClock ∧
        sevenOClock < splitPlan.zoneEnd 739000 zone) := by decide
    exact outside zone member ⟨low, high⟩
  have consecutive := (kept.uncovered uncovered).2
  have runs : (eventRuns 0 splitPlanning.1.resolvedSlots splitPlanning.1.programEvents).map (fun run =>
      (run.first, run.slots.length)) = [(0, 2)] := by decide +kernel
  obtain ⟨run, member, shape⟩ := List.mem_map.mp (runs ▸ List.mem_singleton_self (0, 2))
  obtain ⟨first, length⟩ := Prod.mk.inj shape
  have second := consecutive run member 1 (by rw [length]; decide) _ _
    (by rw [first, starts]; rfl) (by rw [first, starts]; rfl)
  exact absurd second (by decide)

end Log

end Retrovue.Core.Planning
