/-
**Editing the zones of a plan** (`usecases/zone_update.py`, `usecases/zone_delete.py`), in a session.

* `ZoneUpdate`, `edits`, `updateZone`: fields are assigned one by one, each step may raise, and the
  integrity of the plan is checked last;
* `deleteZone`: a zone is deleted without a check;
* `unitOfWork`: a call in a session of its own (`infra/uow.py`), which is rolled back when it raises;
* `zone_plans_stay_valid`: over whole edit histories a valid plan stays aligned and without overlap,
  and covered as long as no deletion uncovers it;
* `zone_plans_uncovered`: a deletion may, and a call that raises leaves the session changed.
-/

import Mathlib
import Retrovue.Foundation.Transition
import Retrovue.Core.Zones.Coverage

namespace Retrovue.Core.Zones

open Retrovue.Foundation.Transition Retrovue.Core.Schedule

/-! ### The tables -/

section Tables

/-- The rows of `zones`, by their primary key. -/
structure Table where
  zones : List Zone
  key : (zones.map Zone.id).Nodup

/-- The row with the id of `edited` becomes `edited`. -/
def Table.replace (edited : Zone) (table : Table) : Table where
  zones := table.zones.map fun z => if z.id = edited.id then edited else z
  key := by
    have sameIds : (table.zones.map fun z => if z.id = edited.id then edited else z).map Zone.id =
        table.zones.map Zone.id := by
      rw [List.map_map]
      refine List.map_congr_left fun z _ => ?_
      rw [Function.comp_apply]
      split_ifs with same
      · exact same.symm
      · rfl
    rw [sameIds]
    exact table.key

/-- The row with an id is gone. -/
def Table.remove (id : ℕ) (table : Table) : Table where
  zones := table.zones.filter fun z => z.id ≠ id
  key := table.key.sublist (List.filter_sublist.map _)

/-- The zones of a plan. -/
def Table.ofPlan (planId : ℕ) (table : Table) : List Zone :=
  table.zones.filter fun z => z.planId = planId

/-- `Channel`, as far as it is read here. -/
structure Channel where
  programmingDayStart : TimeOfDay
  gridBlockMinutes : ℤ

/-- A session: the committed rows, and those that it would commit next. -/
structure Session where
  stored : Table
  rows : Table

/-- A session just opened. -/
def Session.opened (stored : Table) : Session := ⟨stored, stored⟩

/-- `commit`. -/
def Session.commit (s : Session) : Session := ⟨s.rows, s.rows⟩

/-- `rollback`. -/
def Session.rollback (s : Session) : Session := ⟨s.stored, s.stored⟩

end Tables

/-! ### Reading the arguments -/

section Arguments

/-- What the language and the database do with texts; `none` is a `ValueError`. -/
structure Text where
  strip : String → String
  lower : String → String
  upper : String → String
  splitColon : String → List String
  int : String → Option ℤ
  uuid : String → Option ℕ
  fromisoformat : String → Option Date
  sqlLower : String → String

variable (text : Text)

/-- `int()`. -/
def parseInt (part : String) : Except ZoneError ℤ :=
  match text.int part with
  | some n => .ok n
  | none => .error (.valueError ("invalid literal for int() with base 10: '" ++ part ++ "'"))

/-- `dt_time(h, m, s)`. -/
def dtTime (h m s : ℤ) : Except ZoneError TimeOfDay :=
  if hours : 0 ≤ h ∧ h < 24 then
    if minutes : 0 ≤ m ∧ m < 60 then
      if seconds : 0 ≤ s ∧ s < 60 then
        .ok ⟨((h * 60 + m) * 60 + s) * 1000000, by omega, by unfold dayMicros; omega⟩
      else .error (.valueError "second must be in 0..59")
    else .error (.valueError "minute must be in 0..59")
  else .error (.valueError "hour must be in 0..23")

/-- `_parse_time`. -/
def parseTime (timeStr : String) : Except ZoneError TimeOfDay :=
  let stripped := text.strip timeStr
  if stripped = "24:00" ∨ stripped = "24:00:00" then .ok endOfDay
  else
    match text.splitColon stripped with
    | [h, m] => do dtTime (← parseInt text h) (← parseInt text m) 0
    | [h, m, s] => do dtTime (← parseInt text h) (← parseInt text m) (← parseInt text s)
    | _ => .error (.valueError ("Invalid time format '" ++ stripped ++ "'. Use HH:MM or HH:MM:SS"))

/-- `_validate_day_filters`. -/
def validateDayFilters : List String → Except ZoneError (List Day)
  | [] => .ok []
  | day :: rest =>
    match allDays.find? fun valid => valid.name = text.strip (text.upper day) with
    | none => .error (.valueError ("Invalid day filter '" ++ day ++
        "'. Valid values: ['FRI', 'MON', 'SAT', 'SUN', 'THU', 'TUE', 'WED']"))
    | some valid => do
      let others ← validateDayFilters rest
      return valid :: others

/-- `_validate_dst_policy`. -/
def validateDstPolicy (dstPolicy : String) : Except ZoneError String :=
  let policy := text.strip (text.lower dstPolicy)
  if policy ∈ ["expand_one_block", "reject", "shrink_one_block"] then .ok policy
  else .error (.valueError ("Invalid DST policy '" ++ dstPolicy ++
    "'. Valid values: ['expand_one_block', 'reject', 'shrink_one_block']"))

/-- `_validate_date_format`. -/
def validateDateFormat (dateStr : String) : Except ZoneError Date :=
  match text.fromisoformat dateStr with
  | some date => .ok date
  | none => .error (.valueError ("Invalid date format. Use YYYY-MM-DD: Invalid isoformat string: '" ++
      dateStr ++ "'"))

/-- `_resolve_zone`: by the UUID, else by the name; the queries read the committed rows, and answer with
the session's. -/
def resolveZone (identifier : String) (s : Session) : Except ZoneError Zone :=
  let byUuid := (text.uuid identifier).bind fun id => s.stored.zones.find? fun z => z.id = id
  let byName := s.stored.zones.find? fun z => text.sqlLower z.name = text.lower identifier
  match (byUuid.or byName).bind fun found => s.rows.zones.find? fun z => z.id = found.id with
  | some zone => .ok zone
  | none => .error (.valueError ("Zone '" ++ identifier ++ "' not found"))

end Arguments

/-! ### The use cases -/

section UseCases

/-- The arguments of `update_zone`. -/
structure ZoneUpdate where
  zoneIdentifier : String
  name : Option String := none
  startTime : Option String := none
  endTime : Option String := none
  schedulableAssets : Option (List String) := none
  dayFilters : Option (List String) := none
  clearDayFilters : Bool := false
  enabled : Option Bool := none
  effectiveStart : Option String := none
  effectiveEnd : Option String := none
  clearEffectiveStart : Bool := false
  clearEffectiveEnd : Bool := false
  dstPolicy : Option String := none
  clearDstPolicy : Bool := false

/-- An assignment to a zone, or a check of it. -/
abbrev Edit := Zone → Except ZoneError Zone

/-- A given argument is read and assigned. -/
def assign {α β : Type} (given : Option α) (read : α → Except ZoneError β) (set : β → Zone → Zone) :
    Edit := fun z =>
  match given with
  | none => .ok z
  | some argument => (read argument).map fun value => set value z

/-- The field is cleared, or a given argument is read and assigned. -/
def clearOr {α β : Type} (clear : Bool) (given : Option α) (read : α → Except ZoneError β)
    (set : Option β → Zone → Zone) : Edit :=
  if clear then fun z => .ok (set none z) else assign given read fun value => set (some value)

/-- A check. -/
def refuse (bad : Zone → Prop) [DecidablePred bad] (message : String) : Edit := fun z =>
  if bad z then .error (.valueError message) else .ok z

/-- The dates of the zone are in the wrong order. -/
def datesReversed (z : Zone) : Prop :=
  ∃ first ∈ z.effectiveStart, ∃ last ∈ z.effectiveEnd, last < first

instance : DecidablePred datesReversed := fun z =>
  match starts : z.effectiveStart, ends : z.effectiveEnd with
  | some first, some last => decidable_of_iff (last < first) (by simp [datesReversed, starts, ends])
  | none, _ => .isFalse (by simp [datesReversed, starts])
  | some _, none => .isFalse (by simp [datesReversed, ends])

variable (text : Text) (channelOf : ℕ → Option Channel)

/-- `_check_name_uniqueness`, and the name to assign. -/
def uniqueName (siblings : List Zone) (name : String) : Except ZoneError String :=
  if siblings.any fun z => text.lower (text.strip z.name) = text.lower (text.strip name) then
    .error (.valueError ("Zone name '" ++ name ++ "' already exists in plan"))
  else .ok (text.strip name)

/-- The body of `update_zone` before its integrity check, step by step. -/
def edits (update : ZoneUpdate) (siblings : List Zone) : List Edit :=
  [assign update.name (uniqueName text siblings) fun name z => { z with name := name },
    assign update.startTime (parseTime text) fun t z => { z with startTime := t },
    assign update.endTime (parseTime text) fun t z => { z with endTime := t },
    refuse (fun z => z.startTime = z.endTime) "start_time and end_time cannot be identical",
    assign update.schedulableAssets .ok fun assets z => { z with schedulableAssets := assets },
    clearOr update.clearDayFilters update.dayFilters (validateDayFilters text)
      fun days z => { z with dayFilters := days },
    assign update.enabled .ok fun enabled z => { z with enabled := enabled },
    clearOr update.clearEffectiveStart update.effectiveStart (validateDateFormat text)
      fun date z => { z with effectiveStart := date },
    clearOr update.clearEffectiveEnd update.effectiveEnd (validateDateFormat text)
      fun date z => { z with effectiveEnd := date },
    refuse datesReversed "effective_start must be <= effective_end",
    clearOr update.clearDstPolicy update.dstPolicy (validateDstPolicy text)
      fun policy z => { z with dstPolicy := policy }]

/-- The steps are taken until one raises: the zone as it then is, and what was raised. -/
def runEdits : List Edit → Zone → Zone × Option ZoneError
  | [], z => (z, none)
  | edit :: rest, z =>
    match edit z with
    | .error raised => (z, some raised)
    | .ok next => runEdits rest next

theorem startOfDay_nonneg : (0 : ℤ) ≤ 0 := le_rfl

theorem startOfDay_lt_day : 0 < dayMicros := by decide

/-- The integrity check of `update_zone`, for the channel of the plan. -/
def checkPlan (planId : ℕ) (candidates : List Zone) : Except ZoneError Unit :=
  match channelOf planId with
  | some channel =>
    validateZonePlanIntegrity channel.programmingDayStart (some channel.gridBlockMinutes) none candidates
  | none =>
    validateZonePlanIntegrity ⟨0, startOfDay_nonneg, startOfDay_lt_day⟩ none none candidates

/-- `update_zone`. -/
def updateZone (update : ZoneUpdate) (s : Session) : Session × Except ZoneError Unit :=
  match resolveZone text update.zoneIdentifier s with
  | .error raised => (s, .error raised)
  | .ok zone =>
    let siblings := (s.rows.ofPlan zone.planId).filter fun z => z.id ≠ zone.id
    let edited := runEdits (edits text update siblings) zone
    let dirty := { s with rows := s.rows.replace edited.1 }
    match edited.2 with
    | some raised => (dirty, .error raised)
    | none =>
      match checkPlan channelOf zone.planId (siblings ++ [edited.1]) with
      | .error raised => (dirty, .error raised)
      | .ok () => (dirty.commit, .ok ())

/-- `delete_zone`. -/
def deleteZone (identifier : String) (s : Session) : Session × Except ZoneError Unit :=
  match resolveZone text identifier s with
  | .error raised => (s, .error raised)
  | .ok zone => ({ s with rows := s.rows.remove zone.id }.commit, .ok ())

/-- A call of a use case. -/
inductive Call where
  | updateZone (update : ZoneUpdate)
  | deleteZone (identifier : String)

/-- A call on a session. -/
def perform (s : Session) : Call → Session × Except ZoneError Unit
  | .updateZone update => updateZone text channelOf update s
  | .deleteZone identifier => deleteZone text identifier s

/-- `session()`: a call is committed, or rolled back when it raises. -/
def unitOfWork (s : Session) (call : Call) : Session :=
  match perform text channelOf s call with
  | (after, .ok ()) => after.commit
  | (after, .error _) => after.rollback

/-- A step of an edit history. -/
def step (s : Session) (call : Call) : Option Session := some (unitOfWork text channelOf s call)

end UseCases

/-! ### What the checks say of a plan -/

section Plans

variable (channelOf : ℕ → Option Channel)

/-- The grid of a plan's channel. -/
def planGrid (planId : ℕ) : Option ℤ := (channelOf planId).map Channel.gridBlockMinutes

/-- The minute at which the programming day of a plan's channel starts. -/
def planStart (planId : ℕ) : ℤ :=
  match channelOf planId with
  | some channel => timeToMinutes channel.programmingDayStart
  | none => timeToMinutes ⟨0, startOfDay_nonneg, startOfDay_lt_day⟩

/-- The integrity check accepts the aligned plans without overlap that are covered. -/
theorem checkPlan_ok_iff (planId : ℕ) (candidates : List Zone) :
    checkPlan channelOf planId candidates = .ok () ↔
      GridAligned (planGrid channelOf planId) candidates ∧
        NoOverlap (planStart channelOf planId) candidates ∧
          FullCoverage (planStart channelOf planId) candidates := by
  have eligible : AssetsEligible none candidates := fun check given => by cases given
  unfold checkPlan planGrid planStart
  cases channelOf planId with
  | some channel =>
    dsimp only
    rw [validate_ok_iff]
    exact ⟨fun valid => ⟨valid.1, valid.2.1, valid.2.2.1⟩,
      fun valid => ⟨valid.1, valid.2.1, valid.2.2, eligible⟩⟩
  | none =>
    dsimp only
    rw [validate_ok_iff]
    exact ⟨fun valid => ⟨valid.1, valid.2.1, valid.2.2.1⟩,
      fun valid => ⟨valid.1, valid.2.1, valid.2.2, eligible⟩⟩

variable {grid : Option ℤ} {pdsMin : ℤ} {zones others : List Zone}

/-- The checks do not depend on the order of the zones. -/
theorem GridAligned.perm (aligned : GridAligned grid zones) (perm : zones.Perm others) :
    GridAligned grid others :=
  fun g isGrid z mem => aligned g isGrid z ((perm.filter _).mem_iff.mpr mem)

theorem NoOverlap.perm (apart : NoOverlap pdsMin zones) (perm : zones.Perm others) :
    NoOverlap pdsMin others := by
  refine (List.Perm.pairwise_iff ?_ (perm.filter _)).mp apart
  rintro a b noMinute day shared m nonneg lt ⟨inB, inA⟩
  rw [daysOverlap, Finset.inter_comm] at shared
  exact noMinute day shared m nonneg lt ⟨inA, inB⟩

theorem FullCoverage.perm (covered : FullCoverage pdsMin zones) (perm : zones.Perm others) :
    FullCoverage pdsMin others := by
  have sameMem : ∀ z, z ∈ active zones ↔ z ∈ active others := fun z => (perm.filter _).mem_iff
  obtain ⟨some', covers⟩ := covered
  refine ⟨?_, ?_⟩
  · obtain ⟨z, mem⟩ := List.exists_mem_of_ne_nil _ some'
    exact List.ne_nil_of_mem ((sameMem z).mp mem)
  · rintro day ⟨z, mem, on⟩ m nonneg lt
    obtain ⟨w, memW, here⟩ := covers day ⟨z, (sameMem z).mpr mem, on⟩ m nonneg lt
    exact ⟨w, (sameMem w).mp memW, here⟩

/-- Fewer zones are aligned and without overlap too. -/
theorem GridAligned.sublist (aligned : GridAligned grid zones) (sublist : others.Sublist zones) :
    GridAligned grid others :=
  fun g isGrid z mem => aligned g isGrid z ((sublist.filter _).mem mem)

theorem NoOverlap.sublist (apart : NoOverlap pdsMin zones) (sublist : others.Sublist zones) :
    NoOverlap pdsMin others :=
  List.Pairwise.sublist (sublist.filter _) apart

end Plans

/-! ### What the edits do to a plan -/

section EditedPlans

variable (text : Text) (channelOf : ℕ → Option Channel)

/-- An edit that keeps the id and the plan of a zone. -/
def Keeps (edit : Edit) : Prop :=
  ∀ z next, edit z = .ok next → next.id = z.id ∧ next.planId = z.planId

theorem assign_keeps {α β : Type} (given : Option α) (read : α → Except ZoneError β)
    {set : β → Zone → Zone} (keeps : ∀ value z, (set value z).id = z.id ∧
      (set value z).planId = z.planId) : Keeps (assign given read set) := by
  intro z next assigned
  unfold assign at assigned
  cases given with
  | none =>
    cases assigned
    exact ⟨rfl, rfl⟩
  | some argument =>
    dsimp only at assigned
    cases result : read argument with
    | error raised =>
      rw [result] at assigned
      cases assigned
    | ok value =>
      rw [result] at assigned
      cases assigned
      exact keeps value z

theorem clearOr_keeps {α β : Type} (clear : Bool) (given : Option α) (read : α → Except ZoneError β)
    {set : Option β → Zone → Zone} (keeps : ∀ value z, (set value z).id = z.id ∧
      (set value z).planId = z.planId) : Keeps (clearOr clear given read set) := by
  unfold clearOr
  split_ifs
  · intro z next cleared
    cases cleared
    exact keeps none z
  · exact assign_keeps given read fun value => keeps (some value)

theorem refuse_keeps (bad : Zone → Prop) [DecidablePred bad] (message : String) :
    Keeps (refuse bad message) := by
  intro z next passed
  unfold refuse at passed
  split_ifs at passed
  cases passed
  exact ⟨rfl, rfl⟩

/-- Every step of `update_zone` keeps the id and the plan. -/
theorem edits_keep (update : ZoneUpdate) (siblings : List Zone) :
    ∀ edit ∈ edits text update siblings, Keeps edit := by
  unfold edits
  simp only [List.forall_mem_cons, List.not_mem_nil, false_implies, implies_true, and_true]
  refine ⟨assign_keeps _ _ ?_, assign_keeps _ _ ?_, assign_keeps _ _ ?_, refuse_keeps _ _,
    assign_keeps _ _ ?_, clearOr_keeps _ _ _ ?_, assign_keeps _ _ ?_, clearOr_keeps _ _ _ ?_,
    clearOr_keeps _ _ _ ?_, refuse_keeps _ _, clearOr_keeps _ _ _ ?_⟩ <;>
  · intro value z
    exact ⟨rfl, rfl⟩

theorem runEdits_keeps {steps : List Edit} (keeps : ∀ edit ∈ steps, Keeps edit) (z : Zone) :
    (runEdits steps z).1.id = z.id ∧ (runEdits steps z).1.planId = z.planId := by
  induction steps generalizing z with
  | nil => exact ⟨rfl, rfl⟩
  | cons edit rest ih =>
    rw [runEdits]
    cases result : edit z with
    | error raised => exact ⟨rfl, rfl⟩
    | ok next =>
      obtain ⟨sameId, samePlan⟩ := keeps edit List.mem_cons_self z next result
      obtain ⟨restId, restPlan⟩ := ih (fun other mem => keeps other (List.mem_cons_of_mem _ mem)) next
      exact ⟨restId.trans sameId, restPlan.trans samePlan⟩

theorem resolveZone_mem {identifier : String} {s : Session} {zone : Zone}
    (found : resolveZone text identifier s = .ok zone) : zone ∈ s.rows.zones := by
  unfold resolveZone at found
  dsimp only at found
  split at found
  · next isFound =>
    cases found
    obtain ⟨_, _, there⟩ := Option.bind_eq_some_iff.mp isFound
    exact List.mem_of_find?_eq_some there
  · cases found

/-- The row with an id is the only one. -/
theorem Table.eq_of_id (table : Table) {a b : Zone} (memA : a ∈ table.zones) (memB : b ∈ table.zones)
    (same : a.id = b.id) : a = b :=
  List.inj_on_of_nodup_map table.key memA memB same

/-- A changed row of another plan changes nothing in this one. -/
theorem Table.replace_ofPlan_ne (table : Table) {zone edited : Zone} (mem : zone ∈ table.zones)
    (sameId : edited.id = zone.id) {planId : ℕ} (notBefore : zone.planId ≠ planId)
    (notAfter : edited.planId ≠ planId) :
    (table.replace edited).ofPlan planId = table.ofPlan planId := by
  have rows : ∀ zones : List Zone, (∀ z ∈ zones, z.id = edited.id → z = zone) →
      (zones.map fun z => if z.id = edited.id then edited else z).filter
        (fun z => decide (z.planId = planId)) = zones.filter fun z => decide (z.planId = planId) := by
    intro zones isZone
    induction zones with
    | nil => rfl
    | cons z rest ih =>
      have later := ih fun other memOther => isZone other (List.mem_cons_of_mem _ memOther)
      rw [List.map_cons, List.filter_cons, List.filter_cons, later]
      by_cases same : z.id = edited.id
      · have isOne := isZone z List.mem_cons_self same
        subst isOne
        rw [if_pos same, if_neg (by simpa using notAfter), if_neg (by simpa using notBefore)]
      · rw [if_neg same]
  exact rows table.zones fun z memZ same => table.eq_of_id memZ mem (same.trans sameId)

/-- A changed row of the plan stands for the one it was, beside its siblings. -/
theorem Table.replace_ofPlan_perm (table : Table) {zone edited : Zone} (mem : zone ∈ table.zones)
    (sameId : edited.id = zone.id) (samePlan : edited.planId = zone.planId) :
    (((table.ofPlan zone.planId).filter fun z => z.id ≠ zone.id) ++ [edited]).Perm
      ((table.replace edited).ofPlan zone.planId) := by
  obtain ⟨before, after, split⟩ := List.append_of_mem mem
  have key := table.key
  rw [split, List.map_append, List.map_cons, List.nodup_middle, List.nodup_cons, ← List.map_append]
    at key
  have otherIds : ∀ z ∈ before ++ after, z.id ≠ zone.id := by
    intro z memZ same
    exact key.1 (same ▸ List.mem_map_of_mem memZ)
  have kept : ∀ rows : List Zone, (∀ z ∈ rows, z.id ≠ zone.id) →
      (rows.filter fun z => decide (z.planId = zone.planId)).filter (fun z => z.id ≠ zone.id) =
          rows.filter (fun z => decide (z.planId = zone.planId)) ∧
        rows.map (fun z => if z.id = edited.id then edited else z) = rows := by
    intro rows ids
    refine ⟨List.filter_eq_self.mpr fun z memZ => ?_, ?_⟩
    · exact decide_eq_true (ids z (List.mem_filter.mp memZ).1)
    · refine (List.map_congr_left fun z memZ => ?_).trans (List.map_id rows)
      rw [if_neg (by rw [sameId]; exact ids z memZ)]
      rfl
  obtain ⟨keptBefore, mapBefore⟩ :=
    kept before fun z memZ => otherIds z (List.mem_append_left _ memZ)
  obtain ⟨keptAfter, mapAfter⟩ := kept after fun z memZ => otherIds z (List.mem_append_right _ memZ)
  have editedIn : (edited :: after).filter (fun z => decide (z.planId = zone.planId)) =
      edited :: after.filter fun z => decide (z.planId = zone.planId) :=
    List.filter_cons_of_pos (decide_eq_true samePlan)
  have zoneIn : (zone :: after).filter (fun z => decide (z.planId = zone.planId)) =
      zone :: after.filter fun z => decide (z.planId = zone.planId) :=
    List.filter_cons_of_pos (decide_eq_true rfl)
  unfold Table.ofPlan Table.replace
  dsimp only
  rw [split, List.map_append, List.map_cons, mapBefore, mapAfter, if_pos sameId.symm,
    List.filter_append, List.filter_append, List.filter_append, zoneIn, editedIn, keptBefore,
    List.filter_cons_of_neg (by simp), keptAfter, List.append_assoc]
  exact (List.perm_append_singleton edited _).append_left _

/-- A removed row leaves the others of its plan. -/
theorem Table.remove_ofPlan (table : Table) (id planId : ℕ) :
    (table.remove id).ofPlan planId = (table.ofPlan planId).filter fun z => z.id ≠ id := by
  unfold Table.ofPlan Table.remove
  dsimp only
  rw [List.filter_filter, List.filter_filter]
  refine List.filter_congr fun z _ => ?_
  rw [Bool.and_comm]

end EditedPlans

/-! ### Whole histories -/

section Histories

variable (text : Text) (channelOf : ℕ → Option Channel)

/-- A deletion that leaves the plan covered: of a zone that is not enabled, or is for days of its own
beside other enabled zones. -/
def CoverageKept (planId : ℕ) (s : Session) : Call → Prop
  | .updateZone _ => True
  | .deleteZone identifier => ∀ zone, resolveZone text identifier s = .ok zone →
      zone.planId = planId → zone.enabled = true →
        (∃ other ∈ active (s.rows.ofPlan planId), other.id ≠ zone.id) ∧
          ∀ other ∈ active (s.rows.ofPlan planId), other.id ≠ zone.id → daysOverlap zone other = ∅

/-- **A call** that raises changes nothing; one that does not replaces a row that its plan's integrity
check accepts, or removes one. -/
theorem unitOfWork_cases (stored : Table) (call : Call) :
    unitOfWork text channelOf (.opened stored) call = .opened stored ∨
    (∃ zone edited, zone ∈ stored.zones ∧ edited.id = zone.id ∧ edited.planId = zone.planId ∧
      checkPlan channelOf zone.planId
        (((stored.ofPlan zone.planId).filter fun z => z.id ≠ zone.id) ++ [edited]) = .ok () ∧
      unitOfWork text channelOf (.opened stored) call = .opened (stored.replace edited)) ∨
    ∃ identifier zone, call = .deleteZone identifier ∧
      resolveZone text identifier (.opened stored) = .ok zone ∧
      unitOfWork text channelOf (.opened stored) call = .opened (stored.remove zone.id) := by
  unfold unitOfWork
  cases call with
  | updateZone update =>
    rw [perform, updateZone]
    cases found : resolveZone text update.zoneIdentifier (.opened stored) with
    | error raised => exact .inl rfl
    | ok zone =>
      have mem := resolveZone_mem text found
      dsimp only
      obtain ⟨sameId, samePlan⟩ := runEdits_keeps (edits_keep text update
        (((Session.opened stored).rows.ofPlan zone.planId).filter fun z => z.id ≠ zone.id)) zone
      generalize runEdits (edits text update
        (((Session.opened stored).rows.ofPlan zone.planId).filter fun z => z.id ≠ zone.id)) zone =
          edited at sameId samePlan
      cases edited.2 with
      | some raised => exact .inl rfl
      | none =>
        dsimp only
        cases checked : checkPlan channelOf zone.planId
            ((((Session.opened stored).rows.ofPlan zone.planId).filter fun z => z.id ≠ zone.id) ++
              [edited.1]) with
        | error raised => exact .inl rfl
        | ok accepted => exact .inr (.inl ⟨zone, edited.1, mem, sameId, samePlan, checked, rfl⟩)
  | deleteZone identifier =>
    rw [perform, deleteZone]
    cases found : resolveZone text identifier (.opened stored) with
    | error raised => exact .inl rfl
    | ok zone => exact .inr (.inr ⟨identifier, zone, rfl, found, rfl⟩)

/-- A call that raises is rolled back. -/
theorem unitOfWork_raised (stored : Table) {call : Call} {after : Session} {raised : ZoneError}
    (raises : perform text channelOf (.opened stored) call = (after, .error raised)) :
    unitOfWork text channelOf (.opened stored) call = .opened stored := by
  have kept : after.stored = stored := by
    cases call with
    | updateZone update =>
      rw [perform, updateZone] at raises
      cases found : resolveZone text update.zoneIdentifier (.opened stored) with
      | error notFound =>
        rw [found] at raises
        cases raises
        rfl
      | ok zone =>
        rw [found] at raises
        dsimp only at raises
        split at raises
        · cases raises
          rfl
        · split at raises
          · cases raises
            rfl
          · cases raises
    | deleteZone identifier =>
      rw [perform, deleteZone] at raises
      cases found : resolveZone text identifier (.opened stored) with
      | error notFound =>
        rw [found] at raises
        cases raises
        rfl
      | ok zone =>
        rw [found] at raises
        cases raises
  unfold unitOfWork
  rw [raises]
  unfold Session.rollback Session.opened
  dsimp only
  rw [kept]

variable (planId : ℕ)

/-- The plan is aligned and without overlap. -/
def Apart (s : Session) : Prop :=
  GridAligned (planGrid channelOf planId) (s.stored.ofPlan planId) ∧
    NoOverlap (planStart channelOf planId) (s.stored.ofPlan planId)

/-- The plan is covered. -/
def Covered (s : Session) : Prop :=
  FullCoverage (planStart channelOf planId) (s.stored.ofPlan planId)

/-- The plan after a row was replaced: it passed the check, or it is another plan's row. -/
theorem replace_valid {stored : Table} {zone edited : Zone} (mem : zone ∈ stored.zones)
    (sameId : edited.id = zone.id) (samePlan : edited.planId = zone.planId)
    (checked : checkPlan channelOf zone.planId
      (((stored.ofPlan zone.planId).filter fun z => z.id ≠ zone.id) ++ [edited]) = .ok ()) :
    (Apart channelOf planId (.opened (stored.replace edited)) ∧
        Covered channelOf planId (.opened (stored.replace edited))) ∨
      (stored.replace edited).ofPlan planId = stored.ofPlan planId := by
  by_cases here : zone.planId = planId
  · subst here
    have perm := stored.replace_ofPlan_perm mem sameId samePlan
    obtain ⟨aligned, apart, covered⟩ := (checkPlan_ok_iff channelOf _ _).mp checked
    exact .inl ⟨⟨aligned.perm perm, apart.perm perm⟩, covered.perm perm⟩
  · exact .inr (stored.replace_ofPlan_ne mem sameId here (samePlan ▸ here))

/-- **Every call keeps a plan** aligned and without overlap. -/
theorem Apart.step {stored : Table} (apart : Apart channelOf planId (.opened stored)) (call : Call) :
    ∃ next, unitOfWork text channelOf (.opened stored) call = .opened next ∧
      Apart channelOf planId (.opened next) := by
  rcases unitOfWork_cases text channelOf stored call with
    same | ⟨zone, edited, mem, sameId, samePlan, checked, replaced⟩ | ⟨_, zone, _, _, removed⟩
  · exact ⟨stored, same, apart⟩
  · refine ⟨_, replaced, ?_⟩
    rcases replace_valid channelOf planId mem sameId samePlan checked with valid | same
    · exact valid.1
    · unfold Apart Session.opened
      dsimp only
      rw [same]
      exact apart
  · refine ⟨_, removed, ?_⟩
    unfold Apart Session.opened
    dsimp only
    rw [Table.remove_ofPlan]
    exact ⟨apart.1.sublist List.filter_sublist, apart.2.sublist List.filter_sublist⟩

/-- **A call that is no uncovering deletion** keeps a plan covered. -/
theorem Covered.step {stored : Table} (covered : Covered channelOf planId (.opened stored))
    (call : Call) (kept : CoverageKept text planId (.opened stored) call) :
    ∃ next, unitOfWork text channelOf (.opened stored) call = .opened next ∧
      Covered channelOf planId (.opened next) := by
  rcases unitOfWork_cases text channelOf stored call with
    same | ⟨zone, edited, mem, sameId, samePlan, checked, replaced⟩ | ⟨identifier, zone, rfl, found, removed⟩
  · exact ⟨stored, same, covered⟩
  · refine ⟨_, replaced, ?_⟩
    rcases replace_valid channelOf planId mem sameId samePlan checked with valid | same
    · exact valid.2
    · unfold Covered Session.opened
      dsimp only
      rw [same]
      exact covered
  · refine ⟨_, removed, ?_⟩
    have mem : zone ∈ stored.zones := resolveZone_mem text found
    obtain ⟨someEnabled, covers⟩ := covered
    unfold Covered Session.opened
    dsimp only
    rw [Table.remove_ofPlan]
    -- the enabled zones that are left are those with another id
    have left : ∀ z, z ∈ active ((stored.ofPlan planId).filter fun z => z.id ≠ zone.id) ↔
        z ∈ active (stored.ofPlan planId) ∧ z.id ≠ zone.id := by
      intro z
      unfold active
      rw [List.filter_filter, List.mem_filter, List.mem_filter, Bool.and_eq_true, decide_eq_true_eq,
        and_assoc]
    have isZone : ∀ z ∈ active (stored.ofPlan planId), z.id = zone.id → z = zone := by
      intro z memZ same
      exact stored.eq_of_id (List.mem_filter.mp (List.mem_filter.mp memZ).1).1 mem same
    by_cases inPlan : zone ∈ active (stored.ofPlan planId)
    · obtain ⟨memPlan, enabled⟩ := List.mem_filter.mp inPlan
      have samePlan : zone.planId = planId := by simpa using (List.mem_filter.mp memPlan).2
      obtain ⟨⟨other, memOther, differs⟩, ownDays⟩ := kept zone found samePlan enabled
      refine ⟨List.ne_nil_of_mem ((left other).mpr ⟨memOther, differs⟩), ?_⟩
      rintro day ⟨z, memZ, on⟩ m nonneg lt
      obtain ⟨memActive, differsZ⟩ := (left z).mp memZ
      have notOn : day ∉ effectiveDays zone := by
        intro onZone
        have shared : day ∈ daysOverlap zone z := Finset.mem_inter.mpr ⟨onZone, on⟩
        rw [ownDays z memActive differsZ] at shared
        exact absurd shared (Finset.notMem_empty day)
      obtain ⟨w, memW, onW, here⟩ := covers day ⟨z, memActive, on⟩ m nonneg lt
      refine ⟨w, (left w).mpr ⟨memW, fun same => notOn ?_⟩, onW, here⟩
      rw [← isZone w memW same]
      exact onW
    · have others : ∀ z ∈ active (stored.ofPlan planId), z.id ≠ zone.id := by
        intro z memZ same
        exact inPlan (isZone z memZ same ▸ memZ)
      have same : ∀ z, z ∈ active ((stored.ofPlan planId).filter fun z => z.id ≠ zone.id) ↔
          z ∈ active (stored.ofPlan planId) :=
        fun z => (left z).trans ⟨And.left, fun memZ => ⟨memZ, others z memZ⟩⟩
      refine ⟨?_, ?_⟩
      · obtain ⟨z, memZ⟩ := List.exists_mem_of_ne_nil _ someEnabled
        exact List.ne_nil_of_mem ((same z).mpr memZ)
      · rintro day ⟨z, memZ, on⟩ m nonneg lt
        obtain ⟨w, memW, here⟩ := covers day ⟨z, (same z).mp memZ, on⟩ m nonneg lt
        exact ⟨w, (same w).mpr memW, here⟩

/-- **Zone plans stay valid**: over every history of updates and deletions a valid plan stays aligned and
without overlap, and covered as long as no deletion uncovers it; and a call that raises leaves the
session as it was. -/
theorem zone_plans_stay_valid {start : Table} (valid : Apart channelOf planId (.opened start))
    (whole : Covered channelOf planId (.opened start)) (calls : List Call) {final : Session}
    (ran : runActions (step text channelOf) (.opened start) calls = some final) :
    Apart channelOf planId final ∧
      (Along (step text channelOf) (CoverageKept text planId) (.opened start) calls →
        Covered channelOf planId final) ∧
      ∀ call after raised, perform text channelOf final call = (after, .error raised) →
        unitOfWork text channelOf final call = final := by
  have apart : ∃ stored, final = .opened stored ∧ Apart channelOf planId (.opened stored) := by
    refine invariant_along (step text channelOf)
      (fun s => ∃ stored, s = .opened stored ∧ Apart channelOf planId (.opened stored))
      (fun _ _ => True) ?_ calls ⟨start, rfl, valid⟩ (along_of_forall _ (fun _ _ => trivial) calls _) ran
    rintro _ call next ⟨stored, rfl, here⟩ _ taken
    cases taken
    exact here.step text channelOf planId call
  obtain ⟨stored, rfl, isApart⟩ := apart
  refine ⟨isApart, ?_, fun call after raised raises => unitOfWork_raised text channelOf stored raises⟩
  intro along
  have covered : ∃ stored', Session.opened stored = .opened stored' ∧
      Covered channelOf planId (.opened stored') := by
    refine invariant_along (step text channelOf)
      (fun s => ∃ stored, s = .opened stored ∧ Covered channelOf planId (.opened stored))
      (CoverageKept text planId) ?_ calls ⟨start, rfl, whole⟩ along ran
    rintro _ call next ⟨stored, rfl, here⟩ kept taken
    cases taken
    exact here.step text channelOf planId call kept
  obtain ⟨stored', same, isCovered⟩ := covered
  rw [same]
  exact isCovered

/-- Texts that need no change, and no UUIDs among them. -/
def plain : Text where
  strip := id
  lower := id
  upper := id
  splitColon := fun part => [part]
  int := fun _ => none
  uuid := fun _ => none
  fromisoformat := fun _ => none
  sqlLower := id

theorem six_lt : 6 < 24 := by decide

theorem eighteen_lt : 18 < 24 := by decide

/-- A half-hour grid, from 06:00 on. -/
def halfHours : ℕ → Option Channel := fun _ => some ⟨hourTime 6 six_lt, 30⟩

/-- Two zones that make up the day. -/
def twoZones : Table where
  zones :=
    [{ id := 1, planId := 1, name := "day", startTime := hourTime 6 six_lt,
        endTime := hourTime 18 eighteen_lt },
      { id := 2, planId := 1, name := "night", startTime := hourTime 18 eighteen_lt,
        endTime := hourTime 6 six_lt }]
  key := by decide

/-- They are a valid plan. -/
theorem twoZones_valid :
    Apart halfHours 1 (.opened twoZones) ∧ Covered halfHours 1 (.opened twoZones) := by
  obtain ⟨aligned, apart, covered⟩ := (checkPlan_ok_iff halfHours 1 (twoZones.ofPlan 1)).mp rfl
  exact ⟨⟨aligned, apart⟩, covered⟩

/-- A zone is renamed, and is not disabled. -/
theorem zone_plans_stay_valid_renamed :
    ∃ final, runActions (step plain halfHours) (.opened twoZones)
        [.updateZone { zoneIdentifier := "night", name := some "late" },
          .updateZone { zoneIdentifier := "late", enabled := some false }] = some final ∧
      (final.stored.ofPlan 1).map Zone.name = ["day", "late"] ∧
      Apart halfHours 1 final ∧ Covered halfHours 1 final := by
  refine ⟨_, rfl, by decide, ?_⟩
  obtain ⟨apart, covered, _⟩ := zone_plans_stay_valid plain halfHours 1 twoZones_valid.1
    twoZones_valid.2 [.updateZone { zoneIdentifier := "night", name := some "late" },
      .updateZone { zoneIdentifier := "late", enabled := some false }] rfl
  exact ⟨apart, covered ⟨trivial, fun _ _ => ⟨trivial, fun _ _ => trivial⟩⟩⟩

/-- A deletion uncovers a valid plan, and a call that raises leaves the session changed. -/
theorem zone_plans_uncovered :
    Apart halfHours 1 (.opened twoZones) ∧ Covered halfHours 1 (.opened twoZones) ∧
      (∃ final, runActions (step plain halfHours) (.opened twoZones) [.deleteZone "night"] =
        some final ∧ ¬ Covered halfHours 1 final) ∧
      ∃ after raised, perform plain halfHours (.opened twoZones)
          (.updateZone { zoneIdentifier := "night", name := some "late", enabled := some false }) =
            (after, .error (.valueError raised)) ∧
        after.rows.zones ≠ twoZones.zones := by
  refine ⟨twoZones_valid.1, twoZones_valid.2, ⟨_, rfl, ?_⟩, _, _, rfl, by decide⟩
  intro covered
  exact absurd ((checkCoverage_nil (hourTime 6 (by decide)) _).mpr covered) (by decide)

end Histories

end Retrovue.Core.Zones
