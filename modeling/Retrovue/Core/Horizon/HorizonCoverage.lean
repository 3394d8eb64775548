/-
**The coverage of the horizon manager** (`runtime/horizon_manager.py`).

* `DayPlans`: the pipeline's entries for a day tile it, and days do not share block ids;
* `Covers`: the store holds the plans of a row of days, each once, up to the window end;
* `ManagerRun.step`: evaluations and proactive extensions under a clock that never goes back;
* `FillSkips`: the next-block fill generates a day later than the one after the window end;
* `horizon_covered`: along every run without such a fill the coverage stays one interval that only
  grows, and an evaluation without failures reaches the depth or extends by thirty days.
-/

import Retrovue.Core.Horizon.HorizonManager
import Retrovue.Foundation.Tiling

namespace Retrovue.Core.Horizon

open Retrovue.Foundation.Transition Retrovue.Foundation.Sorting Retrovue.Foundation.Tiling

variable {Segment : Type}

/-! ### Coverage -/

section Coverage

variable (policy : Policy Segment)

/-- **A pipeline whose entries tile their day**, with block ids that no other day has. -/
structure DayPlans : Prop where
  tiles : ∀ date, Tiles ExecutionEntry.startUtcMs ExecutionEntry.endUtcMs
    (policy.pipeline.plan date).entries (policy.dayStart date) (policy.dayStart (date + 1))
  ends : ∀ date, (policy.pipeline.plan date).endUtcMs = policy.dayEndUtcMs date
  distinct : ∀ first second, first ≠ second → ∀ entry ∈ (policy.pipeline.plan first).entries,
    ∀ other ∈ (policy.pipeline.plan second).entries, entry.blockId ≠ other.blockId

/-- The plans of `n` days from the first one on, one after the other. -/
def daysPlan (first : Int) (n : Nat) : List (ExecutionEntry Segment) :=
  (List.range n).flatMap fun i : Nat => (policy.pipeline.plan (first + i)).entries

/-- An entry without the stamp of its publish. -/
def plain (entry : ExecutionEntry Segment) : ExecutionEntry Segment := Store.stamp 0 false entry

/-- **The store holds the plans of `n` days, each once and in order, up to the window end.** -/
structure Covers (manager : HorizonManager Segment) (first : Int) (n : Nat) : Prop where
  windowEnd : manager.executionWindowEndUtcMs = policy.dayStart (first + n)
  planned : manager.executionStore.entries.map plain = (daysPlan policy first n).map plain
  contiguous : Tiles ExecutionEntry.startUtcMs ExecutionEntry.endUtcMs
    manager.executionStore.entries (policy.dayStart first) manager.executionWindowEndUtcMs

/-- Nothing is generated yet, or the coverage is one row of days. -/
def Coverage (manager : HorizonManager Segment) : Prop :=
  (manager.executionWindowEndUtcMs = 0 ∧ manager.executionStore.entries = []) ∨
    ∃ first n, 0 < n ∧ Covers policy manager first n

end Coverage

/-! ### Runs -/

section Runs

variable (policy : Policy Segment)

open HorizonManager

/-- A manager, and the last time it was called at. -/
structure ManagerRun (Segment : Type) where
  manager : HorizonManager Segment
  clock : Int

/-- A call: an evaluation, with what the EPG does and the time of the store's clock, or a proactive
extension. -/
inductive ManagerCall
  | evaluate (nowMs : Int) (epg : Date → EpgDay) (storeNow : Int)
  | proactive (nowMs storeNow : Int)

/-- The time of a call. -/
def ManagerCall.nowMs : ManagerCall → Int
  | .evaluate nowMs _ _ => nowMs
  | .proactive nowMs _ => nowMs

/-- The manager after a call. -/
def ManagerRun.called (run : ManagerRun Segment) : ManagerCall → HorizonManager Segment
  | .evaluate nowMs epg storeNow => (run.manager.evaluateOnce policy nowMs epg storeNow).1
  | .proactive nowMs storeNow =>
    run.manager.checkProactiveExtend policy nowMs (policy.broadcastDateFor nowMs) storeNow

/-- **One call**, at a time not before the last one. -/
def ManagerRun.step (run : ManagerRun Segment) (action : ManagerCall) :
    Option (ManagerRun Segment) :=
  if run.clock ≤ action.nowMs then some ⟨run.called policy action, action.nowMs⟩ else none

/-- A new manager over an empty store; the clock starts at the epoch. -/
def ManagerRun.start (enforce hasClock : Bool) (window : Option Int)
    (records : Option (List OverrideRecord)) : ManagerRun Segment :=
  ⟨{ executionStore := Store.create enforce hasClock window records }, 0⟩

/-- The evaluation finished, and every attempt it logged succeeded. -/
def WithoutFailures (manager : HorizonManager Segment) (nowMs : Int) (epg : Date → EpgDay)
    (storeNow : Int) : Prop :=
  (manager.evaluateOnce policy nowMs epg storeNow).2 = true ∧
    ∀ attempt ∈ (manager.evaluateOnce policy nowMs epg storeNow).1.extensionAttemptLog.drop
      manager.extensionAttemptLog.length, attempt.success = true

instance (manager : HorizonManager Segment) (nowMs : Int) (epg : Date → EpgDay) (storeNow : Int) :
    Decidable (WithoutFailures policy manager nowMs epg storeNow) :=
  inferInstanceAs (Decidable (_ ∧ _))

/-- The depth ahead of a time is the configured minimum at least. -/
def DeepEnough (manager : HorizonManager Segment) (nowMs : Int) : Prop :=
  policy.minExecutionHours * 3600000 ≤ max 0 (manager.executionWindowEndUtcMs - nowMs)

instance (manager : HorizonManager Segment) (nowMs : Int) :
    Decidable (DeepEnough policy manager nowMs) :=
  inferInstanceAs (Decidable (_ ≤ _))

/-- Thirty days were added to the coverage. -/
def ThirtyDays (before after : HorizonManager Segment) (nowMs : Int) : Prop :=
  policy.dayStart (before.nextDate policy (policy.broadcastDateFor nowMs) + 30) ≤
    after.executionWindowEndUtcMs

/-- **What a call leaves**, with what an evaluation without failures owes. -/
def ManagerRun.Leaves (deep : HorizonManager Segment → HorizonManager Segment → Int → Prop)
    (run : ManagerRun Segment) (action : ManagerCall) : Prop :=
  ∀ next, run.step policy action = some next →
    Coverage policy next.manager ∧
    run.manager.executionWindowEndUtcMs ≤ next.manager.executionWindowEndUtcMs ∧
    match action with
    | .evaluate nowMs epg storeNow =>
      WithoutFailures policy run.manager nowMs epg storeNow → deep run.manager next.manager nowMs
    | .proactive _ _ => True

/-- The manager that `_check_next_block_ready` of an evaluation sees. -/
def beforeFill (manager : HorizonManager Segment) (nowMs : Int) (epg : Date → EpgDay) :
    HorizonManager Segment :=
  (manager.evaluateDepths policy nowMs epg).1

/-- **The next-block fill skips days**: it generates today, later than the day after the window
end. -/
def FillSkips (manager : HorizonManager Segment) (nowMs : Int) (epg : Date → EpgDay) : Prop :=
  policy.lockedWindowMs ≤ 0 ∧
    policy.pipeline.raises ((beforeFill policy manager nowMs epg).extensionAttemptCount + 1) =
      none ∧
    (beforeFill policy manager nowMs epg).nextDate policy (policy.broadcastDateFor nowMs) <
      policy.broadcastDateFor nowMs

instance (manager : HorizonManager Segment) (nowMs : Int) (epg : Date → EpgDay) :
    Decidable (FillSkips policy manager nowMs epg) :=
  inferInstanceAs (Decidable (_ ≤ _ ∧ _ = _ ∧ (_ : Int) < _))

/-- A call without a fill that skips days. -/
def ManagerRun.Steady (run : ManagerRun Segment) : ManagerCall → Prop
  | .evaluate nowMs epg _ => ¬ FillSkips policy run.manager nowMs epg
  | .proactive _ _ => True

instance (run : ManagerRun Segment) (action : ManagerCall) :
    Decidable (run.Steady policy action) := by
  cases action with
  | evaluate nowMs epg storeNow =>
    exact inferInstanceAs (Decidable (¬ FillSkips policy run.manager nowMs epg))
  | proactive nowMs storeNow => exact inferInstanceAs (Decidable True)

end Runs

/-! ### The plans of a row of days -/

section Plans

variable {policy : Policy Segment}

theorem daysPlan_succ (first : Int) (n : Nat) :
    daysPlan policy first (n + 1) =
      daysPlan policy first n ++ (policy.pipeline.plan (first + n)).entries := by
  rw [daysPlan, List.range_succ, List.flatMap_append]
  congr 1
  exact List.append_nil _

/-- **The plans of a row of days tile it.** -/
theorem DayPlans.tiles_daysPlan (plans : DayPlans policy) (first : Int) : ∀ n : Nat,
    Tiles ExecutionEntry.startUtcMs ExecutionEntry.endUtcMs (daysPlan policy first n)
      (policy.dayStart first) (policy.dayStart (first + n))
  | 0 => by
    show policy.dayStart first = policy.dayStart (first + 0)
    rw [add_zero]
  | n + 1 => by
    rw [daysPlan_succ]
    refine (plans.tiles_daysPlan first n).append ?_
    have day := plans.tiles (first + n)
    rwa [show first + ((n + 1 : Nat) : Int) = first + n + 1 by push_cast; ring]

/-- A tiling does not depend on the stamps. -/
theorem tiles_plain (entries : List (ExecutionEntry Segment)) (low high : Int) :
    Tiles ExecutionEntry.startUtcMs ExecutionEntry.endUtcMs (entries.map plain) low high ↔
      Tiles ExecutionEntry.startUtcMs ExecutionEntry.endUtcMs entries low high :=
  tiles_map plain entries low high

/-- Stamps do not change the ids. -/
theorem ids_plain (entries : List (ExecutionEntry Segment)) :
    (entries.map plain).map ExecutionEntry.blockId = entries.map ExecutionEntry.blockId := by
  rw [List.map_map]
  rfl

/-- **Covered by the plans**: the tiling comes with them. -/
theorem DayPlans.covers (plans : DayPlans policy) {manager : HorizonManager Segment} {first : Int}
    {n : Nat} (windowEnd : manager.executionWindowEndUtcMs = policy.dayStart (first + n))
    (planned : manager.executionStore.entries.map plain = (daysPlan policy first n).map plain) :
    Covers policy manager first n where
  windowEnd := windowEnd
  planned := planned
  contiguous := by
    rw [windowEnd, ← tiles_plain, planned, tiles_plain]
    exact plans.tiles_daysPlan first n

variable {manager : HorizonManager Segment} {first : Int} {n : Nat}

/-- The ids in the store are those of the plans. -/
theorem Covers.ids (covers : Covers policy manager first n) :
    manager.executionStore.entries.map ExecutionEntry.blockId =
      (daysPlan policy first n).map ExecutionEntry.blockId := by
  rw [← ids_plain, covers.planned, ids_plain]

/-- A covered day is in the store already. -/
theorem Covers.id_mem (covers : Covers policy manager first n) {date : Int} (low : first ≤ date)
    (high : date < first + n) {entry : ExecutionEntry Segment}
    (member : entry ∈ (policy.pipeline.plan date).entries) :
    entry.blockId ∈ manager.executionStore.entries.map ExecutionEntry.blockId := by
  rw [covers.ids]
  refine List.mem_map_of_mem (List.mem_flatMap.mpr ⟨(date - first).toNat, ?_, ?_⟩)
  · rw [List.mem_range]
    omega
  · rwa [show first + ((date - first).toNat : Int) = date by omega]

/-- A later day is not in the store. -/
theorem Covers.id_notMem (plans : DayPlans policy) (covers : Covers policy manager first n)
    {date : Int} (later : first + n ≤ date) {entry : ExecutionEntry Segment}
    (member : entry ∈ (policy.pipeline.plan date).entries) :
    entry.blockId ∉ manager.executionStore.entries.map ExecutionEntry.blockId := by
  rw [covers.ids, List.mem_map]
  rintro ⟨other, planned, same⟩
  obtain ⟨i, inRange, plannedThen⟩ := List.mem_flatMap.mp planned
  rw [List.mem_range] at inRange
  have apart : (first + i : Int) ≠ date := by omega
  exact plans.distinct (first + i) date apart other plannedThen entry member same

/-- **The day after the coverage is the next one.** -/
theorem Covers.nextDate_eq (covers : Covers policy manager first n)
    (positive : 0 < manager.executionWindowEndUtcMs) (today : Date) :
    manager.nextDate policy today = first + n := by
  have day : policy.broadcastDateFor manager.executionWindowEndUtcMs = first + n := by
    apply policy.broadcastDateFor_eq
    · exact le_of_eq covers.windowEnd.symm
    · rw [covers.windowEnd, policy.dayStart_lt_iff]
      omega
  rw [HorizonManager.nextDate, if_pos positive]
  dsimp only
  rw [day, if_neg]
  rw [not_le, covers.windowEnd]
  exact (policy.dayStart_lt_iff _ _).mpr (by omega)

end Plans

/-! ### Where the coverage ends -/

section Ends

variable {policy : Policy Segment} {manager after : HorizonManager Segment} {now : Int}

/-- **The coverage ends where a day begins**: nothing is generated and the day is today, or it is the
day after a row of days that began by now. -/
def EndsAt (policy : Policy Segment) (now : Int) (manager : HorizonManager Segment) (date : Int) :
    Prop :=
  (manager.executionWindowEndUtcMs = 0 ∧ manager.executionStore.entries = [] ∧
    date = policy.broadcastDateFor now) ∨
  ∃ first n, 0 < n ∧ Covers policy manager first n ∧ first + (n : Int) = date ∧
    policy.dayStart first ≤ now ∧ 0 < manager.executionWindowEndUtcMs

/-- Between calls: as `EndsAt`, with no day while nothing is generated. -/
def Settled (policy : Policy Segment) (now : Int) (manager : HorizonManager Segment) : Prop :=
  (manager.executionWindowEndUtcMs = 0 ∧ manager.executionStore.entries = []) ∨
  ∃ first n, 0 < n ∧ Covers policy manager first n ∧ policy.dayStart first ≤ now ∧
    0 < manager.executionWindowEndUtcMs

theorem EndsAt.settled {date : Int} (ends : EndsAt policy now manager date) :
    Settled policy now manager := by
  rcases ends with ⟨zero, empty, -⟩ | ⟨first, n, some_, covers, -, begun, positive⟩
  · exact .inl ⟨zero, empty⟩
  · exact .inr ⟨first, n, some_, covers, begun, positive⟩

theorem Settled.coverage (settled : Settled policy now manager) : Coverage policy manager := by
  rcases settled with nothing | ⟨first, n, some_, covers, -, -⟩
  · exact .inl nothing
  · exact .inr ⟨first, n, some_, covers⟩

/-- The next day of a settled manager. -/
theorem Settled.endsAt {clock : Int} (settled : Settled policy clock manager)
    (later : clock ≤ now) :
    EndsAt policy now manager (manager.nextDate policy (policy.broadcastDateFor now)) := by
  rcases settled with ⟨zero, empty⟩ | ⟨first, n, some_, covers, begun, positive⟩
  · refine .inl ⟨zero, empty, ?_⟩
    rw [HorizonManager.nextDate, if_neg (by omega)]
  · exact .inr ⟨first, n, some_, covers, (covers.nextDate_eq positive _).symm,
      begun.trans later, positive⟩

/-- The window end and the entries say where the coverage ends. -/
theorem EndsAt.congr {date : Int} (ends : EndsAt policy now manager date)
    (windowEnd : after.executionWindowEndUtcMs = manager.executionWindowEndUtcMs)
    (entries : after.executionStore.entries = manager.executionStore.entries) :
    EndsAt policy now after date := by
  rcases ends with ⟨zero, empty, today⟩ | ⟨first, n, some_, covers, at_, begun, positive⟩
  · exact .inl ⟨windowEnd.trans zero, entries.trans empty, today⟩
  · refine .inr ⟨first, n, some_, ⟨windowEnd.trans covers.windowEnd, ?_, ?_⟩, at_, begun, ?_⟩
    · rw [entries]
      exact covers.planned
    · rw [entries, windowEnd]
      exact covers.contiguous
    · rwa [windowEnd]

/-- The window end is not after the day a coverage ends at. -/
theorem EndsAt.windowEnd_lt {date : Int} (ends : EndsAt policy now manager date) (epoch : 0 ≤ now) :
    manager.executionWindowEndUtcMs < policy.dayStart (date + 1) := by
  rcases ends with ⟨zero, -, today⟩ | ⟨first, n, -, covers, at_, -, -⟩
  · have bounds := policy.broadcastDateFor_bounds now
    rw [zero, today]
    exact epoch.trans_lt bounds.2
  · rw [covers.windowEnd, at_, policy.dayStart_lt_iff]
    omega

/-- **A day is added**: its entries stand behind the others and the window end is its own. -/
theorem EndsAt.add (plans : DayPlans policy) (epoch : 0 ≤ now) {date : Int}
    (ends : EndsAt policy now manager date)
    (windowEnd : after.executionWindowEndUtcMs = policy.dayStart (date + 1))
    (entries : after.executionStore.entries.map plain =
      (manager.executionStore.entries ++ (policy.pipeline.plan date).entries).map plain) :
    EndsAt policy now after (date + 1) := by
  have later := ends.windowEnd_lt epoch
  rw [← windowEnd] at later
  rcases ends with ⟨zero, empty, today⟩ | ⟨first, n, some_, covers, at_, begun, positive⟩
  · have bounds := policy.broadcastDateFor_bounds now
    refine .inr ⟨date, 1, one_pos, plans.covers windowEnd ?_, rfl, today ▸ bounds.1, ?_⟩
    · rw [entries, empty, daysPlan_succ]
      simp [daysPlan]
    · rwa [zero] at later
  · refine .inr ⟨first, n + 1, Nat.succ_pos n, plans.covers ?_ ?_, ?_, begun,
      positive.trans later⟩
    · rw [windowEnd, ← at_]
      congr 1
      push_cast
      ring
    · rw [entries, List.map_append, covers.planned, daysPlan_succ, List.map_append, at_]
    · push_cast
      omega

/-- The entries of a coverage and of the next day are in start order. -/
theorem EndsAt.ascending (plans : DayPlans policy) {date : Int}
    (ends : EndsAt policy now manager date) (new : List (ExecutionEntry Segment))
    (planned : new.map plain = (policy.pipeline.plan date).entries.map plain) :
    Ascending ExecutionEntry.startUtcMs (manager.executionStore.entries ++ new) := by
  have tilesNew : Tiles ExecutionEntry.startUtcMs ExecutionEntry.endUtcMs new
      (policy.dayStart date) (policy.dayStart (date + 1)) := by
    rw [← tiles_plain, planned, tiles_plain]
    exact plans.tiles date
  rcases ends with ⟨-, empty, -⟩ | ⟨first, n, -, covers, at_, -, -⟩
  · rw [empty, List.nil_append]
    exact tilesNew.ascending
  · have tilesOld := covers.contiguous
    rw [covers.windowEnd, at_] at tilesOld
    exact (tilesOld.append tilesNew).ascending

end Ends

/-! ### The store under the manager -/

section StoreWrites

variable {policy : Policy Segment} {manager : HorizonManager Segment} {now : Int}

/-- **What `add_entries` leaves**: the entries with new ids, in start order. -/
theorem addEntries_entries {store next : Store Segment} {entries : List (ExecutionEntry Segment)}
    (added : store.addEntries entries = .ok next) :
    next.entries = store.entries ∧
        (entries.filter fun entry =>
          entry.blockId ∉ store.entries.map ExecutionEntry.blockId) = [] ∨
      next.entries = Store.sorted (store.entries ++ entries.filter fun entry =>
        entry.blockId ∉ store.entries.map ExecutionEntry.blockId) := by
  unfold Store.addEntries at added
  cases checked : entries.forM store.checkEntry with
  | error reason =>
    rw [checked] at added
    cases added
  | ok _ =>
    rw [checked] at added
    simp only [bind, Except.bind] at added
    split at added
    · rename_i empty
      cases added
      exact .inl ⟨rfl, List.isEmpty_iff.mp empty⟩
    · cases added
      exact .inr rfl

/-- **The next day is added behind the others.** -/
theorem EndsAt.addEntries (plans : DayPlans policy) {date : Int}
    (ends : EndsAt policy now manager date) {store : Store Segment}
    (added : manager.executionStore.addEntries (policy.pipeline.plan date).entries = .ok store) :
    store.entries = manager.executionStore.entries ++ (policy.pipeline.plan date).entries := by
  have fresh : ((policy.pipeline.plan date).entries.filter fun entry => entry.blockId ∉
      manager.executionStore.entries.map ExecutionEntry.blockId) =
      (policy.pipeline.plan date).entries := by
    rw [List.filter_eq_self]
    intro entry member
    rw [decide_eq_true_eq]
    rcases ends with ⟨-, empty, -⟩ | ⟨first, n, -, covers, at_, -, -⟩
    · rw [empty]
      exact List.not_mem_nil
    · exact covers.id_notMem plans (le_of_eq at_) member
  rcases addEntries_entries added with ⟨same, nothing⟩ | sorted
  · rw [fresh] at nothing
    rw [same, nothing, List.append_nil]
  · rw [sorted, fresh]
    exact sortByKey_of_ascending _ (ends.ascending plans _ rfl)

/-- **A covered day is not added again.** -/
theorem Covers.addEntries {first : Int} {n : Nat} (covers : Covers policy manager first n)
    {date : Int} (low : first ≤ date) (high : date < first + n) {store : Store Segment}
    (added : manager.executionStore.addEntries (policy.pipeline.plan date).entries = .ok store) :
    store.entries = manager.executionStore.entries := by
  have known : ((policy.pipeline.plan date).entries.filter fun entry => entry.blockId ∉
      manager.executionStore.entries.map ExecutionEntry.blockId) = [] := by
    rw [List.filter_eq_nil_iff]
    intro entry member
    simpa using covers.id_mem low high member
  rcases addEntries_entries added with ⟨same, -⟩ | sorted
  · exact same
  · rw [sorted, known, List.append_nil]
    exact sortByKey_of_ascending _ covers.contiguous.ascending

/-- A publish without override is refused, or replaces its range. -/
theorem publish_cases (store : Store Segment) (storeNow low high generation : Int)
    (new : List (ExecutionEntry Segment)) (reason : String) :
    let published := store.publishAtomicReplace storeNow false low high new generation reason false
    published.2.ok = false ∧ published.1 = store ∨
      published.2.ok = true ∧ published.1 = store.replaceRange low high new generation false := by
  dsimp only
  unfold Store.publishAtomicReplace
  split
  · exact .inl ⟨rfl, rfl⟩
  · simp only [Bool.false_eq_true, if_false]
    split
    · exact .inl ⟨rfl, rfl⟩
    · exact .inr ⟨rfl, rfl⟩

/-- **A published next day stands behind the others**, stamped. -/
theorem EndsAt.replaceRange (plans : DayPlans policy) {date : Int}
    (ends : EndsAt policy now manager date) (generation : Int) :
    (manager.executionStore.replaceRange (policy.dayStart date) (policy.dayStart (date + 1))
        (policy.pipeline.plan date).entries generation false).entries =
      manager.executionStore.entries ++
        (policy.pipeline.plan date).entries.map (Store.stamp generation false) := by
  have apart : (manager.executionStore.entries.filter fun entry =>
      ¬ entry.Overlaps (policy.dayStart date) (policy.dayStart (date + 1))) =
      manager.executionStore.entries := by
    rw [List.filter_eq_self]
    intro entry member
    rw [decide_eq_true_eq]
    rintro ⟨-, ending⟩
    rcases ends with ⟨-, empty, -⟩ | ⟨first, n, -, covers, at_, -, -⟩
    · rw [empty] at member
      cases member
    · have inside := (covers.contiguous.bounds entry member).2
      rw [covers.windowEnd, at_] at inside
      omega
  show Store.sorted _ = _
  rw [apart]
  refine sortByKey_of_ascending _ (ends.ascending plans _ ?_)
  rw [List.map_map]
  rfl

end StoreWrites

/-! ### The extension -/

section Extension

open HorizonManager

variable {policy : Policy Segment} {manager : HorizonManager Segment} {now : Int}

theorem reaching_windowEnd (manager : HorizonManager Segment) (endMs : Int) :
    (manager.reaching endMs).executionWindowEndUtcMs =
      max manager.executionWindowEndUtcMs endMs := by
  unfold HorizonManager.reaching
  split
  · rename_i later
    exact (max_eq_right (le_of_lt later)).symm
  · rename_i notLater
    exact (max_eq_left (not_lt.mp notLater)).symm

@[simp] theorem reaching_store (manager : HorizonManager Segment) (endMs : Int) :
    (manager.reaching endMs).executionStore = manager.executionStore := by
  unfold HorizonManager.reaching
  split <;> rfl

@[simp] theorem reaching_log (manager : HorizonManager Segment) (endMs : Int) :
    (manager.reaching endMs).extensionAttemptLog = manager.extensionAttemptLog := by
  unfold HorizonManager.reaching
  split <;> rfl

@[simp] theorem stored_windowEnd (manager : HorizonManager Segment) (store : Store Segment)
    (endMs : Int) : (manager.stored store endMs).executionWindowEndUtcMs =
      max manager.executionWindowEndUtcMs endMs := reaching_windowEnd _ _

@[simp] theorem stored_store (manager : HorizonManager Segment) (store : Store Segment)
    (endMs : Int) : (manager.stored store endMs).executionStore = store := reaching_store _ _

@[simp] theorem stored_log (manager : HorizonManager Segment) (store : Store Segment)
    (endMs : Int) : (manager.stored store endMs).extensionAttemptLog =
      manager.extensionAttemptLog := reaching_log _ _

/-- The pipeline's result is its plan. -/
theorem extendExecutionDay_ok {call : Nat} {date : Date} {result : ExecutionDayResult Segment}
    (done : policy.pipeline.extendExecutionDay call date = .ok result) :
    result = policy.pipeline.plan date ∧ policy.pipeline.raises call = none := by
  unfold PlanningPipeline.extendExecutionDay at done
  split at done
  · cases done
  · rename_i fine
    cases done
    exact ⟨rfl, fine⟩

/-- **A day added by `add_entries`, with the window end following.** -/
theorem EndsAt.added (plans : DayPlans policy) (epoch : 0 ≤ now) {date : Int}
    (ends : EndsAt policy now manager date) {store : Store Segment}
    (added : manager.executionStore.addEntries (policy.pipeline.plan date).entries = .ok store)
    (after : HorizonManager Segment) (entries : after.executionStore = store)
    (windowEnd : after.executionWindowEndUtcMs =
      max manager.executionWindowEndUtcMs (policy.pipeline.plan date).endUtcMs) :
    EndsAt policy now after (date + 1) ∧
      after.executionWindowEndUtcMs = policy.dayStart (date + 1) := by
  have later := ends.windowEnd_lt epoch
  have reached : after.executionWindowEndUtcMs = policy.dayStart (date + 1) := by
    rw [windowEnd, plans.ends]
    exact max_eq_right (le_of_lt later)
  refine ⟨ends.add plans epoch reached ?_, reached⟩
  rw [entries, ends.addEntries plans added]

/-- **The extension loop**: it adds days in a row, and stops at the target, at its limit, or with a
failure. -/
theorem extendExecutionLoop_spec (plans : DayPlans policy) (epoch : 0 ≤ now) (target : Int) :
    ∀ (days : Nat) (date : Int) (manager : HorizonManager Segment),
      EndsAt policy now manager date → ∃ (j : Nat) (more : List ExtensionAttempt),
        EndsAt policy now (extendExecutionLoop policy now target days date manager).1 (date + j) ∧
        (extendExecutionLoop policy now target days date manager).1.extensionAttemptLog =
          manager.extensionAttemptLog ++ more ∧
        manager.executionWindowEndUtcMs ≤
          (extendExecutionLoop policy now target days date manager).1.executionWindowEndUtcMs ∧
        ((extendExecutionLoop policy now target days date manager).1.executionWindowEndUtcMs =
            manager.executionWindowEndUtcMs ∧ j = 0 ∨
          (extendExecutionLoop policy now target days date manager).1.executionWindowEndUtcMs =
            policy.dayStart (date + j)) ∧
        ((extendExecutionLoop policy now target days date manager).2 = true →
          (∀ attempt ∈ more, attempt.success = true) →
          target ≤ (extendExecutionLoop policy now target days date
            manager).1.executionWindowEndUtcMs ∨ j = days)
  | 0, date, manager, ends => by
    refine ⟨0, [], ?_, (List.append_nil _).symm, le_refl _, .inl ⟨rfl, rfl⟩, fun _ _ => .inr rfl⟩
    rw [Nat.cast_zero, add_zero]
    exact ends
  | days + 1, date, manager, ends => by
    rw [extendExecutionLoop]
    by_cases short : manager.executionWindowEndUtcMs < target
    · rw [if_pos short]
      dsimp only
      cases done : policy.pipeline.extendExecutionDay manager.counted.extensionAttemptCount date with
      | error code =>
        refine ⟨0, [manager.counted.attempt now manager.executionWindowEndUtcMs
          (some (.pipeline code))], ?_, rfl, le_refl _, .inl ⟨rfl, rfl⟩, ?_⟩
        · rw [Nat.cast_zero, add_zero]
          exact ends.congr rfl rfl
        · intro _ succeeded
          have := succeeded _ List.mem_cons_self
          cases this
      | ok result =>
        obtain ⟨rfl, -⟩ := extendExecutionDay_ok done
        dsimp only
        cases added : manager.executionStore.addEntries (policy.pipeline.plan date).entries with
        | error reason =>
          refine ⟨0, [], ?_, (List.append_nil _).symm, le_refl _, .inl ⟨rfl, rfl⟩,
            fun finished => by cases finished⟩
          rw [Nat.cast_zero, add_zero]
          exact ends.congr rfl rfl
        | ok store =>
          dsimp only
          let stored := (manager.counted.stored store
            (policy.pipeline.plan date).endUtcMs).succeeded
          obtain ⟨endsNext, reached⟩ := ends.added plans epoch added
            (stored.logged now manager.executionWindowEndUtcMs none) (stored_store _ _ _)
            (stored_windowEnd _ _ _)
          obtain ⟨j, more, endsLater, log, forward, row, stops⟩ :=
            extendExecutionLoop_spec plans epoch target days (date + 1) _ endsNext
          have later := ends.windowEnd_lt epoch
          refine ⟨j + 1, stored.attempt now manager.executionWindowEndUtcMs none :: more, ?_, ?_,
            ?_, ?_, ?_⟩
          · rw [show date + ((j + 1 : Nat) : Int) = date + 1 + j by push_cast; ring]
            exact endsLater
          · rw [log]
            show (manager.counted.stored _ _).extensionAttemptLog ++ [_] ++ more = _
            rw [stored_log, List.append_assoc]
            rfl
          · rw [reached] at forward
            exact (le_of_lt later).trans forward
          · right
            rw [show date + ((j + 1 : Nat) : Int) = date + 1 + j by push_cast; ring]
            rcases row with ⟨same, rfl⟩ | row
            · rw [same, reached, Nat.cast_zero, add_zero]
            · exact row
          · intro finished succeeded
            have rest : ∀ attempt ∈ more, attempt.success = true :=
              fun attempt member => succeeded attempt (List.mem_cons_of_mem _ member)
            exact (stops finished rest).imp_right (congrArg (· + 1))
    · rw [if_neg short]
      refine ⟨0, [], ?_, (List.append_nil _).symm, le_refl _, .inl ⟨rfl, rfl⟩,
        fun _ _ => .inl (not_lt.mp short)⟩
      rw [Nat.cast_zero, add_zero]
      exact ends

end Extension

/-! ### The other routines -/

section Routines

open HorizonManager

variable {policy : Policy Segment} {manager : HorizonManager Segment} {now : Int}

/-- **What a routine leaves**: a settled manager, a window end that has not gone back, and a log that
has only grown. -/
structure Advances (policy : Policy Segment) (now : Int) (manager after : HorizonManager Segment) :
    Prop where
  settled : Settled policy now after
  forward : manager.executionWindowEndUtcMs ≤ after.executionWindowEndUtcMs
  log : ∃ more, after.extensionAttemptLog = manager.extensionAttemptLog ++ more

/-- A routine that writes nothing but flags and one record. -/
theorem Advances.of_same {after : HorizonManager Segment} (settled : Settled policy now manager)
    (windowEnd : after.executionWindowEndUtcMs = manager.executionWindowEndUtcMs)
    (entries : after.executionStore.entries = manager.executionStore.entries)
    (log : ∃ more, after.extensionAttemptLog = manager.extensionAttemptLog ++ more) :
    Advances policy now manager after := by
  refine ⟨?_, le_of_eq windowEnd.symm, log⟩
  have ends := (settled.endsAt (le_refl now)).congr windowEnd entries
  exact ends.settled

theorem Advances.trans {middle after : HorizonManager Segment}
    (first : Advances policy now manager middle) (second : Advances policy now middle after) :
    Advances policy now manager after := by
  obtain ⟨before, logBefore⟩ := first.log
  obtain ⟨behind, logBehind⟩ := second.log
  refine ⟨second.settled, first.forward.trans second.forward, before ++ behind, ?_⟩
  rw [logBehind, logBefore, List.append_assoc]

/-- The EPG leaves the execution alone. -/
theorem extendEpgLoop_frame (target : Int) (epg : Date → EpgDay) :
    ∀ (days : Nat) (next : Date) (manager : HorizonManager Segment),
      (extendEpgLoop policy target epg days next manager).1.executionWindowEndUtcMs =
          manager.executionWindowEndUtcMs ∧
        (extendEpgLoop policy target epg days next manager).1.executionStore =
          manager.executionStore ∧
        (extendEpgLoop policy target epg days next manager).1.extensionAttemptLog =
          manager.extensionAttemptLog
  | 0, _, _ => ⟨rfl, rfl, rfl⟩
  | days + 1, next, manager => by
    rw [extendEpgLoop]
    split
    · split
      · exact ⟨rfl, rfl, rfl⟩
      · exact extendEpgLoop_frame target epg days (next + 1) _
    · exact ⟨rfl, rfl, rfl⟩

/-- **The next-block fill**, unless it skips days. -/
theorem checkNextBlockReady_advances (plans : DayPlans policy) (epoch : 0 ≤ now) {date : Int}
    (ends : EndsAt policy now manager date)
    (steady : ¬ (policy.lockedWindowMs ≤ 0 ∧
      policy.pipeline.raises (manager.extensionAttemptCount + 1) = none ∧
      date < policy.broadcastDateFor now)) :
    Advances policy now manager
      (manager.checkNextBlockReady policy now (policy.broadcastDateFor now)).1 := by
  have settled := ends.settled
  unfold checkNextBlockReady
  split
  · exact .of_same settled rfl rfl ⟨[], (List.append_nil _).symm⟩
  dsimp only
  split
  · exact .of_same settled rfl rfl ⟨_, rfl⟩
  rename_i unlocked
  cases done : policy.pipeline.extendExecutionDay manager.counted.extensionAttemptCount
      (policy.broadcastDateFor now) with
  | error code => exact .of_same settled rfl rfl ⟨_, rfl⟩
  | ok result =>
    obtain ⟨rfl, fine⟩ := extendExecutionDay_ok done
    dsimp only
    cases added : manager.executionStore.addEntries
        (policy.pipeline.plan (policy.broadcastDateFor now)).entries with
    | error reason => exact .of_same settled rfl rfl ⟨[], (List.append_nil _).symm⟩
    | ok store =>
      dsimp only
      -- today is covered already, or it is the day after the coverage
      have notLater : ¬ date < policy.broadcastDateFor now :=
        fun later => steady ⟨not_lt.mp unlocked, fine, later⟩
      have filled : Advances policy now manager (manager.counted.stored store
          (policy.pipeline.plan (policy.broadcastDateFor now)).endUtcMs) := by
        refine ⟨?_, ?_, [], ?_⟩
        · rcases lt_or_eq_of_le (not_lt.mp notLater) with covered | today
          · rcases ends with ⟨-, -, today⟩ | ⟨first, n, some_, covers, at_, begun, positive⟩
            · exact absurd covered (by rw [today]; exact lt_irrefl _)
            · have bounds := policy.broadcastDateFor_bounds now
              have inside : first < policy.broadcastDateFor now + 1 :=
                (policy.dayStart_lt_iff _ _).mp (begun.trans_lt bounds.2)
              have same := covers.addEntries (Int.lt_add_one_iff.mp inside)
                (by rw [at_]; exact covered) added
              have behind : (policy.pipeline.plan (policy.broadcastDateFor now)).endUtcMs ≤
                  manager.executionWindowEndUtcMs := by
                rw [plans.ends, covers.windowEnd, at_]
                refine not_lt.mp fun before => ?_
                have := (policy.dayStart_lt_iff _ _).mp before
                exact absurd (Int.lt_add_one_iff.mp this) (not_le.mpr covered)
              have ends' : EndsAt policy now manager date :=
                .inr ⟨first, n, some_, covers, at_, begun, positive⟩
              refine (ends'.congr ?_ ?_).settled
              · rw [stored_windowEnd]
                exact max_eq_left behind
              · rw [stored_store, same]
          · rw [today] at added ⊢
            exact (ends.added plans epoch added (manager.counted.stored store _)
              (stored_store _ _ _) (stored_windowEnd _ _ _)).1.settled
        · rw [stored_windowEnd]
          exact le_max_left _ _
        · rw [stored_log, List.append_nil]
          rfl
      split
      · exact filled.trans (.of_same filled.settled rfl rfl ⟨_, rfl⟩)
      · exact filled.trans (.of_same filled.settled rfl rfl ⟨_, rfl⟩)

/-- **The proactive extension** adds the next day, or nothing. -/
theorem checkProactiveExtend_advances (plans : DayPlans policy) (epoch : 0 ≤ now) {clock : Int}
    (settled : Settled policy clock manager) (later : clock ≤ now) (storeNow : Int) :
    Advances policy now manager
      (manager.checkProactiveExtend policy now (policy.broadcastDateFor now) storeNow) := by
  have ends := settled.endsAt later
  have settledNow := ends.settled
  unfold checkProactiveExtend
  split
  · exact .of_same settledNow rfl rfl ⟨[], (List.append_nil _).symm⟩
  split
  · exact .of_same settledNow rfl rfl ⟨[], (List.append_nil _).symm⟩
  dsimp only
  generalize manager.nextDate policy (policy.broadcastDateFor now) = date at ends ⊢
  cases done : policy.pipeline.extendExecutionDay
      (counted { manager with proactiveExtensionTriggered := true }).extensionAttemptCount date with
  | error code => exact .of_same settledNow rfl rfl ⟨_, rfl⟩
  | ok result =>
    obtain ⟨rfl, -⟩ := extendExecutionDay_ok done
    dsimp only
    have tiles := plans.tiles date
    cases entries : (policy.pipeline.plan date).entries with
    | nil =>
      rw [entries] at tiles
      have := (policy.dayStart_lt_iff date (date + 1)).mpr (by omega)
      exact absurd (show policy.dayStart date = _ from tiles) (ne_of_lt this)
    | cons first rest =>
      dsimp only
      have begins : first.startUtcMs = policy.dayStart date := by
        rw [entries] at tiles
        exact tiles.1
      rw [← entries, begins, plans.ends]
      have cases_ := publish_cases manager.executionStore storeNow (policy.dayStart date)
        (policy.dayEndUtcMs date) (manager.nextGenerationId + 1)
        (policy.pipeline.plan date).entries "REASON_TIME_THRESHOLD"
      split
      · rename_i ok
        have replaced := (cases_.resolve_left fun refused =>
          absurd (refused.1.symm.trans ok) Bool.false_ne_true).2
        have behind := ends.windowEnd_lt epoch
        -- the manager that the published day is stored in differs in its counts only
        have reached := stored_windowEnd
          (counted { manager with
            proactiveExtensionTriggered := true, nextGenerationId := manager.nextGenerationId + 1 })
          (manager.executionStore.publishAtomicReplace storeNow false (policy.dayStart date)
            (policy.dayEndUtcMs date) (policy.pipeline.plan date).entries
            (manager.nextGenerationId + 1) "REASON_TIME_THRESHOLD" false).1
          (policy.dayEndUtcMs date)
        refine ⟨?_, ?_, ?_⟩
        · refine (ends.add plans epoch ?_ ?_).settled
          · exact reached.trans (max_eq_right (le_of_lt behind))
          · refine (congrArg (fun store : Store Segment => store.entries.map plain)
              ((stored_store _ _ _).trans replaced)).trans ?_
            rw [Policy.dayEndUtcMs, ends.replaceRange plans, List.map_append, List.map_append,
              List.map_map]
            rfl
        · exact (le_max_left _ _).trans (le_of_eq reached.symm)
        · exact ⟨_, congrArg (· ++ [_]) (stored_log _ _ _)⟩
      · rename_i refused
        have same := (cases_.resolve_right fun accepted => refused accepted.1).2
        refine .of_same settledNow rfl ?_ ⟨_, rfl⟩
        exact congrArg Store.entries same

end Routines

/-! ### An evaluation -/

section Evaluation

open HorizonManager

variable {policy : Policy Segment} {manager : HorizonManager Segment} {now : Int}

/-- What the extension of an evaluation reaches when nothing fails: the depth, or thirty days. -/
def Reaches (policy : Policy Segment) (now : Int) (manager after : HorizonManager Segment) : Prop :=
  DeepEnough policy after now ∨ ThirtyDays policy manager after now

/-- A later window end reaches as much. -/
theorem Reaches.mono {middle after : HorizonManager Segment}
    (reaches : Reaches policy now manager middle)
    (forward : middle.executionWindowEndUtcMs ≤ after.executionWindowEndUtcMs) :
    Reaches policy now manager after := by
  rcases reaches with deep | thirty
  · refine .inl (le_trans deep ?_)
    exact max_le_max (le_refl 0) (Int.sub_le_sub_right forward now)
  · exact .inr (le_trans thirty forward)

/-- **The execution extension of an evaluation.** -/
theorem extendExecution_advances (plans : DayPlans policy) (epoch : 0 ≤ now)
    (settled : Settled policy now manager) :
    Advances policy now manager
        (manager.extendExecution policy (policy.broadcastDateFor now) now).1 ∧
      ((manager.extendExecution policy (policy.broadcastDateFor now) now).2 = true →
        (∀ attempt ∈ (manager.extendExecution policy (policy.broadcastDateFor now)
          now).1.extensionAttemptLog.drop manager.extensionAttemptLog.length,
          attempt.success = true) →
        Reaches policy now manager
          (manager.extendExecution policy (policy.broadcastDateFor now) now).1) := by
  obtain ⟨j, more, ends, log, forward, row, stops⟩ := extendExecutionLoop_spec plans epoch
    (now + policy.minExecutionHours * 3600000) 30 _ manager (settled.endsAt (le_refl now))
  refine ⟨⟨ends.settled, forward, more, log⟩, ?_⟩
  intro finished succeeded
  have fine : ∀ attempt ∈ more, attempt.success = true := by
    intro attempt member
    refine succeeded attempt ?_
    rw [extendExecution, log, List.drop_left]
    exact member
  rcases stops finished fine with deep | thirty
  · left
    rw [DeepEnough, extendExecution]
    exact le_max_of_le_right (by omega)
  · right
    rcases row with ⟨-, none_⟩ | row
    · omega
    · rw [ThirtyDays, extendExecution, row, thirty]
      exact le_refl _

/-- **An evaluation up to the execution depth.** -/
theorem evaluateDepths_advances (plans : DayPlans policy) (epoch : 0 ≤ now) {clock : Int}
    (settled : Settled policy clock manager) (later : clock ≤ now) (epg : Date → EpgDay) :
    Advances policy now manager (manager.evaluateDepths policy now epg).1 ∧
      ((manager.evaluateDepths policy now epg).2 = true →
        (∀ attempt ∈ (manager.evaluateDepths policy now epg).1.extensionAttemptLog.drop
          manager.extensionAttemptLog.length, attempt.success = true) →
        Reaches policy now manager (manager.evaluateDepths policy now epg).1) := by
  have settledNow := (settled.endsAt later).settled
  -- the EPG part, with or without an extension
  have frame : ∀ done : HorizonManager Segment × Bool,
      done.1.executionWindowEndUtcMs = manager.executionWindowEndUtcMs →
      done.1.executionStore = manager.executionStore →
      done.1.extensionAttemptLog = manager.extensionAttemptLog →
      let whole := if done.2 then
          if max 0 (done.1.executionWindowEndUtcMs - now) < policy.minExecutionHours * 3600000 then
            done.1.extendExecution policy (policy.broadcastDateFor now) now
          else (done.1, true)
        else done
      Advances policy now manager whole.1 ∧
        (whole.2 = true → (∀ attempt ∈ whole.1.extensionAttemptLog.drop
          manager.extensionAttemptLog.length, attempt.success = true) →
          Reaches policy now manager whole.1) := by
    intro done windowEnd store log
    have same : Advances policy now manager done.1 := .of_same settledNow windowEnd
      (congrArg Store.entries store) ⟨[], by rw [log, List.append_nil]⟩
    dsimp only
    split
    · split
      · obtain ⟨advances, reaches⟩ := extendExecution_advances plans epoch same.settled
        refine ⟨same.trans advances, ?_⟩
        intro finished succeeded
        rw [← log] at succeeded
        rcases reaches finished succeeded with deep | thirty
        · exact .inl deep
        · right
          rw [ThirtyDays, nextDate, windowEnd] at thirty
          exact thirty
      · rename_i deep
        exact ⟨same, fun _ _ => .inl (not_lt.mp deep)⟩
    · rename_i raised
      exact ⟨same, fun finished => absurd finished raised⟩
  unfold evaluateDepths
  dsimp only
  split
  · refine frame _ ?_ ?_ ?_
    · exact (extendEpgLoop_frame ..).1
    · exact (extendEpgLoop_frame ..).2.1
    · exact (extendEpgLoop_frame ..).2.2
  · exact frame _ rfl rfl rfl

/-- **An evaluation**, unless its fill skips days. -/
theorem evaluateOnce_advances (plans : DayPlans policy) (epoch : 0 ≤ now) {clock : Int}
    (settled : Settled policy clock manager) (later : clock ≤ now) (epg : Date → EpgDay)
    (storeNow : Int) (steady : ¬ FillSkips policy manager now epg) :
    Advances policy now manager (manager.evaluateOnce policy now epg storeNow).1 ∧
      (WithoutFailures policy manager now epg storeNow →
        Reaches policy now manager (manager.evaluateOnce policy now epg storeNow).1) := by
  obtain ⟨advances, reaches⟩ := evaluateDepths_advances plans epoch settled later epg
  unfold WithoutFailures evaluateOnce
  rcases depths : manager.evaluateDepths policy now epg with ⟨extended, finished⟩
  rw [depths] at advances reaches
  cases finished with
  | false => exact ⟨advances, fun fine => by cases fine.1⟩
  | true =>
    dsimp only
    have ends := advances.settled.endsAt (le_refl now)
    have filled := checkNextBlockReady_advances plans epoch ends (by
      rw [FillSkips, beforeFill, depths] at steady
      exact steady)
    have checks : Advances policy now extended
        (extended.evaluateChecks policy now (policy.broadcastDateFor now) storeNow).1 := by
      unfold evaluateChecks
      rcases ready : extended.checkNextBlockReady policy now (policy.broadcastDateFor now) with
        ⟨checked, going⟩
      rw [ready] at filled
      cases going with
      | false => exact filled
      | true =>
        have seams : Advances policy now checked checked.checkSeamContiguity :=
          .of_same filled.settled rfl rfl ⟨[], (List.append_nil _).symm⟩
        exact filled.trans (seams.trans
          (checkProactiveExtend_advances plans epoch seams.settled (le_refl now) storeNow))
    refine ⟨advances.trans checks, ?_⟩
    rintro ⟨-, succeeded⟩
    refine (reaches rfl fun attempt member => succeeded attempt ?_).mono checks.forward
    obtain ⟨before, logBefore⟩ := advances.log
    obtain ⟨behind, logBehind⟩ := checks.log
    rw [logBefore, List.drop_left] at member
    rw [logBehind, logBefore, List.append_assoc, List.drop_left]
    exact List.mem_append_left _ member

end Evaluation

/-! ### Runs -/

section RunsCovered

open HorizonManager

variable (policy : Policy Segment)

/-- Between calls the manager is settled. -/
def ManagerRun.Settled (run : ManagerRun Segment) : Prop :=
  0 ≤ run.clock ∧ Horizon.Settled policy run.clock run.manager

/-- **One call**: a settled manager stays settled, and leaves what it must. -/
theorem ManagerRun.Settled.call {policy : Policy Segment} (plans : DayPlans policy)
    {run : ManagerRun Segment} {action : ManagerCall} (settled : run.Settled policy)
    (steady : run.Steady policy action) :
    (∀ next, run.step policy action = some next → next.Settled policy) ∧
      run.Leaves policy (fun before after now => Reaches policy now before after) action := by
  obtain ⟨epoch, settled⟩ := settled
  cases action with
  | evaluate now epg storeNow =>
    have all : ∀ next, run.step policy (.evaluate now epg storeNow) = some next →
        run.clock ≤ now ∧ next = ⟨(run.manager.evaluateOnce policy now epg storeNow).1, now⟩ := by
      intro next taken
      rw [step] at taken
      split at taken
      · rename_i later
        cases taken
        exact ⟨later, rfl⟩
      · cases taken
    constructor
    · intro next taken
      obtain ⟨later, rfl⟩ := all next taken
      exact ⟨epoch.trans later, (evaluateOnce_advances plans (epoch.trans later) settled later epg
        storeNow steady).1.settled⟩
    · intro next taken
      obtain ⟨later, rfl⟩ := all next taken
      obtain ⟨advances, reaches⟩ := evaluateOnce_advances plans (epoch.trans later) settled later
        epg storeNow steady
      exact ⟨advances.settled.coverage, advances.forward, reaches⟩
  | proactive now storeNow =>
    have all : ∀ next, run.step policy (.proactive now storeNow) = some next →
        run.clock ≤ now ∧ next = ⟨run.manager.checkProactiveExtend policy now
          (policy.broadcastDateFor now) storeNow, now⟩ := by
      intro next taken
      rw [step] at taken
      split at taken
      · rename_i later
        cases taken
        exact ⟨later, rfl⟩
      · cases taken
    constructor
    · intro next taken
      obtain ⟨later, rfl⟩ := all next taken
      exact ⟨epoch.trans later, (checkProactiveExtend_advances plans (epoch.trans later) settled
        later storeNow).settled⟩
    · intro next taken
      obtain ⟨later, rfl⟩ := all next taken
      have advances := checkProactiveExtend_advances plans (epoch.trans later) settled later
        storeNow
      exact ⟨advances.settled.coverage, advances.forward, trivial⟩

/-- **The horizon is covered**: along every run whose fills skip no day, the store holds the plans of
one row of days up to the window end, the window end never goes back, and an evaluation without
failures reaches the configured depth or adds thirty days. -/
theorem horizon_covered (plans : DayPlans policy) (enforce hasClock : Bool) (window : Option Int)
    (records : Option (List OverrideRecord)) (calls : List ManagerCall)
    (steady : Along (ManagerRun.step policy) (ManagerRun.Steady policy)
      (ManagerRun.start enforce hasClock window records) calls) :
    Along (ManagerRun.step policy)
      (ManagerRun.Leaves policy fun before after now =>
        DeepEnough policy after now ∨ ThirtyDays policy before after now)
      (ManagerRun.start enforce hasClock window records) calls :=
  along_of_invariant (ManagerRun.step policy) (ManagerRun.Settled policy) (ManagerRun.Steady policy)
    _ (fun _ _ next settled allowed taken => (settled.call plans allowed).1 next taken)
    (fun _ _ settled allowed => (settled.call plans allowed).2) calls
    ⟨le_refl 0, .inl ⟨rfl, rfl⟩⟩ steady

end RunsCovered

/-! ### One entry a day -/

section WholeDays

open HorizonManager

/-- A day as one entry; its id counts the days from 1970. -/
def dayEntry (date : Int) : ExecutionEntry Unit where
  blockId := String.ofList
    (List.replicate (date - 719163).natAbs (if date < 719163 then '-' else '+'))
  blockIndex := 0
  startUtcMs := (date - 719163) * 86400000 + 21600000
  endUtcMs := (date - 719162) * 86400000 + 21600000
  segments := []
  channelId := "ch"
  programmingDayDate := some date

/-- A manager over whole days from six in the morning, with the calls of the pipeline that raise. -/
def wholeDays (minExecutionHours : Int) (raising : List Nat) : Policy Unit where
  minExecutionHours := minExecutionHours
  pipeline :=
    { plan := fun date =>
        { endUtcMs := (date - 719162) * 86400000 + 21600000, entries := [dayEntry date] }
      raises := fun call => if call ∈ raising then some "PIPELINE_ERROR" else none }

theorem dayEntry_identified {first second : Int}
    (same : (dayEntry first).blockId = (dayEntry second).blockId) : first = second := by
  obtain ⟨counts, marks⟩ := List.replicate_inj.mp (String.ofList_injective same)
  by_cases before : first < 719163 <;> by_cases after : second < 719163 <;>
    simp only [before, after, if_true, if_false, Char.reduceEq, or_false, or_true] at marks <;>
    omega

theorem wholeDays_plans (minExecutionHours : Int) (raising : List Nat) :
    DayPlans (wholeDays minExecutionHours raising) where
  tiles date := by
    show (_ : Int) = _ ∧ (_ : Int) ≤ _ ∧ (_ : Int) = _
    simp only [dayEntry, Policy.dayStart, wholeDays]
    refine ⟨?_, ?_, ?_⟩ <;> omega
  ends date := by
    show (date - 719162) * 86400000 + 21600000 =
      ((date + 1 - 719163) * 86400000 + 6 * 3600000 : Int)
    ring
  distinct first second apart entry member other memberOther := by
    rw [List.mem_singleton.mp member, List.mem_singleton.mp memberOther]
    exact fun same => apart (dayEntry_identified same)

/-- An evaluation with the EPG in place. -/
def evaluateAt (nowMs : Int) : ManagerCall := .evaluate nowMs (fun _ => .exists_) nowMs

/-- A new manager over an unguarded store. -/
def newRun : ManagerRun Unit := ManagerRun.start false false none none

/-- The second call of the pipeline raises, and the fill of the next day makes up for it. -/
theorem raised_extension_is_filled :
    Along (ManagerRun.step (wholeDays 6 [2]))
      (ManagerRun.Leaves (wholeDays 6 [2]) fun before after now =>
        DeepEnough (wholeDays 6 [2]) after now ∨ ThirtyDays (wholeDays 6 [2]) before after now)
      newRun [evaluateAt 21600000, evaluateAt 111600000] :=
  horizon_covered _ (wholeDays_plans 6 [2]) false false none none _ (by decide +kernel)

/-- **Thirty days are not enough** for a minimum of 31, although nothing fails. -/
theorem thirty_days_fall_short :
    ¬ Along (ManagerRun.step (wholeDays 744 []))
      (ManagerRun.Leaves (wholeDays 744 []) fun _ after now => DeepEnough (wholeDays 744 []) after now)
      newRun [evaluateAt 21600000] := by
  rintro ⟨leaves, -⟩
  have deep := (leaves _ rfl).2.2 (by decide +kernel)
  exact absurd deep (by decide +kernel)

end WholeDays

end Retrovue.Core.Horizon
