/-
**The execution window store and its locked window** (`runtime/execution_window_store.py`).

* `ExecutionEntry`, `Store`: the entries in start order, the highest published generation, the clock
  and the locked window;
* `addEntries`, `publishAtomicReplace`, `replaceEntry`, `markLocked`, `lockAll`: the writes;
* `store_ascending`: the entries are in start order after every run of writes;
* `publish_locked_iff`: exactly when a publish without operator override leaves the entries of the
  locked window as they were;
* `publish_removes_straddler`: a publish that begins at the end of the locked window removes an entry
  that straddles it.

Entries are values here: a publish stamps the entries that it is given, and no caller keeps a
reference into the store.
-/

import Retrovue.Foundation.Transition
import Retrovue.Foundation.Sorting

namespace Retrovue.Core.Horizon

open Retrovue.Foundation.Transition Retrovue.Foundation.Sorting

/-! ### The store -/

section Model

/-- A date, by its proleptic ordinal. -/
abbrev Date := Int

/-- `ExecutionEntry`: one block's execution-ready data, with its schedule lineage. -/
structure ExecutionEntry (Segment : Type) where
  blockId : String
  blockIndex : Int
  startUtcMs : Int
  endUtcMs : Int
  segments : List Segment
  channelId : String := ""
  programmingDayDate : Option Date := none
  isLocked : Bool := true
  transmissionLogRef : Option String := none
  isOperatorOverride : Bool := false
  generationId : Int := 0
  deriving DecidableEq, Repr

variable {Segment : Type}

/-- The half-open overlap of an entry with a range, as every query of the store tests it. -/
def ExecutionEntry.Overlaps (entry : ExecutionEntry Segment) (low high : Int) : Prop :=
  entry.startUtcMs < high ∧ entry.endUtcMs > low

instance (entry : ExecutionEntry Segment) (low high : Int) : Decidable (entry.Overlaps low high) :=
  inferInstanceAs (Decidable (_ ∧ _))

/-- A persisted override record. -/
structure OverrideRecord where
  layer : String
  rangeStartMs : Int
  rangeEndMs : Int
  reasonCode : String
  nowMs : Int
  deriving DecidableEq, Repr

/-- `ExecutionWindowStore`; `hasClock` says that a `clock_fn` was given, `overrideRecords` is the
override store if there is one. -/
structure Store (Segment : Type) where
  entries : List (ExecutionEntry Segment)
  enforceDerivationFromPlaylist : Bool
  maxGenerationId : Int
  hasClock : Bool
  lockedWindowMs : Option Int
  overrideRecords : Option (List OverrideRecord)

/-- `__init__`. -/
def Store.create (enforceDerivationFromPlaylist hasClock : Bool) (lockedWindowMs : Option Int)
    (overrideRecords : Option (List OverrideRecord)) : Store Segment :=
  ⟨[], enforceDerivationFromPlaylist, 0, hasClock, lockedWindowMs, overrideRecords⟩

/-- What a write reports when it refuses: the rule, and the data that its text names. -/
inductive StoreError
  /-- `INV-EXECUTIONENTRY-DERIVED-FROM-TRANSMISSIONLOG-001-VIOLATED`. -/
  | notDerived (blockId : String)
  /-- `INV-EXECUTION-DERIVED-FROM-SCHEDULEDAY-001-VIOLATED`. -/
  | noLineage (blockId channelId : String) (programmingDayDate : Option Date)
  /-- `ExecutionEntry block_id=… not found in store.` -/
  | notFound (blockId : String)
  /-- `INV-EXECUTIONENTRY-LOCKED-IMMUTABLE-001-VIOLATED`, window status "past". -/
  | past (blockId : String) (endUtcMs nowUtcMs : Int)
  /-- `INV-EXECUTIONENTRY-LOCKED-IMMUTABLE-001-VIOLATED`, window status "locked". -/
  | locked (blockId : String)
  deriving DecidableEq, Repr

/-- `PublishResult.error_code`. -/
inductive PublishError
  /-- `INV-HORIZON-LOCKED-IMMUTABLE-001-VIOLATED: locked window`. -/
  | lockedWindow
  /-- `OVERRIDE_RECORD_PERSIST_FAILED`. -/
  | overrideRecordPersistFailed
  /-- `INV-HORIZON-ATOMIC-PUBLISH-001-VIOLATED: generation_id=… is not greater than …`. -/
  | staleGeneration (generationId maxGenerationId : Int) (reasonCode : String)
  deriving DecidableEq, Repr

/-- `PublishResult`. -/
structure PublishResult where
  ok : Bool
  publishedGenerationId : Int
  errorCode : Option PublishError
  deriving DecidableEq, Repr

namespace Store

/-- `add_entries`' checks of one entry. -/
def checkEntry (store : Store Segment) (entry : ExecutionEntry Segment) : Except StoreError Unit :=
  if store.enforceDerivationFromPlaylist ∧ ¬ entry.isOperatorOverride ∧
      entry.transmissionLogRef = none then
    .error (.notDerived entry.blockId)
  else if entry.channelId = "" ∨ entry.programmingDayDate = none then
    .error (.noLineage entry.blockId entry.channelId entry.programmingDayDate)
  else .ok ()

/-- The entries in start order. -/
def sorted (entries : List (ExecutionEntry Segment)) : List (ExecutionEntry Segment) :=
  sortByKey ExecutionEntry.startUtcMs entries

/-- `add_entries`: duplicate block ids are ignored. -/
def addEntries (store : Store Segment) (entries : List (ExecutionEntry Segment)) :
    Except StoreError (Store Segment) := do
  entries.forM store.checkEntry
  let existingIds := store.entries.map ExecutionEntry.blockId
  let new := entries.filter fun entry => entry.blockId ∉ existingIds
  if new.isEmpty then .ok store
  else .ok { store with entries := sorted (store.entries ++ new) }

/-- `_locked_window_end_ms`. -/
def lockedWindowEndMs (nowMs lockedWindowMs : Int) : Int := nowMs + lockedWindowMs

/-- The guard of `publish_atomic_replace`: the declared range meets the locked window. -/
def rangeLocked (store : Store Segment) (nowMs rangeStartMs rangeEndMs : Int) : Bool :=
  match store.lockedWindowMs with
  | none => false
  | some lockedWindowMs =>
    store.hasClock && decide (lockedWindowMs > 0) &&
      decide (rangeStartMs < lockedWindowEndMs nowMs lockedWindowMs ∧ rangeEndMs > nowMs)

/-- A new entry as it is stored. -/
def stamp (generationId : Int) (operatorOverride : Bool) (entry : ExecutionEntry Segment) :
    ExecutionEntry Segment :=
  { entry with
    generationId := generationId
    isOperatorOverride := if operatorOverride then true else entry.isOperatorOverride }

/-- The replacement of the entries in a range. -/
def replaceRange (store : Store Segment) (rangeStartMs rangeEndMs : Int)
    (newEntries : List (ExecutionEntry Segment)) (generationId : Int) (operatorOverride : Bool) :
    Store Segment :=
  { store with
    entries := sorted
      ((store.entries.filter fun entry => ¬ entry.Overlaps rangeStartMs rangeEndMs) ++
        newEntries.map (stamp generationId operatorOverride))
    maxGenerationId := generationId }

/-- The override record, written before any entry; `none` when the override store fails. -/
def persistOverride (store : Store Segment) (nowMs : Int) (persistFails : Bool)
    (rangeStartMs rangeEndMs : Int) (reasonCode : String) : Option (Store Segment) :=
  match store.overrideRecords with
  | none => some store
  | some records =>
    if persistFails then none
    else some { store with
      overrideRecords := some (records ++
        [⟨"ExecutionWindowStore", rangeStartMs, rangeEndMs, reasonCode,
          if store.hasClock then nowMs else 0⟩]) }

/-- `publish_atomic_replace` at clock time `nowMs`. -/
def publishAtomicReplace (store : Store Segment) (nowMs : Int) (persistFails : Bool)
    (rangeStartMs rangeEndMs : Int) (newEntries : List (ExecutionEntry Segment))
    (generationId : Int) (reasonCode : String) (operatorOverride : Bool) :
    Store Segment × PublishResult :=
  if ¬ operatorOverride ∧ store.rangeLocked nowMs rangeStartMs rangeEndMs then
    (store, ⟨false, generationId, some .lockedWindow⟩)
  else
    match (if operatorOverride then
        store.persistOverride nowMs persistFails rangeStartMs rangeEndMs reasonCode
      else some store) with
    | none => (store, ⟨false, generationId, some .overrideRecordPersistFailed⟩)
    | some recorded =>
      if generationId ≤ recorded.maxGenerationId then
        (recorded, ⟨false, generationId,
          some (.staleGeneration generationId recorded.maxGenerationId reasonCode)⟩)
      else
        (recorded.replaceRange rangeStartMs rangeEndMs newEntries generationId operatorOverride,
          ⟨true, generationId, none⟩)

/-- `replace_entry`: the first entry of that id, unless it has aired or is locked. -/
def replaceEntry (store : Store Segment) (blockId : String) (newEntry : ExecutionEntry Segment)
    (nowUtcMs : Int) (overrideRecordId : Option String) : Except StoreError (Store Segment) :=
  match store.entries.find? fun entry => entry.blockId = blockId with
  | none => .error (.notFound blockId)
  | some existing =>
    if existing.endUtcMs ≤ nowUtcMs then .error (.past blockId existing.endUtcMs nowUtcMs)
    else if existing.isLocked ∧ overrideRecordId = none then .error (.locked blockId)
    else
      let index := store.entries.findIdx fun entry => entry.blockId = blockId
      .ok { store with entries := sorted (store.entries.set index newEntry) }

/-- `mark_locked`: the first entry of that id. -/
def markLocked (store : Store Segment) (blockId : String) : Store Segment × Bool :=
  let index := store.entries.findIdx fun entry => entry.blockId = blockId
  if index < store.entries.length then
    ({ store with entries := store.entries.modify index fun entry => { entry with isLocked := true } },
      true)
  else (store, false)

/-- `lock_all`, with the count of newly locked entries. -/
def lockAll (store : Store Segment) : Store Segment × Nat :=
  ({ store with entries := store.entries.map fun entry => { entry with isLocked := true } },
    store.entries.countP fun entry => !entry.isLocked)

end Store

end Model

/-! ### Start order -/

section Order

variable {Segment : Type}

/-- A write of the store. -/
inductive Write (Segment : Type)
  | add (entries : List (ExecutionEntry Segment))
  | publish (nowMs : Int) (persistFails : Bool) (rangeStartMs rangeEndMs : Int)
      (newEntries : List (ExecutionEntry Segment)) (generationId : Int) (reasonCode : String)
      (operatorOverride : Bool)
  | replace (blockId : String) (newEntry : ExecutionEntry Segment) (nowUtcMs : Int)
      (overrideRecordId : Option String)
  | markLocked (blockId : String)
  | lockAll

/-- The store after a write; a write that raises leaves it as it is. -/
def Store.write (store : Store Segment) : Write Segment → Option (Store Segment)
  | .add entries => some ((store.addEntries entries).toOption.getD store)
  | .publish now persistFails low high new generation reason override =>
    some (store.publishAtomicReplace now persistFails low high new generation reason override).1
  | .replace blockId newEntry now record =>
    some ((store.replaceEntry blockId newEntry now record).toOption.getD store)
  | .markLocked blockId => some (store.markLocked blockId).1
  | .lockAll => some store.lockAll.1

/-- The entries are in start order. -/
def Store.Ordered (store : Store Segment) : Prop :=
  Ascending ExecutionEntry.startUtcMs store.entries

theorem sorted_ascending (entries : List (ExecutionEntry Segment)) :
    Ascending ExecutionEntry.startUtcMs (Store.sorted entries) :=
  sortByKey_pairwise _ entries

/-- A change that keeps every start keeps the order. -/
theorem ascending_of_starts {before after : List (ExecutionEntry Segment)}
    (starts : after.map ExecutionEntry.startUtcMs = before.map ExecutionEntry.startUtcMs)
    (ascending : Ascending ExecutionEntry.startUtcMs before) :
    Ascending ExecutionEntry.startUtcMs after := by
  unfold Ascending at ascending ⊢
  rw [← List.pairwise_map (R := fun a b : Int => a ≤ b)] at ascending ⊢
  rw [starts]
  exact ascending

theorem addEntries_ordered {store : Store Segment} {entries : List (ExecutionEntry Segment)}
    {next : Store Segment} (ordered : store.Ordered) (added : store.addEntries entries = .ok next) :
    next.Ordered := by
  unfold Store.addEntries at added
  cases checked : entries.forM store.checkEntry with
  | error reason =>
    rw [checked] at added
    cases added
  | ok _ =>
    rw [checked] at added
    simp only [bind, Except.bind] at added
    split at added
    · cases added
      exact ordered
    · cases added
      exact sorted_ascending _

theorem persistOverride_entries {store recorded : Store Segment} {now low high : Int}
    {persistFails : Bool} {reason : String}
    (persisted : store.persistOverride now persistFails low high reason = some recorded) :
    recorded.entries = store.entries ∧ recorded.maxGenerationId = store.maxGenerationId := by
  unfold Store.persistOverride at persisted
  split at persisted
  · cases persisted
    exact ⟨rfl, rfl⟩
  · split at persisted
    · cases persisted
    · cases persisted
      exact ⟨rfl, rfl⟩

/-- **What a publish can do**: nothing to the entries, or the replacement of its range. -/
theorem publishAtomicReplace_cases (store : Store Segment) (now : Int) (persistFails : Bool)
    (low high : Int) (new : List (ExecutionEntry Segment)) (generation : Int) (reason : String)
    (override : Bool) :
    (store.publishAtomicReplace now persistFails low high new generation reason
      override).1.entries = store.entries ∨
    ∃ recorded : Store Segment, recorded.entries = store.entries ∧
      (store.publishAtomicReplace now persistFails low high new generation reason override).1 =
        recorded.replaceRange low high new generation override := by
  unfold Store.publishAtomicReplace
  split
  · exact .inl rfl
  · split
    · exact .inl rfl
    · rename_i recorded written
      have same : recorded.entries = store.entries := by
        split at written
        · exact (persistOverride_entries written).1
        · cases written
          rfl
      split
      · exact .inl same
      · exact .inr ⟨recorded, same, rfl⟩

theorem publishAtomicReplace_ordered {store : Store Segment} (ordered : store.Ordered) (now : Int)
    (persistFails : Bool) (low high : Int) (new : List (ExecutionEntry Segment))
    (generation : Int) (reason : String) (override : Bool) :
    (store.publishAtomicReplace now persistFails low high new generation reason
      override).1.Ordered := by
  rcases publishAtomicReplace_cases store now persistFails low high new generation reason override
    with same | ⟨recorded, _, replaced⟩
  · unfold Store.Ordered
    rw [same]
    exact ordered
  · rw [replaced]
    exact sorted_ascending _

theorem replaceEntry_ordered {store next : Store Segment} {blockId : String}
    {newEntry : ExecutionEntry Segment} {now : Int} {record : Option String}
    (replaced : store.replaceEntry blockId newEntry now record = .ok next) : next.Ordered := by
  unfold Store.replaceEntry at replaced
  split at replaced
  · cases replaced
  · split at replaced
    · cases replaced
    · split at replaced
      · cases replaced
      · cases replaced
        exact sorted_ascending _

/-- **Every write keeps the start order.** -/
theorem write_ordered {store next : Store Segment} {write : Write Segment}
    (ordered : store.Ordered) (written : store.write write = some next) : next.Ordered := by
  cases write with
  | add entries =>
    cases written
    cases added : store.addEntries entries with
    | error reason => exact ordered
    | ok after => exact addEntries_ordered ordered added
  | publish now persistFails low high new generation reason override =>
    cases written
    exact publishAtomicReplace_ordered ordered now persistFails low high new generation reason
      override
  | replace blockId newEntry now record =>
    cases written
    cases replaced : store.replaceEntry blockId newEntry now record with
    | error reason => exact ordered
    | ok after => exact replaceEntry_ordered replaced
  | markLocked blockId =>
    cases written
    unfold Store.markLocked
    dsimp only
    split
    · refine ascending_of_starts ?_ ordered
      apply List.ext_getElem?
      intro position
      rw [List.getElem?_map, List.getElem?_map, List.getElem?_modify,
        Option.map_eq_map, Option.map_map]
      congr 1
      funext entry
      dsimp only [Function.comp_apply]
      split <;> rfl
    · exact ordered
  | lockAll =>
    cases written
    refine ascending_of_starts ?_ ordered
    simp [Store.lockAll, List.map_map, Function.comp_def]

end Order

/-! ### The locked window -/

section LockedWindow

variable {Segment : Type}

/-- The stored entries that overlap a range. -/
def Store.overlapping (store : Store Segment) (low high : Int) : Set (ExecutionEntry Segment) :=
  {entry | entry ∈ store.entries ∧ entry.Overlaps low high}

/-- **What a publish must be to leave the locked window alone**: refused, or one that puts back each
locked entry that its range takes out, and whose stamped entries inside the window are stored
already. -/
def Store.PublishSpares (store : Store Segment) (nowMs lockedWindowMs rangeStartMs rangeEndMs : Int)
    (newEntries : List (ExecutionEntry Segment)) (generationId : Int) : Prop :=
  store.rangeLocked nowMs rangeStartMs rangeEndMs = true ∨
  generationId ≤ store.maxGenerationId ∨
  ((∀ entry ∈ store.entries, entry.Overlaps nowMs (nowMs + lockedWindowMs) →
      entry.Overlaps rangeStartMs rangeEndMs →
        entry ∈ newEntries.map (Store.stamp generationId false)) ∧
    ∀ entry ∈ newEntries.map (Store.stamp generationId false),
      entry.Overlaps nowMs (nowMs + lockedWindowMs) → entry ∈ store.entries)

/-- A publish without override that is not refused replaces its range. -/
theorem publish_accepted {store : Store Segment} {now low high generation : Int}
    {persistFails : Bool} {new : List (ExecutionEntry Segment)} {reason : String}
    (unlocked : store.rangeLocked now low high = false)
    (fresh : store.maxGenerationId < generation) :
    (store.publishAtomicReplace now persistFails low high new generation reason false).1 =
      store.replaceRange low high new generation false := by
  unfold Store.publishAtomicReplace
  rw [if_neg (by rw [unlocked]; simp)]
  simp only [Bool.false_eq_true, if_false]
  rw [if_neg (by omega)]

/-- A publish without override that is refused changes nothing. -/
theorem publish_refused {store : Store Segment} {now low high generation : Int}
    {persistFails : Bool} {new : List (ExecutionEntry Segment)} {reason : String}
    (refused : store.rangeLocked now low high = true ∨ generation ≤ store.maxGenerationId) :
    (store.publishAtomicReplace now persistFails low high new generation reason false).1 = store := by
  unfold Store.publishAtomicReplace
  split
  · rfl
  · rename_i unlocked
    have stale : generation ≤ store.maxGenerationId := by
      rcases refused with locked | stale
      · exact absurd ⟨by simp, locked⟩ unlocked
      · exact stale
    simp only [Bool.false_eq_true, if_false]
    rw [if_pos stale]

theorem mem_replaceRange {store : Store Segment} {low high generation : Int}
    {new : List (ExecutionEntry Segment)} {override : Bool} {entry : ExecutionEntry Segment} :
    entry ∈ (store.replaceRange low high new generation override).entries ↔
      (entry ∈ store.entries ∧ ¬ entry.Overlaps low high) ∨
        entry ∈ new.map (Store.stamp generation override) := by
  show entry ∈ sortByKey _ _ ↔ _
  rw [mem_sortByKey, List.mem_append, List.mem_filter]
  simp only [decide_not, Bool.not_eq_true', decide_eq_false_iff_not]

/-- **Exactly when a publish without override leaves the locked window as it was.** -/
theorem publish_locked_iff (store : Store Segment) (lockedWindowMs now : Int)
    (persistFails : Bool) (low high : Int) (new : List (ExecutionEntry Segment))
    (generation : Int) (reason : String) :
    (store.publishAtomicReplace now persistFails low high new generation reason
        false).1.overlapping now (now + lockedWindowMs) =
      store.overlapping now (now + lockedWindowMs) ↔
    store.PublishSpares now lockedWindowMs low high new generation := by
  by_cases refused : store.rangeLocked now low high = true ∨ generation ≤ store.maxGenerationId
  · rw [publish_refused refused]
    exact iff_of_true rfl (refused.imp_right .inl)
  · have unlocked : store.rangeLocked now low high = false :=
      Bool.eq_false_iff.mpr fun locked => refused (.inl locked)
    have fresh : store.maxGenerationId < generation := not_le.mp fun stale => refused (.inr stale)
    rw [publish_accepted unlocked fresh]
    constructor
    · intro same
      refine .inr (.inr ⟨?_, ?_⟩)
      · intro entry stored locked taken
        have kept : entry ∈ (store.replaceRange low high new generation false).overlapping now
            (now + lockedWindowMs) := by
          rw [same]
          exact ⟨stored, locked⟩
        rcases mem_replaceRange.mp kept.1 with ⟨_, outside⟩ | member
        · exact absurd taken outside
        · exact member
      · intro entry member locked
        have landed : entry ∈ (store.replaceRange low high new generation false).overlapping now
            (now + lockedWindowMs) := ⟨mem_replaceRange.mpr (.inr member), locked⟩
        rw [same] at landed
        exact landed.1
    · intro spares
      obtain ⟨putBack, stored⟩ : _ ∧ _ := by
        rcases spares with locked | stale | spared
        · exact absurd (.inl locked) refused
        · exact absurd (.inr stale) refused
        · exact spared
      ext entry
      constructor
      · rintro ⟨member, locked⟩
        rcases mem_replaceRange.mp member with ⟨kept, _⟩ | added
        · exact ⟨kept, locked⟩
        · exact ⟨stored entry added locked, locked⟩
      · rintro ⟨member, locked⟩
        refine ⟨mem_replaceRange.mpr ?_, locked⟩
        by_cases taken : entry.Overlaps low high
        · exact .inr (putBack entry member locked taken)
        · exact .inl ⟨member, taken⟩

/-- An entry with its lineage. -/
def lineageEntry (blockId : String) (start stop : Int) : ExecutionEntry Unit :=
  { blockId := blockId
    blockIndex := 0
    startUtcMs := start
    endUtcMs := stop
    segments := []
    channelId := "ch"
    programmingDayDate := some 739000 }

/-- An empty store with a clock and a locked window of 100 ms. -/
def guardedStore : Store Unit := Store.create false true (some 100) none

/-- The same store after one entry on `[50, 150)` was added. -/
def straddledStore : Store Unit :=
  { guardedStore with entries := [lineageEntry "straddler" 50 150] }

/-- **At time 0 a publish of `[100, 200)` begins at the end of the locked window `[0, 100)`, is
accepted, removes the entry that straddles that end and puts one of its own inside the window.** -/
theorem publish_removes_straddler :
    guardedStore.addEntries [lineageEntry "straddler" 50 150] = .ok straddledStore ∧
    (straddledStore.publishAtomicReplace 0 false 100 200 [lineageEntry "intruder" 10 20] 1 "replan"
      false).2.ok = true ∧
    lineageEntry "straddler" 50 150 ∈ straddledStore.overlapping 0 100 ∧
    lineageEntry "straddler" 50 150 ∉ (straddledStore.publishAtomicReplace 0 false 100 200
      [lineageEntry "intruder" 10 20] 1 "replan" false).1.overlapping 0 100 ∧
    (straddledStore.publishAtomicReplace 0 false 100 200 [lineageEntry "intruder" 10 20] 1 "replan"
      false).1.overlapping 0 100 ≠ straddledStore.overlapping 0 100 := by
  have stored : lineageEntry "straddler" 50 150 ∈ straddledStore.overlapping 0 100 :=
    ⟨List.mem_cons_self, by decide⟩
  have removed : lineageEntry "straddler" 50 150 ∉ (straddledStore.publishAtomicReplace 0 false 100
      200 [lineageEntry "intruder" 10 20] 1 "replan" false).1.overlapping 0 100 := by
    rintro ⟨member, _⟩
    exact absurd member (by decide)
  refine ⟨rfl, rfl, stored, removed, ?_⟩
  intro same
  rw [same] at removed
  exact removed stored

end LockedWindow

end Retrovue.Core.Horizon
