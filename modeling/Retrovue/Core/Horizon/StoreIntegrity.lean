/-
**The integrity of the execution window store** (`runtime/execution_window_store.py`).

* `Store.Kept`: after a write the entries are in start order, no two share a block id, the highest
  generation has not gone back, and a write that was refused has changed nothing;
* `Store.Fits`: what a write must be for that;
* `store_kept_iff`: along every run of writes on a new store, the store is kept exactly as long as the
  writes fit.
-/

import Retrovue.Core.Horizon.ExecutionWindowStore

namespace Retrovue.Core.Horizon

open Retrovue.Foundation.Transition Retrovue.Foundation.Sorting

variable {Segment : Type}

/-! ### What is kept -/

section Kept

/-- The block ids of entries. -/
def blockIds (entries : List (ExecutionEntry Segment)) : List String :=
  entries.map ExecutionEntry.blockId

/-- No two entries share a block id. -/
def Store.DistinctIds (store : Store Segment) : Prop := (blockIds store.entries).Nodup

instance (store : Store Segment) : Decidable store.DistinctIds :=
  inferInstanceAs (Decidable (List.Nodup _))

/-- A write that raises, or returns a rejection. -/
def Store.Refuses (store : Store Segment) : Write Segment → Prop
  | .add entries => ∃ error, store.addEntries entries = .error error
  | .publish now persistFails low high new generation reason override =>
    (store.publishAtomicReplace now persistFails low high new generation reason
      override).2.ok = false
  | .replace blockId newEntry now record =>
    ∃ error, store.replaceEntry blockId newEntry now record = .error error
  | .markLocked _ => False
  | .lockAll => False

/-- **What a write leaves as it must be.** -/
structure Store.KeptBy (store : Store Segment) (write : Write Segment) (next : Store Segment) :
    Prop where
  ordered : next.Ordered
  distinct : next.DistinctIds
  generation : store.maxGenerationId ≤ next.maxGenerationId
  refused : store.Refuses write → next = store

/-- The store is kept by a write. -/
def Store.Kept (store : Store Segment) (write : Write Segment) : Prop :=
  ∀ next, store.write write = some next → store.KeptBy write next

end Kept

/-! ### Block ids -/

section Ids

/-- Sorting keeps the ids. -/
theorem blockIds_sorted_perm (entries : List (ExecutionEntry Segment)) :
    (blockIds (Store.sorted entries)).Perm (blockIds entries) :=
  (sortByKey_perm _ entries).map _

theorem nodup_sorted (entries : List (ExecutionEntry Segment)) :
    (blockIds (Store.sorted entries)).Nodup ↔ (blockIds entries).Nodup :=
  (blockIds_sorted_perm entries).nodup_iff

/-- Stamps leave the ids alone. -/
theorem blockIds_stamp (generation : Int) (override : Bool) (new : List (ExecutionEntry Segment)) :
    blockIds (new.map (Store.stamp generation override)) = blockIds new := by
  rw [blockIds, List.map_map]
  rfl

end Ids

/-! ### What a write must be -/

section Fits

/-- A publish that is refused before anything is written. -/
def Store.PublishRefused (store : Store Segment) (nowMs : Int) (persistFails : Bool)
    (rangeStartMs rangeEndMs : Int) (operatorOverride : Bool) : Prop :=
  if operatorOverride then persistFails = true ∧ store.overrideRecords.isSome = true
  else store.rangeLocked nowMs rangeStartMs rangeEndMs = true

/-- **What a write must be to keep the store**: the new entries of a batch have distinct ids; a publish
that goes through brings distinct ids that no entry outside its range has, and one that is stale
has no override record to write; an entry is replaced by one of the same id, or of a new one. -/
def Store.Fits (store : Store Segment) : Write Segment → Prop
  | .add entries =>
    (∀ entry ∈ entries, store.checkEntry entry = .ok ()) →
      (blockIds (entries.filter fun entry => entry.blockId ∉ blockIds store.entries)).Nodup
  | .publish now persistFails low high new generation _ override =>
    ¬ store.PublishRefused now persistFails low high override →
      if generation ≤ store.maxGenerationId then override = false ∨ store.overrideRecords = none
      else (blockIds ((store.entries.filter fun entry => ¬ entry.Overlaps low high) ++ new)).Nodup
  | .replace blockId newEntry now record =>
    ∀ existing ∈ store.entries, existing.blockId = blockId → now < existing.endUtcMs →
      (existing.isLocked = true → record ≠ none) →
      newEntry.blockId = blockId ∨ newEntry.blockId ∉ blockIds store.entries
  | .markLocked _ => True
  | .lockAll => True

end Fits

/-! ### One write -/

section OneWrite

variable {store : Store Segment}

/-- A batch passes when every entry does. -/
theorem forM_checkEntry (store : Store Segment) (entries : List (ExecutionEntry Segment)) :
    entries.forM store.checkEntry = .ok () ↔
      ∀ entry ∈ entries, store.checkEntry entry = .ok () := by
  induction entries with
  | nil => simp [pure, Except.pure]
  | cons first rest ih =>
    show (store.checkEntry first >>= fun _ => rest.forM store.checkEntry) = .ok () ↔ _
    rw [List.forall_mem_cons]
    cases checked : store.checkEntry first with
    | error reason => simp [bind, Except.bind]
    | ok _ =>
      rw [← ih]
      simp [bind, Except.bind]

/-- **What a batch does**: it raises where an entry does not pass, and otherwise adds the entries whose
ids are new. -/
theorem addEntries_cases (store : Store Segment) (entries : List (ExecutionEntry Segment)) :
    (∃ error, store.addEntries entries = .error error ∧
        ¬ ∀ entry ∈ entries, store.checkEntry entry = .ok ()) ∨
      ((∀ entry ∈ entries, store.checkEntry entry = .ok ()) ∧
        ∃ next, store.addEntries entries = .ok next ∧
          next.maxGenerationId = store.maxGenerationId ∧
          (blockIds next.entries).Perm (blockIds store.entries ++
            blockIds (entries.filter fun entry => entry.blockId ∉ blockIds store.entries))) := by
  unfold Store.addEntries
  cases checked : entries.forM store.checkEntry with
  | error reason =>
    refine .inl ⟨reason, rfl, fun all => ?_⟩
    rw [(forM_checkEntry store entries).mpr all] at checked
    cases checked
  | ok _ =>
    refine .inr ⟨(forM_checkEntry store entries).mp checked, ?_⟩
    simp only [bind, Except.bind]
    by_cases none_ : (entries.filter fun entry =>
        entry.blockId ∉ store.entries.map ExecutionEntry.blockId).isEmpty = true
    · rw [if_pos none_]
      refine ⟨store, rfl, rfl, ?_⟩
      rw [blockIds, blockIds, List.isEmpty_iff.mp none_, List.map_nil, List.append_nil]
    · rw [if_neg none_]
      refine ⟨_, rfl, rfl, (blockIds_sorted_perm _).trans ?_⟩
      rw [blockIds, List.map_append]
      exact List.Perm.refl _

/-- A write that changes nothing keeps the store. -/
theorem keptBy_self (ordered : store.Ordered) (distinct : store.DistinctIds)
    (write : Write Segment) : store.KeptBy write store :=
  ⟨ordered, distinct, le_rfl, fun _ => rfl⟩

/-- **A batch** keeps the ids distinct when those it adds are. -/
theorem kept_add_iff (ordered : store.Ordered) (distinct : store.DistinctIds)
    (entries : List (ExecutionEntry Segment)) :
    store.Kept (.add entries) ↔ store.Fits (.add entries) := by
  rcases addEntries_cases store entries with ⟨error, raised, failed⟩ | ⟨passed, next, added, same, ids⟩
  · refine iff_of_true ?_ fun passed => absurd passed failed
    intro next written
    simp only [Store.write, raised, Except.toOption, Option.getD_none, Option.some.injEq] at written
    rw [← written]
    exact keptBy_self ordered distinct _
  · have apart : List.Disjoint (blockIds store.entries)
        (blockIds (entries.filter fun entry => entry.blockId ∉ blockIds store.entries)) := by
      intro id here there
      obtain ⟨entry, fresh, rfl⟩ := List.mem_map.mp there
      have absent := (List.mem_filter.mp fresh).2
      rw [decide_eq_true_eq] at absent
      exact absent here
    have distinctNext : next.DistinctIds ↔
        (blockIds (entries.filter fun entry => entry.blockId ∉ blockIds store.entries)).Nodup := by
      rw [Store.DistinctIds, ids.nodup_iff, List.nodup_append']
      exact ⟨fun parts => parts.2.1, fun fresh => ⟨distinct, fresh, apart⟩⟩
    have written : store.write (.add entries) = some next := by
      simp [Store.write, added, Except.toOption]
    constructor
    · intro kept _
      exact distinctNext.mp (kept next written).distinct
    · intro fits other taken
      rw [written] at taken
      cases taken
      refine ⟨addEntries_ordered ordered added, distinctNext.mpr (fits passed), same.ge, ?_⟩
      rintro ⟨error, raised⟩
      rw [added] at raised
      cases raised

/-- **What a publish does**: refused, it leaves the store; otherwise an override is recorded, and it
replaces its range unless its generation is stale. -/
theorem publish_outcome (store : Store Segment) (now : Int) (persistFails : Bool) (low high : Int)
    (new : List (ExecutionEntry Segment)) (generation : Int) (reason : String) (override : Bool) :
    (store.PublishRefused now persistFails low high override ∧
        ∃ error, store.publishAtomicReplace now persistFails low high new generation reason
          override = (store, ⟨false, generation, some error⟩)) ∨
      (¬ store.PublishRefused now persistFails low high override ∧
        ∃ recorded : Store Segment, recorded.entries = store.entries ∧
          recorded.maxGenerationId = store.maxGenerationId ∧
          (recorded = store ↔ override = false ∨ store.overrideRecords = none) ∧
          store.publishAtomicReplace now persistFails low high new generation reason override =
            if generation ≤ store.maxGenerationId then
              (recorded, ⟨false, generation,
                some (.staleGeneration generation store.maxGenerationId reason)⟩)
            else (recorded.replaceRange low high new generation override,
              ⟨true, generation, none⟩)) := by
  cases override with
  | false =>
    by_cases locked : store.rangeLocked now low high = true
    · refine .inl ⟨by simpa [Store.PublishRefused] using locked, .lockedWindow, ?_⟩
      simp [Store.publishAtomicReplace, locked]
    · refine .inr ⟨by simpa [Store.PublishRefused] using locked, store, rfl, rfl, by simp, ?_⟩
      simp [Store.publishAtomicReplace, locked]
  | true =>
    cases records : store.overrideRecords with
    | none =>
      refine .inr ⟨by simp [Store.PublishRefused, records], store, rfl, rfl, by simp, ?_⟩
      simp [Store.publishAtomicReplace, Store.persistOverride, records]
    | some held =>
      cases persistFails with
      | true =>
        refine .inl ⟨by simp [Store.PublishRefused, records], .overrideRecordPersistFailed, ?_⟩
        simp [Store.publishAtomicReplace, Store.persistOverride, records]
      | false =>
        have recorded : ∃ after, store.persistOverride now false low high reason = some after ∧
            after.entries = store.entries ∧ after.maxGenerationId = store.maxGenerationId ∧
            after ≠ store := by
          simp only [Store.persistOverride, records, Bool.false_eq_true, if_false]
          refine ⟨_, rfl, rfl, rfl, fun same => ?_⟩
          have grown := congrArg Store.overrideRecords same
          rw [records, Option.some.injEq] at grown
          have longer := congrArg List.length grown
          simp at longer
        obtain ⟨after, persisted, entries, generation_, changed⟩ := recorded
        refine .inr ⟨by simp [Store.PublishRefused], after, entries, generation_, by simp [changed],
          ?_⟩
        simp [Store.publishAtomicReplace, persisted, generation_]

/-- The ids after a publish that goes through. -/
theorem blockIds_replaceRange {recorded : Store Segment} (same : recorded.entries = store.entries)
    (low high : Int) (new : List (ExecutionEntry Segment)) (generation : Int) (override : Bool) :
    (recorded.replaceRange low high new generation override).DistinctIds ↔
      (blockIds ((store.entries.filter fun entry => ¬ entry.Overlaps low high) ++ new)).Nodup := by
  unfold Store.DistinctIds Store.replaceRange
  rw [nodup_sorted, same, blockIds, List.map_append, blockIds, List.map_append]
  have stamped := blockIds_stamp generation override new
  rw [blockIds, blockIds] at stamped
  rw [stamped]

/-- **A publish** keeps the store when what it brings fits. -/
theorem kept_publish_iff (ordered : store.Ordered) (distinct : store.DistinctIds) (now : Int)
    (persistFails : Bool) (low high : Int) (new : List (ExecutionEntry Segment)) (generation : Int)
    (reason : String) (override : Bool) :
    store.Kept (.publish now persistFails low high new generation reason override) ↔
      store.Fits (.publish now persistFails low high new generation reason override) := by
  rcases publish_outcome store now persistFails low high new generation reason override with
    ⟨refused, error, outcome⟩ | ⟨passed, recorded, entries, generation_, unchanged, outcome⟩
  · refine iff_of_true ?_ fun passed => absurd refused passed
    intro next written
    simp only [Store.write, outcome, Option.some.injEq] at written
    rw [← written]
    exact keptBy_self ordered distinct _
  · have written : store.write (.publish now persistFails low high new generation reason override) =
        some (store.publishAtomicReplace now persistFails low high new generation reason
          override).1 := rfl
    by_cases stale : generation ≤ store.maxGenerationId
    · rw [if_pos stale] at outcome
      rw [outcome] at written
      have fits : store.Fits (.publish now persistFails low high new generation reason override) ↔
          recorded = store := by
        simp only [Store.Fits, passed, not_false_eq_true, forall_true_left, if_pos stale, unchanged]
      rw [fits]
      constructor
      · intro kept
        exact (kept recorded written).refused (by simp [Store.Refuses, outcome])
      · rintro rfl next taken
        rw [written] at taken
        cases taken
        exact keptBy_self ordered distinct _
    · rw [if_neg stale] at outcome
      rw [outcome] at written
      have fits : store.Fits (.publish now persistFails low high new generation reason override) ↔
          (recorded.replaceRange low high new generation override).DistinctIds := by
        simp only [Store.Fits, passed, not_false_eq_true, forall_true_left, if_neg stale,
          blockIds_replaceRange entries]
      rw [fits]
      constructor
      · intro kept
        exact (kept _ written).distinct
      · intro distinctNext next taken
        rw [written] at taken
        cases taken
        refine ⟨sorted_ascending _, distinctNext, (not_le.mp stale).le, fun refused => ?_⟩
        simp [Store.Refuses, outcome] at refused

/-- Ids after one of them was set. -/
theorem nodup_set_iff {ids : List String} (distinct : ids.Nodup) {position : Nat}
    (within : position < ids.length) (new : String) :
    (ids.set position new).Nodup ↔ new = ids[position] ∨ new ∉ ids := by
  have whole := List.getElem_cons_eraseIdx_perm within
  obtain ⟨apart, others⟩ := List.nodup_cons.mp (whole.nodup_iff.mpr distinct)
  rw [(List.set_perm_cons_eraseIdx within new).nodup_iff, List.nodup_cons, ← whole.mem_iff,
    List.mem_cons, not_or]
  constructor
  · rintro ⟨absent, -⟩
    by_cases same : new = ids[position]
    · exact .inl same
    · exact .inr ⟨same, absent⟩
  · rintro (rfl | ⟨-, absent⟩)
    · exact ⟨apart, others⟩
    · exact ⟨absent, others⟩

/-- **What a replacement does**: it raises, or sets the entry where the id was found. -/
theorem replaceEntry_cases (distinct : store.DistinctIds) (blockId : String)
    (newEntry : ExecutionEntry Segment) (now : Int) (record : Option String) :
    (∃ error, store.replaceEntry blockId newEntry now record = .error error ∧
        store.Fits (.replace blockId newEntry now record)) ∨
      ∃ next, store.replaceEntry blockId newEntry now record = .ok next ∧
        next.maxGenerationId = store.maxGenerationId ∧
        (next.DistinctIds ↔ store.Fits (.replace blockId newEntry now record)) := by
  cases found : store.entries.find? fun entry => entry.blockId = blockId with
  | none =>
    refine .inl ⟨.notFound blockId, by simp [Store.replaceEntry, found], ?_⟩
    intro existing member same
    have absent := List.find?_eq_none.mp found existing member
    simp [same] at absent
  | some existing =>
    have member := List.mem_of_find?_eq_some found
    have sameId : existing.blockId = blockId := by
      simpa using List.find?_some found
    have only : ∀ other ∈ store.entries, other.blockId = blockId → other = existing :=
      fun other among same =>
        List.inj_on_of_nodup_map distinct among member (same.trans sameId.symm)
    by_cases past : existing.endUtcMs ≤ now
    · refine .inl ⟨_, by simp only [Store.replaceEntry, found, if_pos past]; rfl, ?_⟩
      intro other among same airing
      rw [only other among same] at airing
      omega
    · by_cases locked : existing.isLocked = true ∧ record = none
      · refine .inl ⟨_, by simp only [Store.replaceEntry, found, if_neg past, if_pos locked]; rfl, ?_⟩
        intro other among same _ unlocked
        rw [only other among same] at unlocked
        exact absurd locked.2 (unlocked locked.1)
      · have replaced : store.replaceEntry blockId newEntry now record =
            .ok { store with entries := Store.sorted (store.entries.set
              (store.entries.findIdx fun entry => entry.blockId = blockId) newEntry) } := by
          simp only [Store.replaceEntry, found, if_neg past, if_neg locked]
        refine .inr ⟨_, replaced, rfl, ?_⟩
        have within : store.entries.findIdx (fun entry => entry.blockId = blockId) <
            (blockIds store.entries).length := by
          rw [blockIds, List.length_map]
          exact List.findIdx_lt_length.mpr ⟨existing, member, by simpa using sameId⟩
        have there : (blockIds store.entries)[store.entries.findIdx
            (fun entry => entry.blockId = blockId)] = blockId := by
          have at_ := @List.findIdx_getElem _ (fun entry => decide (entry.blockId = blockId))
            store.entries (by simpa [blockIds] using within)
          simpa [blockIds] using at_
        unfold Store.DistinctIds
        rw [nodup_sorted, blockIds, List.map_set]
        rw [← blockIds, nodup_set_iff distinct within, there]
        constructor
        · intro fits other among same _ _
          exact fits
        · intro fits
          exact fits existing member sameId (not_le.mp past)
            fun isLocked absent => locked ⟨isLocked, absent⟩

/-- **A replacement** keeps the ids distinct when its own is the one replaced, or new. -/
theorem kept_replace_iff (ordered : store.Ordered) (distinct : store.DistinctIds)
    (blockId : String) (newEntry : ExecutionEntry Segment) (now : Int) (record : Option String) :
    store.Kept (.replace blockId newEntry now record) ↔
      store.Fits (.replace blockId newEntry now record) := by
  rcases replaceEntry_cases distinct blockId newEntry now record with
    ⟨error, raised, fits⟩ | ⟨next, replaced, same, distinctNext⟩
  · refine iff_of_true ?_ fits
    intro next written
    simp only [Store.write, raised, Except.toOption, Option.getD_none, Option.some.injEq] at written
    rw [← written]
    exact keptBy_self ordered distinct _
  · have written : store.write (.replace blockId newEntry now record) = some next := by
      simp [Store.write, replaced, Except.toOption]
    rw [← distinctNext]
    constructor
    · intro kept
      exact (kept next written).distinct
    · intro distinctNext other taken
      rw [written] at taken
      cases taken
      refine ⟨replaceEntry_ordered replaced, distinctNext, same.ge, ?_⟩
      rintro ⟨error, raised⟩
      rw [replaced] at raised
      cases raised

/-- Entries that are only locked keep the store. -/
theorem kept_of_ids {write : Write Segment} {next : Store Segment}
    (distinct : store.DistinctIds) (ordered : next.Ordered)
    (written : store.write write = some next)
    (ids : blockIds next.entries = blockIds store.entries)
    (generation : next.maxGenerationId = store.maxGenerationId) (accepts : ¬ store.Refuses write) :
    store.Kept write := by
  intro other taken
  rw [written] at taken
  cases taken
  refine ⟨ordered, ?_, generation.ge, fun refused => absurd refused accepts⟩
  rw [Store.DistinctIds, ids]
  exact distinct

theorem kept_markLocked (ordered : store.Ordered) (distinct : store.DistinctIds) (blockId : String) :
    store.Kept (.markLocked blockId) := by
  have written : store.write (.markLocked blockId) = some (store.markLocked blockId).1 := rfl
  refine kept_of_ids distinct (write_ordered ordered written) written ?_ ?_ id
  · unfold Store.markLocked
    dsimp only
    split
    · apply List.ext_getElem?
      intro position
      rw [blockIds, List.getElem?_map, blockIds, List.getElem?_map, List.getElem?_modify,
        Option.map_eq_map, Option.map_map]
      congr 1
      funext entry
      dsimp only [Function.comp_apply]
      split <;> rfl
    · rfl
  · unfold Store.markLocked
    dsimp only
    split <;> rfl

theorem kept_lockAll (ordered : store.Ordered) (distinct : store.DistinctIds) :
    store.Kept .lockAll := by
  have written : store.write .lockAll = some store.lockAll.1 := rfl
  refine kept_of_ids distinct (write_ordered ordered written) written ?_ rfl id
  simp [blockIds, Store.lockAll, List.map_map, Function.comp_def]

/-- **A write keeps the store exactly when it fits.** -/
theorem kept_iff (ordered : store.Ordered) (distinct : store.DistinctIds) (write : Write Segment) :
    store.Kept write ↔ store.Fits write := by
  cases write with
  | add entries => exact kept_add_iff ordered distinct entries
  | publish now persistFails low high new generation reason override =>
    exact kept_publish_iff ordered distinct now persistFails low high new generation reason override
  | replace blockId newEntry now record =>
    exact kept_replace_iff ordered distinct blockId newEntry now record
  | markLocked blockId => exact iff_of_true (kept_markLocked ordered distinct blockId) trivial
  | lockAll => exact iff_of_true (kept_lockAll ordered distinct) trivial

end OneWrite

/-! ### Runs of writes -/

section Runs

/-- **The store's integrity**: along every run of writes on a new store, every write keeps it exactly
when every write fits. -/
theorem store_kept_iff (enforce hasClock : Bool) (window : Option Int)
    (records : Option (List OverrideRecord)) (writes : List (Write Segment)) :
    Along Store.write Store.Kept (Store.create enforce hasClock window records) writes ↔
      Along Store.write Store.Fits (Store.create enforce hasClock window records) writes := by
  refine along_congr_of_invariant Store.write
    (fun store : Store Segment => store.Ordered ∧ store.DistinctIds) Store.Kept Store.Fits ?_ ?_
    writes ⟨List.Pairwise.nil, List.Pairwise.nil⟩
  · intro store write next _ kept written
    exact ⟨(kept next written).ordered, (kept next written).distinct⟩
  · rintro store write ⟨ordered, distinct⟩
    exact kept_iff ordered distinct write

/-- A stale publish with an operator override, on a store that records overrides, after a batch with
the same id twice. -/
def carelessWrites : List (Write Unit) :=
  [.add [lineageEntry "twice" 0 10, lineageEntry "twice" 10 20],
    .publish 0 false 0 10 [] 0 "replan" true]

/-- A new store with a clock and an override store. -/
def recordingStore : Store Unit := Store.create false true none (some [])

/-- The store after the careless writes. -/
def carelessStore : Store Unit :=
  { recordingStore with
    entries := [lineageEntry "twice" 0 10, lineageEntry "twice" 10 20]
    overrideRecords := some [⟨"ExecutionWindowStore", 0, 10, "replan", 0⟩] }

/-- **Two entries of one batch share an id, and a rejected publish leaves an override record.** -/
theorem careless_writes_not_kept :
    runActions Store.write recordingStore carelessWrites = some carelessStore ∧
      ¬ carelessStore.DistinctIds ∧
      (recordingStore.publishAtomicReplace 0 false 0 10 [] 0 "replan" true).2.ok = false ∧
      (recordingStore.publishAtomicReplace 0 false 0 10 [] 0 "replan" true).1.overrideRecords ≠
        recordingStore.overrideRecords := by
  refine ⟨rfl, by decide, rfl, by decide⟩

end Runs

end Retrovue.Core.Horizon
