/-
**What a call leaves of a session** (`usecases/ingest_orchestrator.py`, `asset_reprobe.py`,
`asset_update.py`).

* `Consistent`: the session between calls, in all three of its layers;
* `Stepped`: what a call that processes some assets may do to the others; `Stepped.trans`: calls compose;
* `ingest_stepped`, `reprobe_stepped`, `reprobeAll_stepped`, `update_stepped`: each call, whatever fails in
  it.
-/

import Retrovue.Core.Assets.Enriching

namespace Retrovue.Core.Assets

open Retrovue.Foundation.Attempts Attempt

/-! ### Sessions between calls -/

section Sessions

/-- **A session between calls**: every row is sound in every layer, a retirement goes on to the layers
above, and a broken session is as it was committed. -/
structure Consistent (s : Session) : Prop where
  distinct : s.table.Nodup
  rows : ∀ id, Sound (s.rows id)
  flushed : ∀ id, Sound (s.flushed id)
  committed : ∀ id, Sound (s.committed id)
  published : ∀ id, (s.committed id).state = .retired → (s.flushed id).state = .retired
  seen : ∀ id, (s.flushed id).state = .retired → (s.rows id).state = .retired
  lost : s.broken = true → s.rows = s.committed ∧ s.flushed = s.committed

theorem Consistent.script {s : Session} (consistent : Consistent s) (script : List Choice) :
    Consistent { s with script := script } :=
  ⟨consistent.1, consistent.2, consistent.3, consistent.4, consistent.5, consistent.6, consistent.7⟩

/-- The layers below may take over the rows. -/
theorem Consistent.flush {s : Session} (consistent : Consistent s) (whole : s.broken = false) :
    Consistent { s with flushed := s.rows } := by
  refine ⟨consistent.distinct, consistent.rows, consistent.rows, consistent.committed,
    fun id retired => consistent.seen id (consistent.published id retired), fun _ retired => retired, ?_⟩
  intro broken
  rw [whole] at broken
  cases broken

/-- The layers above may be given up. -/
theorem Consistent.reverted {s : Session} (consistent : Consistent s) (broken : Bool) :
    Consistent (s.reverted broken) :=
  ⟨consistent.distinct, consistent.committed, consistent.committed, consistent.committed,
    fun _ retired => retired, fun _ retired => retired, fun _ => ⟨rfl, rfl⟩⟩

/-- **What a call that processes some assets leaves**: a consistent session, where the others have their
rows still, or those that were committed when the transaction was lost; and no asset has left
`retired`. -/
structure Stepped (s : Session) (processed : AssetId → Prop) (after : Session) : Prop where
  consistent : Consistent after
  table : after.table = s.table
  broken : s.broken = true → after.broken = true
  rows : ∀ id, ¬ processed id → after.broken = false → after.rows id = s.rows id
  either : ∀ id, ¬ processed id →
    after.rows id = s.rows id ∨ after.rows id = s.committed id
  committed : ∀ id, ¬ processed id →
    after.committed id = s.committed id ∨ after.committed id = s.rows id
  retired : ∀ id, (s.rows id).state = .retired → after.broken = false →
    (after.rows id).state = .retired
  forever : ∀ id, (s.committed id).state = .retired → (after.committed id).state = .retired

variable {s middle after : Session} {processed : AssetId → Prop}

theorem Stepped.refl (consistent : Consistent s) (processed : AssetId → Prop) :
    Stepped s processed s :=
  ⟨consistent, rfl, id, fun _ _ _ => rfl, fun _ _ => Or.inl rfl, fun _ _ => Or.inl rfl,
    fun _ retired _ => retired, fun _ retired => retired⟩

theorem Stepped.script (stepped : Stepped s processed after) (script : List Choice) :
    Stepped s processed { after with script := script } :=
  ⟨stepped.1.script script, stepped.2, stepped.3, stepped.4, stepped.5, stepped.6, stepped.7, stepped.8⟩

theorem Stepped.ofScript {script : List Choice}
    (stepped : Stepped { s with script := script } processed after) : Stepped s processed after :=
  ⟨stepped.1, stepped.2, stepped.3, stepped.4, stepped.5, stepped.6, stepped.7, stepped.8⟩

theorem Stepped.mono {more : AssetId → Prop} (stepped : Stepped s processed after)
    (among : ∀ id, processed id → more id) : Stepped s more after :=
  ⟨stepped.consistent, stepped.table, stepped.broken,
    fun id other => stepped.rows id fun own => other (among id own),
    fun id other => stepped.either id fun own => other (among id own),
    fun id other => stepped.committed id fun own => other (among id own),
    stepped.retired, stepped.forever⟩

/-- **Calls compose.** -/
theorem Stepped.trans (first : Stepped s processed middle) (second : Stepped middle processed after) :
    Stepped s processed after := by
  have whole : after.broken = false → middle.broken = false := by
    intro whole
    rw [← Bool.not_eq_true]
    intro broken
    rw [second.broken broken] at whole
    cases whole
  refine ⟨second.consistent, second.table.trans first.table,
    fun broken => second.broken (first.broken broken), ?_, ?_, ?_, ?_, ?_⟩
  · intro id other unbroken
    exact (second.rows id other unbroken).trans (first.rows id other (whole unbroken))
  · intro id other
    rcases second.either id other with same | same
    · rw [same]
      exact first.either id other
    · rw [same]
      exact (first.committed id other).symm
  · intro id other
    rcases second.committed id other with same | same
    · rw [same]
      exact first.committed id other
    · rw [same]
      exact (first.either id other).symm
  · intro id retired unbroken
    exact second.retired id (first.retired id retired (whole unbroken)) unbroken
  · intro id retired
    exact second.forever id (first.forever id retired)

/-- A flush takes nothing away. -/
theorem Stepped.flush (consistent : Consistent s) (whole : s.broken = false)
    (processed : AssetId → Prop) : Stepped s processed { s with flushed := s.rows } :=
  ⟨consistent.flush whole, rfl, id, fun _ _ _ => rfl, fun _ _ => Or.inl rfl, fun _ _ => Or.inl rfl,
    fun _ retired _ => retired, fun _ retired => retired⟩

/-- The transaction is lost. -/
theorem Stepped.lost (consistent : Consistent s) (processed : AssetId → Prop) :
    Stepped s processed (s.reverted true) :=
  ⟨consistent.reverted true, rfl, fun _ => rfl, fun _ _ => nofun, fun _ _ => Or.inr rfl,
    fun _ _ => Or.inl rfl, fun _ _ => nofun, fun _ retired => retired⟩

/-- A commit publishes the rows. -/
theorem Stepped.commit (consistent : Consistent s) (processed : AssetId → Prop) :
    Stepped s processed { s with flushed := s.rows, committed := s.rows } := by
  refine ⟨⟨consistent.distinct, consistent.rows, consistent.rows, consistent.rows,
    fun _ retired => retired, fun _ retired => retired, fun _ => ⟨rfl, rfl⟩⟩, rfl, id,
    fun _ _ _ => rfl, fun _ _ => Or.inl rfl, fun _ _ => Or.inr rfl, fun _ retired _ => retired, ?_⟩
  intro id retired
  exact consistent.seen id (consistent.published id retired)

end Sessions

/-! ### Ingesting a collection -/

section Ingesting

/-- **The new assets of the collection are new in the session too**: none of them has a retirement that was
not flushed. -/
def IngestMeets (s : Session) (collection : CollectionId) : Prop :=
  ∀ id ∈ s.newAssets collection, (s.rows id).state = .new

/-- A balanced summary. -/
def Balanced (summary : Summary) : Prop :=
  summary.total = summary.enriched + summary.skipped + summary.failed

variable {s : Session} (catalogue : Catalogue)

/-- Building the enrichers does not touch the session. -/
theorem instantiateAll_left (confs : List EnricherConf) {raises : Fault → Session → Prop}
    {holds : Session → Prop} (stable : ∀ left script, holds left → holds { left with script := script })
    (here : holds s) :
    After (instantiateAll catalogue confs) (fun _ => holds) raises s := by
  have one : ∀ conf left, holds left →
      After (instantiate catalogue conf) (fun _ => holds) raises left := by
    intro conf left here
    unfold instantiate
    rw [after_catching]
    have typed : After (enricherType catalogue conf) (fun _ => holds) (fun _ => holds) left := by
      unfold enricherType
      split_ifs
      · rw [after_bind]
        refine after_query (fun _ script => ?_) fun _ script => stable left script here
        exact after_pure.mpr (stable left script here)
      · exact after_pure.mpr here
    rw [after_bind]
    refine typed.mono (fun type left here => ?_) fun _ left here => after_pure.mpr here
    split_ifs
    · rw [after_bind]
      refine after_external (fun script => ?_) fun script => ?_
      · exact after_pure.mpr (stable left script here)
      · exact after_pure.mpr (stable left script here)
    · exact after_pure.mpr here
  unfold instantiateAll
  rw [after_bind]
  refine (after_foldlM (fun _ _ => holds) (fun conf _ _ _ left here => ?_) here).mono
    (fun _ left here => after_pure.mpr here) fun _ _ raised => raised
  rw [after_bind]
  exact (one conf left here).mono (fun _ left here => after_pure.mpr here) fun _ _ raised => raised

/-- A loop that was gone through leaves a session that can be committed. -/
theorem committed_stepped {left : Session} (consistent : Consistent s) {assets : List AssetId}
    (new : ∀ id ∈ assets, (s.rows id).state = .new) (table : left.table = s.table)
    (whole : s.broken = false)
    (rows : ∀ id, left.rows id = s.rows id ∨ (id ∈ assets ∧ Live (left.rows id))) :
    Stepped s (· ∈ assets) { left with flushed := left.rows, committed := left.rows } := by
  have sound : ∀ id, Sound (left.rows id) := by
    intro id
    rcases rows id with same | ⟨-, live⟩
    · rw [same]
      exact consistent.rows id
    · exact live.1
  have others : ∀ id, id ∉ assets → left.rows id = s.rows id := fun id other =>
    (rows id).resolve_right fun both => other both.1
  have retired : ∀ id, (s.rows id).state = .retired → (left.rows id).state = .retired := by
    intro id retired
    rcases rows id with same | ⟨among, -⟩
    · rw [same]
      exact retired
    · rw [new id among] at retired
      cases retired
  refine ⟨⟨?_, sound, sound, sound, fun _ same => same, fun _ same => same, fun _ => ⟨rfl, rfl⟩⟩, table,
    ?_, fun id other _ => others id other, fun id other => Or.inl (others id other),
    fun id other => Or.inr (others id other), fun id same _ => retired id same, ?_⟩
  · dsimp only
    rw [table]
    exact consistent.distinct
  · intro broken
    rw [whole] at broken
    cases broken
  · intro id same
    exact retired id (consistent.seen id (consistent.published id same))

theorem Gone.stepped {left : Session} (gone : Gone s left) (consistent : Consistent s)
    (processed : AssetId → Prop) : Stepped s processed left := by
  have lost := Stepped.lost consistent processed
  refine ⟨⟨?_, ?_, ?_, ?_, ?_, ?_, fun _ => ⟨?_, ?_⟩⟩, gone.table, fun _ => gone.broken, ?_, ?_, ?_, ?_, ?_⟩
  · rw [gone.table]
    exact consistent.distinct
  · rw [gone.rows]
    exact consistent.committed
  · rw [gone.flushed]
    exact consistent.committed
  · rw [gone.committed]
    exact consistent.committed
  · rw [gone.committed, gone.flushed]
    exact fun _ same => same
  · rw [gone.flushed, gone.rows]
    exact fun _ same => same
  · rw [gone.rows, gone.committed]
  · rw [gone.flushed, gone.committed]
  · intro _ _ whole
    rw [gone.broken] at whole
    cases whole
  · rw [gone.rows]
    exact fun _ _ => Or.inr rfl
  · rw [gone.committed]
    exact fun _ _ => Or.inl rfl
  · intro _ _ whole
    rw [gone.broken] at whole
    cases whole
  · rw [gone.committed]
    exact fun _ same => same

/-- **Ingesting a collection**, whatever fails: its new assets are processed, and a summary counts each of
them once. -/
theorem ingest_stepped (consistent : Consistent s) (collection : Collection)
    (meets : IngestMeets s collection.uuid) :
    After (ingestCollectionAssets catalogue collection)
      (fun summary left => Balanced summary ∧ Stepped s (· ∈ s.newAssets collection.uuid) left)
      (fun _ => Stepped s (· ∈ s.newAssets collection.uuid)) s := by
  let holds : Session → Prop := fun left => ∃ script, left = { s with script := script }
  have stable : ∀ left script, holds left → holds { left with script := script } := by
    rintro left script ⟨given, rfl⟩
    exact ⟨script, rfl⟩
  have stepped : ∀ left, holds left → Stepped s (· ∈ s.newAssets collection.uuid) left := by
    rintro left ⟨given, rfl⟩
    exact (Stepped.refl consistent _).script given
  have queried : ∀ left, holds left →
      After query (fun _ left => holds left ∧ s.broken = false)
        (fun _ => Stepped s (· ∈ s.newAssets collection.uuid)) left := by
    rintro left ⟨given, rfl⟩
    exact after_query (fun whole script => ⟨⟨script, rfl⟩, whole⟩)
      fun _ script => stepped _ ⟨script, rfl⟩
  unfold ingestCollectionAssets
  rw [after_bind]
  refine (queried s ⟨s.script, rfl⟩).mono (fun _ left here => ?_) fun _ _ raised => raised
  rw [after_bind]
  refine (queried left here.1).mono (fun _ left here => ?_) fun _ _ raised => raised
  rw [after_bind]
  refine (queried left here.1).mono (fun _ left here => ?_) fun _ _ raised => raised
  obtain ⟨here, whole⟩ := here
  rw [after_bind, after_look]
  have listed : left.newAssets collection.uuid = s.newAssets collection.uuid := by
    obtain ⟨script, rfl⟩ := here
    rfl
  rw [listed]
  split_ifs with none_ bare
  · exact after_pure.mpr ⟨rfl, stepped left here⟩
  · exact after_pure.mpr ⟨by simp [Balanced], stepped left here⟩
  · rw [after_bind]
    refine (instantiateAll_left catalogue collection.enrichers stable here).mono
      (fun enrichers left here => ?_) fun _ _ raised => raised
    split_ifs
    · exact after_pure.mpr ⟨by simp [Balanced], stepped left here⟩
    · rw [after_bind]
      obtain ⟨given, rfl⟩ := here
      refine after_external (fun script => ?_) fun script => stepped _ ⟨script, rfl⟩
      have fresh : ∀ id ∈ s.newAssets collection.uuid, Sound (s.rows id) ∧ (s.rows id).state = .new :=
        fun id member => ⟨consistent.rows id, meets id member⟩
      have distinct : (s.newAssets collection.uuid).Nodup := consistent.distinct.filter _
      rw [after_bind]
      have loop := @ingest_loop { s with script := script } _ whole distinct fresh enrichers
      refine loop.mono (fun summary left both => ?_) fun _ left gone => ?_
      · obtain ⟨counts, inLoop⟩ := both
        have balanced : Balanced summary := counts.1.trans counts.2.symm
        rw [after_bind]
        rcases inLoop with gone | ⟨table, committed, unbroken, rows⟩
        · have raised : Stepped s (· ∈ s.newAssets collection.uuid) left :=
            (gone.stepped (consistent.script script) _).ofScript
          exact after_commit (fun whole => absurd gone.broken (by rw [whole]; exact Bool.false_ne_true))
            (fun whole => absurd gone.broken (by rw [whole]; exact Bool.false_ne_true)) fun _ => raised
        · have kept : ∀ id, left.rows id = s.rows id ∨
              (id ∈ s.newAssets collection.uuid ∧ Live (left.rows id)) := fun id =>
            (rows id).imp (fun same => same) fun both => ⟨both.1, both.2.2⟩
          have done := committed_stepped consistent meets table whole kept
          refine after_commit (fun _ script => ?_) (fun _ script => ?_) fun broken => ?_
          · exact after_pure.mpr ⟨balanced, done.script script⟩
          · have gone : Gone s { left.reverted true with script := script } :=
              ⟨table, committed, committed, committed, rfl⟩
            exact gone.stepped consistent _
          · rw [unbroken] at broken
            cases broken
      · exact (gone.stepped (consistent.script script) _).ofScript

end Ingesting

/-! ### Probing again -/

section Reprobing

variable {s : Session} (catalogue : Catalogue)

/-- **An asset that is probed again is not retired**, and no other asset of its collection is new. -/
def ReprobeMeets (s : Session) (id : AssetId) : Prop :=
  id ∈ s.table → (s.rows id).state ≠ .retired ∧
    ∀ collection ∈ catalogue.collections (s.rows id).collection, ∀ other ∈ s.table, other ≠ id →
      (s.rows other).collection = collection.uuid → (s.rows other).state ≠ .new

/-- The session in which an asset was reset. -/
def Session.resetRow (s : Session) (id : AssetId) : Session :=
  { s with
    rows := Function.update s.rows id (s.rows id).reset
    flushed := Function.update s.rows id (s.rows id).reset }

theorem sound_reset (asset : Asset) : Sound asset.reset :=
  ⟨Or.inl rfl, nofun, nofun, fun _ => nofun⟩

/-- Only the asset itself is reset. -/
theorem reset_stepped (consistent : Consistent s) (whole : s.broken = false) {id : AssetId}
    (live : (s.rows id).state ≠ .retired) : Stepped s (· = id) (s.resetRow id) := by
  have others : ∀ other, other ≠ id → (s.resetRow id).rows other = s.rows other := fun other different =>
    Function.update_of_ne different _ _
  have sound : ∀ other, Sound ((s.resetRow id).rows other) := by
    intro other
    by_cases own : other = id
    · subst own
      have here : (s.resetRow other).rows other = (s.rows other).reset := Function.update_self _ _ _
      rw [here]
      exact sound_reset _
    · rw [others other own]
      exact consistent.rows other
  have retired : ∀ other, (s.rows other).state = .retired →
      ((s.resetRow id).rows other).state = .retired := by
    intro other same
    rw [others other fun own => live (own ▸ same)]
    exact same
  refine ⟨⟨consistent.distinct, sound, sound, consistent.committed, ?_, fun _ same => same, ?_⟩, rfl,
    fun broken => broken, fun other different _ => others other different,
    fun other different => Or.inl (others other different), fun _ _ => Or.inl rfl,
    fun other same _ => retired other same, fun _ same => same⟩
  · intro other same
    exact retired other (consistent.seen other (consistent.published other same))
  · intro broken
    change s.broken = true at broken
    rw [whole] at broken
    cases broken

/-- After the reset no other asset of the collection is new. -/
theorem newAssets_reset {id : AssetId} {collection : CollectionId}
    (meets : ∀ other ∈ s.table, other ≠ id → (s.rows other).collection = collection →
      (s.rows other).state ≠ .new) :
    ∀ other ∈ (s.resetRow id).newAssets collection, other = id := by
  intro other member
  obtain ⟨known, listed⟩ := List.mem_filter.mp member
  obtain ⟨among, new⟩ := of_decide_eq_true listed
  by_contra different
  have same : (s.resetRow id).flushed other = s.rows other := Function.update_of_ne different _ _
  rw [same] at among new
  exact meets other known different among new

theorem after_park {returns : Unit → Session → Prop} {raises : Fault → Session → Prop}
    {state : AssetState} : After (park [] state) returns raises s ↔ returns () s := after_pure

/-- **The nested call**, where no other asset is parked. -/
theorem ingestAlone_stepped (consistent : Consistent s) (same : s.flushed = s.rows) {id : AssetId}
    {collection : Collection} (only : ∀ other ∈ s.newAssets collection.uuid, other = id)
    (new : ∀ other ∈ s.newAssets collection.uuid, (s.rows other).state = .new) :
    After (ingestAlone catalogue id collection)
      (fun summary left => Balanced summary ∧ Stepped s (· = id) left ∧ left.flushed = left.rows)
      (fun _ => Stepped s (· = id)) s := by
  have restored : ∀ left, Stepped s (· = id) left →
      After (park [] .new >>= fun _ => flush)
        (fun _ after => Stepped s (· = id) after ∧ after.flushed = after.rows)
        (fun _ after => Stepped s (· = id) after) left := by
    intro left stepped
    rw [after_bind, after_park]
    refine after_flush (fun whole script => ?_) (fun _ script => ?_) fun _ => stepped
    · exact ⟨(stepped.trans (Stepped.flush stepped.consistent whole _)).script script, rfl⟩
    · exact (stepped.trans (Stepped.lost stepped.consistent _)).script script
  have still := Stepped.refl consistent (· = id)
  unfold ingestAlone
  rw [after_bind]
  refine after_query (fun whole script => ?_) fun _ script => still.script script
  have others : ({ s with script := script }.newAssets collection.uuid).filter (· ≠ id) = [] :=
    List.filter_eq_nil_iff.mpr fun other member => by simpa using only other member
  rw [after_bind, after_look, others, after_bind, after_park, after_bind]
  refine after_flush (fun _ script => ?_)
    (fun _ script => (Stepped.lost consistent _).script script) fun broken => ?_
  · have flushed := (Stepped.flush consistent whole (· = id)).script script
    have listed : { s with flushed := s.rows, script := script }.newAssets collection.uuid =
        s.newAssets collection.uuid := by
      unfold Session.newAssets
      rw [same]
    have meets : IngestMeets { s with flushed := s.rows, script := script } collection.uuid := by
      unfold IngestMeets
      rw [listed]
      exact new
    have nested := ingest_stepped catalogue flushed.consistent collection meets
    rw [listed] at nested
    have alone : ∀ left, Stepped { s with flushed := s.rows, script := script }
        (· ∈ s.newAssets collection.uuid) left → Stepped s (· = id) left := fun left stepped =>
      flushed.trans (stepped.mono only)
    rw [after_ensuring]
    refine nested.mono (fun summary left both => ?_) fun _ left stepped => ?_
    · exact (restored left (alone left both.2)).mono (fun _ after done => ⟨both.1, done⟩)
        fun _ _ raised => raised
    · exact (restored left (alone left stepped)).mono (fun _ after done => done.1)
        fun _ _ raised => raised
  · rw [whole] at broken
    cases broken

/-- **Probing an asset again**, whatever fails. -/
theorem reprobe_stepped (consistent : Consistent s) (assetUuid : Uuid)
    (meets : ∀ id ∈ assetUuid.id, ReprobeMeets catalogue s id) :
    After (reprobeAsset catalogue assetUuid)
      (fun result left => Balanced result.enrichmentSummary ∧ Stepped s (· ∈ assetUuid.id) left)
      (fun _ => Stepped s (· ∈ assetUuid.id)) s := by
  have still : ∀ script, Stepped s (· ∈ assetUuid.id) { s with script := script } := fun script =>
    (Stepped.refl consistent _).script script
  obtain ⟨text, given⟩ := assetUuid
  unfold reprobeAsset
  cases given with
  | none => exact after_raise.mpr (still s.script)
  | some id =>
    have meets := meets id rfl
    dsimp only
    rw [after_bind]
    refine after_query (fun whole script => ?_) fun _ script => still script
    rw [after_bind, after_look]
    split_ifs with known
    · obtain ⟨live, alone⟩ := meets (of_decide_eq_true known)
      rw [after_bind, after_row, if_neg (by rw [whole]; exact Bool.false_ne_true)]
      cases found : catalogue.collections (s.rows id).collection with
      | none => exact after_raise.mpr (still script)
      | some collection =>
        have alone := alone collection found
        have reset : Stepped s (· ∈ some id) (s.resetRow id) :=
          (reset_stepped consistent whole live).mono fun other own => congrArg some own.symm
        have only := newAssets_reset alone
        dsimp only
        rw [after_bind]
        refine after_query (fun _ script => ?_) fun _ script => still script
        rw [after_bind]
        refine after_query (fun _ script => ?_) fun _ script => still script
        rw [after_bind, after_assign, if_neg (by rw [whole]; exact Bool.false_ne_true), after_bind]
        refine after_flush (fun _ script => ?_)
          (fun _ script => (Stepped.lost consistent _).script script) fun broken => ?_
        · rw [after_bind]
          have new : ∀ other ∈ (s.resetRow id).newAssets collection.uuid,
              ((s.resetRow id).rows other).state = .new := fun other member =>
            (of_decide_eq_true (List.mem_filter.mp member).2).2
          have nested := ingestAlone_stepped catalogue (reset.script script).consistent rfl only new
          refine After.mono nested (fun summary left both => ?_) fun _ left stepped => ?_
          · obtain ⟨balanced, stepped, same⟩ := both
            have done : Stepped s (· ∈ some id) left :=
              (reset.script script).trans (stepped.mono fun other own => congrArg some own.symm)
            rw [after_bind]
            refine after_query (fun unbroken script => ?_) fun _ script => done.script script
            have kept : Function.update left.rows id (left.flushed id) = left.rows := by
              rw [same, Function.update_eq_self]
            rw [after_bind, after_change]
            dsimp only
            rw [kept, after_bind, after_row, if_neg (by rw [unbroken]; exact Bool.false_ne_true)]
            exact after_pure.mpr ⟨balanced, done.script script⟩
          · exact (reset.script script).trans
              (stepped.mono fun other own => congrArg some own.symm)
        · rw [whole] at broken
          cases broken
    · exact after_raise.mpr (still script)

end Reprobing

end Retrovue.Core.Assets
