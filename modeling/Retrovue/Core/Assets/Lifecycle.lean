/-
**The asset lifecycle over whole runs** (`usecases/ingest_orchestrator.py`, `asset_reprobe.py`,
`asset_update.py`).

* `reprobeAll_stepped`, `update_stepped`: the two other calls, whatever fails in them;
* `Meets`: the calls that keep to the state machine; `call_stepped`: each of them;
* `asset_lifecycle`: every session that a run of such calls, commits and rollbacks reaches;
* `lifecycle_fails`: what a reprobed retired asset, an operator and a parked asset do to it.
-/

import Retrovue.Core.Assets.Consistency
import Retrovue.Foundation.Transition

namespace Retrovue.Core.Assets

open Retrovue.Foundation.Attempts Attempt
open Retrovue.Foundation.Transition

variable (catalogue : Catalogue)

/-! ### The assets of a collection in turn -/

section ReprobeAll

variable {s : Session}

/-- **Each asset may be probed again** when its turn comes. -/
def ReprobesMeet : List AssetId → Session → Prop
  | [], _ => True
  | id :: rest, s =>
    ReprobeMeets catalogue s id ∧ ReprobesMeet rest (reprobeEntry catalogue id s).2

theorem reprobeEntry_stepped (consistent : Consistent s) {id : AssetId}
    (meets : ReprobeMeets catalogue s id) :
    After (reprobeEntry catalogue id)
      (fun entry left => (∀ summary ∈ entry.summaries, Balanced summary) ∧ Stepped s (· = id) left)
      (fun _ => Stepped s (· = id)) s := by
  have reported : ∀ left, Stepped s (· = id) left → ∀ e : Fault,
      After (row id >>= fun asset => pure (ReprobeEntry.error id asset.uri e))
        (fun entry left => (∀ summary ∈ entry.summaries, Balanced summary) ∧ Stepped s (· = id) left)
        (fun _ => Stepped s (· = id)) left := by
    intro left stepped e
    rw [after_bind, after_row]
    split_ifs
    · exact stepped
    · exact after_pure.mpr ⟨nofun, stepped⟩
  unfold reprobeEntry
  rw [after_catching, after_bind, after_active]
  split_ifs
  · exact reported s (Stepped.refl consistent _) .database
  · rw [after_bind]
    have own : ∀ other, other ∈ (Uuid.of id).id → other = id := fun other member =>
      (Option.some.inj member).symm
    have probed := reprobe_stepped catalogue consistent (Uuid.of id) (fun other member => by
      rw [own other member]
      exact meets)
    refine probed.mono (fun result left both => ?_) fun e left stepped =>
      reported left (stepped.mono own) e
    exact after_pure.mpr ⟨List.forall_mem_singleton.mpr both.1, both.2.mono own⟩

/-- **Probing the assets of a collection again**, whatever fails. -/
theorem reprobeAll_stepped (consistent : Consistent s) (collectionUuid : Uuid) (includeReady : Bool)
    (limit : Option Int) {processed : AssetId → Prop}
    (among : ∀ id ∈ collectionUuid.id, ∀ collection ∈ catalogue.collections id,
      ∀ asset ∈ s.selected collection.uuid includeReady limit, processed asset)
    (meets : ∀ id ∈ collectionUuid.id, ∀ collection ∈ catalogue.collections id,
      ReprobesMeet catalogue (s.selected collection.uuid includeReady limit)
        { s with script := s.script.tail.tail }) :
    After (reprobeCollection catalogue collectionUuid includeReady limit)
      (fun report left => (∀ entry ∈ report.results, ∀ summary ∈ entry.summaries, Balanced summary) ∧
        Stepped s processed left)
      (fun _ => Stepped s processed) s := by
  have still : ∀ script, Stepped s processed { s with script := script } := fun script =>
    (Stepped.refl consistent _).script script
  obtain ⟨text, given⟩ := collectionUuid
  unfold reprobeCollection
  cases given with
  | none => exact after_raise.mpr (still s.script)
  | some id =>
    have among := among id rfl
    have meets := meets id rfl
    dsimp only
    rw [after_bind]
    refine after_query_tail (fun _ => ?_) fun _ script => still script
    cases found : catalogue.collections id with
    | none => exact after_raise.mpr (still _)
    | some collection =>
      have among := among collection found
      have meets := meets collection found
      dsimp only
      rw [after_bind]
      refine after_query_tail (fun _ => ?_) fun _ script => still script
      split_ifs with negative
      · exact after_raise.mpr (still _)
      · rw [after_bind, after_look]
        have listed : { s with script := s.script.tail.tail }.selected collection.uuid includeReady
            limit = s.selected collection.uuid includeReady limit := rfl
        dsimp only
        rw [listed]
        split_ifs with empty
        · exact after_pure.mpr ⟨fun _ member => absurd member List.not_mem_nil, still _⟩
        · rw [after_bind]
          let invariant : List AssetId → List ReprobeEntry → Session → Prop := fun rest results left =>
            (∀ entry ∈ results, ∀ summary ∈ entry.summaries, Balanced summary) ∧
              Stepped s processed left ∧ ReprobesMeet catalogue rest left
          refine After.mono (after_foldlM invariant (fun asset rest member results left holds => ?_)
            ⟨fun _ member => absurd member List.not_mem_nil, still _, meets⟩ : After _ (invariant []) (fun _ => Stepped s processed) _)
            (fun results left holds => after_pure.mpr ⟨holds.1, holds.2.1⟩) fun _ _ raised => raised
          obtain ⟨balanced, stepped, own, later⟩ := holds
          have entry := (reprobeEntry_stepped catalogue stepped.consistent own).and after_self
          have single : ∀ after, Stepped left (· = asset) after → Stepped s processed after :=
            fun after done => stepped.trans (done.mono fun other same => same ▸ among asset member)
          rw [after_bind]
          refine entry.mono (fun entry after both => ?_) fun _ after both => single after both.1
          obtain ⟨⟨sums, done⟩, exactly_⟩ := both
          rw [exactly_] at later
          refine after_pure.mpr ⟨fun other listed => ?_, single after done, later⟩
          rcases List.mem_append.mp listed with before | last
          · exact balanced other before
          · rw [List.mem_singleton.mp last]
            exact sums

end ReprobeAll

/-! ### Review -/

section Review

variable {s : Session}

/-- **The operator keeps to the state machine**: an asset keeps its state or is retired, and is approved
only where it is ready. -/
def UpdateMeets (s : Session) (id : AssetId) (approved : Option Bool) (state : Option AssetState) :
    Prop :=
  id ∈ s.table →
    (state.getD (s.rows id).state = (s.rows id).state ∨ state.getD (s.rows id).state = .retired) ∧
      ((approved = some true ∨ (s.rows id).approvedForBroadcast = true) →
        state.getD (s.rows id).state = .ready)

/-- A row that the operator has approved, or not. -/
def Asset.approve (approved : Option Bool) (asset : Asset) : Asset :=
  if approved = some true then { asset with approvedForBroadcast := true } else asset

/-- A row whose state the operator has set, or not. -/
def Asset.setReview (state : Option AssetState) (asset : Asset) : Asset :=
  state.elim asset fun state => asset.setState state

/-- A row with its review. -/
def Asset.review (approved : Option Bool) (state : Option AssetState) (asset : Asset) : Asset :=
  (asset.approve approved).setReview state

theorem state_approve (approved : Option Bool) (asset : Asset) :
    (asset.approve approved).state = asset.state := by
  unfold Asset.approve
  split_ifs <;> rfl

theorem state_review (approved : Option Bool) (state : Option AssetState) (asset : Asset) :
    (asset.review approved state).state = state.getD asset.state := by
  cases state with
  | none => exact state_approve approved asset
  | some state => rfl

/-- **What the operator leaves is sound.** -/
theorem sound_review {asset : Asset} (sound : Sound asset) {approved : Option Bool}
    {state : Option AssetState}
    (kept : state.getD asset.state = asset.state ∨ state.getD asset.state = .retired)
    (ready : (approved = some true ∨ asset.approvedForBroadcast = true) →
      state.getD asset.state = .ready) : Sound (asset.review approved state) := by
  have named := state_review approved state asset
  have approvals : (asset.review approved state).approvedForBroadcast = true →
      (asset.review approved state).state = .ready := by
    intro given
    rw [named]
    refine ready ?_
    have own : (asset.approve approved).approvedForBroadcast = true := by
      cases state <;> exact given
    unfold Asset.approve at own
    split_ifs at own with operator
    · exact Or.inl operator
    · exact Or.inr own
  have durations : (asset.review approved state).durationMs = asset.durationMs := by
    unfold Asset.review Asset.setReview Asset.approve
    cases state <;> split_ifs <;> rfl
  rcases kept with same | retired
  · -- the state is the one that it was
    have probed : (asset.review approved state).probedMs = asset.probedMs := by
      have plain : (asset.approve approved).probedMs = asset.probedMs := by
        unfold Asset.approve
        split_ifs <;> rfl
      cases state with
      | none => exact plain
      | some state =>
        refine (if_neg fun both => both.2 ?_).trans plain
        rw [state_approve] at both
        exact same.trans both.1
    rw [same] at named
    refine ⟨?_, approvals, ?_, ?_⟩
    · rw [named]
      exact sound.settled
    · rw [named, durations, probed]
      exact sound.ready
    · unfold DurationProbed
      rw [named, durations, probed]
      exact sound.new
  · rw [retired] at named
    refine ⟨Or.inr (Or.inr named), approvals, ?_, ?_⟩
    · rw [named]
      exact nofun
    · rw [named]
      exact nofun

theorem after_approve {id : AssetId} {approved : Option Bool} (whole : s.broken = false)
    {returns : Unit → Session → Prop} {raises : Fault → Session → Prop} :
    After (approve id approved) returns raises s ↔
      returns () { s with rows := Function.update s.rows id ((s.rows id).approve approved) } := by
  unfold approve Asset.approve
  split_ifs
  · rw [after_assign, if_neg (by rw [whole]; exact Bool.false_ne_true)]
  · rw [after_pure, Function.update_eq_self]

theorem after_setReviewState {id : AssetId} {state : Option AssetState} (whole : s.broken = false)
    {returns : Unit → Session → Prop} {raises : Fault → Session → Prop} :
    After (setReviewState id state) returns raises s ↔
      returns () { s with rows := Function.update s.rows id ((s.rows id).setReview state) } := by
  unfold setReviewState Asset.setReview
  cases state with
  | none => rw [after_pure, Option.elim_none, Function.update_eq_self]
  | some state =>
    rw [after_assign, if_neg (by rw [whole]; exact Bool.false_ne_true)]
    rfl

/-- A row is reviewed. -/
theorem review_stepped (consistent : Consistent s) (whole : s.broken = false) {id : AssetId}
    {asset : Asset} (sound : Sound asset)
    (retired : (s.rows id).state = .retired → asset.state = .retired) :
    Stepped s (· = id) { s with rows := Function.update s.rows id asset } := by
  have others : ∀ other, other ≠ id → Function.update s.rows id asset other = s.rows other :=
    fun other different => Function.update_of_ne different _ _
  have kept : ∀ other, (s.rows other).state = .retired →
      (Function.update s.rows id asset other).state = .retired := by
    intro other same
    by_cases own : other = id
    · subst own
      rw [Function.update_self]
      exact retired same
    · rw [others other own]
      exact same
  refine ⟨⟨consistent.distinct, fun other => ?_, consistent.flushed, consistent.committed,
    consistent.published, fun other same => kept other (consistent.seen other same), ?_⟩, rfl,
    fun broken => broken, fun other different _ => others other different,
    fun other different => Or.inl (others other different), fun _ _ => Or.inl rfl,
    fun other same _ => kept other same, fun _ same => same⟩
  · by_cases own : other = id
    · subst own
      dsimp only
      rw [Function.update_self]
      exact sound
    · dsimp only
      rw [others other own]
      exact consistent.rows other
  · intro broken
    change s.broken = true at broken
    rw [whole] at broken
    cases broken

/-- **The operator's review**, whatever fails. -/
theorem update_stepped (consistent : Consistent s) (assetUuid : Uuid) {approved : Option Bool}
    {state : Option AssetState} (meets : ∀ id ∈ assetUuid.id, UpdateMeets s id approved state) :
    After (updateAssetReviewStatus assetUuid approved state)
      (fun _ => Stepped s (· ∈ assetUuid.id)) (fun _ => Stepped s (· ∈ assetUuid.id)) s := by
  have still : ∀ script, Stepped s (· ∈ assetUuid.id) { s with script := script } := fun script =>
    (Stepped.refl consistent _).script script
  obtain ⟨text, given⟩ := assetUuid
  unfold updateAssetReviewStatus
  cases given with
  | none => exact after_raise.mpr (still s.script)
  | some id =>
    have meets := meets id rfl
    dsimp only
    rw [after_bind]
    refine after_query (fun whole script => ?_) fun _ script => still script
    rw [after_bind, after_look]
    split_ifs with known
    · obtain ⟨kept, ready⟩ := meets (of_decide_eq_true known)
      have sound := sound_review (consistent.rows id) kept ready
      have retired : (s.rows id).state = .retired →
          ((s.rows id).review approved state).state = .retired := by
        intro same
        rw [state_review]
        rcases kept with kept | kept
        · rw [kept, same]
        · exact kept
      have done := ((review_stepped consistent whole sound retired).mono fun other own =>
        (congrArg some own.symm : other ∈ some id)).script script
      rw [after_bind]
      refine (after_approve ?_).mpr ?_
      · exact whole
      rw [after_bind]
      refine (after_setReviewState ?_).mpr ?_
      · exact whole
      dsimp only
      rw [Function.update_self, Function.update_idem, after_bind, after_row,
        if_neg (by rw [whole]; exact Bool.false_ne_true)]
      exact after_pure.mpr done
    · exact after_raise.mpr (still script)

end Review

/-! ### Runs -/

section Runs

variable {s : Session}

/-- **The assets that a call processes.** -/
def Processed (s : Session) : Call → AssetId → Prop
  | .ingest collection, asset => asset ∈ s.newAssets collection.uuid
  | .reprobe assetUuid, asset => asset ∈ assetUuid.id
  | .reprobeAll collectionUuid includeReady limit, asset =>
    ∃ id ∈ collectionUuid.id, ∃ collection ∈ catalogue.collections id,
      asset ∈ s.selected collection.uuid includeReady limit
  | .update assetUuid _ _, asset => asset ∈ assetUuid.id

/-- **The calls that keep to the state machine.** -/
def CallMeets (s : Session) (script : List Choice) : Call → Prop
  | .ingest collection => IngestMeets s collection.uuid
  | .reprobe assetUuid => ∀ id ∈ assetUuid.id, ReprobeMeets catalogue s id
  | .reprobeAll collectionUuid includeReady limit =>
    ∀ id ∈ collectionUuid.id, ∀ collection ∈ catalogue.collections id,
      ReprobesMeet catalogue (s.selected collection.uuid includeReady limit)
        { s with script := script.tail.tail }
  | .update assetUuid approved state => ∀ id ∈ assetUuid.id, UpdateMeets s id approved state

/-- A unit of work may end at any time. -/
def Meets (s : Session) : Event → Prop
  | .call call script => CallMeets catalogue s script call
  | .commit _ => True
  | .rollback => True

/-- **Any call**, whatever fails in it. -/
theorem call_stepped (consistent : Consistent s) {call : Call} {script : List Choice}
    (meets : CallMeets catalogue s script call) :
    After (perform catalogue call)
      (fun reply left => (∀ summary ∈ reply.summaries, Balanced summary) ∧
        Stepped s (Processed catalogue s call) left)
      (fun _ => Stepped s (Processed catalogue s call)) { s with script := script } := by
  have scripted := consistent.script script
  cases call with
  | ingest collection =>
    have done := ingest_stepped catalogue scripted collection meets
    unfold perform
    rw [after_bind]
    refine done.mono (fun summary left both => ?_) fun _ _ stepped => stepped.ofScript
    exact after_pure.mpr ⟨List.forall_mem_singleton.mpr both.1, both.2.ofScript⟩
  | reprobe assetUuid =>
    have done := reprobe_stepped catalogue scripted assetUuid meets
    unfold perform
    rw [after_bind]
    refine done.mono (fun result left both => ?_) fun _ _ stepped => stepped.ofScript
    exact after_pure.mpr ⟨List.forall_mem_singleton.mpr both.1, both.2.ofScript⟩
  | reprobeAll collectionUuid includeReady limit =>
    have done := reprobeAll_stepped catalogue scripted collectionUuid includeReady limit
      (fun id named collection found asset member =>
        (⟨id, named, collection, found, member⟩ :
          Processed catalogue s (.reprobeAll collectionUuid includeReady limit) asset)) meets
    unfold perform
    rw [after_bind]
    refine done.mono (fun report left both => ?_) fun _ _ stepped => stepped.ofScript
    refine after_pure.mpr ⟨fun summary member => ?_, both.2.ofScript⟩
    obtain ⟨entry, listed, inside⟩ := List.mem_flatMap.mp member
    exact both.1 entry listed summary inside
  | update assetUuid approved state =>
    have done := update_stepped scripted assetUuid meets
    unfold perform
    rw [after_bind]
    refine done.mono (fun summary left stepped => ?_) fun _ _ stepped => stepped.ofScript
    exact after_pure.mpr ⟨fun _ member => absurd member List.not_mem_nil, stepped.ofScript⟩

/-- What a step keeps. -/
theorem step_consistent (consistent : Consistent s) {event : Event} {next : Session}
    (meets : Meets catalogue s event) (taken : step catalogue s event = some next) :
    Consistent next ∧
      ∀ id, (s.committed id).state = .retired → (next.committed id).state = .retired := by
  cases event with
  | call call script =>
    cases taken
    have done := call_stepped catalogue consistent meets
    have stepped := (done.mono (fun _ _ both => both.2) fun _ _ stepped => stepped).left
    exact ⟨stepped.consistent, stepped.forever⟩
  | commit script =>
    cases taken
    have done : After commit (fun _ => Stepped s fun _ => False) (fun _ => Stepped s fun _ => False)
        { s with script := script } := by
      refine after_commit (fun _ script => ?_) (fun _ script => ?_) fun _ => ?_
      · exact (Stepped.commit consistent _).script script
      · exact (Stepped.lost consistent _).script script
      · exact (Stepped.refl consistent _).script script
    exact ⟨done.left.consistent, done.left.forever⟩
  | rollback =>
    cases taken
    exact ⟨consistent.reverted false, fun _ retired => retired⟩

/-- **What the lifecycle asks of an asset.** -/
structure InOrder (asset : Asset) : Prop where
  settled : asset.state ≠ .enriching
  ready : asset.state = .ready →
    ∃ durationMs, 0 < durationMs ∧ asset.durationMs = some durationMs ∧ asset.probedMs = some durationMs
  approved : asset.approvedForBroadcast = true → asset.state = .ready

theorem Sound.inOrder {asset : Asset} (sound : Sound asset) : InOrder asset := by
  refine ⟨fun enriching => ?_, sound.ready, sound.approved⟩
  rcases sound.settled with same | same | same
  · rw [same] at enriching
    cases enriching
  · rw [same] at enriching
    cases enriching
  · rw [same] at enriching
    cases enriching

/-- **What the lifecycle asks of a call**: the assets that it does not process have their rows still, or
those that were committed when the transaction was lost; the retired ones are retired still; and each
summary counts every asset once. -/
def Keeps (s : Session) : Event → Prop
  | .call call script =>
    (∀ id, ¬ Processed catalogue s call id →
      ((s.call catalogue call script).2.broken = false →
        (s.call catalogue call script).2.rows id = s.rows id) ∧
      ((s.call catalogue call script).2.rows id = s.rows id ∨
        (s.call catalogue call script).2.rows id = s.committed id)) ∧
    (∀ id, (s.rows id).state = .retired → (s.call catalogue call script).2.broken = false →
      ((s.call catalogue call script).2.rows id).state = .retired) ∧
    ∀ reply, (s.call catalogue call script).1 = .ok reply →
      ∀ summary ∈ reply.summaries, Balanced summary
  | .commit _ => True
  | .rollback => True

theorem keeps_of_meets (consistent : Consistent s) {event : Event}
    (meets : Meets catalogue s event) : Keeps catalogue s event := by
  cases event with
  | call call script =>
    have done := call_stepped catalogue consistent meets
    have stepped := (done.mono (fun _ _ both => both.2) fun _ _ stepped => stepped).left
    exact ⟨fun id other => ⟨stepped.rows id other, stepped.either id other⟩, stepped.retired,
      fun reply returned => (done.1 reply returned).1⟩
  | commit script => trivial
  | rollback => trivial

/-- **The asset lifecycle.** In every session that a run reaches whose calls keep to the state machine, no
asset is left in `enriching`, a ready one has a positive duration that was probed since it last left
`ready`, and an approved one is ready; what was committed as retired is retired; and every call on the
way leaves the other assets and the retired ones alone and balances its summaries. -/
theorem asset_lifecycle {start final : Session} (consistent : Consistent start) {events : List Event}
    (meets : Along (step catalogue) (Meets catalogue) start events)
    (ran : runActions (step catalogue) start events = some final) :
    (∀ id, InOrder (final.rows id) ∧ InOrder (final.committed id)) ∧
      (∀ id, (start.committed id).state = .retired →
        (final.committed id).state = .retired ∧ (final.rows id).state = .retired) ∧
      Along (step catalogue) (Keeps catalogue) start events := by
  let invariant : Session → Prop := fun s =>
    Consistent s ∧ ∀ id, (start.committed id).state = .retired → (s.committed id).state = .retired
  have kept : ∀ s event next, invariant s → Meets catalogue s event →
      step catalogue s event = some next → invariant next := by
    rintro s event next ⟨consistent, retired⟩ meets taken
    obtain ⟨later, forever⟩ := step_consistent catalogue consistent meets taken
    exact ⟨later, fun id same => forever id (retired id same)⟩
  have initially : invariant start := ⟨consistent, fun _ retired => retired⟩
  obtain ⟨reached, retired⟩ := invariant_along (step catalogue) invariant (Meets catalogue) kept events
    initially meets ran
  refine ⟨fun id => ⟨(reached.rows id).inOrder, (reached.committed id).inOrder⟩, fun id same => ?_, ?_⟩
  · have committed := retired id same
    exact ⟨committed, reached.seen id (reached.published id committed)⟩
  · exact along_of_invariant (step catalogue) invariant (Meets catalogue) (Keeps catalogue) kept
      (fun s event here meets => keeps_of_meets catalogue here.1 meets) events initially meets

/-- One collection with one enricher. -/
def oneCollection : Catalogue where
  collections := fun id => if id = 0 then some ⟨0, "movies", [{ type := some "ffprobe" }]⟩ else none
  enricherTypes := fun _ => none
  registered := fun _ => true

/-- Two assets with the same row, all of it committed. -/
def holding (asset : Asset) : Session where
  table := [0, 1]
  committed := fun _ => asset
  flushed := fun _ => asset
  rows := fun _ => asset

/-- An asset of the collection. -/
def inState (state : AssetState) : Asset where
  collection := 0
  uri := "/m/a.mkv"
  state := state

theorem consistent_new : Consistent (holding (inState .new)) := by
  have sound : Sound (inState .new) := ⟨Or.inl rfl, nofun, nofun, fun _ => nofun⟩
  exact ⟨by decide, fun _ => sound, fun _ => sound, fun _ => sound, fun _ same => same,
    fun _ same => same, fun _ => ⟨rfl, rfl⟩⟩

/-- The collection is ingested, its second asset is not found, and all is committed. -/
def ingestRun : List Event :=
  [.call (.ingest ⟨0, "movies", [{ type := some "ffprobe" }]⟩)
      (List.replicate 9 .goesOn ++ .probes (some 1000) :: List.replicate 6 .goesOn ++ [.missing]),
    .commit []]

/-- The first asset is ready then, the second is new, and both are in order. -/
theorem ingest_lifecycle : ∃ final,
    runActions (step oneCollection) (holding (inState .new)) ingestRun = some final ∧
      (final.rows 0).state = .ready ∧ (final.committed 1).state = .new ∧
      InOrder (final.rows 0) ∧ InOrder (final.committed 1) := by
  have meets : Along (step oneCollection) (Meets oneCollection) (holding (inState .new)) ingestRun :=
    ⟨fun _ _ => rfl, fun _ _ => ⟨trivial, fun _ _ => trivial⟩⟩
  have reached := (asset_lifecycle oneCollection consistent_new meets rfl).1
  exact ⟨_, rfl, rfl, rfl, (reached 0).1, (reached 1).2⟩

/-- **The lifecycle fails** where a retired asset is probed again, where an operator makes an asset ready
that was never probed or approves one that is not ready, and where a unit of work is rolled back after an
asset was probed beside another new one, which is left in `enriching`. -/
theorem lifecycle_fails :
    (((holding (inState .retired)).call oneCollection (.reprobe (.of 0)) []).2.rows 0).state = .new ∧
      (((holding (inState .new)).call oneCollection
        (.update (.of 0) none (some .ready)) []).2.rows 0).state = .ready ∧
      (((holding (inState .new)).call oneCollection
        (.update (.of 0) none (some .ready)) []).2.rows 0).durationMs = none ∧
      (((holding (inState .new)).call oneCollection
        (.update (.of 0) (some true) none) []).2.rows 0).approvedForBroadcast = true ∧
      ((runActions (step oneCollection) (holding (inState .new))
        [.call (.reprobe (.of 0)) [], .rollback]).map fun final => (final.rows 1).state) =
          some .enriching :=
  ⟨rfl, rfl, rfl, rfl, rfl⟩

end Runs

end Retrovue.Core.Assets
