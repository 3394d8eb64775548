/-
**One turn of the ingest loop** (`usecases/ingest_orchestrator.py`).

* `Sound`: an asset between calls; `Unsettled`: one that is being enriched;
* `Only`: a session that differs from another in one row; `Gone`: one that has lost its transaction;
* `ingestAsset_turn`: **whatever fails, the turn leaves its asset sound and the others alone, or the
  transaction is lost**;
* `ingest_loop`: so does the whole loop, and it counts every asset once.
-/

import Retrovue.Core.Assets.Calls

namespace Retrovue.Core.Assets

open Retrovue.Foundation.Attempts Attempt

/-! ### Assets -/

section Assets

/-- Every positive duration was probed since the asset last left `ready`. -/
def DurationProbed (asset : Asset) : Prop :=
  ∀ durationMs, asset.durationMs = some durationMs → 0 < durationMs → asset.probedMs = some durationMs

/-- **An asset between calls.** -/
structure Sound (asset : Asset) : Prop where
  settled : asset.state = .new ∨ asset.state = .ready ∨ asset.state = .retired
  approved : asset.approvedForBroadcast = true → asset.state = .ready
  ready : asset.state = .ready →
    ∃ durationMs, 0 < durationMs ∧ asset.durationMs = some durationMs ∧ asset.probedMs = some durationMs
  new : asset.state = .new → DurationProbed asset

/-- An asset in a turn of the loop, before it is settled again. -/
structure Unsettled (asset : Asset) : Prop where
  state : asset.state = .new ∨ asset.state = .enriching
  approved : asset.approvedForBroadcast = false
  duration : DurationProbed asset

/-- An asset while it is enriched. -/
def Busy (asset : Asset) : Prop := Unsettled asset ∧ asset.state = .enriching

/-- A sound asset that is not retired. -/
def Live (asset : Asset) : Prop := Sound asset ∧ asset.state ≠ .retired

theorem Sound.unsettled {asset : Asset} (sound : Sound asset) (new : asset.state = .new) :
    Unsettled asset := by
  refine ⟨Or.inl new, ?_, sound.new new⟩
  rw [← Bool.not_eq_true]
  intro approved
  have ready := sound.approved approved
  rw [new] at ready
  cases ready

theorem probedMs_setState {asset : Asset} {state : AssetState} (other : asset.state ≠ .ready) :
    (asset.setState state).probedMs = asset.probedMs := if_neg fun both => other both.1

theorem Unsettled.not_ready {asset : Asset} (unsettled : Unsettled asset) : asset.state ≠ .ready := by
  rcases unsettled.state with same | same
  · rw [same]
    exact nofun
  · rw [same]
    exact nofun

theorem Unsettled.durationProbed_setState {asset : Asset} (unsettled : Unsettled asset)
    (state : AssetState) : DurationProbed (asset.setState state) := by
  intro durationMs given positive
  rw [probedMs_setState unsettled.not_ready]
  exact unsettled.duration durationMs given positive

theorem Unsettled.enriching {asset : Asset} (unsettled : Unsettled asset) :
    Unsettled (asset.setState .enriching) :=
  ⟨Or.inr rfl, unsettled.approved, unsettled.durationProbed_setState _⟩

/-- An asset that is set back to new is sound. -/
theorem Unsettled.live_new {asset : Asset} (unsettled : Unsettled asset) :
    Live (asset.setState .new) := by
  refine ⟨⟨Or.inl rfl, fun approved => ?_, nofun, fun _ => unsettled.durationProbed_setState _⟩, nofun⟩
  have refused : (asset.setState .new).approvedForBroadcast = false := unsettled.approved
  rw [refused] at approved
  cases approved

/-- An asset with a duration becomes ready soundly. -/
theorem Unsettled.live_ready {asset : Asset} (unsettled : Unsettled asset)
    (given : asset.hasDuration = true) : Live (asset.setState .ready) := by
  obtain ⟨durationMs, same, positive⟩ := (Option.any_eq_true _ _).mp given
  have positive : 0 < durationMs := of_decide_eq_true positive
  refine ⟨⟨Or.inr (Or.inl rfl), fun _ => rfl, fun _ => ⟨durationMs, positive, same, ?_⟩, nofun⟩, nofun⟩
  rw [probedMs_setState unsettled.not_ready]
  exact unsettled.duration durationMs same positive

/-- A probed duration is stored with the asset. -/
theorem Unsettled.setDuration {asset : Asset} (unsettled : Unsettled asset) (durationMs : Int) :
    Unsettled (asset.setDuration durationMs) := by
  refine ⟨unsettled.state, unsettled.approved, fun stored same positive => ?_⟩
  have stored : durationMs = stored := Option.some.inj same
  subst stored
  exact if_pos positive

end Assets

/-! ### Sessions in a turn -/

section Turns

/-- **The session is `base` but for the row of one asset**, and for what was flushed. -/
structure Only (base : Session) (id : AssetId) (good : Asset → Prop) (s : Session) : Prop where
  table : s.table = base.table
  committed : s.committed = base.committed
  whole : s.broken = false
  rows : ∃ asset, s.rows = Function.update base.rows id asset ∧ good asset

/-- **The session has lost the transaction** that it had in `base`. -/
structure Gone (base s : Session) : Prop where
  table : s.table = base.table
  committed : s.committed = base.committed
  flushed : s.flushed = base.committed
  rows : s.rows = base.committed
  broken : s.broken = true

variable {base s : Session} {id : AssetId} {good better : Asset → Prop}

theorem Only.script (only : Only base id good s) (script : List Choice) :
    Only base id good { s with script := script } := ⟨only.1, only.2, only.3, only.4⟩

theorem Only.mono (only : Only base id good s) (weaker : ∀ asset, good asset → better asset) :
    Only base id better s := by
  obtain ⟨asset, same, holds⟩ := only.rows
  exact ⟨only.table, only.committed, only.whole, asset, same, weaker asset holds⟩

theorem Only.here (only : Only base id good s) : good (s.rows id) := by
  obtain ⟨asset, same, holds⟩ := only.rows
  rw [same, Function.update_self]
  exact holds

theorem Only.gone (only : Only base id good s) (script : List Choice) :
    Gone base { s.reverted true with script := script } :=
  ⟨only.table, only.committed, only.committed, only.committed, rfl⟩

theorem Only.flush (only : Only base id good s) :
    After flush (fun _ => Only base id good) (fun _ => Gone base) s := by
  refine after_flush (fun _ script => ⟨only.1, only.2, only.3, only.4⟩) (fun _ => only.gone) ?_
  intro broken
  rw [only.whole] at broken
  cases broken

theorem Only.query (only : Only base id good s) :
    After query (fun _ => Only base id good) (fun _ => Only base id good) s :=
  after_query (fun _ => only.script) fun _ => only.script

theorem Only.external (only : Only base id good s) :
    After external (fun _ => Only base id good) (fun _ => Only base id good) s :=
  after_external only.script only.script

theorem Only.assign (only : Only base id good s) (better : Asset → Prop) {update : Asset → Asset}
    (keeps : good (s.rows id) → better (update (s.rows id))) {raises : Fault → Session → Prop} :
    After (assign id update) (fun _ => Only base id better) raises s := by
  rw [after_assign, if_neg (by rw [only.whole]; exact Bool.false_ne_true)]
  obtain ⟨asset, same, holds⟩ := only.rows
  refine ⟨only.table, only.committed, only.whole, update (s.rows id), ?_, keeps only.here⟩
  dsimp only
  rw [same, Function.update_idem]

theorem Only.row (only : Only base id good s) {returns : Asset → Session → Prop}
    {raises : Fault → Session → Prop} (returned : returns (s.rows id) s) :
    After (row id) returns raises s := by
  rw [after_row, if_neg (by rw [only.whole]; exact Bool.false_ne_true)]
  exact returned

theorem Only.active (only : Only base id good s) {returns : Unit → Session → Prop}
    {raises : Fault → Session → Prop} (returned : returns () s) : After active returns raises s := by
  rw [after_active, if_neg (by rw [only.whole]; exact Bool.false_ne_true)]
  exact returned

theorem Gone.active (gone : Gone base s) {returns : Unit → Session → Prop} :
    After active returns (fun _ => Gone base) s := by
  rw [after_active, if_pos gone.broken]
  exact gone

end Turns

/-! ### A turn -/

section Turn

variable {base s : Session} {id : AssetId}

/-- A path that is not found, or whose search fails, leaves the asset new. -/
theorem resolvePath_turn (only : Only base id Busy s) :
    After (resolvePath id)
      (fun found left => if found = true then Only base id Busy left else Only base id Live left)
      (fun _ => Gone base) s := by
  unfold resolvePath
  rw [after_catching]
  have handled : ∀ left, Only base id Busy left ∨ Gone base left →
      After (active >>= fun _ => assign id (Asset.setState .new) >>= fun _ => pure false)
        (fun found left => if found = true then Only base id Busy left else Only base id Live left)
        (fun _ => Gone base) left := by
    rintro left (only | gone)
    · rw [after_bind]
      refine only.active ?_
      rw [after_bind]
      refine (only.assign Live fun busy => busy.1.live_new).mono (fun _ left only => ?_) fun _ _ raised => raised
      exact after_pure.mpr only
    · rw [after_bind]
      exact gone.active
  rw [after_bind]
  refine after_ask fun choice script => ?_
  have only := only.script script
  split_ifs
  · exact after_raise.mpr (handled _ (Or.inl only))
  · rw [after_bind]
    refine (only.assign Live fun busy => busy.1.live_new).mono (fun _ left only => ?_) fun _ _ raised => raised
    exact after_pure.mpr only
  · rw [after_bind]
    refine only.flush.mono (fun _ left only => ?_) fun _ left gone => handled left (Or.inr gone)
    exact after_pure.mpr only

/-- The enrichers do not touch the session. -/
theorem enrich_turn (only : Only base id Busy s) (enrichers : List Int)
    {raises : Fault → Session → Prop} :
    After (enrich enrichers) (fun _ => Only base id Busy) raises s := by
  refine after_foldlM (fun _ _ => Only base id Busy) (fun _ _ _ item left only => ?_) only
  rw [after_catching, after_bind]
  refine after_ask fun choice script => ?_
  have only := only.script script
  split_ifs
  · rw [after_raise, after_bind]
    exact only.active (after_pure.mpr only)
  · exact after_pure.mpr only

/-- What is probed is stored. -/
theorem store_turn (only : Only base id Busy s) (probed : Option Probed) :
    After (store id probed) (fun _ => Only base id Busy) (fun _ => Only base id Busy) s := by
  have stored : After (storeDuration id ((probed.bind Probed.durationMs).getD 0))
      (fun _ => Only base id Busy) (fun _ => Only base id Busy) s := by
    unfold storeDuration
    split_ifs
    · exact only.assign Busy fun busy => ⟨busy.1.setDuration _, busy.2⟩
    · exact after_pure.mpr only
  unfold store
  rw [after_bind]
  refine stored.mono (fun _ left only => ?_) fun _ _ raised => raised
  rw [after_bind]
  refine only.external.mono (fun _ left only => ?_) fun _ _ raised => raised
  rw [after_bind]
  exact only.query.mono (fun _ left only => only.external) fun _ _ raised => raised

/-- **The asset becomes ready with a duration, or new.** -/
theorem promote_turn (only : Only base id Busy s) {raises : Fault → Session → Prop} :
    After (promote id) (fun _ => Only base id Live) raises s := by
  unfold promote
  rw [after_bind]
  refine only.row ?_
  split_ifs with given
  · rw [after_bind, after_validate, only.here.2, if_pos (Or.inr (by decide))]
    exact only.assign Live fun busy => busy.1.live_ready given
  · rw [after_bind, after_validate, only.here.2, if_pos (Or.inr (by decide))]
    refine only.assign Live fun busy => ?_
    obtain ⟨sound, live⟩ := busy.1.live_new
    exact ⟨⟨sound.settled, nofun, nofun, sound.new⟩, live⟩

/-- What is left when the body of a turn raises. -/
def Raised (base : Session) (id : AssetId) (s : Session) : Prop :=
  Only base id Unsettled s ∨ Gone base s

/-- **Whatever fails, a turn leaves its asset sound and the others alone, or the transaction is lost**; and
where the turn raises, it is lost. -/
theorem ingestAsset_turn (whole : s.broken = false) (sound : Sound (s.rows id))
    (new : (s.rows id).state = .new) (enrichers : List Int) :
    After (ingestAsset enrichers id) (fun _ left => Only s id Live left ∨ Gone s left)
      (fun _ => Gone s) s := by
  have only : Only s id (fun asset => Unsettled asset ∧ asset.state = .new) s :=
    ⟨rfl, rfl, whole, s.rows id, (Function.update_eq_self id s.rows).symm, sound.unsettled new, new⟩
  have busy : ∀ left, Only s id Busy left → Raised s id left := fun left only =>
    Or.inl (only.mono fun _ busy => busy.1)
  unfold ingestAsset
  rw [after_catching]
  refine After.mono (?_ : After _ (fun _ => Only s id Live) (fun _ => Raised s id) s)
    (fun _ _ only => Or.inl only) fun _ left raised => ?_
  · -- the body
    rw [after_bind]
    refine only.row ?_
    rw [after_bind, after_validate, only.here.2, if_pos (Or.inr (by decide)), after_bind]
    refine (only.assign Busy fun unsettled => ⟨unsettled.1.enriching, rfl⟩).mono
      (fun _ left only => ?_) fun _ _ raised => raised
    rw [after_bind]
    refine only.flush.mono (fun _ left only => ?_) fun _ _ gone => Or.inr gone
    rw [after_bind]
    refine only.query.mono (fun _ left only => ?_) fun _ left only => busy left only
    rw [after_bind]
    refine (resolvePath_turn only).mono (fun found left only => ?_) fun _ _ gone => Or.inr gone
    split_ifs at only ⊢
    · rw [after_bind]
      refine (enrich_turn only enrichers).mono (fun probed left only => ?_) fun _ _ raised => raised
      rw [after_bind]
      refine (store_turn only probed).mono (fun _ left only => ?_) fun _ left only => busy left only
      rw [after_bind]
      refine (promote_turn only).mono (fun _ left only => ?_) fun _ _ raised => raised
      rw [after_bind]
      refine only.flush.mono (fun _ left only => ?_) fun _ _ gone => Or.inr gone
      exact after_pure.mpr only
    · exact after_pure.mpr only
  · -- the handler
    rcases raised with only | gone
    · rw [after_bind]
      refine only.active ?_
      rw [after_bind, after_catching, after_bind]
      refine (only.assign Live fun unsettled => unsettled.live_new).mono
        (fun _ left only => ?_) fun _ _ raised => raised
      refine only.flush.mono (fun _ left only => ?_) fun _ left gone => ?_
      · exact after_pure.mpr (Or.inl only)
      · exact after_pure.mpr (after_pure.mpr (Or.inr gone))
    · rw [after_bind]
      exact gone.active

/-- A turn in a broken session raises. -/
theorem ingestAsset_gone (gone : Gone base s) (enrichers : List Int)
    {returns : Outcome → Session → Prop} :
    After (ingestAsset enrichers id) returns (fun _ => Gone base) s := by
  unfold ingestAsset
  rw [after_catching, after_bind, after_row, if_pos gone.broken, after_bind]
  exact gone.active

end Turn

/-! ### The loop -/

section Loop

/-- The assets of a summary are counted once each, but for some that are to come. -/
def Counts (total toCome : Nat) (summary : Summary) : Prop :=
  summary.total = total ∧ summary.enriched + summary.skipped + summary.failed + toCome = total

theorem Counts.count {total toCome : Nat} {summary : Summary}
    (counts : Counts total (toCome + 1) summary) (outcome : Outcome) :
    Counts total toCome (summary.count outcome) := by
  obtain ⟨same, sum⟩ := counts
  cases outcome <;> exact ⟨same, by simp only [Summary.count]; omega⟩

/-- **The session in the loop**: the assets that had their turn are sound, and every other row is as it
was; or the transaction is lost. -/
def InLoop (base : Session) (assets rest : List AssetId) (s : Session) : Prop :=
  Gone base s ∨
    (s.table = base.table ∧ s.committed = base.committed ∧ s.broken = false ∧
      ∀ id, s.rows id = base.rows id ∨ (id ∈ assets ∧ id ∉ rest ∧ Live (s.rows id)))

variable {base s : Session} {assets rest : List AssetId} {id : AssetId}

/-- A turn moves its asset from those to come to those that had their turn. -/
theorem InLoop.turn {left : Session} (member : id ∈ assets) (fresh : id ∉ rest)
    (table : s.table = base.table) (committed : s.committed = base.committed)
    (rows : ∀ other, s.rows other = base.rows other ∨
      (other ∈ assets ∧ other ∉ id :: rest ∧ Live (s.rows other)))
    (turn : Only s id Live left ∨ Gone s left) : InLoop base assets rest left := by
  rcases turn with only | gone
  · refine Or.inr ⟨only.table.trans table, only.committed.trans committed, only.whole, fun other => ?_⟩
    obtain ⟨asset, same, live⟩ := only.rows
    by_cases own : other = id
    · subst own
      exact Or.inr ⟨member, fresh, only.here⟩
    · rw [same, Function.update_of_ne own]
      rcases rows other with kept | ⟨among, done, live⟩
      · exact Or.inl kept
      · exact Or.inr ⟨among, List.not_mem_of_not_mem_cons done, live⟩
  · exact Or.inl ⟨gone.table.trans table, gone.committed.trans committed,
      gone.flushed.trans committed, gone.rows.trans committed, gone.broken⟩

/-- **The loop**, from a session whose new assets it goes through. -/
theorem ingest_loop (whole : base.broken = false) (once : assets.Nodup)
    (fresh : ∀ id ∈ assets, Sound (base.rows id) ∧ (base.rows id).state = .new)
    (enrichers : List Int) :
    After (assets.foldlM
      (fun summary id => ingestAsset enrichers id >>= fun outcome => pure (summary.count outcome))
        { total := assets.length })
      (fun summary left => Counts assets.length 0 summary ∧ InLoop base assets [] left)
      (fun _ => Gone base) base := by
  let invariant : List AssetId → Summary → Session → Prop := fun rest summary left =>
    rest.Nodup ∧ (∀ id ∈ rest, id ∈ assets) ∧ Counts assets.length rest.length summary ∧
      InLoop base assets rest left
  refine After.mono (after_foldlM invariant ?_ ?_ : After _ (invariant []) (fun _ => Gone base) base)
    (fun summary left holds => holds.2.2) fun _ _ gone => gone
  · rintro id rest - summary left ⟨distinct, among, counts, gone | ⟨table, committed, whole, rows⟩⟩
    · rw [after_bind]
      exact ingestAsset_gone gone enrichers
    · obtain ⟨own, distinct⟩ := List.nodup_cons.mp distinct
      obtain ⟨member, among⟩ := List.forall_mem_cons.mp among
      have here : left.rows id = base.rows id := by
        rcases rows id with kept | ⟨-, done, -⟩
        · exact kept
        · exact absurd List.mem_cons_self done
      obtain ⟨sound, new⟩ := fresh id member
      rw [← here] at sound new
      rw [after_bind]
      refine (ingestAsset_turn whole sound new enrichers).mono (fun outcome after turn => ?_)
        fun _ after gone => ?_
      · exact after_pure.mpr ⟨distinct, among, counts.count outcome,
          InLoop.turn member own table committed rows turn⟩
      · exact ⟨gone.table.trans table, gone.committed.trans committed,
          gone.flushed.trans committed, gone.rows.trans committed, gone.broken⟩
  · exact ⟨once, fun _ member => member, ⟨rfl, by simp⟩,
      Or.inr ⟨rfl, rfl, whole, fun _ => Or.inl rfl⟩⟩

end Loop

end Retrovue.Core.Assets
