/-
**The calls that change an asset's state** (`usecases/ingest_orchestrator.py`, `asset_reprobe.py`,
`asset_update.py`).

* `ingestCollectionAssets`: every new asset of a collection is enriched, and all is committed;
* `reprobeAsset`: one asset is reset and ingested again, the other new ones parked meanwhile;
* `reprobeCollection`: each asset of a collection in turn;
* `updateAssetReviewStatus`: an operator approves an asset or sets its state;
* `Call`, `perform`: any of them.
-/

import Retrovue.Core.Assets.Rows
import Retrovue.Foundation.Sorting

namespace Retrovue.Core.Assets

open Retrovue.Foundation.Attempts Attempt
open Retrovue.Foundation.Sorting

/-! ### Configuration -/

section Configuration

/-- An enricher as the configuration of a collection names it. -/
structure EnricherConf where
  enricherId : Option String := none
  type : Option String := none
  priority : Int := 999

structure Collection where
  uuid : CollectionId
  name : String
  enrichers : List EnricherConf

/-- The collections, the types of the enrichers in their table, and the registered types. -/
structure Catalogue where
  collections : CollectionId → Option Collection
  enricherTypes : String → Option String
  registered : String → Bool

/-- A text that should be a UUID, and what it names. -/
structure Uuid where
  text : String
  id : Option Nat

/-- `str(asset.uuid)`. -/
def Uuid.of (id : Nat) : Uuid := ⟨toString id, some id⟩

end Configuration

/-! ### Enriching one asset -/

section Enriching

/-- What is probed of a file. -/
structure Probed where
  durationMs : Option Int

/-- What an enricher makes of the item. -/
def Choice.enriched (item : Option Probed) : Choice → Option Probed
  | probes durationMs => some ⟨durationMs⟩
  | _ => item

inductive Outcome where
  | enriched
  | skipped
  | failed
  deriving DecidableEq

/-- `AssetPathResolver`, and the local path stored; whether there is one. -/
def resolvePath (id : AssetId) : Db Bool :=
  catching
    (do
      let choice ← ask
      if choice = .fails then raise .other
      else if choice = .missing then do
        assign id (Asset.setState .new)
        return false
      else do
        flush
        return true)
    fun _ => do
      active
      assign id (Asset.setState .new)
      return false

/-- The enrichers in sequence. One that raises is passed over. -/
def enrich (enrichers : List Int) : Db (Option Probed) :=
  enrichers.foldlM
    (fun item _ =>
      catching
        (do
          let choice ← ask
          if choice = .fails then raise .other else return choice.enriched item)
        fun _ => do
          active
          return item)
    none

/-- The probed duration, where there is one that is not zero. -/
def storeDuration (id : AssetId) (durationMs : Int) : Db Unit :=
  if durationMs ≠ 0 then assign id (Asset.setDuration durationMs) else pure ()

/-- The probed data is stored in the asset, its table and its markers. -/
def store (id : AssetId) (probed : Option Probed) : Db Unit := do
  storeDuration id ((probed.bind Probed.durationMs).getD 0)
  external
  query
  external

/-- The asset becomes ready if it has a duration. -/
def promote (id : AssetId) : Db Unit := do
  let asset ← row id
  if asset.hasDuration then do
    validateStateTransition asset.state .ready
    assign id (Asset.setState .ready)
  else do
    validateStateTransition asset.state .new
    assign id fun asset => { asset.setState .new with approvedForBroadcast := false }

/-- One turn of the loop over the new assets. -/
def ingestAsset (enrichers : List Int) (id : AssetId) : Db Outcome :=
  catching
    (do
      let asset ← row id
      validateStateTransition asset.state .enriching
      assign id (Asset.setState .enriching)
      flush
      query
      let found ← resolvePath id
      if found then do
        let probed ← enrich enrichers
        store id probed
        promote id
        flush
        return .enriched
      else return .skipped)
    fun _ => do
      active
      catching
        (do
          assign id (Asset.setState .new)
          flush)
        fun _ => return ()
      return .failed

end Enriching

/-! ### Ingesting a collection -/

section Ingesting

structure Summary where
  total : Nat
  enriched : Nat := 0
  skipped : Nat := 0
  failed : Nat := 0
  deriving DecidableEq

def Summary.count (summary : Summary) : Outcome → Summary
  | .enriched => { summary with enriched := summary.enriched + 1 }
  | .skipped => { summary with skipped := summary.skipped + 1 }
  | .failed => { summary with failed := summary.failed + 1 }

variable (catalogue : Catalogue)

/-- The type of an enricher, by itself or by its row. -/
def enricherType (conf : EnricherConf) : Db (Option String) :=
  if conf.type.getD "" = "" ∧ conf.enricherId.getD "" ≠ "" then do
    query
    return catalogue.enricherTypes (conf.enricherId.getD "")
  else return conf.type

/-- An enricher, by its priority; nothing where its type is unknown or it cannot be built. -/
def instantiate (conf : EnricherConf) : Db (Option Int) :=
  catching
    (do
      let type ← enricherType catalogue conf
      if type.any catalogue.registered then do
        external
        return some conf.priority
      else return none)
    fun _ => return none

/-- The enrichers that can be built, sorted by priority. -/
def instantiateAll (confs : List EnricherConf) : Db (List Int) := do
  let enrichers ← confs.foldlM
    (fun enrichers conf => do
      let enricher ← instantiate catalogue conf
      return enrichers ++ enricher.toList) []
  return sortByKey id enrichers

/-- The assets of a collection that the transaction has as new. -/
def Session.newAssets (s : Session) (collection : CollectionId) : List AssetId :=
  s.table.filter fun id => (s.flushed id).collection = collection ∧ (s.flushed id).state = .new

/-- **`ingest_collection_assets`.** -/
def ingestCollectionAssets (collection : Collection) : Db Summary := do
  query
  query
  query
  let assets ← look fun s => s.newAssets collection.uuid
  if assets = [] then return { total := 0 }
  else if collection.enrichers.isEmpty then
    return { total := assets.length, skipped := assets.length }
  else do
    let enrichers ← instantiateAll catalogue collection.enrichers
    if enrichers = [] then return { total := assets.length, skipped := assets.length }
    else do
      external
      let summary ← assets.foldlM
        (fun summary id => do
          let outcome ← ingestAsset enrichers id
          return summary.count outcome)
        { total := assets.length }
      commit
      return summary

end Ingesting

/-! ### Probing again -/

section Reprobing

variable (catalogue : Catalogue)

structure ReprobeResult where
  uuid : AssetId
  uri : String
  oldState : AssetState
  newState : AssetState
  oldDurationMs : Option Int
  newDurationMs : Option Int
  enrichmentSummary : Summary
  deriving DecidableEq

/-- Some assets are set to a state. -/
def park (others : List AssetId) (state : AssetState) : Db Unit :=
  others.foldlM (fun _ other => assign other (Asset.setState state)) ()

/-- The orchestrator for the collection of an asset, its other new assets set to `enriching` meanwhile. -/
def ingestAlone (id : AssetId) (collection : Collection) : Db Summary := do
  query
  let others ← look fun s => (s.newAssets collection.uuid).filter (· ≠ id)
  park others .enriching
  flush
  ensuring (ingestCollectionAssets catalogue collection) (do
    park others .new
    flush)

/-- **`reprobe_asset`.** -/
def reprobeAsset (assetUuid : Uuid) : Db ReprobeResult :=
  match assetUuid.id with
  | none => raise (.value ("Invalid asset UUID: " ++ assetUuid.text))
  | some id => do
    query
    let known ← look fun s => decide (id ∈ s.table)
    if known then do
      let asset ← row id
      match catalogue.collections asset.collection with
      | none => raise (.value ("Asset " ++ assetUuid.text ++ " has no collection"))
      | some collection => do
        query
        query
        assign id Asset.reset
        flush
        let summary ← ingestAlone catalogue id collection
        query
        change fun s => { s with rows := Function.update s.rows id (s.flushed id) }
        let fresh ← row id
        return {
          uuid := id
          uri := fresh.uri
          oldState := asset.state
          newState := fresh.state
          oldDurationMs := asset.durationMs
          newDurationMs := fresh.durationMs
          enrichmentSummary := summary }
    else raise (.value ("Asset not found: " ++ assetUuid.text))

/-- What is reported of one asset of a collection. -/
inductive ReprobeEntry where
  | result (result : ReprobeResult)
  | error (uuid : AssetId) (uri : String) (error : Fault)
  deriving DecidableEq

/-- What is reported of a collection. -/
structure ReprobeReport where
  collectionUuid : String
  collectionName : String
  total : Nat
  succeeded : Option Nat := none
  failed : Option Nat := none
  results : List ReprobeEntry

def ReprobeEntry.succeeded : ReprobeEntry → Bool
  | .result entry => entry.newState = .ready
  | .error _ _ _ => false

def ReprobeEntry.failed : ReprobeEntry → Bool
  | .result _ => false
  | .error _ _ _ => true

/-- One turn of the loop over the assets of a collection. -/
def reprobeEntry (id : AssetId) : Db ReprobeEntry :=
  catching
    (do
      active
      let result ← reprobeAsset catalogue (Uuid.of id)
      return .result result)
    fun error => do
      let asset ← row id
      return .error id asset.uri error

/-- The assets that are probed again, at most `limit` of them. -/
def Session.selected (s : Session) (collection : CollectionId) (includeReady : Bool)
    (limit : Option Int) : List AssetId :=
  let assets := s.table.filter fun id =>
    (s.flushed id).collection = collection ∧ (includeReady = true ∨ (s.flushed id).state ≠ .ready)
  if limit.getD 0 = 0 then assets else assets.take (limit.getD 0).toNat

/-- **`reprobe_collection`.** -/
def reprobeCollection (collectionUuid : Uuid) (includeReady : Bool) (limit : Option Int) :
    Db ReprobeReport :=
  match collectionUuid.id with
  | none => raise (.value ("Invalid collection UUID: " ++ collectionUuid.text))
  | some id => do
    query
    match catalogue.collections id with
    | none => raise (.value ("Collection not found: " ++ collectionUuid.text))
    | some collection => do
      query
      if limit.getD 0 < 0 then raise .database
      else do
        let assets ← look fun s => s.selected collection.uuid includeReady limit
        if assets = [] then
          return {
            collectionUuid := collectionUuid.text
            collectionName := collection.name
            total := 0
            results := [] }
        else do
          let results ← assets.foldlM
            (fun results id => do
              let entry ← reprobeEntry catalogue id
              return results ++ [entry]) []
          return {
            collectionUuid := collectionUuid.text
            collectionName := collection.name
            total := results.length
            succeeded := some (results.countP ReprobeEntry.succeeded)
            failed := some (results.countP ReprobeEntry.failed)
            results := results }

end Reprobing

/-! ### Review -/

section Review

structure AssetSummary where
  uuid : AssetId
  collectionUuid : CollectionId
  uri : String
  state : AssetState
  approvedForBroadcast : Bool
  deriving DecidableEq

/-- The operator's approval. -/
def approve (id : AssetId) (approved : Option Bool) : Db Unit :=
  if approved = some true then assign id fun asset => { asset with approvedForBroadcast := true }
  else pure ()

/-- The state that the operator sets. -/
def setReviewState (id : AssetId) (state : Option AssetState) : Db Unit :=
  match state with
  | some state => assign id (Asset.setState state)
  | none => pure ()

/-- **`update_asset_review_status`.** -/
def updateAssetReviewStatus (assetUuid : Uuid) (approved : Option Bool) (state : Option AssetState) :
    Db AssetSummary :=
  match assetUuid.id with
  | none => raise (.value "Asset not found")
  | some id => do
    query
    let known ← look fun s => decide (id ∈ s.table)
    if known then do
      approve id approved
      setReviewState id state
      let asset ← row id
      return {
        uuid := id
        collectionUuid := asset.collection
        uri := asset.uri
        state := asset.state
        approvedForBroadcast := asset.approvedForBroadcast }
    else raise (.value "Asset not found")

end Review

/-! ### Any call -/

section Calls

inductive Call where
  | ingest (collection : Collection)
  | reprobe (assetUuid : Uuid)
  | reprobeAll (collectionUuid : Uuid) (includeReady : Bool) (limit : Option Int)
  | update (assetUuid : Uuid) (approved : Option Bool) (state : Option AssetState)

/-- What a call returns. -/
inductive Reply where
  | summary (summary : Summary)
  | reprobed (result : ReprobeResult)
  | report (report : ReprobeReport)
  | asset (summary : AssetSummary)

variable (catalogue : Catalogue)

def perform : Call → Db Reply
  | .ingest collection => do
    let summary ← ingestCollectionAssets catalogue collection
    return .summary summary
  | .reprobe assetUuid => do
    let result ← reprobeAsset catalogue assetUuid
    return .reprobed result
  | .reprobeAll collectionUuid includeReady limit => do
    let report ← reprobeCollection catalogue collectionUuid includeReady limit
    return .report report
  | .update assetUuid approved state => do
    let asset ← updateAssetReviewStatus assetUuid approved state
    return .asset asset

/-- The ingest summaries in a reply. -/
def ReprobeEntry.summaries : ReprobeEntry → List Summary
  | .result entry => [entry.enrichmentSummary]
  | .error _ _ _ => []

def Reply.summaries : Reply → List Summary
  | .summary own => [own]
  | .reprobed entry => [entry.enrichmentSummary]
  | .report all => all.results.flatMap ReprobeEntry.summaries
  | .asset _ => []

/-- **A step**: a call, or the end of the unit of work. -/
inductive Event where
  | call (call : Call) (script : List Choice)
  | commit (script : List Choice)
  | rollback

/-- What a call returns or raises, and the session it leaves. -/
def Session.call (s : Session) (call : Call) (script : List Choice) : Except Fault Reply × Session :=
  perform catalogue call { s with script := script }

def step (s : Session) : Event → Option Session
  | .call call script => some (s.call catalogue call script).2
  | .commit script => some (commit { s with script := script }).2
  | .rollback => some (rollback s).2

end Calls

end Retrovue.Core.Assets
