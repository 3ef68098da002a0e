import TridentPos.Edge.SyncPersistence
import TridentPos.Library.DeltaSync
import TridentPos.Library.Interleaving
import TridentPos.Library.Utf16

/-!
# Catalog deltas

The cloud keeps the catalog of every organization and one snapshot version for all of them. An edge
node asks for what has changed since the version of its checkpoint, and activates the answer and the
new checkpoint in one transaction. Requests of one node overlap, and their answers arrive late, out
of order or not at all; an answer that is older than the checkpoint is rolled back.
-/
namespace TridentPos.Edge

open Core Library Interleaving Fallible List

/-! ### Deltas -/

inductive CatalogAction where
  | upsert
  | delete
deriving DecidableEq

def CatalogAction.text : CatalogAction → String
  | .upsert => "UPSERT"
  | .delete => "DELETE"

structure CatalogEntityRecord (Data : Type) where
  (entityType entityId : String)
  action : CatalogAction
  data : Data
  version : Nat
deriving DecidableEq

structure CatalogDeltaResponse (Data : Type) where
  (snapshotVersion deltaVersion : Nat)
  checksum : String
  entities : List (CatalogEntityRecord Data)

/-- `JSON.stringify`, the order of `localeCompare`, and SHA-256 in hexadecimal. -/
structure DeltaTexts (Data : Type) where
  stringify : Data → String
  localeLe : String → String → Bool
  sha256 : String → String

variable {Data : Type}

def CatalogEntityRecord.sortKey (entity : CatalogEntityRecord Data) : String :=
  entity.entityType ++ ":" ++ entity.entityId ++ ":" ++ toString entity.version

def CatalogEntityRecord.json (texts : DeltaTexts Data) (entity : CatalogEntityRecord Data) :
    String :=
  let quote (text : String) := String.ofList (JsonText.quoteChars text.toList)
  "[" ++ quote entity.entityType ++ "," ++ quote entity.entityId ++ "," ++
    quote entity.action.text ++ "," ++ toString entity.version ++ "," ++
    texts.stringify entity.data ++ "]"

open CatalogEntityRecord

def computeCatalogDeltaChecksum (texts : DeltaTexts Data)
    (entities : List (CatalogEntityRecord Data)) : String :=
  let sorted := entities.insertionSort fun a b => texts.localeLe a.sortKey b.sortKey
  texts.sha256 ("[" ++ ",".intercalate (sorted.map (json texts)) ++ "]")

/-! ### The service -/

structure CloudCatalogDeltaService (Data : Type) where
  catalogStore : List (String × List (CatalogEntityRecord Data))
  currentSnapshotVersion : Nat

namespace CloudCatalogDeltaService

def initial : CloudCatalogDeltaService Data := ⟨[], 1⟩

variable (service : CloudCatalogDeltaService Data)

def setEntities (orgId : String)
    (entities : List (CatalogEntityRecord Data)) (snapshotVersion : Option Nat) :
    CloudCatalogDeltaService Data :=
  { catalogStore := Table.upsert (fun entry => entry.1 == orgId) (fun _ => (orgId, entities))
      (orgId, entities) service.catalogStore
    currentSnapshotVersion := snapshotVersion.getD (service.currentSnapshotVersion + 1) }

def orgEntities (orgId : String) : List (CatalogEntityRecord Data) :=
  ((service.catalogStore.find? fun entry => entry.1 == orgId).map Prod.snd).getD []

def getCatalogDeltas (texts : DeltaTexts Data) (service : CloudCatalogDeltaService Data)
    (auth : AuthContext) (sinceSnapshotVersion : Nat) : CatalogDeltaResponse Data :=
  let entities := (service.orgEntities auth.organizationId).filter fun entity =>
    sinceSnapshotVersion < entity.version
  { snapshotVersion := service.currentSnapshotVersion
    deltaVersion := (entities.map fun entity => entity.version).max?.getD sinceSnapshotVersion
    checksum := computeCatalogDeltaChecksum texts entities, entities := entities }

theorem orgEntities_setEntities (orgId : String)
    (entities : List (CatalogEntityRecord Data)) (snapshotVersion : Option Nat) (other : String) :
    (service.setEntities orgId entities snapshotVersion).orgEntities other =
      if other = orgId then entities else service.orgEntities other := by
  split
  next same =>
    subst same
    have found := Table.find?_upsert_self (fun entry => entry.1 == other)
      (fun _ => (other, entities)) (other, entities) service.catalogStore (by simp) (by simp)
    rw [orgEntities, setEntities, found]
    cases service.catalogStore.find? fun entry => entry.1 == other <;> rfl
  next differs =>
    rw [orgEntities, setEntities, Table.find?_upsert_other, orgEntities]
    · intro entry hit
      have isOrg : entry.1 = orgId := by simpa using hit
      simpa [isOrg] using Ne.symm differs
    · simpa using Ne.symm differs
    · simpa using Ne.symm differs

end CloudCatalogDeltaService

/-! ### The edge node -/

structure CatalogEntityRow where
  (entityType entityId : String)
  version : Nat
  payload : String
deriving DecidableEq

structure CatalogStagingRow where
  (snapshotVersion deltaVersion : Nat)
  (checksum entityType entityId : String)
  action : CatalogAction
  payload : String

structure CatalogStore where
  catalogStaging : List CatalogStagingRow
  catalogEntities : List CatalogEntityRow
  checkpoints : List SyncCheckpointRecord

def CatalogEntityRow.key (row : CatalogEntityRow) : String × String :=
  (row.entityType, row.entityId)

def CatalogEntityRecord.key (entity : CatalogEntityRecord Data) : String × String :=
  (entity.entityType, entity.entityId)

def CatalogEntityRecord.toRow (texts : DeltaTexts Data) (entity : CatalogEntityRecord Data) :
    CatalogEntityRow :=
  ⟨entity.entityType, entity.entityId, entity.version, texts.stringify entity.data⟩

@[simp] theorem key_toRow (texts : DeltaTexts Data) (entity : CatalogEntityRecord Data) :
    (entity.toRow texts).key = entity.key := rfl

/-- The statement on `catalog_entities` for one entity. -/
def activateEntity (texts : DeltaTexts Data) (rows : List CatalogEntityRow)
    (entity : CatalogEntityRecord Data) : List CatalogEntityRow :=
  match entity.action with
  | .delete => rows.filter fun row => row.key ≠ entity.key
  | .upsert =>
    Table.upsert (fun row => decide (row.key = entity.key))
      (fun row => { row with
        version := entity.version, payload := texts.stringify entity.data })
      (entity.toRow texts) rows

def stagingRow (texts : DeltaTexts Data) (delta : CatalogDeltaResponse Data)
    (entity : CatalogEntityRecord Data) : CatalogStagingRow :=
  { snapshotVersion := delta.snapshotVersion, deltaVersion := delta.deltaVersion
    checksum := delta.checksum, entityType := entity.entityType, entityId := entity.entityId
    action := entity.action, payload := texts.stringify entity.data }

def catalogCheckpoint (auth : AuthContext) (snapshotVersion : Nat) : SyncCheckpointRecord :=
  { organizationId := auth.organizationId, branchId := auth.branchId, streamType := .catalogDelta
    checkpointType := "DOWNSTREAM_SNAPSHOT", lastSyncedSequence := 0
    lastSnapshotVersion := snapshotVersion }

/-- The transaction returns the new store, or rolls back with the error of its checkpoint. -/
def applyCatalogDelta (texts : DeltaTexts Data) (store : CatalogStore) (auth : AuthContext)
    (delta : CatalogDeltaResponse Data) : Except String CatalogStore := do
  let expectedChecksum := computeCatalogDeltaChecksum texts delta.entities
  if delta.checksum ≠ expectedChecksum then
    throw ("DELTA_CHECKSUM_MISMATCH: Received checksum " ++ delta.checksum ++
      " does not match computed " ++ expectedChecksum)
  let checkpoints ← upsertCheckpoint store.checkpoints
    (catalogCheckpoint auth delta.snapshotVersion)
  return { catalogStaging := store.catalogStaging ++ delta.entities.map (stagingRow texts delta)
           catalogEntities := delta.entities.foldl (activateEntity texts) store.catalogEntities
           checkpoints := checkpoints }

def CatalogStore.lastSnapshot (store : CatalogStore) : Nat :=
  ((getCheckpoint store.checkpoints .catalogDelta).map (·.lastSnapshotVersion)).getD 0

variable {texts : DeltaTexts Data} {store store' : CatalogStore} {delta : CatalogDeltaResponse Data}

theorem applyCatalogDelta_eq_ok {auth : AuthContext}
    (applied : applyCatalogDelta texts store auth delta = .ok store') :
    store.lastSnapshot ≤ delta.snapshotVersion ∧
    store'.catalogEntities = delta.entities.foldl (activateEntity texts) store.catalogEntities ∧
    ∃ checkpoint, getCheckpoint store'.checkpoints .catalogDelta = some checkpoint ∧
      checkpoint.lastSnapshotVersion = delta.snapshotVersion := by
  simp only [applyCatalogDelta, guard_eq_ok, bind_eq_ok, pure_eq_ok] at applied
  obtain ⟨-, checkpoints, written, rfl⟩ := applied
  obtain ⟨onward, ⟨stored, found, -, snapshot⟩, -⟩ := upsertCheckpoint_eq_ok written
  refine ⟨?_, rfl, stored, found, snapshot⟩
  rw [CatalogStore.lastSnapshot]
  cases isStored : getCheckpoint store.checkpoints .catalogDelta with
  | none => exact Nat.zero_le _
  | some existing => exact (onward existing isStored).2

/-! ### The table of an edge node -/

def catalogSync (texts : DeltaTexts Data) :
    DeltaSync (CatalogEntityRecord Data) (String × String) CatalogEntityRow where
  key := key
  stamp := version
  row := fun entity =>
    match entity.action with
    | .upsert => some (entity.toRow texts)
    | .delete => none

def lookup (rows : List CatalogEntityRow) (key : String × String) : Option CatalogEntityRow :=
  rows.find? fun row => decide (row.key = key)

theorem catalogSync_row_key (texts : DeltaTexts Data) (entity : CatalogEntityRecord Data)
    (row : CatalogEntityRow) (isRow : (catalogSync texts).row entity = some row) :
    row.key = (catalogSync texts).key entity := by
  simp only [catalogSync] at isRow
  split at isRow
  next => exact (Option.some.inj isRow) ▸ rfl
  next => simp at isRow

theorem filterMap_row (texts : DeltaTexts Data) (entities : List (CatalogEntityRecord Data)) :
    entities.filterMap (catalogSync texts).row =
      (entities.filter fun entity => entity.action == .upsert).map
        (toRow texts) := by
  rw [← filterMap_eq_map, filterMap_filter]
  refine filterMap_congr fun entity _ => ?_
  cases action : entity.action <;> simp [catalogSync, action]

theorem lookup_activateEntity (texts : DeltaTexts Data) (rows : List CatalogEntityRow)
    (entity : CatalogEntityRecord Data) :
    lookup (activateEntity texts rows entity) = (catalogSync texts).put (lookup rows) entity := by
  funext key
  change lookup (activateEntity texts rows entity) key =
    Function.update (lookup rows) entity.key ((catalogSync texts).row entity) key
  by_cases same : key = entity.key
  · subst same
    rw [Function.update_self]
    cases action : entity.action with
    | delete => simp [lookup, activateEntity, catalogSync, action]
    | upsert =>
      simp only [lookup, activateEntity, catalogSync, action]
      rw [Table.find?_upsert_self]
      · cases found : rows.find? fun row => decide (row.key = entity.key) with
        | none => rfl
        | some row =>
          have sameKey : row.key = entity.key := by simpa using find?_some found
          simp only [CatalogEntityRow.key, key, Prod.mk.injEq] at sameKey
          simp [toRow, sameKey]
      · exact fun _ hit => hit
      · simp
  · rw [Function.update_of_ne same]
    have apart (row : CatalogEntityRow) (sameKey : row.key = entity.key) :
        decide (row.key = key) = false := by
      simpa [sameKey] using Ne.symm same
    cases action : entity.action with
    | delete =>
      simp only [lookup, activateEntity, action, find?_filter]
      refine congrArg (fun p => rows.find? p) (funext fun row => ?_)
      by_cases hit : row.key = key
      · simp [hit, same]
      · simp [hit]
    | upsert =>
      simp only [lookup, activateEntity, action]
      refine Table.find?_upsert_other _ _ _ _ _ ?_ ?_ (apart _ (key_toRow texts entity))
      · exact fun row hit => apart row (by simpa using hit)
      · exact fun row hit => apart row (by simpa using hit)

theorem nodup_activateEntity (texts : DeltaTexts Data) {rows : List CatalogEntityRow}
    (entity : CatalogEntityRecord Data) (distinct : (rows.map CatalogEntityRow.key).Nodup) :
    ((activateEntity texts rows entity).map CatalogEntityRow.key).Nodup := by
  unfold activateEntity
  split
  next => exact distinct.sublist (filter_sublist.map _)
  unfold Table.upsert
  split
  next =>
    rw [Table.map_updateWhere _ _ CatalogEntityRow.key]
    · exact distinct
    · exact fun _ => rfl
  next absent =>
    rw [map_append, map_singleton]
    refine Table.nodup_append_singleton distinct fun member => ?_
    obtain ⟨row, isRow, same⟩ := mem_map.mp member
    exact absent (any_eq_true.mpr ⟨row, isRow, by simpa using same⟩)

theorem foldl_activateEntity (texts : DeltaTexts Data) (rows : List CatalogEntityRow)
    (entities : List (CatalogEntityRecord Data)) (distinct : (rows.map CatalogEntityRow.key).Nodup) :
    lookup (entities.foldl (activateEntity texts) rows) =
        entities.foldl (catalogSync texts).put (lookup rows) ∧
      ((entities.foldl (activateEntity texts) rows).map CatalogEntityRow.key).Nodup := by
  induction entities generalizing rows with
  | nil => exact ⟨rfl, distinct⟩
  | cons entity entities ih =>
    obtain ⟨reads, distinct'⟩ := ih _ (nodup_activateEntity texts entity distinct)
    rw [foldl_cons, foldl_cons, ← lookup_activateEntity]
    exact ⟨reads, distinct'⟩

/-! ### Runs -/

variable {ι : Type}

structure EdgeNode where
  auth : AuthContext
  store : CatalogStore

structure CatalogSystem (ι Data : Type) where
  service : CloudCatalogDeltaService Data
  published : List (CloudCatalogDeltaService Data)
  edges : ι → EdgeNode

def CatalogSystem.setStore [DecidableEq ι] (system : CatalogSystem ι Data) (edge : ι)
    (store : CatalogStore) : CatalogSystem ι Data :=
  { system with edges := Function.update system.edges edge ⟨(system.edges edge).auth, store⟩ }

/-- Where a call of `pullCatalogDeltas` stands. -/
inductive PullState (Data : Type) where
  | start
  | asked (sinceSnapshotVersion : Nat)
  | answered (delta : CatalogDeltaResponse Data)
  | done (result : Except String (Option (CatalogDeltaResponse Data)))

structure Pull (ι Data : Type) where
  edge : ι
  state : PullState Data

/-- What a call meets: whether the client is connected, and whether its message gets lost. -/
structure PullOracle where
  connected : Bool
  failure : Option String

def Pull.step [DecidableEq ι] (texts : DeltaTexts Data) (oracle : PullOracle)
    (system : CatalogSystem ι Data) (pull : Pull ι Data) : CatalogSystem ι Data × Pull ι Data :=
  let node := system.edges pull.edge
  match pull.state, oracle.failure with
  | .start, _ =>
    if oracle.connected then (system, ⟨pull.edge, .asked node.store.lastSnapshot⟩)
    else (system, ⟨pull.edge, .done (.ok none)⟩)
  | .asked _, some failure => (system, ⟨pull.edge, .done (.error failure)⟩)
  | .asked sinceSnapshotVersion, none =>
    (system, ⟨pull.edge,
      .answered (system.service.getCatalogDeltas texts node.auth sinceSnapshotVersion)⟩)
  | .answered _, some failure => (system, ⟨pull.edge, .done (.error failure)⟩)
  | .answered delta, none =>
    if delta.entities.isEmpty then (system, ⟨pull.edge, .done (.ok (some delta))⟩)
    else
      match applyCatalogDelta texts node.store node.auth delta with
      | .error e => (system, ⟨pull.edge, .done (.error e)⟩)
      | .ok store =>
        (system.setStore pull.edge store, ⟨pull.edge, .done (.ok (some delta))⟩)
  | .done _, _ => (system, pull)

def PullMove [DecidableEq ι] (texts : DeltaTexts Data) (system : CatalogSystem ι Data)
    (pull : Pull ι Data) (system' : CatalogSystem ι Data) (pull' : Pull ι Data) : Prop :=
  ∃ oracle, pull.step texts oracle system = (system', pull')

/-- How the catalog of an organization is replaced: by one record for every key there was, stamped
with the new version where it changes. -/
structure ProperRelease (service : CloudCatalogDeltaService Data) (orgId : String)
    (entities : List (CatalogEntityRecord Data)) (snapshotVersion : Nat) : Prop where
  later : service.currentSnapshotVersion < snapshotVersion
  distinct : (entities.map key).Nodup
  kept : ∀ old ∈ service.orgEntities orgId, ∃ entity ∈ entities, entity.key = old.key
  stamped : ∀ entity ∈ entities,
    entity ∈ service.orgEntities orgId ∨ entity.version = snapshotVersion

inductive CatalogSurroundings [DecidableEq ι] :
    CatalogSystem ι Data → CatalogSystem ι Data → Prop
  | releases (system : CatalogSystem ι Data) (service' : CloudCatalogDeltaService Data)
      (orgId : String) (entities : List (CatalogEntityRecord Data)) (snapshotVersion : Option Nat)
      (set : service' = system.service.setEntities orgId entities snapshotVersion)
      (proper : ProperRelease system.service orgId entities service'.currentSnapshotVersion) :
      CatalogSurroundings system
        { system with service := service', published := service' :: system.published }
  | flushes (system : CatalogSystem ι Data) (edge : ι) (checkpoints : List SyncCheckpointRecord)
      (kept : getCheckpoint checkpoints .catalogDelta =
        getCheckpoint (system.edges edge).store.checkpoints .catalogDelta) :
      CatalogSurroundings system
        (system.setStore edge { (system.edges edge).store with checkpoints := checkpoints })

abbrev CatalogReachable [DecidableEq ι] (texts : DeltaTexts Data) :
    Pool (CatalogSystem ι Data) (Pull ι Data) → Pool (CatalogSystem ι Data) (Pull ι Data) → Prop :=
  Reachable (PullMove texts) CatalogSurroundings

structure CatalogSystem.Fresh (system : CatalogSystem ι Data) : Prop where
  service : system.service = .initial
  published : system.published = [.initial]
  checkpoints : ∀ edge, getCheckpoint (system.edges edge).store.checkpoints .catalogDelta = none
  entities : ∀ edge, (system.edges edge).store.catalogEntities = []

/-! ### What every step keeps -/

structure CatalogSystem.Grows (system system' : CatalogSystem ι Data) : Prop where
  published : system.published ⊆ system'.published
  auth : ∀ edge, (system'.edges edge).auth = (system.edges edge).auth
  onward : ∀ edge, (system.edges edge).store.lastSnapshot ≤ (system'.edges edge).store.lastSnapshot

theorem CatalogSystem.Grows.refl (system : CatalogSystem ι Data) : system.Grows system :=
  ⟨List.Subset.refl _, fun _ => rfl, fun _ => Nat.le_refl _⟩

theorem CatalogSystem.Grows.trans {first second third : CatalogSystem ι Data}
    (grows : first.Grows second) (more : second.Grows third) : first.Grows third :=
  ⟨List.Subset.trans grows.published more.published,
    fun edge => (more.auth edge).trans (grows.auth edge),
    fun edge => (grows.onward edge).trans (more.onward edge)⟩

theorem setStore_self [DecidableEq ι] (system : CatalogSystem ι Data) (edge : ι)
    (store : CatalogStore) :
    (system.setStore edge store).edges edge = ⟨(system.edges edge).auth, store⟩ :=
  Function.update_self _ _ _

theorem setStore_other [DecidableEq ι] (system : CatalogSystem ι Data) {edge : ι}
    (store : CatalogStore) {other : ι} (differs : other ≠ edge) :
    (system.setStore edge store).edges other = system.edges other :=
  Function.update_of_ne differs _ _

theorem CatalogSystem.Grows.setStore [DecidableEq ι] (system : CatalogSystem ι Data) (edge : ι)
    (store : CatalogStore) (onward : (system.edges edge).store.lastSnapshot ≤ store.lastSnapshot) :
    system.Grows (system.setStore edge store) := by
  refine ⟨List.Subset.refl _, fun other => ?_, fun other => ?_⟩
  · by_cases same : other = edge
    · subst same
      rw [setStore_self]
    · rw [setStore_other _ _ same]
  · by_cases same : other = edge
    · subst same
      rw [setStore_self]
      exact onward
    · rw [setStore_other _ _ same]

variable {system system' : CatalogSystem ι Data}

theorem PullMove.cases [DecidableEq ι] {pull pull' : Pull ι Data}
    (moved : PullMove texts system pull system' pull') :
    pull'.edge = pull.edge ∧
    (system' = system ∧
        (pull'.state = .asked (system.edges pull.edge).store.lastSnapshot ∨
          (∃ sinceSnapshotVersion, pull.state = .asked sinceSnapshotVersion ∧
            pull'.state = .answered (system.service.getCatalogDeltas texts
              (system.edges pull.edge).auth sinceSnapshotVersion)) ∨
          ∃ result, pull'.state = .done result) ∨
      ∃ delta store, pull.state = .answered delta ∧ (∃ result, pull'.state = .done result) ∧
        applyCatalogDelta texts (system.edges pull.edge).store (system.edges pull.edge).auth
          delta = .ok store ∧
        system' = system.setStore pull.edge store) := by
  obtain ⟨oracle, stepped⟩ := moved
  simp only [Pull.step] at stepped
  split at stepped
  next =>
    split at stepped <;> obtain ⟨rfl, rfl⟩ := Prod.mk.inj stepped
    next => exact ⟨rfl, .inl ⟨rfl, .inl rfl⟩⟩
    next => exact ⟨rfl, .inl ⟨rfl, .inr (.inr ⟨_, rfl⟩)⟩⟩
  next =>
    obtain ⟨rfl, rfl⟩ := Prod.mk.inj stepped
    exact ⟨rfl, .inl ⟨rfl, .inr (.inr ⟨_, rfl⟩)⟩⟩
  next sinceSnapshotVersion isAsked _ =>
    obtain ⟨rfl, rfl⟩ := Prod.mk.inj stepped
    exact ⟨rfl, .inl ⟨rfl, .inr (.inl ⟨sinceSnapshotVersion, isAsked, rfl⟩)⟩⟩
  next =>
    obtain ⟨rfl, rfl⟩ := Prod.mk.inj stepped
    exact ⟨rfl, .inl ⟨rfl, .inr (.inr ⟨_, rfl⟩)⟩⟩
  next delta isAnswered _ =>
    split at stepped
    next =>
      obtain ⟨rfl, rfl⟩ := Prod.mk.inj stepped
      exact ⟨rfl, .inl ⟨rfl, .inr (.inr ⟨_, rfl⟩)⟩⟩
    split at stepped <;> obtain ⟨rfl, rfl⟩ := Prod.mk.inj stepped
    next => exact ⟨rfl, .inl ⟨rfl, .inr (.inr ⟨_, rfl⟩)⟩⟩
    next store applied => exact ⟨rfl, .inr ⟨delta, store, isAnswered, ⟨_, rfl⟩, applied, rfl⟩⟩
  next result isDone =>
    obtain ⟨rfl, rfl⟩ := Prod.mk.inj stepped
    exact ⟨rfl, .inl ⟨rfl, .inr (.inr ⟨result, isDone⟩)⟩⟩

theorem applyCatalogDelta_onward {auth : AuthContext}
    (applied : applyCatalogDelta texts store auth delta = .ok store') :
    store.lastSnapshot ≤ delta.snapshotVersion ∧ store'.lastSnapshot = delta.snapshotVersion := by
  obtain ⟨onward, -, checkpoint, stored, snapshot⟩ := applyCatalogDelta_eq_ok applied
  exact ⟨onward, by simp [CatalogStore.lastSnapshot, stored, snapshot]⟩

section Steps

variable [DecidableEq ι]

theorem PullMove.grows {pull pull' : Pull ι Data}
    (moved : PullMove texts system pull system' pull') : system.Grows system' := by
  rcases (PullMove.cases moved).2 with
    ⟨rfl, -⟩ | ⟨delta, store, -, -, applied, rfl⟩
  · exact .refl _
  · obtain ⟨onward, reached⟩ := applyCatalogDelta_onward applied
    exact .setStore system pull.edge store (by rw [reached]; exact onward)

theorem CatalogSurroundings.grows (moved : CatalogSurroundings system system') :
    system.Grows system' := by
  cases moved with
  | releases service' orgId entities snapshotVersion set proper =>
    exact ⟨subset_cons_self _ _, fun _ => rfl, fun _ => Nat.le_refl _⟩
  | flushes edge checkpoints kept =>
    refine .setStore system edge _ (Nat.le_of_eq ?_)
    simp [CatalogStore.lastSnapshot, kept]

theorem CatalogReachable.grows {pool pool' : Pool (CatalogSystem ι Data) (Pull ι Data)}
    (run : CatalogReachable texts pool pool') : pool.shared.Grows pool'.shared := by
  induction run with
  | refl => exact .refl _
  | tail _ step ih =>
    cases step with
    | call s s' t t' before after moved =>
      exact ih.trans (PullMove.grows moved)
    | others s s' calls moved => exact ih.trans (CatalogSurroundings.grows moved)

end Steps

/-! ### Releases -/

structure CatalogSystem.Released (texts : DeltaTexts Data) (system : CatalogSystem ι Data) :
    Prop where
  current : system.service ∈ system.published
  newest : ∀ s ∈ system.published, s.currentSnapshotVersion ≤ system.service.currentSnapshotVersion
  single : ∀ s ∈ system.published, ∀ t ∈ system.published,
    s.currentSnapshotVersion = t.currentSnapshotVersion → s = t
  distinct : ∀ s ∈ system.published, ∀ orgId, ((s.orgEntities orgId).map key).Nodup
  revises : ∀ s ∈ system.published, ∀ t ∈ system.published,
    s.currentSnapshotVersion ≤ t.currentSnapshotVersion → ∀ orgId,
      (catalogSync texts).Revises s.currentSnapshotVersion (s.orgEntities orgId)
        (t.orgEntities orgId)
  first : ∀ s ∈ system.published, ∀ orgId, (catalogSync texts).Revises 0 [] (s.orgEntities orgId)

variable {entities : List (CatalogEntityRecord Data)} {snapshotVersion : Option Nat}

theorem ProperRelease.revises {service : CloudCatalogDeltaService Data} {orgId : String}
    (proper : ProperRelease service orgId entities
      (service.setEntities orgId entities snapshotVersion).currentSnapshotVersion) {version : Nat}
    (early : version ≤ service.currentSnapshotVersion) {old : List (CatalogEntityRecord Data)}
    {other : String}
    (revised : (catalogSync texts).Revises version old (service.orgEntities other)) :
    (catalogSync texts).Revises version old
      ((service.setEntities orgId entities snapshotVersion).orgEntities other) := by
  rw [CloudCatalogDeltaService.orgEntities_setEntities]
  split
  next same =>
    subst same
    exact revised.release _ (Nat.lt_of_le_of_lt early proper.later) proper.kept proper.stamped
  next => exact revised

theorem CatalogSystem.Released.release (released : system.Released texts) {orgId : String}
    (proper : ProperRelease system.service orgId entities
      (system.service.setEntities orgId entities snapshotVersion).currentSnapshotVersion) :
    Released texts
      { system with
        service := system.service.setEntities orgId entities snapshotVersion
        published := system.service.setEntities orgId entities snapshotVersion ::
          system.published } := by
  have later := proper.later
  have below (s : CloudCatalogDeltaService Data) (member : s ∈ system.published) :
      s.currentSnapshotVersion <
        (system.service.setEntities orgId entities snapshotVersion).currentSnapshotVersion :=
    Nat.lt_of_le_of_lt (released.newest s member) later
  refine ⟨mem_cons_self, ?_, ?_, ?_, ?_, ?_⟩
  · intro s member
    rcases mem_cons.mp member with rfl | old
    · exact Nat.le_refl _
    · exact Nat.le_of_lt (below s old)
  · intro s isS t isT same
    rcases mem_cons.mp isS with rfl | oldS <;> rcases mem_cons.mp isT with rfl | oldT
    · rfl
    · have := below t oldT
      omega
    · have := below s oldS
      omega
    · exact released.single s oldS t oldT same
  · intro s member other
    rcases mem_cons.mp member with rfl | old
    · rw [CloudCatalogDeltaService.orgEntities_setEntities]
      split
      next => exact proper.distinct
      next => exact released.distinct _ released.current other
    · exact released.distinct s old other
  · intro s isS t isT ordered other
    rcases mem_cons.mp isT with rfl | oldT
    · rcases mem_cons.mp isS with rfl | oldS
      · exact .refl _ _ _
      · exact proper.revises (released.newest s oldS)
          (released.revises s oldS _ released.current (released.newest s oldS) other)
    · rcases mem_cons.mp isS with rfl | oldS
      · have := below t oldT
        omega
      · exact released.revises s oldS t oldT ordered other
  · intro s member other
    rcases mem_cons.mp member with rfl | old
    · exact proper.revises (Nat.zero_le _) (released.first _ released.current other)
    · exact released.first s old other

/-! ### Edge nodes in step with the releases -/

def CatalogSystem.StandsAt (system : CatalogSystem ι Data) (edge : ι)
    (records : List (CatalogEntityRecord Data)) : Prop :=
  match getCheckpoint (system.edges edge).store.checkpoints .catalogDelta with
  | none => records = []
  | some checkpoint => ∃ s ∈ system.published,
      s.currentSnapshotVersion = checkpoint.lastSnapshotVersion ∧
      records = s.orgEntities (system.edges edge).auth.organizationId

structure CatalogSystem.InStep (texts : DeltaTexts Data) (system : CatalogSystem ι Data)
    (edge : ι) : Prop where
  distinct : ((system.edges edge).store.catalogEntities.map CatalogEntityRow.key).Nodup
  reads : ∃ records, system.StandsAt edge records ∧
    lookup (system.edges edge).store.catalogEntities = (catalogSync texts).view records

structure CatalogSystem.Synced (texts : DeltaTexts Data) (system : CatalogSystem ι Data) :
    Prop where
  released : system.Released texts
  inStep : ∀ edge, system.InStep texts edge

def Pull.InStep (texts : DeltaTexts Data) (system : CatalogSystem ι Data) (pull : Pull ι Data) :
    Prop :=
  match pull.state with
  | .asked sinceSnapshotVersion =>
    sinceSnapshotVersion ≤ (system.edges pull.edge).store.lastSnapshot
  | .answered delta => ∃ sinceSnapshotVersion, ∃ s ∈ system.published,
      sinceSnapshotVersion ≤ (system.edges pull.edge).store.lastSnapshot ∧
      delta = s.getCatalogDeltas texts (system.edges pull.edge).auth sinceSnapshotVersion
  | _ => True

theorem Pull.InStep.grows {pull : Pull ι Data} (inStep : pull.InStep texts system)
    (grows : system.Grows system') : pull.InStep texts system' := by
  unfold Pull.InStep at inStep ⊢
  split
  next isAsked =>
    simp only [isAsked] at inStep
    exact inStep.trans (grows.onward pull.edge)
  next delta isAnswered =>
    simp only [isAnswered] at inStep
    obtain ⟨sinceSnapshotVersion, s, member, early, isDelta⟩ := inStep
    refine ⟨sinceSnapshotVersion, s, grows.published member, early.trans (grows.onward pull.edge),
      ?_⟩
    rw [grows.auth, isDelta]
  next => trivial

theorem CatalogSystem.StandsAt.revises (released : system.Released texts) {edge : ι}
    {records : List (CatalogEntityRecord Data)} (stands : system.StandsAt edge records)
    {s : CloudCatalogDeltaService Data} (member : s ∈ system.published)
    (later : (system.edges edge).store.lastSnapshot ≤ s.currentSnapshotVersion) :
    (catalogSync texts).Revises (system.edges edge).store.lastSnapshot records
        (s.orgEntities (system.edges edge).auth.organizationId) ∧
      (records.map key).Nodup := by
  unfold CatalogSystem.StandsAt at stands
  unfold CatalogStore.lastSnapshot at later ⊢
  split at stands
  next absent =>
    subst stands
    rw [absent]
    exact ⟨released.first s member _, .nil⟩
  next checkpoint stored =>
    obtain ⟨base, isBase, version, rfl⟩ := stands
    rw [stored, Option.map_some, ← version] at later ⊢
    exact ⟨released.revises base isBase s member later _, released.distinct base isBase _⟩

theorem CatalogSystem.InStep.kept {edge : ι} (inStep : system.InStep texts edge)
    (published : system.published ⊆ system'.published)
    (auth : (system'.edges edge).auth = (system.edges edge).auth)
    (entities : (system'.edges edge).store.catalogEntities =
      (system.edges edge).store.catalogEntities)
    (checkpoint : getCheckpoint (system'.edges edge).store.checkpoints .catalogDelta =
      getCheckpoint (system.edges edge).store.checkpoints .catalogDelta) :
    system'.InStep texts edge := by
  obtain ⟨distinct, records, stands, reads⟩ := inStep
  refine ⟨by rw [entities]; exact distinct, records, ?_, by rw [entities]; exact reads⟩
  unfold CatalogSystem.StandsAt at stands ⊢
  rw [checkpoint, auth]
  split
  next absent =>
    rw [absent] at stands
    exact stands
  next stored =>
    rw [stored] at stands
    obtain ⟨s, member, version, isSnapshot⟩ := stands
    exact ⟨s, published member, version, isSnapshot⟩

section Commit

variable [DecidableEq ι]

theorem CatalogSystem.Released.setStore (released : system.Released texts) (edge : ι)
    (store : CatalogStore) : (system.setStore edge store).Released texts :=
  ⟨released.current, released.newest, released.single, released.distinct, released.revises,
    released.first⟩

theorem CatalogSystem.InStep.elsewhere {edge other : ι} (store : CatalogStore)
    (differs : other ≠ edge) (inStep : system.InStep texts other) :
    (system.setStore edge store).InStep texts other := by
  have same := setStore_other system store differs
  exact inStep.kept (List.Subset.refl _) (by rw [same]) (by rw [same]) (by rw [same])

theorem CatalogSystem.Synced.commit (synced : system.Synced texts) {edge : ι}
    {s : CloudCatalogDeltaService Data} (member : s ∈ system.published) {sinceSnapshotVersion : Nat}
    (early : sinceSnapshotVersion ≤ (system.edges edge).store.lastSnapshot) {store : CatalogStore}
    (applied : applyCatalogDelta texts (system.edges edge).store (system.edges edge).auth
      (s.getCatalogDeltas texts (system.edges edge).auth sinceSnapshotVersion) = .ok store) :
    (system.setStore edge store).Synced texts := by
  refine ⟨synced.released.setStore edge store, fun other => ?_⟩
  by_cases differs : other ≠ edge
  · exact .elsewhere store differs (synced.inStep other)
  · obtain rfl := not_not.mp differs
    obtain ⟨distinct, records, stands, reads⟩ := synced.inStep other
    obtain ⟨onward, entities, checkpoint, stored, snapshot⟩ := applyCatalogDelta_eq_ok applied
    obtain ⟨revises, distinctOld⟩ := stands.revises synced.released member onward
    have distinctNew := synced.released.distinct s member (system.edges other).auth.organizationId
    obtain ⟨entered, distinct'⟩ := foldl_activateEntity texts _
      (s.getCatalogDeltas texts (system.edges other).auth sinceSnapshotVersion).entities distinct
    rw [← entities] at entered distinct'
    refine ⟨by rw [setStore_self]; exact distinct',
      s.orgEntities (system.edges other).auth.organizationId, ?_, ?_⟩
    · rw [CatalogSystem.StandsAt, setStore_self]
      simp only [stored]
      exact ⟨s, member, snapshot.symm, rfl⟩
    · rw [setStore_self, entered, reads]
      exact (catalogSync texts).foldl_put_since revises early distinctOld distinctNew

theorem CatalogSurroundings.synced (system' : CatalogSystem ι Data)
    (synced : system.Synced texts) (moved : CatalogSurroundings system system') :
    system'.Synced texts := by
  cases moved with
  | releases service' orgId entities snapshotVersion set proper =>
    subst set
    refine ⟨synced.released.release proper, fun edge => ?_⟩
    exact (synced.inStep edge).kept (subset_cons_self _ _) rfl rfl rfl
  | flushes edge checkpoints kept =>
    refine ⟨synced.released.setStore edge _, fun other => ?_⟩
    by_cases differs : other ≠ edge
    · exact .elsewhere _ differs (synced.inStep other)
    · obtain rfl := not_not.mp differs
      refine (synced.inStep other).kept (List.Subset.refl _) ?_ ?_ ?_ <;>
        rw [setStore_self]
      exact kept

theorem PullMove.synced {system' : CatalogSystem ι Data} {pull pull' : Pull ι Data}
    (synced : system.Synced texts) (inStep : pull.InStep texts system)
    (moved : PullMove texts system pull system' pull') :
    system'.Synced texts ∧ pull'.InStep texts system' := by
  obtain ⟨sameEdge, stay | ⟨delta, store, isAnswered, ⟨result, isDone⟩, applied, rfl⟩⟩ :=
    PullMove.cases moved
  · obtain ⟨rfl, next⟩ := stay
    refine ⟨synced, ?_⟩
    unfold Pull.InStep at inStep ⊢
    rcases next with isAsked | ⟨sinceSnapshotVersion, wasAsked, isAnswered⟩ | ⟨result, isDone⟩
    · simp [isAsked, sameEdge]
    · simp only [wasAsked] at inStep
      simp only [isAnswered, sameEdge]
      exact ⟨sinceSnapshotVersion, _, synced.released.current, inStep, rfl⟩
    · simp [isDone]
  · unfold Pull.InStep at inStep
    simp only [isAnswered] at inStep
    obtain ⟨sinceSnapshotVersion, s, member, early, rfl⟩ := inStep
    refine ⟨synced.commit member early applied, ?_⟩
    simp [Pull.InStep, isDone]

end Commit

theorem CatalogSystem.Fresh.synced (texts : DeltaTexts Data) (fresh : system.Fresh) :
    system.Synced texts := by
  have only (s : CloudCatalogDeltaService Data) (member : s ∈ system.published) :
      s = .initial := by
    rw [fresh.published] at member
    exact mem_singleton.mp member
  refine ⟨⟨?_, ?_, ?_, ?_, ?_, ?_⟩, fun edge => ⟨?_, [], ?_, ?_⟩⟩
  · rw [fresh.service, fresh.published]
    exact mem_singleton.mpr rfl
  · intro s member
    rw [only s member, fresh.service]
  · intro s isS t isT _
    rw [only s isS, only t isT]
  · intro s member orgId
    rw [only s member]
    exact .nil
  · intro s isS t isT _ orgId
    rw [only s isS, only t isT]
    exact .refl _ _ _
  · intro s member orgId
    rw [only s member]
    exact .refl _ _ _
  · rw [fresh.entities edge]
    exact .nil
  · rw [CatalogSystem.StandsAt, fresh.checkpoints edge]
  · rw [fresh.entities edge]
    rfl

/-- However releases and requests of any number of nodes and organizations interleave, and however
late answers come: the rows of a node are those of the snapshot of its checkpoint, which every
delta that commits writes and which never goes back. -/
theorem catalog_matches_checkpoint [DecidableEq ι] (texts : DeltaTexts Data)
    (system : CatalogSystem ι Data) (pulls : List (Pull ι Data)) (fresh : system.Fresh)
    (starting : ∀ pull ∈ pulls, pull.state = .start)
    (pool pool' : Pool (CatalogSystem ι Data) (Pull ι Data))
    (run : CatalogReachable texts ⟨system, pulls⟩ pool)
    (onward : CatalogReachable texts pool pool') (edge : ι) :
    (pool.shared.edges edge).store.lastSnapshot ≤ (pool'.shared.edges edge).store.lastSnapshot ∧
    (∀ auth delta store, applyCatalogDelta texts (pool.shared.edges edge).store auth delta =
        .ok store →
      ∃ checkpoint, getCheckpoint store.checkpoints .catalogDelta = some checkpoint ∧
        checkpoint.lastSnapshotVersion = delta.snapshotVersion) ∧
    ∀ checkpoint,
      getCheckpoint (pool.shared.edges edge).store.checkpoints .catalogDelta = some checkpoint →
      ∃ snapshot ∈ pool.shared.published,
        snapshot.currentSnapshotVersion = checkpoint.lastSnapshotVersion ∧
        (∀ other ∈ pool.shared.published,
          other.currentSnapshotVersion = checkpoint.lastSnapshotVersion → other = snapshot) ∧
        (pool.shared.edges edge).store.catalogEntities.Perm
          (((snapshot.orgEntities (pool.shared.edges edge).auth.organizationId).filter
            fun entity => entity.action == .upsert).map (toRow texts)) := by
  have synced : pool.shared.Synced texts :=
    (Holds.reachable (CatalogSystem.Synced texts) (Pull.InStep texts)
      (fun synced inStep moved => PullMove.synced synced inStep moved)
      (fun _ _ inStep moved => inStep.grows (PullMove.grows moved))
      (fun synced moved => CatalogSurroundings.synced _ synced moved)
      (fun _ inStep moved => inStep.grows (CatalogSurroundings.grows moved))
      ⟨fresh.synced texts, fun t member => by simp [Pull.InStep, starting t member]⟩
      run).1
  refine ⟨(CatalogReachable.grows onward).onward edge, ?_, ?_⟩
  · intro auth delta store applied
    exact (applyCatalogDelta_eq_ok applied).2.2
  · intro checkpoint stored
    obtain ⟨distinct, records, stands, reads⟩ := synced.inStep edge
    rw [CatalogSystem.StandsAt, stored] at stands
    obtain ⟨snapshot, member, version, rfl⟩ := stands
    refine ⟨snapshot, member, version, fun other isOther same => ?_, ?_⟩
    · exact synced.released.single other isOther snapshot member (same.trans version.symm)
    · rw [← filterMap_row]
      exact (catalogSync texts).perm_of_view_eq
        (catalogSync_row_key texts) distinct (synced.released.distinct snapshot member _)
        fun key => congrFun reads key

def sampleDeltaTexts : DeltaTexts String where
  stringify := id
  localeLe := fun a b => decide (Utf16.Le a b)
  sha256 := fun text =>
    if text = "[[\"dish\",\"a\",\"UPSERT\",2,\x7b\x7d]]" then
      "39281e68bedb5a341d3f8a30efe494ec12a5bcfa77ca3f7c87187d3db851be79"
    else if text =
        "[[\"dish\",\"a\",\"DELETE\",5,\x7b\x7d],[\"dish\",\"c\",\"UPSERT\",5,\x7b\x7d]]" then
      "7cf8127338a891dd6f79eeb6cfd8dd73baa76933431b3a80e055d120de8fc3df"
    else ""

def sampleEntity (entityId : String) (action : CatalogAction) (version : Nat) :
    CatalogEntityRecord String :=
  ⟨"dish", entityId, action, "\x7b\x7d", version⟩

def sampleBranches : CatalogSystem Bool String where
  service := .initial
  published := [.initial]
  edges := fun isSecond =>
    ⟨⟨if isSecond then "o2" else "o1", "b"⟩, ⟨[], [], []⟩⟩

def CatalogSystem.sampleRelease (system : CatalogSystem Bool String) (orgId : String)
    (entities : List (CatalogEntityRecord String)) (snapshotVersion : Option Nat) :
    CatalogSystem Bool String :=
  { system with
    service := system.service.setEntities orgId entities snapshotVersion
    published := system.service.setEntities orgId entities snapshotVersion :: system.published }

def samplePull (reached : CatalogSystem Bool String × Pull Bool String) :
    CatalogSystem Bool String × Pull Bool String :=
  reached.2.step sampleDeltaTexts ⟨true, none⟩ reached.1

/-- The first request is answered, then both organizations get a release, the second request is
answered and committed, and the first answer arrives after it. -/
def sampleMenu : CatalogSystem Bool String :=
  sampleBranches.sampleRelease "o1" [sampleEntity "a" .upsert 2] none
def sampleLate : CatalogSystem Bool String × Pull Bool String :=
  samplePull^[2] (sampleMenu, ⟨false, .start⟩)
def sampleOtherMenu : CatalogSystem Bool String :=
  sampleLate.1.sampleRelease "o2" [sampleEntity "b" .upsert 3] (some 3)
def sampleNewMenu : CatalogSystem Bool String :=
  sampleOtherMenu.sampleRelease "o1" [sampleEntity "a" .delete 5, sampleEntity "c" .upsert 5]
    (some 5)
def samplePrompt : CatalogSystem Bool String × Pull Bool String :=
  samplePull^[3] (sampleNewMenu, ⟨false, .start⟩)
def sampleOvertaken : CatalogSystem Bool String × Pull Bool String :=
  samplePull (samplePrompt.1, sampleLate.2)

/-- The late answer is rolled back, and the node has the newest catalog. -/
theorem late_answer_rolled_back :
    (match sampleOvertaken.2.state with
      | .done result => result.toOption.isNone
      | _ => false) = true ∧
    (sampleOvertaken.1.edges false).store.catalogEntities = [⟨"dish", "c", 5, "\x7b\x7d"⟩] ∧
    ∃ snapshot ∈ sampleOvertaken.1.published, snapshot.currentSnapshotVersion = 5 ∧
      (sampleOvertaken.1.edges false).store.catalogEntities.Perm
        (((snapshot.orgEntities "o1").filter fun entity => entity.action == .upsert).map
          (toRow sampleDeltaTexts)) := by
  have alone := fun before after n system pull final
      (ends : samplePull^[n] (system, pull) = final) =>
    @Reachable.iterate _ _ (PullMove sampleDeltaTexts) CatalogSurroundings samplePull before after
      n _ _ _ ends fun _ _ => ⟨⟨true, none⟩, rfl⟩
  have released (system : CatalogSystem Bool String) (pulls : List (Pull Bool String))
      (orgId : String) (entities : List (CatalogEntityRecord String))
      (snapshotVersion : Option Nat) (proper : ProperRelease system.service orgId entities
        (system.service.setEntities orgId entities snapshotVersion).currentSnapshotVersion) :
      CatalogReachable sampleDeltaTexts ⟨system, pulls⟩
        ⟨system.sampleRelease orgId entities snapshotVersion, pulls⟩ :=
    .single (.others _ _ _ (.releases _ _ orgId entities snapshotVersion rfl proper))
  have run : CatalogReachable sampleDeltaTexts
      ⟨sampleBranches, [⟨false, .start⟩, ⟨false, .start⟩]⟩
      ⟨sampleOvertaken.1, [sampleOvertaken.2, samplePrompt.2]⟩ := by
    refine .trans (released sampleBranches _ "o1" [sampleEntity "a" .upsert 2] none
      ⟨by decide, by decide, by decide, by decide⟩) ?_
    refine .trans (alone [] [⟨false, .start⟩] 2 _ _ sampleLate rfl) ?_
    refine .trans (released sampleLate.1 _ "o2" [sampleEntity "b" .upsert 3] (some 3)
      ⟨by decide +kernel, by decide, by decide +kernel, by decide +kernel⟩) ?_
    refine .trans (released sampleOtherMenu _ "o1"
      [sampleEntity "a" .delete 5, sampleEntity "c" .upsert 5] (some 5)
      ⟨by decide +kernel, by decide, by decide +kernel, by decide +kernel⟩) ?_
    refine .trans (alone [sampleLate.2] [] 3 _ _ samplePrompt rfl) ?_
    exact alone [] [samplePrompt.2] 1 _ _ sampleOvertaken rfl
  have stored : getCheckpoint (sampleOvertaken.1.edges false).store.checkpoints .catalogDelta =
      some (catalogCheckpoint ⟨"o1", "b"⟩ 5) := by decide +kernel
  obtain ⟨-, -, matched⟩ := catalog_matches_checkpoint sampleDeltaTexts sampleBranches
    [⟨false, .start⟩, ⟨false, .start⟩] ⟨rfl, rfl, fun _ => rfl, fun _ => rfl⟩ (by simp) _ _ run
    .refl false
  obtain ⟨snapshot, member, version, -, rows⟩ := matched _ stored
  exact ⟨by decide +kernel, by decide +kernel, snapshot, member, version, rows⟩

end TridentPos.Edge
