import TridentPos.Edge.SyncPersistence
import TridentPos.Library.Interleaving

/-!
# Flushing the outbox

`EdgeSyncClient.flushOutbox` reads a batch of pending events, sends it, marks what the cloud has
acknowledged one row after the other, and adds the number of rows it has marked to the checkpoint.
A connection and the kill switch each start a flush without asking whether one is running, so any
number of flushes suspend and resume over the same outbox.
-/
namespace TridentPos.Edge

open Core Library Interleaving List

variable {Payload : Type}

def EdgeOutboxRecord.toSyncEvent (row : EdgeOutboxRecord Payload) : SyncEventDTO Payload :=
  { organizationId := some row.organizationId, branchId := some row.branchId
    clientOpId := row.clientOpId, aggregateType := row.aggregateType, aggregateId := row.aggregateId
    aggregateSequenceNumber := row.aggregateSequenceNumber, action := row.action
    payload := row.payload }

structure SyncStore (Payload : Type) where
  queue : List (EdgeOutboxRecord Payload)
  checkpoints : List SyncCheckpointRecord

def getPendingEvents (queue : List (EdgeOutboxRecord Payload)) (limit : Nat) :
    List (EdgeOutboxRecord Payload) :=
  (queue.filter fun row => row.status == .pending).take limit

structure SyncEventResult extends SyncEventAckDTO where
  clientOpId : String

structure ClientOptions where
  auth : AuthContext
  verifier : Option CloudReceiptVerifier
  limit : Nat

inductive FlushState (Payload : Type) where
  | start
  | sent (pending : List (EdgeOutboxRecord Payload))
  | marking (pending : List (EdgeOutboxRecord Payload)) (results : List SyncEventResult)
      (syncedCount : Nat)
  | done (result : Except String (Nat × Nat))

/-- What a flush meets: whether the client is connected, and the response to its batch, which may
be a timeout. -/
structure FlushOracle where
  connected : Bool
  response : Except String (List SyncEventResult)

def outboxCheckpoint (auth : AuthContext) (lastSyncedSequence : Nat) : SyncCheckpointRecord :=
  { organizationId := auth.organizationId, branchId := auth.branchId, streamType := .outboxIngestion
    checkpointType := "UPSTREAM_SEQUENCE", lastSyncedSequence := lastSyncedSequence
    lastSnapshotVersion := 0 }

def lastSynced (checkpoints : List SyncCheckpointRecord) : Nat :=
  ((getCheckpoint checkpoints .outboxIngestion).map (·.lastSyncedSequence)).getD 0

variable (options : ClientOptions) (store : SyncStore Payload)

def markResult (pending : List (EdgeOutboxRecord Payload)) (result : SyncEventResult) :
    Bool × SyncStore Payload :=
  match pending.find? fun row => row.clientOpId == result.clientOpId with
  | none => (false, store)
  | some localRecord =>
    let (marked, queue) :=
      markSynced options.verifier store.queue localRecord.id result.toSyncEventAckDTO
    (marked, { store with queue := queue })

/-- After the loop: the checkpoint is read and written without a suspension. -/
def writeCheckpoint (syncedCount : Nat) : Except String (SyncStore Payload) :=
  if syncedCount > 0 then do
    let checkpoints ← upsertCheckpoint store.checkpoints
      (outboxCheckpoint options.auth (lastSynced store.checkpoints + syncedCount))
    return { store with checkpoints := checkpoints }
  else .ok store

def FlushState.step (oracle : FlushOracle) (store : SyncStore Payload) :
    FlushState Payload → SyncStore Payload × FlushState Payload
  | .start =>
    if !oracle.connected then (store, .done (.ok (0, 0)))
    else
      match getPendingEvents store.queue options.limit with
      | [] => (store, .done (.ok (0, 0)))
      | pending => (store, .sent pending)
  | .sent pending =>
    match oracle.response with
    | .error e => (store, .done (.error e))
    | .ok results => (store, .marking pending results 0)
  | .marking pending (result :: results) syncedCount =>
    let (marked, store') := markResult options store pending result
    (store', .marking pending results (if marked then syncedCount + 1 else syncedCount))
  | .marking pending [] syncedCount =>
    match writeCheckpoint options store syncedCount with
    | .error e => (store, .done (.error e))
    | .ok store' => (store', .done (.ok (pending.length, syncedCount)))
  | .done result => (store, .done result)

/-! ### Runs -/

def FlushMove (flush : FlushState Payload)
    (store' : SyncStore Payload) (flush' : FlushState Payload) : Prop :=
  ∃ oracle, flush.step options oracle store = (store', flush')

inductive Surroundings : SyncStore Payload → SyncStore Payload → Prop
  | enqueues (store : SyncStore Payload) (queue : List (EdgeOutboxRecord Payload))
      (input : EnqueueOutboxInput Payload) (accepted : enqueue store.queue input = .ok queue) :
      Surroundings store { store with queue := queue }
  | pulls (store : SyncStore Payload) (checkpoints : List SyncCheckpointRecord)
      (kept : getCheckpoint checkpoints .outboxIngestion =
        getCheckpoint store.checkpoints .outboxIngestion) :
      Surroundings store { store with checkpoints := checkpoints }

def SyncStore.syncedRows : Nat :=
  store.queue.countP fun row => row.status == .synced

def FlushState.isMarking : FlushState Payload → Bool
  | .marking _ _ _ => true
  | _ => false

def FlushState.MarksFresh :
    FlushState Payload → Prop
  | .marking pending (result :: _) _ =>
    ∀ localRecord ∈ pending.find? fun row => row.clientOpId == result.clientOpId,
      ∀ row ∈ store.queue, row.id = localRecord.id →
        acceptedReceipt options.verifier row result.toSyncEventAckDTO ≠ none →
        row.status ≠ .synced
  | _ => True

def FreshMove (flush : FlushState Payload)
    (store' : SyncStore Payload) (flush' : FlushState Payload) : Prop :=
  flush.MarksFresh options store ∧ FlushMove options store flush store' flush'

/-! ### What a step does to the count -/

structure SyncStore.Keyed (store : SyncStore Payload) : Prop where
  ids : (store.queue.map fun row => row.id).Nodup
  snapshots : ∀ checkpoint, getCheckpoint store.checkpoints .outboxIngestion = some checkpoint →
    checkpoint.lastSnapshotVersion = 0

def FlushState.owed : FlushState Payload → Nat
  | .marking _ _ syncedCount => syncedCount
  | _ => 0

variable {queue : List (EdgeOutboxRecord Payload)}

theorem countP_markRow {row : EdgeOutboxRecord Payload}
    {f : EdgeOutboxRecord Payload → EdgeOutboxRecord Payload}
    (ids : (queue.map fun row => row.id).Nodup) (member : row ∈ queue)
    (unmarked : row.status ≠ .synced) (marks : ∀ row, (f row).status = .synced) :
    (Table.updateWhere (fun other => other.id == row.id) f queue).countP
        (fun row => row.status == .synced) =
      queue.countP (fun row => row.status == .synced) + 1 := by
  induction queue with
  | nil => simp at member
  | cons head rest ih =>
    simp only [map_cons, nodup_cons] at ids
    rcases mem_cons.mp member with rfl | later
    · -- no later row has the key
      have untouched : Table.updateWhere (fun other => other.id == row.id) f rest = rest :=
        Table.updateWhere_eq_self _ _ _ fun other listed => by
          have differs : other.id ≠ row.id := fun same =>
            ids.1 (mem_map.mpr ⟨other, listed, same⟩)
          simpa using differs
      simp [untouched, marks, unmarked]
    · have differs : head.id ≠ row.id := fun same =>
        ids.1 (mem_map.mpr ⟨row, later, same.symm⟩)
      have rest := ih ids.2 later
      simp only [Table.updateWhere_cons, beq_iff_eq, differs, if_false, countP_cons, rest]
      omega

theorem markSynced_cases {verifier : Option CloudReceiptVerifier} {id : Nat} {ack : SyncEventAckDTO}
    (ids : (queue.map fun row => row.id).Nodup)
    (fresh : ∀ row ∈ queue, row.id = id → acceptedReceipt verifier row ack ≠ none →
      row.status ≠ .synced) :
    ((markSynced verifier queue id ack).2.map fun row => row.id) = queue.map (fun row => row.id) ∧
    (markSynced verifier queue id ack).2.countP (fun row => row.status == .synced) =
      queue.countP (fun row => row.status == .synced) +
        if (markSynced verifier queue id ack).1 then 1 else 0 := by
  cases found : queue.find? fun row => row.id == id with
  | none => simp [markSynced, found]
  | some row =>
    cases accepted : acceptedReceipt verifier row ack with
    | none => simp [markSynced, found, accepted]
    | some receipt =>
      have member := mem_of_find?_eq_some found
      have isRow : row.id = id := by simpa using find?_some found
      subst isRow
      simp only [markSynced, found, accepted, if_true]
      exact ⟨Table.map_updateWhere _ _ _ _ fun _ => rfl, countP_markRow ids member
        (fresh row member rfl (by simp [accepted])) fun _ => rfl⟩

open FlushState

variable {options} {store store' : SyncStore Payload}

theorem markResult_cases {pending : List (EdgeOutboxRecord Payload)} {result : SyncEventResult}
    {results : List SyncEventResult} {syncedCount : Nat} (keyed : store.Keyed)
    (fresh : (marking pending (result :: results) syncedCount).MarksFresh options store) :
    (markResult options store pending result).2.Keyed ∧
    (markResult options store pending result).2.checkpoints = store.checkpoints ∧
    (markResult options store pending result).2.syncedRows =
      store.syncedRows + if (markResult options store pending result).1 then 1 else 0 := by
  cases found : pending.find? fun row => row.clientOpId == result.clientOpId with
  | none =>
    simp only [markResult, found]
    exact ⟨keyed, trivial, rfl⟩
  | some localRecord =>
    obtain ⟨ids, count⟩ := markSynced_cases keyed.ids (fresh localRecord found)
    simp only [markResult, found]
    exact ⟨⟨by rw [ids]; exact keyed.ids, keyed.snapshots⟩, trivial, count⟩

theorem writeCheckpoint_cases (options : ClientOptions) (syncedCount : Nat) (keyed : store.Keyed) :
    ∃ store', writeCheckpoint options store syncedCount = .ok store' ∧ store'.Keyed ∧
      store'.queue = store.queue ∧
      lastSynced store'.checkpoints = lastSynced store.checkpoints + syncedCount := by
  unfold writeCheckpoint
  split
  next positive =>
    cases written : upsertCheckpoint store.checkpoints
        (outboxCheckpoint options.auth (lastSynced store.checkpoints + syncedCount)) with
    | error e =>
      unfold upsertCheckpoint at written
      split at written
      next => simp at written
      next existing found =>
        have snapshot := keyed.snapshots existing found
        have sequence : lastSynced store.checkpoints = existing.lastSyncedSequence := by
          rw [lastSynced, show getCheckpoint store.checkpoints .outboxIngestion = some existing
            from found]
          rfl
        simp [outboxCheckpoint, sequence, snapshot] at written
    | ok checkpoints =>
      obtain ⟨-, ⟨stored, found, sequence, snapshot⟩, -⟩ := upsertCheckpoint_eq_ok written
      have found : getCheckpoint checkpoints .outboxIngestion = some stored := found
      refine ⟨{ store with checkpoints := checkpoints }, rfl, ⟨keyed.ids, ?_⟩, rfl, ?_⟩
      · intro checkpoint same
        obtain rfl := Option.some.inj (found.symm.trans same)
        exact snapshot
      · simp only [lastSynced, found]
        exact sequence
  next none =>
    obtain rfl : syncedCount = 0 := by omega
    exact ⟨store, rfl, keyed, rfl, rfl⟩

theorem FreshMove.balance {flush flush' : FlushState Payload} (keyed : store.Keyed)
    (moved : FreshMove options store flush store' flush') :
    store'.Keyed ∧ lastSynced store'.checkpoints + flush'.owed + store.syncedRows =
      lastSynced store.checkpoints + flush.owed + store'.syncedRows := by
  obtain ⟨fresh, oracle, moved⟩ := moved
  cases flush with
  | start =>
    simp only [step] at moved
    split at moved
    next =>
      obtain ⟨rfl, rfl⟩ := Prod.mk.inj moved
      exact ⟨keyed, rfl⟩
    next =>
      split at moved <;>
      · obtain ⟨rfl, rfl⟩ := Prod.mk.inj moved
        exact ⟨keyed, rfl⟩
  | sent pending =>
    simp only [step] at moved
    split at moved <;>
    · obtain ⟨rfl, rfl⟩ := Prod.mk.inj moved
      exact ⟨keyed, rfl⟩
  | marking pending results syncedCount =>
    cases results with
    | cons result results =>
      obtain ⟨keyed', checkpoints, count⟩ := markResult_cases keyed fresh
      change ((markResult options store pending result).2, marking pending results
        (if (markResult options store pending result).1 then syncedCount + 1 else syncedCount)) =
          _ at moved
      obtain ⟨rfl, rfl⟩ := Prod.mk.inj moved
      refine ⟨keyed', ?_⟩
      simp only [checkpoints, count, owed]
      split <;> omega
    | nil =>
      obtain ⟨written, isWritten, keyed', queue, sequence⟩ :=
        writeCheckpoint_cases options syncedCount keyed
      simp only [step, isWritten] at moved
      obtain ⟨rfl, rfl⟩ := Prod.mk.inj moved
      refine ⟨keyed', ?_⟩
      simp only [sequence, SyncStore.syncedRows, queue, owed]
      omega
  | done result =>
    obtain ⟨rfl, rfl⟩ := Prod.mk.inj moved
    exact ⟨keyed, rfl⟩

theorem Surroundings.balance (keyed : store.Keyed) (moved : Surroundings store store') :
    store'.Keyed ∧ lastSynced store'.checkpoints + store.syncedRows =
      lastSynced store.checkpoints + store'.syncedRows := by
  cases moved with
  | enqueues queue input accepted =>
    obtain ⟨-, -, -, -, rfl⟩ := (enqueue_eq_ok _ _ _).mp accepted
    refine ⟨⟨?_, keyed.snapshots⟩, ?_⟩
    · rw [map_append]
      exact Table.nodup_append_singleton keyed.ids (Table.freshId_notMem _)
    · simp [SyncStore.syncedRows, pendingRow]
  | pulls checkpoints kept =>
    refine ⟨⟨keyed.ids, ?_⟩, ?_⟩
    · rw [kept]
      exact keyed.snapshots
    · simp only [lastSynced, kept, SyncStore.syncedRows]

/-- While every row that is marked was not `SYNCED` before, the checkpoint counts the `SYNCED` rows
whenever no flush is marking. -/
theorem checkpoint_counts_synced (options : ClientOptions)
    (pool pool' : Pool (SyncStore Payload) (FlushState Payload))
    (keyed : pool.shared.Keyed)
    (counts : lastSynced pool.shared.checkpoints = pool.shared.syncedRows)
    (begins : ∀ flush ∈ pool.calls, flush = .start)
    (run : Reachable (FreshMove options) Surroundings pool pool')
    (settled : ∀ flush ∈ pool'.calls, flush.isMarking = false) :
    lastSynced pool'.shared.checkpoints = pool'.shared.syncedRows := by
  have nothingOwed (flushes : List (FlushState Payload))
      (idle : ∀ flush ∈ flushes, flush.isMarking = false) :
      (flushes.map owed).sum = 0 := by
    refine sum_eq_zero fun owed member => ?_
    obtain ⟨flush, listed, rfl⟩ := mem_map.mp member
    have idle := idle flush listed
    cases flush <;> simp_all [isMarking, owed]
  have start : Interleaving.Balanced (fun store => lastSynced store.checkpoints)
      SyncStore.syncedRows owed pool := by
    rw [Interleaving.Balanced, nothingOwed pool.calls fun flush listed => by
      rw [begins flush listed]; rfl]
    exact counts
  obtain ⟨-, balance⟩ := Interleaving.Balanced.reachable
    (fun keyed moved => FreshMove.balance keyed moved)
    (fun keyed moved => Surroundings.balance keyed moved) keyed start run
  rw [Interleaving.Balanced, nothingOwed pool'.calls settled] at balance
  exact balance

/-! ### Two flushes of one event -/

def flushOp : String := "55555555-5555-4555-8555-555555555555"

def sampleSyncStore : SyncStore Unit :=
  { queue :=
      [{ organizationId := "org", branchId := "branch", aggregateType := "CUENTA"
         aggregateId := "cuenta-1", action := "ADD_ITEM", clientOpId := flushOp
         aggregateSequenceNumber := 1, payload := (), id := 1, status := .pending
         receiptToken := none, receiptVerifiedAt := none }]
    checkpoints := [] }

def sampleClient : ClientOptions :=
  { auth := { organizationId := "org", branchId := "branch" }
    verifier := some fun receipt _ => receipt.serverSignature == "sig"
    limit := 100 }

def sampleAck (status : SyncAckStatus) : FlushOracle :=
  { connected := true, response := .ok [⟨⟨status, some
      { receiptId := "rcpt-1", appliedAt := "2026-09-04T21:00:00.000Z", serverSignature := "sig"
        clientOpId := flushOp, aggregateSequenceNumber := 1 }⟩, flushOp⟩] }

def sampleFlush (status : SyncAckStatus) :
    SyncStore Unit × FlushState Unit → SyncStore Unit × FlushState Unit :=
  fun reached => reached.2.step sampleClient (sampleAck status) reached.1

theorem sampleFlush_moves (status : SyncAckStatus) (reached : SyncStore Unit × FlushState Unit) :
    FlushMove sampleClient reached.1 reached.2 (sampleFlush status reached).1
      (sampleFlush status reached).2 :=
  ⟨sampleAck status, rfl⟩

theorem sampleSyncStore_keyed : sampleSyncStore.Keyed :=
  ⟨by decide, fun _ found => by simp [getCheckpoint, sampleSyncStore] at found⟩

def sampleSentFirst : SyncStore Unit × FlushState Unit :=
  sampleFlush .duplicateAccepted (sampleSyncStore, .start)
def sampleSentAgain : SyncStore Unit × FlushState Unit :=
  (sampleFlush .applied)^[4] (sampleSentFirst.1, .start)
def sampleResumed : SyncStore Unit × FlushState Unit :=
  (sampleFlush .duplicateAccepted)^[3] (sampleSentAgain.1, sampleSentFirst.2)

theorem overlapping_flushes_count_twice :
    sampleSyncStore.Keyed ∧ lastSynced sampleSyncStore.checkpoints = sampleSyncStore.syncedRows ∧
    Reachable (FlushMove sampleClient) Surroundings
      ⟨sampleSyncStore, [.start, .start]⟩
      ⟨sampleResumed.1, [sampleResumed.2, sampleSentAgain.2]⟩ ∧
    (∀ flush ∈ [sampleResumed.2, sampleSentAgain.2], flush.isMarking = false) ∧
    sampleResumed.1.syncedRows = 1 ∧ lastSynced sampleResumed.1.checkpoints = 2 := by
  have alone := fun status before after n store flush final
      (ends : (sampleFlush status)^[n] (store, flush) = final) =>
    Reachable.iterate Surroundings (sampleFlush status) before after ends
      fun _ _ => sampleFlush_moves status _
  refine ⟨sampleSyncStore_keyed, by decide, ?_, by decide +kernel, by decide +kernel,
    by decide +kernel⟩
  refine .trans (alone .duplicateAccepted [] [.start] 1 _ _ sampleSentFirst rfl) ?_
  refine .trans (alone .applied [sampleSentFirst.2] [] 4 _ _ sampleSentAgain rfl) ?_
  exact alone .duplicateAccepted [] [sampleSentAgain.2] 3 _ _ sampleResumed rfl

instance (options : ClientOptions) (store : SyncStore Unit) :
    DecidablePred (FlushState.MarksFresh options store) := fun _ => by
  unfold FlushState.MarksFresh
  split <;> infer_instance

def sampleEnded : SyncStore Unit × FlushState Unit :=
  (sampleFlush .applied)^[4] (sampleSyncStore, .start)
def sampleIdle : SyncStore Unit × FlushState Unit :=
  sampleFlush .duplicateAccepted (sampleEnded.1, .start)

theorem flushes_in_turn_count_once :
    sampleIdle.1.syncedRows = 1 ∧
      lastSynced sampleIdle.1.checkpoints = sampleIdle.1.syncedRows := by
  have alone (status : SyncAckStatus) (before after : List (FlushState Unit)) (n : Nat)
      {store : SyncStore Unit} {flush : FlushState Unit} (final : SyncStore Unit × FlushState Unit)
      (ends : (sampleFlush status)^[n] (store, flush) = final)
      (fresh : ∀ k < n, ((sampleFlush status)^[k] (store, flush)).2.MarksFresh sampleClient
        ((sampleFlush status)^[k] (store, flush)).1) :
      Reachable (FreshMove sampleClient) Surroundings
        ⟨store, before ++ flush :: after⟩ ⟨final.1, before ++ final.2 :: after⟩ :=
    Reachable.iterate _ (sampleFlush status) before after ends
      fun k lt => ⟨fresh k lt, sampleFlush_moves status _⟩
  refine ⟨by decide +kernel, ?_⟩
  refine checkpoint_counts_synced sampleClient ⟨sampleSyncStore, [.start, .start]⟩
    ⟨sampleIdle.1, [sampleEnded.2, sampleIdle.2]⟩ sampleSyncStore_keyed (by decide) ?_ ?_
    (by decide +kernel)
  · intro flush member
    simpa using member
  · refine .trans (alone .applied [] [.start] 4 sampleEnded rfl (by decide +kernel)) ?_
    exact alone .duplicateAccepted [sampleEnded.2] [] 1 sampleIdle rfl (by decide +kernel)

end TridentPos.Edge
