import TridentPos.Edge.Outbox

/-!
# Sync checkpoints of an edge node

`EdgeSyncPersistence` keeps one checkpoint for each stream. A checkpoint that is written again
may not go back, neither in its sequence nor in its snapshot version.
-/
namespace TridentPos.Edge

open Core Library Fallible

inductive StreamType where
  | outboxIngestion
  | catalogDelta
deriving DecidableEq

def StreamType.text : StreamType → String
  | .outboxIngestion => "OUTBOX_INGESTION"
  | .catalogDelta => "CATALOG_DELTA"

structure SyncCheckpointRecord where
  (organizationId branchId : String)
  streamType : StreamType
  checkpointType : String
  (lastSyncedSequence lastSnapshotVersion : Nat)
deriving DecidableEq

def getCheckpoint (rows : List SyncCheckpointRecord) (streamType : StreamType) :
    Option SyncCheckpointRecord :=
  rows.find? fun row => row.streamType == streamType

def checkpointRegression (column : String) (incoming current : Nat) (streamType : StreamType) :
    String :=
  "CHECKPOINT_REGRESSION_REJECTED: Incoming " ++ column ++ " (" ++ toString incoming ++
    ") < current (" ++ toString current ++ ") for stream '" ++ streamType.text ++ "'"

def SyncCheckpointRecord.advance (checkpoint row : SyncCheckpointRecord) : SyncCheckpointRecord :=
  { row with
    checkpointType := checkpoint.checkpointType
    lastSyncedSequence := checkpoint.lastSyncedSequence
    lastSnapshotVersion := checkpoint.lastSnapshotVersion }

/-- The conflict branch keeps the tenant of the stored row. Its own condition repeats the checks,
which nothing can come between. -/
def upsertCheckpoint (rows : List SyncCheckpointRecord) (checkpoint : SyncCheckpointRecord) :
    Except String (List SyncCheckpointRecord) :=
  match getCheckpoint rows checkpoint.streamType with
  | none => .ok (rows ++ [checkpoint])
  | some existing =>
    if checkpoint.lastSyncedSequence < existing.lastSyncedSequence then
      .error (checkpointRegression "lastSyncedSequence" checkpoint.lastSyncedSequence
        existing.lastSyncedSequence checkpoint.streamType)
    else if checkpoint.lastSnapshotVersion < existing.lastSnapshotVersion then
      .error (checkpointRegression "lastSnapshotVersion" checkpoint.lastSnapshotVersion
        existing.lastSnapshotVersion checkpoint.streamType)
    else
      .ok (Table.updateWhere (fun row => row.streamType == checkpoint.streamType)
        checkpoint.advance rows)

theorem upsertCheckpoint_eq_ok {rows rows' : List SyncCheckpointRecord}
    {checkpoint : SyncCheckpointRecord} (written : upsertCheckpoint rows checkpoint = .ok rows') :
    (∀ existing, getCheckpoint rows checkpoint.streamType = some existing →
      existing.lastSyncedSequence ≤ checkpoint.lastSyncedSequence ∧
        existing.lastSnapshotVersion ≤ checkpoint.lastSnapshotVersion) ∧
    (∃ stored, getCheckpoint rows' checkpoint.streamType = some stored ∧
      stored.lastSyncedSequence = checkpoint.lastSyncedSequence ∧
      stored.lastSnapshotVersion = checkpoint.lastSnapshotVersion) ∧
    ∀ other, other ≠ checkpoint.streamType →
      getCheckpoint rows' other = getCheckpoint rows other := by
  unfold upsertCheckpoint at written
  split at written
  next absent =>
    obtain rfl := Except.ok.inj written
    refine ⟨fun existing found => by simp [absent] at found, ⟨checkpoint, ?_, rfl, rfl⟩, ?_⟩
    · rw [getCheckpoint] at absent
      simp [getCheckpoint, List.find?_append, absent]
    · intro other differs
      simp [getCheckpoint, List.find?_append, Ne.symm differs]
  next existing found =>
    simp only [refused_eq_ok, Except.ok.injEq] at written
    obtain ⟨sequence, snapshot, rfl⟩ := written
    refine ⟨?_, ?_, ?_⟩
    · intro stored same
      obtain rfl := Option.some.inj (found.symm.trans same)
      omega
    · have updated := Table.find?_updateWhere_self
        (fun row : SyncCheckpointRecord => row.streamType == checkpoint.streamType)
        checkpoint.advance rows
        (fun _ same => same)
      rw [getCheckpoint] at found
      rw [found] at updated
      exact ⟨_, updated, rfl, rfl⟩
    · intro other differs
      refine Table.find?_updateWhere_other _ _ _ rows ?_ ?_
      · intro row hit
        have same : row.streamType = checkpoint.streamType := by simpa using hit
        simpa [same] using Ne.symm differs
      · intro row hit
        have same : row.streamType = checkpoint.streamType := by simpa using hit
        simpa [SyncCheckpointRecord.advance, same] using Ne.symm differs

end TridentPos.Edge
