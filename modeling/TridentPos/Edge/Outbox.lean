import TridentPos.Core.SyncContracts
import TridentPos.Library.Fallible
import TridentPos.Library.Table

/-!
# Edge outbox

The `outbox_queue` table of an edge node (`EdgeOutboxPersistence`): events are enqueued
inside the transaction of the change they announce, and a row becomes `SYNCED` only on a
terminal acknowledgement with a verified receipt for that row.
-/
namespace TridentPos.Edge

open Core Library

inductive OutboxStatus where
  | pending
  | synced
  | failed
deriving DecidableEq

structure EnqueueOutboxInput (Payload : Type) where
  (organizationId branchId aggregateType aggregateId action clientOpId : String)
  aggregateSequenceNumber : Nat
  payload : Payload

structure EdgeOutboxRecord (Payload : Type) extends EnqueueOutboxInput Payload where
  id : Nat
  status : OutboxStatus
  (receiptToken receiptVerifiedAt : Option String)

abbrev CloudReceiptVerifier : Type := CloudTransactionReceipt → ReceiptIssuanceContext → Bool

variable {Payload : Type}
  (queue : List (EdgeOutboxRecord Payload)) (verifier : Option CloudReceiptVerifier)
  (input : EnqueueOutboxInput Payload)

/-- The row an event becomes. Its id is a random UUID in the source. -/
def pendingRow : EdgeOutboxRecord Payload :=
  { toEnqueueOutboxInput := input, id := Table.freshId (queue.map (·.id)), status := .pending
    receiptToken := none, receiptVerifiedAt := none }

def enqueue : Except String (List (EdgeOutboxRecord Payload)) :=
  if !isValidUuidV4 input.clientOpId then
    .error "clientOpId must be a valid UUIDv4"
  else if input.aggregateSequenceNumber > maxSafeInteger || input.aggregateSequenceNumber < 1 then
    .error "aggregateSequenceNumber must be a safe positive integer >= 1"
  else if queue.any fun row => row.clientOpId == input.clientOpId then
    .error "UNIQUE constraint failed: outbox_queue.client_op_id"
  else
    .ok (queue ++ [pendingRow queue input])

/-- Whether the row may become `SYNCED`, and the token and time to store with it. -/
def acceptedReceipt (row : EdgeOutboxRecord Payload)
    (ack : SyncEventAckDTO) : Option CloudTransactionReceipt :=
  if ack.status = .applied ∨ ack.status = .duplicateAccepted then
    match ack.receipt with
    | none => none
    | some receipt =>
      if !isValidCloudReceipt receipt then none
      else if receipt.clientOpId ≠ row.clientOpId ∨
          receipt.aggregateSequenceNumber ≠ row.aggregateSequenceNumber then none
      else
        match verifier with
        | none => none
        | some verifyReceipt =>
          if verifyReceipt receipt
              { organizationId := row.organizationId, branchId := row.branchId
                clientOpId := row.clientOpId, aggregateSequenceNumber := row.aggregateSequenceNumber
                aggregateType := none, aggregateId := none, action := none } then some receipt
          else none
  else none

def markSynced (queue : List (EdgeOutboxRecord Payload))
    (id : Nat) (ack : SyncEventAckDTO) : Bool × List (EdgeOutboxRecord Payload) :=
  match queue.find? fun row => row.id == id with
  | none => (false, queue)
  | some row =>
    match acceptedReceipt verifier row ack with
    | none => (false, queue)
    | some receipt =>
      (true, Table.updateWhere (fun row => row.id == id)
        (fun row =>
          { row with
            status := .synced, receiptToken := some receipt.serverSignature
            receiptVerifiedAt := some receipt.appliedAt }) queue)

theorem enqueue_eq_ok (queue' : List (EdgeOutboxRecord Payload))
    (input : EnqueueOutboxInput Payload) :
    enqueue queue input = .ok queue' ↔
      isValidUuidV4 input.clientOpId ∧ input.aggregateSequenceNumber ≤ maxSafeInteger ∧
        1 ≤ input.aggregateSequenceNumber ∧ (∀ row ∈ queue, row.clientOpId ≠ input.clientOpId) ∧
        queue' = queue ++ [pendingRow queue input] := by
  unfold enqueue
  split
  next invalid => simp_all
  next valid =>
    split
    next range =>
      simp only [Bool.or_eq_true, decide_eq_true_eq] at range
      simp only [reduceCtorEq, false_iff]
      omega
    next range =>
      simp only [Bool.or_eq_true, decide_eq_true_eq] at range
      split
      next clash =>
        simp only [List.any_eq_true, beq_iff_eq] at clash
        obtain ⟨row, member, same⟩ := clash
        simp only [reduceCtorEq, false_iff]
        exact fun accepted => accepted.2.2.2.1 row member same
      next free =>
        simp only [List.any_eq_true, beq_iff_eq, not_exists, not_and] at free
        simp only [Except.ok.injEq]
        constructor
        · rintro rfl
          exact ⟨by simpa using valid, by omega, by omega, free, rfl⟩
        · rintro ⟨-, -, -, -, rfl⟩
          rfl

end TridentPos.Edge
