import TridentPos.Core.SyncContracts
import TridentPos.Library.Fallible
import TridentPos.Library.Table

/-!
# Ingested idempotency engine

`IngestedIdempotencyEngine.processEvent` over the three tables of its migration. A call
is one PostgreSQL transaction: it returns a result and the tables it leaves behind, or it
throws, and then the transaction is rolled back. The calls of one stream are serialised by
the advisory lock, so a run is a sequence of such transactions.
-/
namespace TridentPos.Ingestion

open Core Library Fallible List

/-- The four columns that name an aggregate stream. The first two are `UUID` columns. -/
structure StreamKey where
  (organizationId branchId aggregateType aggregateId : String)
deriving DecidableEq

structure IngestedIdempotencyRecord (Response : Type) where
  stream : StreamKey
  (action clientOpId idempotencyKey : String)
  aggregateSequenceNumber : Nat
  status : SyncAckStatus
  responsePayload : Response
  receiptPayload : CloudTransactionReceipt
  receiptToken : String

structure AggregateSequenceRecord where
  stream : StreamKey
  currentSequenceNumber : Nat

inductive BufferStatus where
  | buffered
  | drained
deriving DecidableEq

structure ReorderingBufferRecord (Payload : Type) where
  id : Nat
  stream : StreamKey
  aggregateSequenceNumber : Nat
  (action clientOpId idempotencyKey : String)
  eventPayload : Payload
  status : BufferStatus

/-- The engine's tables, and the domain tables as far as the engine sees them: the
handler invocations whose effects they hold, in order. -/
structure CloudStore (Payload Response : Type) where
  log : List (IngestedIdempotencyRecord Response)
  sequences : List AggregateSequenceRecord
  buffer : List (ReorderingBufferRecord Payload)
  invocations : List (SyncEventDTO Payload)

def CloudStore.empty (Payload Response : Type) : CloudStore Payload Response :=
  { log := [], sequences := [], buffer := [], invocations := [] }

structure GapInterval where
  (first last : Nat)

inductive ResponsePayload (Response : Type) where
  | mutation (result : Response)
  | message (text : String)
  | sequenceGap (error : String) (gap : GapInterval)

structure ProcessEventResult (Response : Type) where
  status : SyncAckStatus
  receipt : Option CloudTransactionReceipt
  responsePayload : ResponsePayload Response
  gapInterval : Option GapInterval
  drainedCount : Option Nat
  wasDuplicate : Bool

/-- What the outcome of a handler call may depend on: the effects of the calls before it,
and the event it is given. -/
abbrev DomainMutationHandler (Payload Response : Type) : Type :=
  List (SyncEventDTO Payload) → SyncEventDTO Payload → Except String Response

variable {Payload Response : Type}

/-! ### The statements of the engine -/

variable (s : CloudStore Payload Response)
  (issuer : ReceiptIssuanceContext → CloudTransactionReceipt)
  (handler : DomainMutationHandler Payload Response) (auth : AuthContext)

def CloudStore.findLog (organizationId idempotencyKey : String) :
    Option (IngestedIdempotencyRecord Response) :=
  s.log.find? fun row =>
    row.stream.organizationId == organizationId && row.idempotencyKey == idempotencyKey

variable (event : SyncEventDTO Payload) (stream : StreamKey)

def CloudStore.currentSequence : Nat :=
  match s.sequences.find? fun row => row.stream == stream with
  | some row => row.currentSequenceNumber
  | none => 0

def CloudStore.upsertSequence (sequence : Nat) : CloudStore Payload Response :=
  { s with
    sequences := Table.upsert (fun row => row.stream == stream)
      (fun row => { row with currentSequenceNumber := sequence })
      { stream := stream, currentSequenceNumber := sequence } s.sequences }

def CloudStore.updateSequence (sequence : Nat) : CloudStore Payload Response :=
  { s with
    sequences := Table.updateWhere (fun row => row.stream == stream)
      (fun row => { row with currentSequenceNumber := sequence }) s.sequences }

def uniqueViolation (constraint : String) : String :=
  "duplicate key value violates unique constraint \"" ++ constraint ++ "\""

/-- The texts fit the `VARCHAR(100)` columns. PostgreSQL cuts off an excess of blanks; it is refused
here. -/
def columnsFit (stream : StreamKey) (action : String) : Bool :=
  [stream.aggregateType, stream.aggregateId, action].all fun text => decide (text.length ≤ 100)

def tooLong : String := "value too long for type character varying(100)"

def CloudStore.insertLog (row : IngestedIdempotencyRecord Response) :
    Except String (CloudStore Payload Response) :=
  if !columnsFit row.stream row.action then
    .error tooLong
  else if s.log.any fun old => old.stream.organizationId == row.stream.organizationId &&
      old.idempotencyKey == row.idempotencyKey then
    .error (uniqueViolation "uq_idempotency_log_key")
  else if s.log.any fun old => old.stream == row.stream && old.action == row.action &&
      old.clientOpId == row.clientOpId then
    .error (uniqueViolation "uq_idempotency_log_client_op")
  else if s.log.any fun old => old.stream == row.stream &&
      old.aggregateSequenceNumber == row.aggregateSequenceNumber then
    .error (uniqueViolation "uq_ingested_idempotency_tuple")
  else
    .ok { s with log := s.log ++ [row] }

/-- `ON CONFLICT (organization_id, idempotency_key) DO NOTHING` covers the key only: a
second operation for a buffered sequence number violates the other constraint. -/
def CloudStore.insertBuffer (row : ReorderingBufferRecord Payload) :
    Except String (CloudStore Payload Response) :=
  if !columnsFit row.stream row.action then
    .error tooLong
  else if s.buffer.any fun old => old.stream.organizationId == row.stream.organizationId &&
      old.idempotencyKey == row.idempotencyKey then
    .ok s
  else if s.buffer.any fun old => old.stream == row.stream &&
      old.aggregateSequenceNumber == row.aggregateSequenceNumber then
    .error (uniqueViolation "uq_reordering_buffer_seq")
  else
    .ok { s with buffer := s.buffer ++ [row] }

/-- `gen_random_uuid()`: an id no row of the queue has. -/
def CloudStore.freshBufferId : Nat :=
  Table.freshId (s.buffer.map (·.id))

def CloudStore.bufferedAt (sequence : Nat) : Option (ReorderingBufferRecord Payload) :=
  s.buffer.find? fun row => row.stream == stream && row.aggregateSequenceNumber == sequence &&
    row.status == .buffered

def CloudStore.markDrained (id : Nat) : CloudStore Payload Response :=
  { s with
    buffer := Table.updateWhere (fun row => row.id == id)
      (fun row => { row with status := .drained }) s.buffer }

def CloudStore.invoke : Except String (Response × CloudStore Payload Response) := do
  let result ← handler s.invocations event
  return (result, { s with invocations := s.invocations ++ [event] })

/-! ### Processing one event -/

def streamOf (aggregateType aggregateId : String) : StreamKey :=
  { organizationId := uuidText auth.organizationId, branchId := uuidText auth.branchId
    aggregateType := aggregateType, aggregateId := aggregateId }

/-- An optional text differs from the expected one. An empty text counts as absent. -/
def mismatches (given : Option String) (expected : String) : Bool :=
  match given with
  | some text => text != "" && text != expected
  | none => false

def validateEvent : Except String Unit :=
  if mismatches event.organizationId auth.organizationId then
    .error "Payload organizationId does not match authenticated context: UNAUTHORIZED_TENANT"
  else if mismatches event.branchId auth.branchId then
    .error "Payload branchId does not match authenticated context: ORGANIZATION_BRANCH_MISMATCH"
  else if !isValidUuidV4 event.clientOpId then
    .error "clientOpId must be a valid UUIDv4"
  else if event.aggregateSequenceNumber > maxSafeInteger || event.aggregateSequenceNumber < 1 then
    .error "aggregateSequenceNumber must be a safe positive integer >= 1"
  else
    .ok ()

def keyComponents : IdempotencyKeyComponents :=
  { orgId := auth.organizationId, branchId := auth.branchId, aggregateType := event.aggregateType
    aggregateId := event.aggregateId, action := event.action, clientOpId := event.clientOpId }

/-- The logical tuple of a stored row, read back as the texts of its columns, is compared
with the texts of the request. -/
def tupleMatches (existing : IngestedIdempotencyRecord Response) : Bool :=
  existing.stream.branchId == auth.branchId &&
    existing.stream.aggregateType == event.aggregateType &&
    existing.stream.aggregateId == event.aggregateId &&
    existing.action == event.action && existing.clientOpId == event.clientOpId

def issuanceContext : ReceiptIssuanceContext :=
  { organizationId := auth.organizationId, branchId := auth.branchId, clientOpId := event.clientOpId
    aggregateSequenceNumber := event.aggregateSequenceNumber
    aggregateType := some event.aggregateType, aggregateId := some event.aggregateId
    action := some event.action }

def logRow (idempotencyKey : String) (response : Response) (receipt : CloudTransactionReceipt) :
    IngestedIdempotencyRecord Response :=
  { stream := streamOf auth event.aggregateType event.aggregateId, action := event.action
    clientOpId := uuidText event.clientOpId, idempotencyKey := idempotencyKey
    aggregateSequenceNumber := event.aggregateSequenceNumber, status := .applied
    responsePayload := response, receiptPayload := receipt, receiptToken := receipt.receiptId }

def bufferRow (idempotencyKey : String) (id : Nat) : ReorderingBufferRecord Payload :=
  { id := id, stream := streamOf auth event.aggregateType event.aggregateId
    aggregateSequenceNumber := event.aggregateSequenceNumber, action := event.action
    clientOpId := uuidText event.clientOpId, idempotencyKey := idempotencyKey
    eventPayload := event.payload, status := .buffered }

def bufferedEvent (aggregateType aggregateId : String)
    (row : ReorderingBufferRecord Payload) (sequence : Nat) : SyncEventDTO Payload :=
  { organizationId := some auth.organizationId, branchId := some auth.branchId
    clientOpId := row.clientOpId, aggregateType := aggregateType, aggregateId := aggregateId
    aggregateSequenceNumber := sequence, action := row.action, payload := row.eventPayload }

def drainOne (aggregateType aggregateId : String) (s : CloudStore Payload Response)
    (row : ReorderingBufferRecord Payload) (next : Nat) :
    Except String (CloudStore Payload Response) := do
  let event := bufferedEvent auth aggregateType aggregateId row next
  let (response, s) ← s.invoke handler event
  let s := s.updateSequence (streamOf auth aggregateType aggregateId) next
  let receipt := issuer (issuanceContext auth event)
  let s ← s.insertLog (logRow auth event row.idempotencyKey response receipt)
  return s.markDrained row.id

/-- The drain loop: the number of rows drained and the tables after it. Each round turns
one `BUFFERED` row into a `DRAINED` one, which bounds the rounds by the buffer. -/
def drain (issuer : ReceiptIssuanceContext → CloudTransactionReceipt)
    (handler : DomainMutationHandler Payload Response) (auth : AuthContext)
    (aggregateType aggregateId : String) :
    Nat → CloudStore Payload Response → Nat → Nat →
      Except String (Nat × CloudStore Payload Response)
  | 0, _, _, _ => .error "drain loop did not end"
  | fuel + 1, s, currentSeq, drainedCount =>
    match s.bufferedAt (streamOf auth aggregateType aggregateId) (currentSeq + 1) with
    | none => .ok (drainedCount, s)
    | some row => do
      let s ← drainOne issuer handler auth aggregateType aggregateId s row (currentSeq + 1)
      drain issuer handler auth aggregateType aggregateId fuel s (currentSeq + 1) (drainedCount + 1)

/-- Case C: the event carries the expected sequence number. -/
def applyContiguous (s : CloudStore Payload Response) (event : SyncEventDTO Payload)
    (idempotencyKey : String) :
    Except String (ProcessEventResult Response × CloudStore Payload Response) := do
  let stream := streamOf auth event.aggregateType event.aggregateId
  let (mutationResult, s) ← s.invoke handler event
  let s := s.upsertSequence stream event.aggregateSequenceNumber
  let receipt := issuer (issuanceContext auth event)
  let s ← s.insertLog (logRow auth event idempotencyKey mutationResult receipt)
  let (drainedCount, s) ← drain issuer handler auth event.aggregateType event.aggregateId
    (s.buffer.length + 1) s event.aggregateSequenceNumber 0
  return ({ status := .applied
            receipt := some receipt, responsePayload := .mutation mutationResult
            gapInterval := none, drainedCount := some drainedCount, wasDuplicate := false }, s)

def bufferGap (s : CloudStore Payload Response)
    (event : SyncEventDTO Payload) (idempotencyKey : String) (expectedSequence : Nat) :
    Except String (ProcessEventResult Response × CloudStore Payload Response) := do
  let gap : GapInterval := { first := expectedSequence, last := event.aggregateSequenceNumber - 1 }
  let s ← s.insertBuffer (bufferRow auth event idempotencyKey s.freshBufferId)
  return ({ status := .requiresReconciliation
            receipt := none, responsePayload := .sequenceGap "SEQUENCE_GAP" gap
            gapInterval := some gap, drainedCount := none, wasDuplicate := false }, s)

def duplicateOf (existing : IngestedIdempotencyRecord Response) : ProcessEventResult Response :=
  { status := .duplicateAccepted, receipt := some existing.receiptPayload
    responsePayload := .mutation existing.responsePayload, gapInterval := none, drainedCount := none
    wasDuplicate := true }

def staleSequence (receipt : CloudTransactionReceipt) : ProcessEventResult Response :=
  { status := .duplicateAccepted, receipt := some receipt
    responsePayload := .message "Sequence already consumed", gapInterval := none
    drainedCount := none, wasDuplicate := true }

def processEvent (sha256 : String → String)
    (issuer : ReceiptIssuanceContext → CloudTransactionReceipt) (s : CloudStore Payload Response)
    (auth : AuthContext) (event : SyncEventDTO Payload)
    (handler : DomainMutationHandler Payload Response) :
    Except String (ProcessEventResult Response × CloudStore Payload Response) := do
  validateEvent auth event
  let idempotencyKey ← formatIdempotencyKey sha256 (keyComponents auth event)
  match s.findLog (uuidText auth.organizationId) idempotencyKey with
  | some existing =>
    if tupleMatches auth event existing then
      return (duplicateOf existing, s)
    else
      throw "IDEMPOTENCY_COLLISION: Idempotency key matched but logical tuple components differ"
  | none =>
    let expectedSequence :=
      s.currentSequence (streamOf auth event.aggregateType event.aggregateId) + 1
    if event.aggregateSequenceNumber < expectedSequence then
      return (staleSequence (issuer (issuanceContext auth event)), s)
    else if event.aggregateSequenceNumber > expectedSequence then
      bufferGap auth s event idempotencyKey expectedSequence
    else
      applyContiguous issuer handler auth s event idempotencyKey

/-! ### What each statement does -/

open CloudStore

@[simp] theorem currentSequence_upsertSequence (sequence : Nat) :
    (s.upsertSequence stream sequence).currentSequence stream = sequence := by
  have found := Table.find?_upsert_self (fun row => row.stream == stream)
    (fun row => { row with currentSequenceNumber := sequence })
    { stream := stream, currentSequenceNumber := sequence } s.sequences
    (fun row same => same) (by simp)
  simp only [upsertSequence, currentSequence, found]
  cases s.sequences.find? fun row => row.stream == stream <;> rfl

theorem currentSequence_upsertSequence_other {stream other : StreamKey} (sequence : Nat)
    (apart : other ≠ stream) :
    (s.upsertSequence stream sequence).currentSequence other = s.currentSequence other := by
  have differs (row : AggregateSequenceRecord) (hit : (row.stream == stream)) :
      (row.stream == other) = false := by
    have same : row.stream = stream := by simpa using hit
    simpa [same] using fun swapped : stream = other => apart swapped.symm
  have found := Table.find?_upsert_other (fun row => row.stream == stream)
    (fun row => row.stream == other) (fun row => { row with currentSequenceNumber := sequence })
    { stream := stream, currentSequenceNumber := sequence } s.sequences differs differs
    (differs _ (by simp))
  simp only [upsertSequence, currentSequence, found]

/-- The statements of the loop and of the contiguous case write the same value once the
stream has its row. -/
theorem updateSequence_eq_upsertSequence {stream : StreamKey}
    (sequence : Nat) (positive : 0 < s.currentSequence stream) :
    s.updateSequence stream sequence = s.upsertSequence stream sequence := by
  have present : s.sequences.any (fun row => row.stream == stream) := by
    unfold currentSequence at positive
    cases search : s.sequences.find? fun row => row.stream == stream with
    | none => simp [search] at positive
    | some row =>
      exact any_eq_true.mpr
        ⟨row, mem_of_find?_eq_some search, by simpa using find?_some search⟩
  simp only [updateSequence, upsertSequence, Table.upsert, present, if_true]

/-- `row` fits its columns, and no stored row shares its key, its logical tuple or its sequence
number. -/
structure CloudStore.LogFree (s : CloudStore Payload Response)
    (row : IngestedIdempotencyRecord Response) : Prop where
  fits : columnsFit row.stream row.action
  key : ∀ old ∈ s.log, old.stream.organizationId = row.stream.organizationId →
    old.idempotencyKey ≠ row.idempotencyKey
  tuple : ∀ old ∈ s.log, old.stream = row.stream → old.action = row.action →
    old.clientOpId ≠ row.clientOpId
  sequence : ∀ old ∈ s.log, old.stream = row.stream →
    old.aggregateSequenceNumber ≠ row.aggregateSequenceNumber

theorem insertLog_eq_ok (s' : CloudStore Payload Response)
    (row : IngestedIdempotencyRecord Response) :
    s.insertLog row = .ok s' ↔ s.LogFree row ∧ s' = { s with log := s.log ++ [row] } := by
  unfold insertLog
  split
  next long =>
    simp only [reduceCtorEq, false_iff]
    exact fun free => by simp [free.1.fits] at long
  next fits =>
  split
  next clash =>
    simp only [any_eq_true, Bool.and_eq_true, beq_iff_eq] at clash
    obtain ⟨old, member, organization, key⟩ := clash
    simp only [reduceCtorEq, false_iff]
    exact fun free => free.1.key old member organization key
  next noKey =>
    split
    next clash =>
      simp only [any_eq_true, Bool.and_eq_true, beq_iff_eq] at clash
      obtain ⟨old, member, ⟨stream, action⟩, op⟩ := clash
      simp only [reduceCtorEq, false_iff]
      exact fun free => free.1.tuple old member stream action op
    next noTuple =>
      split
      next clash =>
        simp only [any_eq_true, Bool.and_eq_true, beq_iff_eq] at clash
        obtain ⟨old, member, stream, sequence⟩ := clash
        simp only [reduceCtorEq, false_iff]
        exact fun free => free.1.sequence old member stream sequence
      next noSequence =>
        simp only [any_eq_true, Bool.and_eq_true, beq_iff_eq, not_exists, not_and]
          at noKey noTuple noSequence
        have free : s.LogFree row :=
          ⟨by simpa using fits, noKey,
            fun old member stream action => noTuple old member ⟨stream, action⟩, noSequence⟩
        simp [free, eq_comm]

theorem validateEvent_eq_ok :
    validateEvent auth event = .ok () ↔
      mismatches event.organizationId auth.organizationId = false ∧
        mismatches event.branchId auth.branchId = false ∧
        isValidUuidV4 event.clientOpId ∧
        event.aggregateSequenceNumber ≤ maxSafeInteger ∧ 1 ≤ event.aggregateSequenceNumber := by
  unfold validateEvent
  cases mismatches event.organizationId auth.organizationId with
  | true => simp
  | false =>
    cases mismatches event.branchId auth.branchId with
    | true => simp
    | false =>
      cases isValidUuidV4 event.clientOpId with
      | false => simp
      | true =>
        by_cases range : event.aggregateSequenceNumber ≤ maxSafeInteger ∧
            1 ≤ event.aggregateSequenceNumber
        · have low : ¬ event.aggregateSequenceNumber < 1 := by omega
          have high : ¬ maxSafeInteger < event.aggregateSequenceNumber := by omega
          simp [range, low, high]
        · have outside : maxSafeInteger < event.aggregateSequenceNumber ∨
              event.aggregateSequenceNumber < 1 := by omega
          rcases outside with high | low
          · simp [high]
          · simp [low]

theorem invoke_eq_ok (s' : CloudStore Payload Response)
    (handler : DomainMutationHandler Payload Response) (event : SyncEventDTO Payload)
    (response : Response) :
    s.invoke handler event = .ok (response, s') ↔
      handler s.invocations event = .ok response ∧
        s' = { s with invocations := s.invocations ++ [event] } := by
  unfold invoke
  rw [bind_eq_ok]
  constructor
  · rintro ⟨result, invoked, returned⟩
    obtain ⟨rfl, rfl⟩ := returned
    exact ⟨invoked, rfl⟩
  · rintro ⟨invoked, rfl⟩
    exact ⟨response, invoked, rfl⟩

theorem bufferedAt_eq_some {s : CloudStore Payload Response} {stream : StreamKey} {sequence : Nat}
    {row : ReorderingBufferRecord Payload} (found : s.bufferedAt stream sequence = some row) :
    row ∈ s.buffer ∧ row.stream = stream ∧ row.aggregateSequenceNumber = sequence ∧
      row.status = .buffered := by
  have member := mem_of_find?_eq_some found
  have selected := find?_some found
  simp only [Bool.and_eq_true, beq_iff_eq] at selected
  exact ⟨member, selected.1.1, selected.1.2, selected.2⟩

theorem bufferedAt_eq_none (sequence : Nat) :
    s.bufferedAt stream sequence = none ↔
      ∀ row ∈ s.buffer, row.stream = stream → row.aggregateSequenceNumber = sequence →
        row.status ≠ .buffered := by
  simp [bufferedAt, find?_eq_none]

def CloudStore.applied (key : String) (response : Response)
    (receipt : CloudTransactionReceipt) : CloudStore Payload Response :=
  { s.upsertSequence (streamOf auth event.aggregateType event.aggregateId)
      event.aggregateSequenceNumber with
    log := s.log ++ [logRow auth event key response receipt]
    invocations := s.invocations ++ [event] }

theorem drainOne_eq_ok (aggregateType aggregateId : String) (s s' : CloudStore Payload Response)
    (row : ReorderingBufferRecord Payload) (next : Nat)
    (positive : 0 < s.currentSequence (streamOf auth aggregateType aggregateId)) :
    let event := bufferedEvent auth aggregateType aggregateId row next
    let receipt := issuer (issuanceContext auth event)
    drainOne issuer handler auth aggregateType aggregateId s row next = .ok s' ↔
      ∃ response, handler s.invocations event = .ok response ∧
        s.LogFree (logRow auth event row.idempotencyKey response receipt) ∧
        s' = (s.applied auth event row.idempotencyKey response receipt).markDrained row.id := by
  intro event receipt
  have written := updateSequence_eq_upsertSequence
    { s with invocations := s.invocations ++ [event] } next positive
  unfold drainOne
  simp only [bind_eq_ok, pure_eq_ok, insertLog_eq_ok]
  constructor
  · rintro ⟨⟨response, invoked⟩, calls, logged, ⟨free, rfl⟩, rfl⟩
    obtain ⟨returned, rfl⟩ := (invoke_eq_ok s invoked handler event response).mp calls
    refine ⟨response, returned, ⟨free.fits, free.key, free.tuple, free.sequence⟩, ?_⟩
    dsimp only
    rw [written]
    rfl
  · rintro ⟨response, returned, free, rfl⟩
    refine ⟨⟨response, _⟩, (invoke_eq_ok s _ handler event response).mpr ⟨returned, rfl⟩, _,
      ⟨⟨free.fits, free.key, free.tuple, free.sequence⟩, rfl⟩, ?_⟩
    dsimp only
    rw [written]
    rfl

theorem drain_eq_ok (aggregateType aggregateId : String) (fuel : Nat)
    (s s' : CloudStore Payload Response)
    (currentSeq drainedCount total : Nat) :
    drain issuer handler auth aggregateType aggregateId (fuel + 1) s currentSeq drainedCount =
        .ok (total, s') ↔
      (s.bufferedAt (streamOf auth aggregateType aggregateId) (currentSeq + 1) = none ∧
        total = drainedCount ∧ s' = s) ∨
      (∃ row middle,
        s.bufferedAt (streamOf auth aggregateType aggregateId) (currentSeq + 1) = some row ∧
        drainOne issuer handler auth aggregateType aggregateId s row (currentSeq + 1) = .ok middle ∧
        drain issuer handler auth aggregateType aggregateId fuel middle (currentSeq + 1)
          (drainedCount + 1) = .ok (total, s')) := by
  rw [drain]
  cases s.bufferedAt (streamOf auth aggregateType aggregateId) (currentSeq + 1) with
  | none => simp [eq_comm]
  | some row => simp [bind_eq_ok]

theorem applyContiguous_eq_ok (s s' : CloudStore Payload Response) (event : SyncEventDTO Payload)
    (key : String)
    (result : ProcessEventResult Response) :
    let receipt := issuer (issuanceContext auth event)
    applyContiguous issuer handler auth s event key = .ok (result, s') ↔
      ∃ response drained, handler s.invocations event = .ok response ∧
        s.LogFree (logRow auth event key response receipt) ∧
        drain issuer handler auth event.aggregateType event.aggregateId (s.buffer.length + 1)
          (s.applied auth event key response receipt) event.aggregateSequenceNumber 0 =
            .ok (drained, s') ∧
        result =
          { status := .applied, receipt := some receipt, responsePayload := .mutation response
            gapInterval := none, drainedCount := some drained
            wasDuplicate := false } := by
  intro receipt
  unfold applyContiguous
  simp only [bind_eq_ok, pure_eq_ok, insertLog_eq_ok, Prod.mk.injEq]
  constructor
  · rintro ⟨⟨response, invoked⟩, calls, logged, ⟨free, rfl⟩, ⟨drained, after⟩, loop, rfl, rfl⟩
    obtain ⟨returned, rfl⟩ := (invoke_eq_ok s invoked handler event response).mp calls
    exact ⟨response, drained, returned, ⟨free.fits, free.key, free.tuple, free.sequence⟩, loop, rfl⟩
  · rintro ⟨response, drained, returned, free, loop, rfl⟩
    exact ⟨⟨response, _⟩, (invoke_eq_ok s _ handler event response).mpr ⟨returned, rfl⟩, _,
      ⟨⟨free.fits, free.key, free.tuple, free.sequence⟩, rfl⟩, ⟨drained, s'⟩, loop, rfl, rfl⟩

theorem processEvent_eq_ok {sha256 : String → String}
    {issuer : ReceiptIssuanceContext → CloudTransactionReceipt} {s s' : CloudStore Payload Response}
    {auth : AuthContext} {event : SyncEventDTO Payload}
    {handler : DomainMutationHandler Payload Response} {result : ProcessEventResult Response}
    (returned : processEvent sha256 issuer s auth event handler = .ok (result, s')) :
    validateEvent auth event = .ok () ∧
    ∃ key, formatIdempotencyKey sha256 (keyComponents auth event) = .ok key ∧
      ((∃ existing, s.findLog (uuidText auth.organizationId) key = some existing ∧
          tupleMatches auth event existing ∧ result = duplicateOf existing ∧ s' = s) ∨
        (s.findLog (uuidText auth.organizationId) key = none ∧
          event.aggregateSequenceNumber <
            s.currentSequence (streamOf auth event.aggregateType event.aggregateId) + 1 ∧
          result = staleSequence (issuer (issuanceContext auth event)) ∧ s' = s) ∨
        (s.findLog (uuidText auth.organizationId) key = none ∧
          bufferGap auth s event key
            (s.currentSequence (streamOf auth event.aggregateType event.aggregateId) + 1) =
              .ok (result, s')) ∨
        (s.findLog (uuidText auth.organizationId) key = none ∧
          event.aggregateSequenceNumber =
            s.currentSequence (streamOf auth event.aggregateType event.aggregateId) + 1 ∧
          applyContiguous issuer handler auth s event key = .ok (result, s'))) := by
  unfold processEvent at returned
  simp only [bind_eq_ok] at returned
  obtain ⟨_, valid, key, formatted, rest⟩ := returned
  refine ⟨valid, key, formatted, ?_⟩
  cases search : s.findLog (uuidText auth.organizationId) key with
  | some existing =>
    simp only [search] at rest
    split at rest
    next same =>
      simp only [pure_eq_ok, Prod.mk.injEq] at rest
      exact .inl ⟨existing, rfl, same, rest.1.symm, rest.2.symm⟩
    next => exact absurd rest throw_ne_ok
  | none =>
    simp only [search] at rest
    split at rest
    next stale =>
      simp only [pure_eq_ok, Prod.mk.injEq] at rest
      exact .inr (.inl ⟨rfl, stale, rest.1.symm, rest.2.symm⟩)
    next notStale =>
      split at rest
      next => exact .inr (.inr (.inl ⟨rfl, rest⟩))
      next notAhead => exact .inr (.inr (.inr ⟨rfl, by omega, rest⟩))

end TridentPos.Ingestion
