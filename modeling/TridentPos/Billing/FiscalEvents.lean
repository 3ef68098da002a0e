import TridentPos.Billing.Operations

/-!
# Fiscal events

`enqueueFiscalEvent` stores the payload with the operation the first time and puts the stored payload
in the outbox every time. The operation is found by the event's id, which is a hash of the
organization, the operation and the kind of event.
-/
namespace TridentPos.Billing

open Core Library Fallible

def fiscalEventContractVersion : String := "1.0"

/-- `0`, or digits without a leading zero. -/
def canonicalNumber (digits : List Char) : Option Nat :=
  if digits.all Char.isDigit && (digits == ['0'] || (digits != [] && digits.head? != some '0')) then
    some (digits.foldl (fun n digit => 10 * n + (digit.toNat - '0'.toNat)) 0)
  else none

def maxSafeInteger : Nat := 2 ^ 53 - 1

def validateEventContractVersion (version : Option String) : Except BillingError (Nat × Nat) :=
  match version with
  | none => .error ⟨.invalidEventContractVersion,
      "eventContractVersion must be a string in major.minor format"⟩
  | some version =>
    match (version.toList.splitOn '.').map canonicalNumber with
    | [some major, some minor] =>
      if major ≤ maxSafeInteger ∧ minor ≤ maxSafeInteger then .ok (major, minor)
      else .error ⟨.invalidEventContractVersion, "Version integer out of supported range"⟩
    | _ => .error ⟨.invalidEventContractVersion,
        "Malformed eventContractVersion; canonical major.minor required"⟩

def generateFiscalSemanticEventId (sha256 : String → String) (organizationId operationId : String)
    (eventKind : FiscalEventKind) : String :=
  sha256 (organizationId ++ ":" ++ operationId ++ ":" ++ eventKind.text)

def EventPayload.text (payload : EventPayload) (field : String) : Option String :=
  (payload.get field).join

def assertSubscriberCompatibility (version : Option String) (payload : EventPayload)
    (subscriber : SubscriberDeclaration) (requiredFields : List String) :
    Except BillingError Unit := do
  let (major, _) ← validateEventContractVersion version
  if subscriber.subscriberName = "" ∨ major ∉ subscriber.supportedMajors ∨
      requiredFields.any (fun field => field ∉ subscriber.requiredFields) ∨
      subscriber.requiredFields.any (fun field => (payload.text field).isNone) then
    throw ⟨.eventContractIncompatible, "Subscriber contract incompatible or required payload missing"⟩

structure EnqueueFiscalEventInput where
  organizationId : String
  branchId : Uuid
  eventType : FiscalEventKind
  aggregateId : String
  payload : EventPayload

def requiredEventFields : List String :=
  ["eventContractVersion", "semanticEventId", "invoiceId", "uuid"]

def assertSubscribers (subscribers : List SubscriberDeclaration) (payload : EventPayload) :
    Except BillingError Unit :=
  subscribers.forM fun subscriber =>
    assertSubscriberCompatibility (payload.text "eventContractVersion") payload subscriber
      requiredEventFields

def FiscalDb.operationsOfEvent (db : FiscalDb) (organizationId : Uuid)
    (semanticEventId : Option String) :
    List OperationRow :=
  db.operations.filter fun row =>
    row.organizationId == organizationId && row.semanticEventId.isSome &&
      row.semanticEventId == semanticEventId

def durablePayload (db : FiscalDb) (organizationId : Uuid) (row : OperationRow)
    (payload : EventPayload) : Except BillingError (EventPayload × FiscalDb) :=
  match row.eventPayload with
  | some stored => do
    let _ ← validateEventContractVersion row.eventContractVersion
    if stored.text "eventContractVersion" ≠ row.eventContractVersion ∨
        stored.text "semanticEventId" ≠ payload.text "semanticEventId" then
      throw ⟨.eventContractIncompatible, "Corrupt persisted fiscal event"⟩
    return (stored, db)
  | none => do
    let db ← db.updateOperations
      (fun row => row.organizationId == organizationId && row.semanticEventId.isSome &&
        row.semanticEventId == payload.text "semanticEventId" && row.eventPayload.isNone)
      fun row => { row with
        eventContractVersion := payload.text "eventContractVersion", eventPayload := some payload }
    return (payload, db)

def enqueueFiscalEvent (service : BillingService) (db : FiscalDb)
    (input : EnqueueFiscalEventInput) :
    Except BillingError FiscalDb := do
  let payload := input.payload
  let _ ← validateEventContractVersion (payload.text "eventContractVersion")
  match service.fiscalSubscribers with
  | none => throw ⟨.eventContractIncompatible, "Required subscriber declarations unavailable"⟩
  | some subscribers =>
    assertSubscribers subscribers payload
    let organizationId ← readUuid input.organizationId
    match db.operationsOfEvent organizationId (payload.text "semanticEventId") with
    | [row] =>
      let eventKind := row.operationType.eventKind
      if input.eventType ≠ eventKind ∨ input.aggregateId ≠ row.invoiceId.write ∨
          payload.text "semanticEventId" ≠ some (generateFiscalSemanticEventId service.sha256
            input.organizationId row.id.write eventKind) then
        throw ⟨.eventContractIncompatible, "Fiscal envelope identity mismatch"⟩
      let (durable, db) ← durablePayload db organizationId row payload
      assertSubscribers subscribers durable
      return { db with outbox := db.outbox ++
        [⟨organizationId, input.branchId, input.eventType, input.aggregateId, durable⟩] }
    | _ => throw ⟨.eventContractIncompatible, "Fiscal operation identity unavailable"⟩

/-! ### What an enqueued event says -/

theorem durablePayload_eq_ok {db db' : FiscalDb} {organizationId : Uuid} {row : OperationRow}
    {payload durable : EventPayload}
    (kept : durablePayload db organizationId row payload = .ok (durable, db')) :
    (row.eventPayload = some durable ∧ durable.text "semanticEventId" = payload.text "semanticEventId" ∧
        db' = db) ∨
      (row.eventPayload = none ∧ durable = payload ∧
        db.updateOperations
          (fun row => row.organizationId == organizationId && row.semanticEventId.isSome &&
            row.semanticEventId == payload.text "semanticEventId" && row.eventPayload.isNone)
          (fun row => { row with
            eventContractVersion := payload.text "eventContractVersion"
            eventPayload := some payload }) = .ok db') := by
  unfold durablePayload at kept
  split at kept
  next stored held =>
    simp only [bind_eq_ok, guard_eq_ok, pure_eq_ok, Prod.mk.injEq] at kept
    obtain ⟨_, -, agrees, rfl, rfl⟩ := kept
    simp only [not_or, not_not] at agrees
    exact .inl ⟨held, agrees.2, rfl⟩
  next held =>
    simp only [bind_eq_ok, pure_eq_ok, Prod.mk.injEq] at kept
    obtain ⟨_, updated, rfl, rfl⟩ := kept
    exact .inr ⟨held, rfl, updated⟩

theorem enqueueFiscalEvent_eq_ok {service : BillingService} {db db' : FiscalDb}
    {input : EnqueueFiscalEventInput} (enqueued : enqueueFiscalEvent service db input = .ok db') :
    ∃ organizationId row durable kept,
      Uuid.read input.organizationId = some organizationId ∧
      db.operationsOfEvent organizationId (input.payload.text "semanticEventId") = [row] ∧
      input.eventType = row.operationType.eventKind ∧ input.aggregateId = row.invoiceId.write ∧
      input.payload.text "semanticEventId" = some (generateFiscalSemanticEventId service.sha256
        input.organizationId row.id.write row.operationType.eventKind) ∧
      durablePayload db organizationId row input.payload = .ok (durable, kept) ∧
      db' = { kept with outbox := kept.outbox ++
        [⟨organizationId, input.branchId, input.eventType, input.aggregateId, durable⟩] } := by
  simp only [enqueueFiscalEvent, bind_eq_ok] at enqueued
  obtain ⟨_, -, enqueued⟩ := enqueued
  split at enqueued
  next => exact absurd enqueued throw_ne_ok
  next subscribers declared =>
    simp only [bind_eq_ok, readUuid_eq_ok] at enqueued
    obtain ⟨_, -, organizationId, read, enqueued⟩ := enqueued
    split at enqueued
    next row found =>
      simp only [guard_eq_ok, bind_eq_ok, pure_eq_ok, not_or, not_not] at enqueued
      obtain ⟨⟨kind, aggregate, identity⟩, ⟨durable, kept⟩, stored, _, -, rfl⟩ := enqueued
      exact ⟨organizationId, row, durable, kept, read, found, kind, aggregate, identity, stored, rfl⟩
    next => exact absurd enqueued throw_ne_ok

end TridentPos.Billing
