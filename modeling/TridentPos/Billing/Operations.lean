import TridentPos.Billing.Signing
import TridentPos.Billing.XmlValidator
import TridentPos.Library.Table
import TridentPos.Library.Uuid

/-!
# Fiscal operations

The tables that `stampFiscalInvoice` works on. An operation is the durable
record of one intended call of the PAC, found again by its idempotency key; the event that follows
from it is stored with it once and enqueued from there. Functions on the database return the changed
database or an error, which undoes the transaction.
-/
namespace TridentPos.Billing

open Core Library XmlText Fallible

/-! ### Rows -/

inductive FiscalInvoiceStatus where
  | draft
  | stamped
  | cancelled
  | rejected
deriving DecidableEq

def FiscalInvoiceStatus.text : FiscalInvoiceStatus → String
  | .draft => "DRAFT"
  | .stamped => "STAMPED"
  | .cancelled => "CANCELLED"
  | .rejected => "REJECTED"

inductive FiscalOperationType where
  | stamp
  | cancel
deriving DecidableEq

inductive FiscalStampingOperationStatus where
  | pending
  | ready
  | inFlight
  | retryable
  | retryableConfirmed
  | succeeded
  | failedTerminal
  | reconciliationRequired
deriving DecidableEq

/-- `FacturaFiscalEmitida` and `FacturaFiscalCancelada`. -/
inductive FiscalEventKind where
  | emitida
  | cancelada
deriving DecidableEq

def FiscalEventKind.text : FiscalEventKind → String
  | .emitida => "FacturaFiscalEmitida"
  | .cancelada => "FacturaFiscalCancelada"

def FiscalOperationType.eventKind : FiscalOperationType → FiscalEventKind
  | .stamp => .emitida
  | .cancel => .cancelada

/-- A payload as JSON holds it: its members in the order they are written, each a text or `null`. -/
abbrev EventPayload := List (String × Option String)

/-- `payload[field]`, with `null` and a missing member told apart. -/
def EventPayload.get (payload : EventPayload) (field : String) : Option (Option String) :=
  payload.lookup field

/-- `fiscal_invoices` with its items. `document` holds the columns of a draft. -/
structure FiscalInvoiceRow where
  (id organizationId branchId : Uuid)
  document : InvoiceRow
  items : List ItemRow
  status : FiscalInvoiceStatus
  (invoiceUuid stampedXml : Option String)

structure OperationRow where
  (id organizationId branchId invoiceId : Uuid)
  operationType : FiscalOperationType
  (idempotencyKey requestHash : String)
  status : FiscalStampingOperationStatus
  attemptCount : Nat
  (lastError externalUuid stampedXml semanticEventId requestXml : Option String)
  eventContractVersion : Option String
  eventPayload : Option EventPayload

/-- `cloud_integration_outbox`. -/
structure OutboxRow where
  (organizationId branchId : Uuid)
  eventType : FiscalEventKind
  aggregateId : String
  payload : EventPayload

structure FiscalDb where
  invoices : List FiscalInvoiceRow
  emisores : List (Uuid × EmisorRow)
  operations : List OperationRow
  outbox : List OutboxRow

/-! ### The service -/

structure PacCapabilities where
  (supportsStampIdempotencyKey supportsAuthoritativeStampLookup : Bool)
  supportsSafeStampReplayAfterConfirmedNotFound : Bool

inductive PacCapabilityName where
  | supportsStamp
  | supportsStampIdempotencyKey
  | supportsAuthoritativeStampLookup
  | supportsSafeStampReplayAfterConfirmedNotFound
deriving DecidableEq

structure PacConnector where
  providerName : String
  certifiedProviderRfc : Option String
  capabilities : PacCapabilities
  hasConsultarTimbre : Bool

structure SubscriberDeclaration where
  subscriberName : String
  supportedMajors : List Nat
  requiredFields : List String

/-- The composition of the service: its connector, its configuration, the hash it uses, and what the
XML validation is given by the runtime. -/
structure BillingService where
  connector : PacConnector
  isFiscalStampingEnabled : Bool
  fiscalSubscribers : Option (List SubscriberDeclaration)
  sha256 : String → String
  sax : String → List XmlTree.Event
  precedes : String → String → Bool
  dateParses : String → Bool

/-- What is sent with a request to the PAC and must come back with its answer. -/
structure FiscalResultCorrelation where
  (organizationId invoiceId operationId : String)
  operationType : FiscalOperationType
  (idempotencyKey requestHash : String)
deriving DecidableEq

/-! ### Statements -/

/-- `stripSensitiveMaterial`, whatever the message. -/
def sanitizedMessage : String := "Fiscal operation failed; consult the correlation identifier"

def readUuid (text : String) : Except BillingError Uuid :=
  match Uuid.read text with
  | none => .error ⟨.databaseError, "invalid input syntax for type uuid: \"" ++ text ++ "\""⟩
  | some uuid => .ok uuid

variable (db : FiscalDb) (organizationId : Uuid)

def FiscalDb.invoice (id : Uuid) : Option FiscalInvoiceRow :=
  db.invoices.find? fun row => row.organizationId == organizationId && row.id == id

def FiscalDb.emisor : Option EmisorRow :=
  db.emisores.lookup organizationId

def FiscalDb.operationByKey (idempotencyKey : String) : Option OperationRow :=
  db.operations.find? fun row =>
    row.organizationId == organizationId && row.idempotencyKey == idempotencyKey

def OperationRow.isAt (id : Uuid) (row : OperationRow) : Bool :=
  row.organizationId == organizationId && row.id == id

/-- `protect_fiscal_event_envelope` lets the update pass. -/
def OperationRow.keepsEnvelope (old new : OperationRow) : Bool :=
  old.eventPayload.isNone ||
    (new.eventPayload == old.eventPayload && new.eventContractVersion == old.eventContractVersion &&
      new.semanticEventId == old.semanticEventId && new.organizationId == old.organizationId)

/-- The constraint `fiscal_envelope_consistent`. -/
def OperationRow.envelopeConsistent (row : OperationRow) : Bool :=
  match row.eventPayload, row.eventContractVersion with
  | none, none => true
  | some payload, some version =>
    payload.get "eventContractVersion" == some (some version) &&
      row.semanticEventId.any fun id => payload.get "semanticEventId" == some (some id)
  | _, _ => false

/-- `UPDATE fiscal_stamping_operations SET change WHERE selected`, under the trigger and the
constraint. -/
def FiscalDb.updateOperations (selected : OperationRow → Bool)
    (change : OperationRow → OperationRow) : Except BillingError FiscalDb := do
  if db.operations.any fun row => selected row && !row.keepsEnvelope (change row) then
    throw ⟨.databaseError, "Immutable fiscal event envelope"⟩
  if db.operations.any fun row => selected row && !(change row).envelopeConsistent then
    throw ⟨.databaseError, "violates check constraint \"fiscal_envelope_consistent\""⟩
  return { db with operations := Table.updateWhere selected change db.operations }

def FiscalDb.updateInvoice (id : Uuid)
    (change : FiscalInvoiceRow → FiscalInvoiceRow) : Except BillingError FiscalDb := do
  let selected (row : FiscalInvoiceRow) := row.organizationId == organizationId && row.id == id
  let taken (row other : FiscalInvoiceRow) : Bool := other.organizationId == organizationId &&
    !selected other && other.invoiceUuid.isSome && other.invoiceUuid == (change row).invoiceUuid
  if db.invoices.any fun row => selected row && db.invoices.any (taken row) then
    throw ⟨.databaseError, "duplicate key value violates unique constraint \"uq_fiscal_invoices_uuid\""⟩
  return { db with invoices := Table.updateWhere selected change db.invoices }

def FiscalDb.insertOperation (row : OperationRow) : Except BillingError FiscalDb := do
  if db.operations.any fun other => other.id == row.id then
    throw ⟨.databaseError,
      "duplicate key value violates unique constraint \"fiscal_stamping_operations_pkey\""⟩
  if (db.operationByKey row.organizationId row.idempotencyKey).isSome then
    throw ⟨.databaseError,
      "duplicate key value violates unique constraint \"uq_stamping_ops_org_idempotency\""⟩
  return { db with operations := db.operations ++ [row] }

def newOperation (id organizationId : Uuid) (invoice : FiscalInvoiceRow)
    (operationType : FiscalOperationType) (idempotencyKey requestHash : String) : OperationRow where
  id := id
  organizationId := organizationId
  branchId := invoice.branchId
  invoiceId := invoice.id
  operationType := operationType
  idempotencyKey := idempotencyKey
  requestHash := requestHash
  status := .inFlight
  attemptCount := 1
  lastError := none
  externalUuid := none
  stampedXml := none
  semanticEventId := none
  requestXml := none
  eventContractVersion := none
  eventPayload := none

/-- `getInvoiceInternal`, for an invoice that is there. -/
def FiscalInvoiceRow.full (row : FiscalInvoiceRow) : FiscalInvoice :=
  { mapInvoiceRow row.document with items := some (row.items.map mapItemRow) }

def validateCanStamp (status : FiscalInvoiceStatus) : Except BillingError Unit :=
  match status with
  | .draft => .ok ()
  | .stamped => .error ⟨.invoiceAlreadyStamped, "Invoice is already stamped"⟩
  | status => .error ⟨.invoiceInvalidState, "Cannot stamp invoice in status '" ++ status.text ++ "'"⟩

/-! ### What a statement that succeeds has done -/

theorem readUuid_eq_ok (text : String) (uuid : Uuid) :
    readUuid text = .ok uuid ↔ Uuid.read text = some uuid := by
  unfold readUuid
  cases Uuid.read text <;> simp

theorem FiscalDb.updateOperations_eq_ok (db' : FiscalDb) (selected : OperationRow → Bool)
    (change : OperationRow → OperationRow) (updated : db.updateOperations selected change = .ok db') :
    (∀ row ∈ db.operations, selected row → row.keepsEnvelope (change row)) ∧
      (∀ row ∈ db.operations, selected row → (change row).envelopeConsistent) ∧
      db' = { db with operations := Table.updateWhere selected change db.operations } := by
  simp only [updateOperations, guard_eq_ok, pure_eq_ok] at updated
  obtain ⟨kept, consistent, rfl⟩ := updated
  simp only [List.any_eq_true, Bool.and_eq_true, Bool.not_eq_eq_eq_not, Bool.not_true, not_exists,
    not_and, Bool.not_eq_false] at kept consistent
  exact ⟨kept, consistent, rfl⟩

theorem FiscalDb.updateInvoice_eq_ok (db' : FiscalDb) (organizationId id : Uuid)
    (change : FiscalInvoiceRow → FiscalInvoiceRow)
    (updated : db.updateInvoice organizationId id change = .ok db') :
    db' = { db with
      invoices := Table.updateWhere (fun row => row.organizationId == organizationId && row.id == id)
        change db.invoices } := by
  simp only [updateInvoice, guard_eq_ok, pure_eq_ok] at updated
  exact updated.2.symm

theorem FiscalDb.insertOperation_eq_ok (db' : FiscalDb) (row : OperationRow)
    (inserted : db.insertOperation row = .ok db') :
    (∀ other ∈ db.operations, other.id ≠ row.id) ∧
      db.operationByKey row.organizationId row.idempotencyKey = none ∧
      db' = { db with operations := db.operations ++ [row] } := by
  simp only [insertOperation, guard_eq_ok, pure_eq_ok] at inserted
  obtain ⟨fresh, unused, rfl⟩ := inserted
  simp only [List.any_eq_true, beq_iff_eq, not_exists, not_and] at fresh
  exact ⟨fresh, by simpa using unused, rfl⟩

end TridentPos.Billing
