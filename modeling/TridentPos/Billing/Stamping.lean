import TridentPos.Billing.FiscalEvents
import TridentPos.Billing.PacAnswers

/-!
# Stamping an invoice

`stampFiscalInvoice`: a transaction that prepares the operation and signs the document, the call of
the PAC outside any transaction, and a transaction that records its outcome. A call suspends after
each of them. The lock on the invoice lasts for the first transaction only; what is left of it for
later calls is the operation, which they find by their idempotency key.
-/
namespace TridentPos.Billing

open Core Library OperationRow

structure StampFiscalInvoiceCommand where
  (organizationId invoiceId : String)
  idempotencyKey : Option String

def StampFiscalInvoiceCommand.key (command : StampFiscalInvoiceCommand) : String :=
  command.idempotencyKey.getD command.invoiceId

/-- What the surroundings decide in one step of a call: the ids of the database, the vault and the
clock, the authorities' answers, the PAC's, and what undoes the transaction, if anything. -/
structure StampSurroundings where
  operationId : Uuid
  signing : SigningEnvironment
  refuses : PacCapabilityName → Option BillingError
  lookup : Option StampLookup
  (verified verifiedAgain : Bool)
  answer : PacAnswer PacStampResult
  interruption : Option BillingError

structure PreparedStamp where
  (organizationId operationId : Uuid)
  requestHash : String
  invoice : FiscalInvoiceRow
  emisorRfc : String
  signed : SignedInvoice

inductive StampPreparation where
  | alreadyCompleted (invoice : Option FiscalInvoice)
  | prepared (prepared : PreparedStamp)

def FiscalDb.getInvoiceInternal (db : FiscalDb) (organizationId id : Uuid) : Option FiscalInvoice :=
  (db.invoice organizationId id).map FiscalInvoiceRow.full

def authorizeCapability (refuses : PacCapabilityName → Option BillingError)
    (capability : PacCapabilityName) : Except BillingError Unit :=
  match refuses capability with
  | some error => .error error
  | none => .ok ()

/-- The members that are defined, as `JSON.stringify` keeps them. -/
def definedMembers (members : List (String × Option String)) : EventPayload :=
  members.filterMap fun (name, value) => value.map fun text => (name, some text)

section Stamp

variable (service : BillingService) (command : StampFiscalInvoiceCommand)

def stampRequestHash (invoice : FiscalInvoiceRow) : String :=
  service.sha256 (command.invoiceId ++ ":" ++ invoice.document.series ++ ":" ++
    invoice.document.folio ++ ":" ++ invoice.document.totalAmount ++ ":" ++
    invoice.document.customerTaxId)

def stampCorrelation (operationId : Uuid) (requestHash : String) : FiscalResultCorrelation where
  organizationId := command.organizationId
  invoiceId := command.invoiceId
  operationId := operationId.write
  operationType := .stamp
  idempotencyKey := command.key
  requestHash := requestHash

variable (surroundings : StampSurroundings) (db : FiscalDb) (organizationId : Uuid)

def recordStamp (operationId : Uuid) (invoice : FiscalInvoiceRow)
    (uuid stampedXml : Option String) (payload : String → EventPayload) :
    Except BillingError (Option FiscalInvoice × FiscalDb) := do
  let semanticEventId := generateFiscalSemanticEventId service.sha256 command.organizationId
    operationId.write .emitida
  let db ← db.updateOperations (isAt organizationId operationId) fun row => { row with
    status := .succeeded, externalUuid := uuid, stampedXml := stampedXml
    semanticEventId := some semanticEventId, lastError := none }
  let db ← db.updateInvoice organizationId invoice.id fun row => { row with
    status := .stamped, invoiceUuid := uuid, stampedXml := stampedXml }
  let db ← enqueueFiscalEvent service db
    ⟨command.organizationId, invoice.branchId, .emitida, command.invoiceId, payload semanticEventId⟩
  return (db.getInvoiceInternal organizationId invoice.id, db)

variable (invoice : FiscalInvoiceRow) (prepared : PreparedStamp)

/-- Path A: what an authoritative lookup allows. Nothing in place of an invoice is leave to send the
request again. -/
def recoverByLookup (requestHash : String) (operation : OperationRow) :
    Except BillingError (Option (Option FiscalInvoice) × FiscalDb) := do
  authorizeCapability surroundings.refuses .supportsAuthoritativeStampLookup
  match surroundings.lookup with
  | none => throw ⟨.reconciliationRequired, "PAC lookup unavailable"⟩
  | some reconciled =>
    validateFiscalEvidence service.connector surroundings.verified reconciled.pacProvider
      reconciled.correlation (stampCorrelation command operation.id requestHash)
    if reconciled.outcome = .stampedConfirmed ∧ reconciled.uuid.any (fun uuid => uuid != "") then
      match operation.requestXml.filter fun xml => xml != "" with
      | none => throw (validationError "Original submitted XML unavailable")
      | some requestXml =>
        validateAuthoritativeStampResult service reconciled.result requestXml
        let (full, db) ← recordStamp service command db organizationId operation.id invoice
          reconciled.uuid reconciled.stampedXml fun semanticEventId => definedMembers
            [("invoiceId", some command.invoiceId), ("uuid", reconciled.uuid),
              ("totalAmount", some invoice.document.totalAmount),
              ("series", some invoice.document.series), ("folio", some invoice.document.folio),
              ("fechaTimbrado", reconciled.fechaTimbrado),
              ("pacProvider", some service.connector.providerName),
              ("semanticEventId", some semanticEventId),
              ("eventContractVersion", some fiscalEventContractVersion)]
        return (some full, db)
    else
      match reconciled.outcome with
      -- the rejection written just before is undone with the transaction
      | .rejectedConfirmed => throw ⟨.invalidFiscalInvoice, sanitizedMessage⟩
      | .notFoundConfirmed =>
        if !service.connector.capabilities.supportsSafeStampReplayAfterConfirmedNotFound then
          throw ⟨.reconciliationRequired, "Stamp reconciliation confirmed NOT_FOUND, but safe replay after not-found is not supported under contract"⟩
        authorizeCapability surroundings.refuses .supportsSafeStampReplayAfterConfirmedNotFound
        return (none, db)
      | .stampedConfirmed => return (none, db)
      | outcome => throw ⟨.reconciliationRequired,
          "Stamp reconciliation status is '" ++ outcome.text ++ "'; redispatch forbidden"⟩

/-- An operation whose outcome is not known: paths A, B and C. -/
def recoverStamp (requestHash : String) (operation : OperationRow) :
    Except BillingError (Option (Option FiscalInvoice) × FiscalDb) := do
  let caps := service.connector.capabilities
  if caps.supportsAuthoritativeStampLookup && service.connector.hasConsultarTimbre then
    recoverByLookup service command surroundings db organizationId invoice requestHash operation
  else if caps.supportsStampIdempotencyKey then
    authorizeCapability surroundings.refuses .supportsStampIdempotencyKey
    return (none, db)
  else
    throw ⟨.reconciliationRequired, "Operation is in RECONCILIATION_REQUIRED: neither authoritative lookup nor idempotent replay is supported under provider contract"⟩

def beginAttempt (operationId : Uuid) : Except BillingError FiscalDb :=
  db.updateOperations (isAt organizationId operationId) fun row => { row with
    status := .inFlight, attemptCount := row.attemptCount + 1 }

def resumeStamp (requestHash : String) (operation : OperationRow) :
    Except BillingError (Option (Option FiscalInvoice) × FiscalDb) := do
  if operation.requestHash ≠ requestHash then
    throw ⟨.idempotencyConflict, "Idempotency key '" ++ command.key ++
      "' reused with conflicting request semantics"⟩
  if operation.status = .succeeded ∧ operation.externalUuid.any (fun uuid => uuid != "") then
    let db ← db.updateInvoice organizationId invoice.id fun row => { row with
      status := .stamped, invoiceUuid := operation.externalUuid
      stampedXml := row.stampedXml.or operation.stampedXml }
    return (some (db.getInvoiceInternal organizationId invoice.id), db)
  if operation.status = .failedTerminal then
    throw ⟨.invalidFiscalInvoice, sanitizedMessage⟩
  let (completed, db) ←
    if operation.status = .reconciliationRequired ∨ operation.status = .inFlight then
      recoverStamp service command surroundings db organizationId invoice requestHash operation
    else pure (none, db)
  match completed with
  | some full => return (some full, db)
  | none => return (none, ← beginAttempt db organizationId operation.id)

def openStamp (requestHash : String) : Except BillingError FiscalDb := do
  if !service.isFiscalStampingEnabled then
    throw ⟨.stampingDisabled, "FISCAL_STAMPING_DISABLED: Direct fiscal stamping is disabled by configuration (kill switch OFF)"⟩
  db.insertOperation (newOperation surroundings.operationId organizationId invoice .stamp command.key
    requestHash)

/-- The document that will be sent is the one of the operation's first attempt. -/
def pinRequest (operationId : Uuid) (cfdiXml : String) : Except BillingError FiscalDb := do
  let db ← db.updateOperations (isAt organizationId operationId) fun row => { row with
    requestXml := row.requestXml.or (some cfdiXml) }
  if (db.operations.find? (isAt organizationId operationId)).bind
      requestXml ≠ some cfdiXml then
    throw ⟨.reconciliationRequired, "Submitted XML changed; blind redispatch prohibited"⟩
  return db

def signStamp (operationId : Uuid) (invoice : FiscalInvoiceRow) (requestHash : String) :
    Except BillingError (StampPreparation × FiscalDb) := do
  let emisor := db.emisor organizationId
  let signed ← signInvoice surroundings.signing
    { invoice.document with organizationId := command.organizationId } invoice.items emisor
  let db ← pinRequest db organizationId operationId signed.cfdiXml
  return (.prepared ⟨organizationId, operationId, requestHash, invoice,
    (emisor.map EmisorRow.rfc).getD "", signed⟩, db)

def prepareStamp : Except BillingError (StampPreparation × FiscalDb) := do
  let organizationId ← readUuid command.organizationId
  let invoiceId ← readUuid command.invoiceId
  match db.invoice organizationId invoiceId with
  | none => throw ⟨.invalidFiscalInvoice, "Fiscal invoice '" ++ command.invoiceId ++ "' not found"⟩
  | some invoice =>
    if invoice.status = .stamped then return (.alreadyCompleted (some invoice.full), db)
    validateCanStamp invoice.status
    let requestHash := stampRequestHash service command invoice
    match db.operationByKey organizationId command.key with
    | some operation =>
      let (completed, db) ←
        resumeStamp service command surroundings db organizationId invoice requestHash operation
      match completed with
      | some full => return (.alreadyCompleted full, db)
      | none => signStamp command surroundings db organizationId operation.id invoice requestHash
    | none =>
      let db ← openStamp service command surroundings db organizationId invoice requestHash
      signStamp command surroundings db organizationId surroundings.operationId invoice requestHash

/-! ### The outcome -/

inductive StampOutcome where
  /-- The operation has to be reconciled, and the call fails. -/
  | reconcile (error : BillingError)
  | reject (error : BillingError)
  | stamped (result : PacStampResult)

def stampOutcome :
    PacAnswer PacStampResult → StampOutcome
  | .threw isTimeout => .reconcile ⟨.pacTimeout,
      if isTimeout then sanitizedMessage else "PAC gateway error: " ++ sanitizedMessage⟩
  | .returned result =>
    let evidence (verified : Bool) := validateFiscalEvidence service.connector verified
      result.pacProvider result.correlation
      (stampCorrelation command prepared.operationId prepared.requestHash)
    match evidence surroundings.verified with
    | .error _ => .reconcile ⟨.fiscalSuccessValidation, sanitizedMessage⟩
    | .ok () =>
      match result.status with
      | .timeout => .reconcile ⟨.pacTimeout, sanitizedMessage⟩
      | .rejected => .reject ⟨.invalidFiscalInvoice, sanitizedMessage⟩
      | _ =>
        match (do
          evidence surroundings.verifiedAgain
          validateAuthoritativeStampResult service result prepared.signed.cfdiXml) with
        | .error _ => .reconcile ⟨.fiscalSuccessValidation, sanitizedMessage⟩
        | .ok () => .stamped result

def failOperation (operationId : Uuid)
    (status : FiscalStampingOperationStatus) : Except BillingError FiscalDb :=
  db.updateOperations (isAt organizationId operationId) fun row => { row with
    status := status, lastError := some sanitizedMessage }

def stampPayload (result : PacStampResult) (semanticEventId : String) : EventPayload :=
  definedMembers
    [("eventContractVersion", some fiscalEventContractVersion),
      ("invoiceId", some command.invoiceId), ("uuid", result.uuid),
      ("rfcEmisor", some prepared.emisorRfc),
      ("rfcReceptor", some prepared.invoice.document.customerTaxId),
      ("totalAmount", some prepared.invoice.document.totalAmount),
      ("series", some prepared.invoice.document.series),
      ("folio", some prepared.invoice.document.folio), ("fechaTimbrado", result.fechaTimbrado),
      ("pacProvider", some (result.pacProvider.getD service.connector.providerName)),
      ("semanticEventId", some semanticEventId)]

/-- Phase 3: the transaction, with what the call returns or throws after it. -/
def settleStamp : StampOutcome →
    Except BillingError (Except BillingError (Option FiscalInvoice) × FiscalDb)
  | .reconcile error => do
    return (.error error,
      ← failOperation db prepared.organizationId prepared.operationId .reconciliationRequired)
  | .reject error => do
    return (.error error,
      ← failOperation db prepared.organizationId prepared.operationId .failedTerminal)
  | .stamped result => do
    let (full, db) ← recordStamp service command db prepared.organizationId prepared.operationId
      prepared.invoice result.uuid (result.stampedXml.or result.xmlTimbrado)
      (stampPayload service command prepared result)
    return (.ok full, db)

end Stamp

/-! ### A call, step by step -/

/-- An invocation of `timbrar`, with its answer once it has come. -/
structure Invocation where
  (organizationId invoiceId operationId : Uuid)
  answer : Option (PacAnswer PacStampResult)

structure FiscalSystem where
  db : FiscalDb
  invocations : List Invocation

inductive StampStage where
  | start
  | prepared (prepared : PreparedStamp)
  | dispatched (prepared : PreparedStamp) (number : Nat)
  | answered (prepared : PreparedStamp) (answer : PacAnswer PacStampResult)
  | finished (result : Except BillingError (Option FiscalInvoice))

structure StampCall where
  command : StampFiscalInvoiceCommand
  stage : StampStage

def transaction {α : Type} (interruption : Option BillingError) (body : Except BillingError α) :
    Except BillingError α :=
  match interruption with
  | some error => .error error
  | none => body

def StampCall.goTo (call : StampCall) (stage : StampStage) : StampCall :=
  { call with stage := stage }

def StampCall.next (service : BillingService) (surroundings : StampSurroundings)
    (system : FiscalSystem) (call : StampCall) : FiscalSystem × StampCall :=
  match call.stage with
  | .start =>
    match transaction surroundings.interruption
        (prepareStamp service call.command surroundings system.db) with
    | .error error => (system, call.goTo (.finished (.error error)))
    | .ok (.alreadyCompleted full, db) => ({ system with db }, call.goTo (.finished (.ok full)))
    | .ok (.prepared prepared, db) => ({ system with db }, call.goTo (.prepared prepared))
  | .prepared prepared =>
    match authorizeCapability surroundings.refuses .supportsStamp with
    | .error error => (system, call.goTo (.finished (.error error)))
    | .ok () =>
      ({ system with invocations := system.invocations ++
          [⟨prepared.organizationId, prepared.invoice.id, prepared.operationId, none⟩] },
        call.goTo (.dispatched prepared system.invocations.length))
  | .dispatched prepared number =>
    ({ system with invocations := system.invocations.modify number fun invocation =>
        { invocation with answer := some surroundings.answer } },
      call.goTo (.answered prepared surroundings.answer))
  | .answered prepared answer =>
    match transaction surroundings.interruption (settleStamp service call.command system.db prepared
        (stampOutcome service call.command surroundings prepared answer)) with
    | .error error => (system, call.goTo (.finished (.error error)))
    | .ok (result, db) => ({ system with db }, call.goTo (.finished result))
  | .finished _ => (system, call)

def stampFiscalInvoice (command : StampFiscalInvoiceCommand) : StampCall := ⟨command, .start⟩

def StampMoves (service : BillingService) (system : FiscalSystem) (call : StampCall)
    (system' : FiscalSystem) (call' : StampCall) : Prop :=
  ∃ surroundings, call.next service surroundings system = (system', call')

end TridentPos.Billing
