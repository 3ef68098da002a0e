import TridentPos.Billing.Stamping
import TridentPos.Library.Interleaving

/-!
# How often the PAC is asked for a stamp

Calls of `stampFiscalInvoice` interleave between their steps, with a connector that can neither look
a stamp up nor repeat a request safely. What guards an invoice against a second request is the
operation of the first one, but only for calls with its idempotency key: a call with another key
opens an operation of its own. Where a call opens an operation only when every earlier one of its
invoice ended in a rejection, a second request follows rejections only.
-/
namespace TridentPos.Billing

open Core Library Interleaving Fallible Table FiscalDb StampCall List OperationRow

def Invocation.rejected (invocation : Invocation) : Bool :=
  match invocation.answer with
  | some (.returned result) => result.status == .rejected
  | _ => false

variable (organizationId : Uuid)

def Invocation.isFor (invoiceId : Uuid) (invocation : Invocation) : Bool :=
  invocation.organizationId == organizationId && invocation.invoiceId == invoiceId

def OnceUnlessRejected (invoiceId : Uuid) (invocations : List Invocation) : Prop :=
  invocations.Pairwise fun earlier later =>
    earlier.isFor organizationId invoiceId → later.isFor organizationId invoiceId →
      earlier.rejected

/-- The connector can neither look a stamp up nor repeat a request under its key. -/
def Unassisted (connector : PacConnector) : Prop :=
  connector.capabilities.supportsAuthoritativeStampLookup = false ∧
    connector.capabilities.supportsStampIdempotencyKey = false

def StampStage.begins : StampStage → Bool
  | .start => true
  | _ => false

/-- A call that is about to open an operation for the invoice finds every earlier stamp of it
rejected for good. -/
def OpensAfterRejections (invoiceId : Uuid) (system : FiscalSystem) (call : StampCall) : Prop :=
  call.stage.begins → Uuid.read call.command.organizationId = some organizationId →
    Uuid.read call.command.invoiceId = some invoiceId →
    system.db.operationByKey organizationId call.command.key = none →
    ∀ operation ∈ system.db.operations, operation.organizationId = organizationId →
      operation.invoiceId = invoiceId → operation.operationType = .stamp →
      operation.status = .failedTerminal
deriving Decidable

/-! ### What the guard reads of an operation -/

/-- The columns that decide whether a request may be sent. -/
structure Standing where
  (id organizationId invoiceId : Uuid)
  operationType : FiscalOperationType
  idempotencyKey : String
  status : FiscalStampingOperationStatus
  hasUuid : Bool

def OperationRow.standing (row : OperationRow) : Standing where
  id := row.id
  organizationId := row.organizationId
  invoiceId := row.invoiceId
  operationType := row.operationType
  idempotencyKey := row.idempotencyKey
  status := row.status
  hasUuid := row.externalUuid.any fun uuid => uuid != ""

def FiscalDb.standings (db : FiscalDb) : List Standing := db.operations.map standing

/-- No call that finds the operation sends its request again. -/
def Standing.Closed (standing : Standing) : Prop :=
  standing.status = .inFlight ∨ standing.status = .reconciliationRequired ∨
    standing.status = .failedTerminal ∨ (standing.status = .succeeded ∧ standing.hasUuid)

def Standing.isAt (id : Uuid) (standing : Standing) : Bool :=
  standing.organizationId == organizationId && standing.id == id

def Standing.IsOf (invoiceId : Uuid) (standing : Standing) : Prop :=
  standing.organizationId = organizationId ∧ standing.invoiceId = invoiceId ∧
    standing.operationType = .stamp

theorem standings_kept (db db' : FiscalDb) (selected : OperationRow → Bool)
    (change : OperationRow → OperationRow) (updated : db.updateOperations selected change = .ok db')
    (kept : ∀ row, (change row).standing = row.standing) : db'.standings = db.standings := by
  obtain ⟨-, -, rfl⟩ := db.updateOperations_eq_ok db' selected change updated
  exact map_updateWhere selected change standing db.operations kept

variable {command : StampFiscalInvoiceCommand} {surroundings : StampSurroundings}
  {invoice : FiscalInvoiceRow} {db db' : FiscalDb} {preparation : StampPreparation}
  (change : Standing → Standing) {organizationId id operationId : Uuid}

theorem standings_at {change : OperationRow → OperationRow} {seen : Standing → Standing}
    (updated : db.updateOperations (isAt organizationId id) change = .ok db')
    (changes : ∀ row, (change row).standing = seen row.standing) :
    db'.standings = updateWhere (Standing.isAt organizationId id) seen db.standings := by
  obtain ⟨-, -, rfl⟩ := db.updateOperations_eq_ok db' _ change updated
  exact map_updateWhere_view change standing _ seen db.operations
    (fun _ => rfl) changes

theorem operations_updateInvoice {change : FiscalInvoiceRow → FiscalInvoiceRow}
    (updated : db.updateInvoice organizationId id change = .ok db') :
    db'.operations = db.operations := by
  rw [db.updateInvoice_eq_ok db' organizationId id change updated]

variable {service : BillingService}

theorem standings_enqueue {input : EnqueueFiscalEventInput}
    (enqueued : enqueueFiscalEvent service db input = .ok db') : db'.standings = db.standings := by
  obtain ⟨organizationId, row, durable, kept, -, -, -, -, -, stored, rfl⟩ :=
    enqueueFiscalEvent_eq_ok enqueued
  rcases durablePayload_eq_ok stored with
    ⟨-, -, rfl⟩ | ⟨-, -, updated⟩
  · rfl
  · exact standings_kept db kept _ _ updated fun _ => rfl

/-! ### What a step does -/

structure Settles (answer : PacAnswer PacStampResult) (change : Standing → Standing) : Prop where
  identity : ∀ standing, (change standing).id = standing.id ∧
    (change standing).organizationId = standing.organizationId ∧
    (change standing).invoiceId = standing.invoiceId ∧
    (change standing).operationType = standing.operationType
  outcome : ∀ standing, (change standing).status = .reconciliationRequired ∨
    ((change standing).status = .failedTerminal ∧
      ∃ result, answer = .returned result ∧ result.status = .rejected) ∨
    ((change standing).status = .succeeded ∧ (change standing).hasUuid)

inductive StampEffect (system : FiscalSystem) (call : StampCall) : FiscalSystem → StampCall → Prop
  | rests (db : FiscalDb) (stage : StampStage) (idle : ∀ prepared answer number,
      stage ≠ .prepared prepared ∧ stage ≠ .dispatched prepared number ∧ stage ≠ .answered prepared answer)
      (kept : db.standings = system.db.standings) :
      StampEffect system call ⟨db, system.invocations⟩ (call.goTo stage)
  | opens (db : FiscalDb) (prepared : PreparedStamp) (starts : call.stage = .start)
      (organization : Uuid.read call.command.organizationId = some prepared.organizationId)
      (invoice : Uuid.read call.command.invoiceId = some prepared.invoice.id)
      (unused : system.db.operationByKey prepared.organizationId call.command.key = none)
      (fresh : ∀ standing ∈ system.db.standings, standing.id ≠ prepared.operationId)
      (opened : db.standings = system.db.standings ++
        [⟨prepared.operationId, prepared.organizationId, prepared.invoice.id, .stamp,
          call.command.key, .inFlight, false⟩]) :
      StampEffect system call ⟨db, system.invocations⟩ (call.goTo (.prepared prepared))
  | dispatches (prepared : PreparedStamp) (ready : call.stage = .prepared prepared) :
      StampEffect system call
        ⟨system.db, system.invocations ++
          [⟨prepared.organizationId, prepared.invoice.id, prepared.operationId, none⟩]⟩
        (call.goTo (.dispatched prepared system.invocations.length))
  | answers (prepared : PreparedStamp) (number : Nat) (answer : PacAnswer PacStampResult)
      (waits : call.stage = .dispatched prepared number) :
      StampEffect system call
        ⟨system.db, system.invocations.modify number fun invocation =>
          { invocation with answer := some answer }⟩
        (call.goTo (.answered prepared answer))
  | settles (db : FiscalDb) (prepared : PreparedStamp) (answer : PacAnswer PacStampResult)
      (change : Standing → Standing) (result : Except BillingError (Option FiscalInvoice))
      (answered : call.stage = .answered prepared answer) (settled : Settles answer change)
      (changed : db.standings = updateWhere
        (Standing.isAt prepared.organizationId prepared.operationId) change system.db.standings) :
      StampEffect system call ⟨db, system.invocations⟩ (call.goTo (.finished result))

theorem resumeStamp_closed {requestHash : String} {operation : OperationRow}
    {completed : Option (Option FiscalInvoice)} (unassisted : Unassisted service.connector)
    (closed : operation.standing.Closed)
    (resumed : resumeStamp service command surroundings db organizationId invoice requestHash
      operation = .ok (completed, db')) :
    (∃ full, completed = some full) ∧ db'.operations = db.operations := by
  obtain ⟨noLookup, noRepeat⟩ := unassisted
  simp only [resumeStamp, guard_eq_ok] at resumed
  obtain ⟨-, resumed⟩ := resumed
  split at resumed
  next succeeded =>
    simp only [bind_eq_ok, pure_eq_ok, Prod.mk.injEq] at resumed
    obtain ⟨updated, changed, rfl, rfl⟩ := resumed
    exact ⟨⟨_, rfl⟩, operations_updateInvoice changed⟩
  next notSucceeded =>
    simp only [guard_eq_ok] at resumed
    obtain ⟨notFailed, resumed⟩ := resumed
    have open' : operation.status = .reconciliationRequired ∨ operation.status = .inFlight := by
      rcases closed with inFlight | reconcile | failed | done
      · exact .inr inFlight
      · exact .inl reconcile
      · exact absurd failed notFailed
      · exact absurd done notSucceeded
    rw [if_pos open'] at resumed
    simp [recoverStamp, noLookup, noRepeat, throw, throwThe, MonadExceptOf.throw, bind,
      Except.bind] at resumed

theorem signStamp_eq_ok {requestHash : String}
    (signs : signStamp command surroundings db organizationId operationId invoice requestHash =
      .ok (preparation, db')) :
    db'.standings = db.standings ∧ ∃ prepared, preparation = .prepared prepared ∧
      prepared.organizationId = organizationId ∧ prepared.operationId = operationId ∧
      prepared.invoice = invoice := by
  simp only [signStamp, pinRequest, bind_eq_ok, guard_eq_ok, pure_eq_ok, Prod.mk.injEq] at signs
  obtain ⟨signed, -, _, ⟨pinned, updated, -, rfl⟩, rfl, rfl⟩ := signs
  exact ⟨standings_kept db _ _ _ updated fun _ => rfl, _, rfl, rfl, rfl, rfl⟩

theorem FiscalDb.invoice_id (db : FiscalDb) (found : db.invoice organizationId id = some invoice) :
    invoice.id = id := by
  have selected := find?_some found
  simp only [Bool.and_eq_true, beq_iff_eq] at selected
  exact selected.2

def StampFiscalInvoiceCommand.Resumes (command : StampFiscalInvoiceCommand) (standing : Standing) :
    Prop :=
  Uuid.read command.organizationId = some standing.organizationId ∧
    standing.idempotencyKey = command.key

theorem prepareStamp_eq_ok (unassisted : Unassisted service.connector)
    (closed : ∀ standing ∈ db.standings, command.Resumes standing → standing.Closed)
    (prepares : prepareStamp service command surroundings db = .ok (preparation, db')) :
    (∃ full, preparation = .alreadyCompleted full ∧ db'.standings = db.standings) ∨
      ∃ prepared, preparation = .prepared prepared ∧
        Uuid.read command.organizationId = some prepared.organizationId ∧
        Uuid.read command.invoiceId = some prepared.invoice.id ∧
        db.operationByKey prepared.organizationId command.key = none ∧
        (∀ standing ∈ db.standings, standing.id ≠ prepared.operationId) ∧
        db'.standings = db.standings ++ [⟨prepared.operationId, prepared.organizationId,
          prepared.invoice.id, .stamp, command.key, .inFlight, false⟩] := by
  simp only [prepareStamp, bind_eq_ok, readUuid_eq_ok] at prepares
  obtain ⟨organizationId, readOrganization, invoiceId, readInvoice, prepares⟩ := prepares
  split at prepares
  next => exact absurd prepares throw_ne_ok
  next invoice found =>
    obtain rfl := db.invoice_id found
    split at prepares
    next =>
      obtain ⟨rfl, rfl⟩ := prepares
      exact .inl ⟨_, rfl, rfl⟩
    simp only [bind_eq_ok] at prepares
    obtain ⟨_, -, prepares⟩ := prepares
    split at prepares
    next operation stored =>
      simp only [bind_eq_ok] at prepares
      obtain ⟨⟨completed, resumedDb⟩, resumed, prepares⟩ := prepares
      have member : operation.standing ∈ db.standings :=
        mem_map_of_mem (mem_of_find?_eq_some stored)
      have named := find?_some stored
      simp only [Bool.and_eq_true, beq_iff_eq] at named
      have found : command.Resumes operation.standing :=
        ⟨readOrganization.trans (congrArg some named.1.symm), named.2⟩
      obtain ⟨⟨full, rfl⟩, same⟩ := resumeStamp_closed unassisted (closed _ member found) resumed
      obtain ⟨rfl, rfl⟩ := prepares
      exact .inl ⟨full, rfl, by rw [standings, same, standings]⟩
    next unused =>
      simp only [openStamp, bind_eq_ok, guard_eq_ok] at prepares
      obtain ⟨openedDb, ⟨-, inserted⟩, signs⟩ := prepares
      obtain ⟨fresh, -, rfl⟩ := db.insertOperation_eq_ok openedDb _ inserted
      obtain ⟨same, prepared, rfl, rfl, named, rfl⟩ := signStamp_eq_ok signs
      refine .inr ⟨prepared, rfl, readOrganization, readInvoice, unused, ?_, ?_⟩
      · intro standing member
        obtain ⟨row, stored, rfl⟩ := mem_map.mp member
        exact named ▸ fresh row stored
      · rw [same, named]
        simp [standings, standing, newOperation]

theorem failOperation_standings {status : FiscalStampingOperationStatus}
    (failed : failOperation db organizationId operationId status = .ok db') :
    db'.standings = updateWhere (Standing.isAt organizationId operationId)
      (fun standing => { standing with status := status }) db.standings :=
  standings_at failed fun _ => rfl

theorem recordStamp_standings {uuid stampedXml : Option String} {payload : String → EventPayload}
    {full : Option FiscalInvoice}
    (recorded : recordStamp service command db organizationId operationId invoice uuid stampedXml
      payload = .ok (full, db')) :
    db'.standings = updateWhere (Standing.isAt organizationId operationId)
      (fun standing => { standing with
        status := .succeeded, hasUuid := uuid.any fun uuid => uuid != "" }) db.standings := by
  simp only [recordStamp, bind_eq_ok, pure_eq_ok, Prod.mk.injEq] at recorded
  obtain ⟨succeeded, updated, stamped, changed, enqueued, event, -, rfl⟩ := recorded
  calc enqueued.standings = stamped.standings := standings_enqueue event
    _ = succeeded.standings := by
        rw [standings, operations_updateInvoice changed, standings]
    _ = _ := standings_at updated fun _ => rfl

theorem stampOutcome_cases (service : BillingService) (command : StampFiscalInvoiceCommand)
    (surroundings : StampSurroundings) (prepared : PreparedStamp) (answer : PacAnswer PacStampResult) :
    (∃ error, stampOutcome service command surroundings prepared answer = .reconcile error) ∨
      (∃ error result, stampOutcome service command surroundings prepared answer = .reject error ∧
        answer = .returned result ∧ result.status = .rejected) ∨
      ∃ result uuid, stampOutcome service command surroundings prepared answer = .stamped result ∧
        result.uuid = some uuid ∧ uuid ≠ "" := by
  cases answer with
  | threw isTimeout => exact .inl ⟨_, rfl⟩
  | returned result =>
    simp only [stampOutcome]
    split
    next => exact .inl ⟨_, rfl⟩
    split
    next => exact .inl ⟨_, rfl⟩
    next rejected => exact .inr (.inl ⟨_, result, rfl, rfl, rejected⟩)
    next =>
      split
      next => exact .inl ⟨_, rfl⟩
      next accepted =>
        simp only [bind_eq_ok] at accepted
        obtain ⟨_, -, accepted⟩ := accepted
        obtain ⟨uuid, given, notEmpty⟩ := validateAuthoritativeStampResult_uuid accepted
        exact .inr (.inr ⟨result, uuid, rfl, given, notEmpty⟩)

variable {prepared : PreparedStamp}

theorem settleStamp_settles {answer : PacAnswer PacStampResult}
    {result : Except BillingError (Option FiscalInvoice)}
    (settled : settleStamp service command db prepared
      (stampOutcome service command surroundings prepared answer) = .ok (result, db')) :
    ∃ change, Settles answer change ∧ db'.standings = updateWhere
      (Standing.isAt prepared.organizationId prepared.operationId) change db.standings := by
  rcases stampOutcome_cases service command surroundings prepared answer with
    ⟨error, outcome⟩ | ⟨error, rejection, outcome, answered, rejected⟩ |
    ⟨stamp, uuid, outcome, given, notEmpty⟩
  · simp only [outcome, settleStamp, bind_eq_ok, pure_eq_ok, Prod.mk.injEq] at settled
    obtain ⟨_, failed, -, rfl⟩ := settled
    refine ⟨_, ?_, failOperation_standings failed⟩
    exact ⟨fun _ => ⟨rfl, rfl, rfl, rfl⟩, fun _ => .inl rfl⟩
  · simp only [outcome, settleStamp, bind_eq_ok, pure_eq_ok, Prod.mk.injEq] at settled
    obtain ⟨_, failed, -, rfl⟩ := settled
    refine ⟨_, ?_, failOperation_standings failed⟩
    exact ⟨fun _ => ⟨rfl, rfl, rfl, rfl⟩, fun _ => .inr (.inl ⟨rfl, rejection, answered, rejected⟩)⟩
  · simp only [outcome, settleStamp, bind_eq_ok, pure_eq_ok, Prod.mk.injEq] at settled
    obtain ⟨⟨full, recordedDb⟩, recorded, -, rfl⟩ := settled
    refine ⟨_, ?_, recordStamp_standings recorded⟩
    exact ⟨fun _ => ⟨rfl, rfl, rfl, rfl⟩, fun _ => .inr (.inr ⟨rfl, by simp [given, notEmpty]⟩)⟩

theorem transaction_eq_ok {α : Type} {interruption : Option BillingError}
    {body : Except BillingError α} {result : α}
    (committed : transaction interruption body = .ok result) : body = .ok result := by
  cases interruption with
  | none => exact committed
  | some error => simp [transaction] at committed

theorem StampMoves.effect {system system' : FiscalSystem} {call call' : StampCall}
    (unassisted : Unassisted service.connector)
    (closed : ∀ standing ∈ system.db.standings, call.command.Resumes standing → standing.Closed)
    (moved : StampMoves service system call system' call') :
    StampEffect system call system' call' := by
  obtain ⟨surroundings, moved⟩ := moved
  simp only [StampCall.next] at moved
  split at moved
  next starts =>
    split at moved <;> obtain ⟨rfl, rfl⟩ := Prod.mk.inj moved
    next error _ => exact .rests system.db _ (by simp) rfl
    next full db committed =>
      rcases prepareStamp_eq_ok unassisted closed
        (transaction_eq_ok committed) with ⟨_, -, kept⟩ | ⟨_, other, -⟩
      · exact .rests db _ (by simp) kept
      · simp at other
    next prepared db committed =>
      rcases prepareStamp_eq_ok unassisted closed (transaction_eq_ok committed) with ⟨_, other, -⟩ |
        ⟨_, same, organization, invoice, unused, fresh, opened⟩
      · simp at other
      · obtain rfl := StampPreparation.prepared.inj same
        exact .opens db prepared starts organization invoice unused fresh opened
  next prepared ready =>
    split at moved <;> obtain ⟨rfl, rfl⟩ := Prod.mk.inj moved
    next error _ => exact .rests system.db _ (by simp) rfl
    next => exact .dispatches prepared ready
  next prepared number waits =>
    obtain ⟨rfl, rfl⟩ := Prod.mk.inj moved
    exact .answers prepared number surroundings.answer waits
  next prepared answer answered =>
    split at moved <;> obtain ⟨rfl, rfl⟩ := Prod.mk.inj moved
    next error _ => exact .rests system.db _ (by simp) rfl
    next result db committed =>
      obtain ⟨change, settled, changed⟩ := settleStamp_settles (transaction_eq_ok committed)
      exact .settles db prepared answer change result answered settled changed
  next result finished =>
    obtain ⟨rfl, rfl⟩ := Prod.mk.inj moved
    have same : call = call.goTo (.finished result) := by rw [goTo, ← finished]
    rw [same]
    exact .rests system.db _ (by simp) rfl

/-! ### The invariant -/

/-- The operations and the invocations fit together: the operation of an invocation is stored, it
failed for good only on a rejection, and at most one stamp of the invoice has not failed so. No call
of the commands sends a request again. -/
structure Guarded (commands : List StampFiscalInvoiceCommand) (organizationId invoiceId : Uuid)
    (standings : List Standing) (invocations : List Invocation) : Prop where
  closed : ∀ standing ∈ standings, ∀ command ∈ commands, command.Resumes standing → standing.Closed
  ids : (standings.map Standing.id).Nodup
  recorded : ∀ invocation ∈ invocations, ∃ standing ∈ standings,
    standing.id = invocation.operationId ∧
    standing.IsOf invocation.organizationId invocation.invoiceId ∧
    (standing.status = .failedTerminal → invocation.rejected)
  single : ∀ standing ∈ standings, ∀ other ∈ standings, standing.IsOf organizationId invoiceId →
    other.IsOf organizationId invoiceId → standing.status ≠ .failedTerminal →
    other.status ≠ .failedTerminal → standing.id = other.id
  once : OnceUnlessRejected organizationId invoiceId invocations

def InFlight (standings : List Standing) (prepared : PreparedStamp) : Prop :=
  ∃ standing ∈ standings, standing.id = prepared.operationId ∧
    standing.IsOf prepared.organizationId prepared.invoice.id ∧ standing.status = .inFlight

def InStep (standings : List Standing) (invocations : List Invocation) : StampStage → Prop
  | .prepared prepared => InFlight standings prepared ∧
      ∀ invocation ∈ invocations, invocation.operationId ≠ prepared.operationId
  | .dispatched prepared number => InFlight standings prepared ∧
      (∃ invocation, invocations[number]? = some invocation ∧
        invocation.operationId = prepared.operationId ∧ invocation.answer = none) ∧
      ∀ index invocation, invocations[index]? = some invocation →
        invocation.operationId = prepared.operationId → index = number
  | .answered prepared answer => InFlight standings prepared ∧
      ∀ invocation ∈ invocations, invocation.operationId = prepared.operationId →
        invocation.answer = some answer
  | _ => True

def StampStage.held : StampStage → Option PreparedStamp
  | .prepared stamp | .dispatched stamp _ | .answered stamp _ => some stamp
  | _ => none

def Apart (call other : StampCall) : Prop :=
  ∀ prepared another, call.stage.held = some prepared → other.stage.held = some another →
    prepared.operationId ≠ another.operationId

theorem Apart.symm {call other : StampCall} (apart : Apart call other) : Apart other call :=
  fun prepared another held heldToo same => apart another prepared heldToo held same.symm

theorem InStep.inFlight {standings : List Standing} {invocations : List Invocation}
    {stage : StampStage} (inStep : InStep standings invocations stage)
    (held : stage.held = some prepared) : InFlight standings prepared := by
  cases stage with
  | start | finished => simp [StampStage.held] at held
  | prepared | dispatched | answered =>
    obtain rfl := Option.some.inj held
    exact inStep.1

section Keeps

variable {commands : List StampFiscalInvoiceCommand} {invoiceId : Uuid}
  {standings : List Standing} {invocations : List Invocation}

theorem Guarded.unique (guarded : Guarded commands organizationId invoiceId standings invocations)
    {standing other : Standing} (member : standing ∈ standings) (memberToo : other ∈ standings)
    (same : standing.id = other.id) : standing = other :=
  inj_on_of_nodup_map guarded.ids member memberToo same

theorem Guarded.opens (guarded : Guarded commands organizationId invoiceId standings invocations)
    (new : Standing) (fresh : ∀ standing ∈ standings, standing.id ≠ new.id)
    (inFlight : new.status = .inFlight)
    (rejections : new.IsOf organizationId invoiceId → ∀ standing ∈ standings,
      standing.IsOf organizationId invoiceId → standing.status = .failedTerminal) :
    Guarded commands organizationId invoiceId (standings ++ [new]) invocations where
  closed := forall_mem_append.mpr
    ⟨guarded.closed, forall_mem_singleton.mpr fun _ _ _ => .inl inFlight⟩
  ids := by
    rw [map_append]
    refine nodup_append_singleton guarded.ids fun member => ?_
    obtain ⟨standing, old, same⟩ := mem_map.mp member
    exact fresh standing old same
  recorded := by
    intro invocation member
    obtain ⟨standing, old, facts⟩ := guarded.recorded invocation member
    exact ⟨standing, mem_append_left _ old, facts⟩
  single := by
    intro standing member other memberToo ofInvoice ofInvoiceToo live liveToo
    rcases mem_append.mp member with old | last
    · rcases mem_append.mp memberToo with oldToo | lastToo
      · exact guarded.single standing old other oldToo ofInvoice ofInvoiceToo live liveToo
      · obtain rfl := mem_singleton.mp lastToo
        exact absurd (rejections ofInvoiceToo standing old ofInvoice) live
    · obtain rfl := mem_singleton.mp last
      rcases mem_append.mp memberToo with oldToo | lastToo
      · exact absurd (rejections ofInvoice other oldToo ofInvoiceToo) liveToo
      · rw [mem_singleton.mp lastToo]
  once := guarded.once

theorem Guarded.dispatches (guarded : Guarded commands organizationId invoiceId standings invocations)
    (inFlight : InFlight standings prepared)
    (first : ∀ invocation ∈ invocations, invocation.operationId ≠ prepared.operationId) :
    Guarded commands organizationId invoiceId standings (invocations ++
      [⟨prepared.organizationId, prepared.invoice.id, prepared.operationId, none⟩]) where
  closed := guarded.closed
  ids := guarded.ids
  recorded := by
    refine forall_mem_append.mpr ⟨guarded.recorded, forall_mem_singleton.mpr ?_⟩
    obtain ⟨standing, stored, same, ofInvoice, status⟩ := inFlight
    exact ⟨standing, stored, same, ofInvoice, by simp [status]⟩
  single := guarded.single
  once := by
    refine pairwise_append.mpr ⟨guarded.once, pairwise_singleton _ _, ?_⟩
    intro earlier member last lastMember forInvoice lastForInvoice
    obtain rfl := mem_singleton.mp lastMember
    simp only [Invocation.isFor, Bool.and_eq_true, beq_iff_eq] at forInvoice lastForInvoice
    obtain ⟨own, stored, same, ofInvoice, status⟩ := inFlight
    obtain ⟨standing, storedToo, sameToo, ofInvoiceToo, rejection⟩ := guarded.recorded earlier member
    rw [lastForInvoice.1, lastForInvoice.2] at ofInvoice
    rw [forInvoice.1, forInvoice.2] at ofInvoiceToo
    by_cases failed : standing.status = .failedTerminal
    · exact rejection failed
    · have one := guarded.single standing storedToo own stored ofInvoiceToo ofInvoice failed
        (by simp [status])
      exact absurd (sameToo.symm.trans (one.trans same)) (first earlier member)

def Invocation.answeredBy (answer : PacAnswer PacStampResult) (invocation : Invocation) :
    Invocation :=
  { invocation with answer := some answer }

variable {number : Nat} {answer : PacAnswer PacStampResult} {invocation waiting : Invocation}

theorem getElem?_answered {index : Nat}
    (found : (invocations.modify number (Invocation.answeredBy answer))[index]? = some invocation) :
    ∃ before, invocations[index]? = some before ∧
      ((index = number ∧ invocation = before.answeredBy answer) ∨
        (index ≠ number ∧ invocation = before)) := by
  rw [getElem?_modify] at found
  obtain ⟨before, there, changed⟩ := Option.map_eq_some_iff.mp found
  refine ⟨before, there, ?_⟩
  split at changed
  next same => exact .inl ⟨same.symm, changed.symm⟩
  next other => exact .inr ⟨fun same => other same.symm, changed.symm⟩

theorem mem_answered (waits : invocations[number]? = some waiting)
    (unanswered : waiting.answer = none)
    (member : invocation ∈ invocations.modify number (Invocation.answeredBy answer)) :
    ∃ before ∈ invocations, invocation.operationId = before.operationId ∧
      invocation.organizationId = before.organizationId ∧ invocation.invoiceId = before.invoiceId ∧
      (before.rejected → invocation.rejected) := by
  obtain ⟨index, found⟩ := mem_iff_getElem?.mp member
  obtain ⟨before, there, ⟨rfl, rfl⟩ | ⟨-, rfl⟩⟩ := getElem?_answered found
  · obtain rfl : waiting = before := Option.some.inj (waits.symm.trans there)
    exact ⟨waiting, mem_of_getElem? there, rfl, rfl, rfl, by simp [Invocation.rejected, unanswered]⟩
  · exact ⟨invocation, mem_of_getElem? there, rfl, rfl, rfl, id⟩

theorem Guarded.answers (guarded : Guarded commands organizationId invoiceId standings invocations)
    (answer : PacAnswer PacStampResult)
    (inStep : InStep standings invocations (.dispatched prepared number)) :
    Guarded commands organizationId invoiceId standings
      (invocations.modify number (Invocation.answeredBy answer)) where
  closed := guarded.closed
  ids := guarded.ids
  recorded := by
    intro invocation member
    obtain ⟨-, ⟨waiting, waits, -, unanswered⟩, -⟩ := inStep
    obtain ⟨before, there, operation, organization, invoice, rejection⟩ :=
      mem_answered waits unanswered member
    obtain ⟨standing, stored, same, ofInvoice, failed⟩ := guarded.recorded before there
    exact ⟨standing, stored, same.trans operation.symm, organization ▸ invoice ▸ ofInvoice,
      fun terminal => rejection (failed terminal)⟩
  single := guarded.single
  once := by
    -- an unanswered invocation is the last one of its invoice, so its answer is not asked for
    obtain ⟨-, ⟨waiting, waits, -, unanswered⟩, -⟩ := inStep
    refine pairwise_iff_getElem.mpr fun i j hi hj less forInvoice forInvoiceToo => ?_
    obtain ⟨earlier, there, earlierCases⟩ := getElem?_answered (getElem?_eq_getElem hi)
    obtain ⟨later, thereToo, laterCases⟩ := getElem?_answered (getElem?_eq_getElem hj)
    obtain ⟨hi', rfl⟩ := List.getElem?_eq_some_iff.mp there
    obtain ⟨hj', rfl⟩ := List.getElem?_eq_some_iff.mp thereToo
    have rejected : (invocations[i]).rejected := by
      refine pairwise_iff_getElem.mp guarded.once i j hi' hj' less ?_ ?_
      · rcases earlierCases with ⟨-, same⟩ | ⟨-, same⟩ <;> rw [same] at forInvoice <;> exact forInvoice
      · rcases laterCases with ⟨-, same⟩ | ⟨-, same⟩ <;> rw [same] at forInvoiceToo <;>
          exact forInvoiceToo
    rcases earlierCases with ⟨rfl, -⟩ | ⟨-, same⟩
    · rw [Option.some.inj (there.symm.trans waits)] at rejected
      simp [Invocation.rejected, unanswered] at rejected
    · rw [same]
      exact rejected

theorem mem_settled {own id : Uuid} (standing : Standing)
    (member : standing ∈ updateWhere (Standing.isAt own id) change standings) :
    (∃ before ∈ standings, before.id = id ∧ standing = change before) ∨
      (standing ∈ standings ∧ ¬(standing.organizationId = own ∧ standing.id = id)) := by
  rcases mem_updateWhere.mp member with ⟨before, there, hit, rfl⟩ | ⟨there, missed⟩
  · simp only [Standing.isAt, Bool.and_eq_true, beq_iff_eq] at hit
    exact .inl ⟨before, there, hit.2, rfl⟩
  · simp only [Standing.isAt, Bool.and_eq_false_iff, beq_eq_false_iff_ne] at missed
    exact .inr ⟨there, fun both => missed.elim (· both.1) (· both.2)⟩

theorem mem_settled_of_mem (own id : Uuid) (change : Standing → Standing) (standing : Standing)
    (member : standing ∈ standings) :
    (if Standing.isAt own id standing then change standing else standing) ∈
      updateWhere (Standing.isAt own id) change standings :=
  mem_map_of_mem member

theorem Guarded.settles (guarded : Guarded commands organizationId invoiceId standings invocations)
    (prepared : PreparedStamp) (answer : PacAnswer PacStampResult) (change : Standing → Standing)
    (inStep : InStep standings invocations (.answered prepared answer))
    (settled : Settles answer change) :
    Guarded commands organizationId invoiceId (updateWhere
      (Standing.isAt prepared.organizationId prepared.operationId) change standings) invocations := by
  obtain ⟨⟨own, stored, named, ofOwn, inFlight⟩, answers⟩ := inStep
  -- a standing of the new list comes from one that had not failed unless it has now
  have origin : ∀ standing ∈ updateWhere
      (Standing.isAt prepared.organizationId prepared.operationId) change standings,
      ∃ before ∈ standings, standing.id = before.id ∧
        (standing.IsOf organizationId invoiceId → before.IsOf organizationId invoiceId) ∧
        (standing.status ≠ .failedTerminal → before.status ≠ .failedTerminal) := by
    intro standing member
    rcases mem_settled change standing member with ⟨before, there, same, rfl⟩ | ⟨there, -⟩
    · obtain rfl := guarded.unique there stored (same.trans named.symm)
      obtain ⟨id, organization, invoice, type⟩ := settled.identity before
      refine ⟨before, there, id, fun ofInvoice => ?_, fun _ => by simp [inFlight]⟩
      exact ⟨organization ▸ ofInvoice.1, invoice ▸ ofInvoice.2.1, type ▸ ofInvoice.2.2⟩
    · exact ⟨standing, there, rfl, id, id⟩
  constructor
  case closed =>
    intro standing member command given found
    rcases mem_settled change standing member with ⟨before, -, -, rfl⟩ | ⟨there, -⟩
    · rcases settled.outcome before with reconcile | ⟨failed, -⟩ | done
      · exact .inr (.inl reconcile)
      · exact .inr (.inr (.inl failed))
      · exact .inr (.inr (.inr done))
    · exact guarded.closed standing there command given found
  case ids =>
    rw [map_updateWhere _ _ _ _ fun standing => (settled.identity standing).1]
    exact guarded.ids
  case recorded =>
    intro invocation member
    obtain ⟨standing, there, same, ofInvoice, failed⟩ := guarded.recorded invocation member
    refine ⟨_, mem_settled_of_mem prepared.organizationId prepared.operationId change standing there, ?_⟩
    split
    next hit =>
      obtain ⟨id, organization, invoice, type⟩ := settled.identity standing
      simp only [Standing.isAt, Bool.and_eq_true, beq_iff_eq] at hit
      refine ⟨id.trans same, ?_, fun terminal => ?_⟩
      · exact ⟨organization.trans ofInvoice.1, invoice.trans ofInvoice.2.1, type.trans ofInvoice.2.2⟩
      · rcases settled.outcome standing with reconcile | ⟨-, result, returned, rejected⟩ | ⟨done, -⟩
        · simp [terminal] at reconcile
        · have answered := answers invocation member (same.symm.trans hit.2)
          simp [Invocation.rejected, answered, returned, rejected]
        · simp [terminal] at done
    next => exact ⟨same, ofInvoice, failed⟩
  case single =>
    intro standing member other memberToo ofInvoice ofInvoiceToo live liveToo
    obtain ⟨before, there, same, was, lived⟩ := origin standing member
    obtain ⟨beforeToo, thereToo, sameToo, wasToo, livedToo⟩ := origin other memberToo
    rw [same, sameToo]
    exact guarded.single before there beforeToo thereToo (was ofInvoice) (wasToo ofInvoiceToo)
      (lived live) (livedToo liveToo)
  case once => exact guarded.once

/-! ### The other calls -/

theorem InFlight.mono {more : List Standing} (subset : standings ⊆ more)
    (inFlight : InFlight standings prepared) : InFlight more prepared := by
  obtain ⟨standing, member, facts⟩ := inFlight
  exact ⟨standing, subset member, facts⟩

theorem InFlight.settled (own id : Uuid) (change : Standing → Standing) (prepared : PreparedStamp)
    (other : id ≠ prepared.operationId) (inFlight : InFlight standings prepared) :
    InFlight (updateWhere (Standing.isAt own id) change standings) prepared := by
  obtain ⟨standing, member, named, facts⟩ := inFlight
  have missed : Standing.isAt own id standing = false := by
    simp only [Standing.isAt, Bool.and_eq_false_iff, beq_eq_false_iff_ne]
    exact .inr fun same => other (same.symm.trans named)
  have kept := mem_settled_of_mem own id change standing member
  rw [missed] at kept
  exact ⟨standing, kept, named, facts⟩

variable {stage : StampStage}

theorem InStep.moreStandings {more : List Standing} (inStep : InStep standings invocations stage)
    (kept : ∀ prepared, stage.held = some prepared → InFlight standings prepared →
      InFlight more prepared) : InStep more invocations stage := by
  cases stage with
  | start | finished => trivial
  | prepared | dispatched | answered => exact ⟨kept _ rfl inStep.1, inStep.2⟩

theorem InStep.dispatches {new : Invocation} (inStep : InStep standings invocations stage)
    (other : ∀ prepared, stage.held = some prepared → new.operationId ≠ prepared.operationId) :
    InStep standings (invocations ++ [new]) stage := by
  cases stage with
  | start | finished => trivial
  | prepared stamp =>
    exact ⟨inStep.1, forall_mem_append.mpr
      ⟨inStep.2, forall_mem_singleton.mpr (other stamp rfl)⟩⟩
  | dispatched stamp number =>
    obtain ⟨inFlight, ⟨waiting, waits, named, unanswered⟩, unique⟩ := inStep
    have bound : number < invocations.length := (List.getElem?_eq_some_iff.mp waits).1
    refine ⟨inFlight, ⟨waiting, by rw [getElem?_append_left bound, waits], named, unanswered⟩, ?_⟩
    intro index invocation found same
    rw [getElem?_append] at found
    split at found
    next => exact unique index invocation found same
    next =>
      have last := mem_of_getElem? found
      rw [mem_singleton.mp last] at same
      exact absurd same (other stamp rfl)
  | answered stamp answer =>
    exact ⟨inStep.1, forall_mem_append.mpr
      ⟨inStep.2, forall_mem_singleton.mpr fun same => absurd same (other stamp rfl)⟩⟩

theorem InStep.answers (answer : PacAnswer PacStampResult)
    (inStep : InStep standings invocations stage) (waits : invocations[number]? = some waiting)
    (other : ∀ prepared, stage.held = some prepared → waiting.operationId ≠ prepared.operationId) :
    InStep standings (invocations.modify number (Invocation.answeredBy answer)) stage := by
  -- an invocation of this call's operation is not the one that is answered
  have kept : ∀ prepared, stage.held = some prepared → ∀ (index : Nat) (invocation : Invocation),
      (invocations.modify number (Invocation.answeredBy answer))[index]? = some invocation →
      invocation.operationId = prepared.operationId → invocations[index]? = some invocation := by
    intro prepared held index invocation found same
    obtain ⟨before, there, ⟨rfl, rfl⟩ | ⟨-, rfl⟩⟩ := getElem?_answered found
    · obtain rfl : waiting = before := Option.some.inj (waits.symm.trans there)
      exact absurd same (other prepared held)
    · exact there
  cases stage with
  | start | finished => trivial
  | prepared stamp | answered stamp given =>
    refine ⟨inStep.1, fun invocation member same => ?_⟩
    obtain ⟨index, found⟩ := mem_iff_getElem?.mp member
    exact inStep.2 invocation (mem_of_getElem? (kept stamp rfl index invocation found same)) same
  | dispatched stamp place =>
    obtain ⟨inFlight, ⟨own, there, named, unanswered⟩, unique⟩ := inStep
    refine ⟨inFlight, ⟨own, ?_, named, unanswered⟩, fun index invocation found same =>
      unique index invocation (kept stamp rfl index invocation found same) same⟩
    have elsewhere : number ≠ place := by
      rintro rfl
      obtain rfl : waiting = own := Option.some.inj (waits.symm.trans there)
      exact other stamp rfl named
    rw [getElem?_modify, there]
    simp [elsewhere]

end Keeps

/-! ### Runs -/

def LeavesOperations (system system' : FiscalSystem) : Prop :=
  system'.db.operations = system.db.operations ∧ system'.invocations = system.invocations

def StampMovesAfterRejections (service : BillingService) (organizationId invoiceId : Uuid)
    (system : FiscalSystem) (call : StampCall) (system' : FiscalSystem) (call' : StampCall) : Prop :=
  OpensAfterRejections organizationId invoiceId system call ∧
    StampMoves service system call system' call'

section Runs

variable {commands : List StampFiscalInvoiceCommand} {invoiceId : Uuid}

theorem idle_cases {stage : StampStage} (idle : ∀ prepared answer number,
    stage ≠ .prepared prepared ∧ stage ≠ .dispatched prepared number ∧
      stage ≠ .answered prepared answer) : stage = .start ∨ ∃ result, stage = .finished result := by
  cases stage with
  | start => exact .inl rfl
  | finished result => exact .inr ⟨result, rfl⟩
  | prepared stamp => exact absurd rfl (idle stamp (.threw true) 0).1
  | dispatched stamp number => exact absurd rfl (idle stamp (.threw true) number).2.1
  | answered stamp answer => exact absurd rfl (idle stamp answer 0).2.2

section Moves

variable (unassisted : Unassisted service.connector) {system system' : FiscalSystem}
  {call call' : StampCall} (given : call.command ∈ commands)
  (guarded : Guarded commands organizationId invoiceId system.db.standings system.invocations)
  (inStep : InStep system.db.standings system.invocations call.stage)
  (moved : StampMovesAfterRejections service organizationId invoiceId system call system' call')
include unassisted given guarded inStep moved

theorem StampMoves.keeps :
    Guarded commands organizationId invoiceId system'.db.standings system'.invocations ∧
      call'.command ∈ commands ∧ InStep system'.db.standings system'.invocations call'.stage := by
  cases moved.2.effect unassisted
    fun standing stored => guarded.closed standing stored _ given with
  | rests db stage idle kept =>
    rcases idle_cases idle with rfl | ⟨_, rfl⟩ <;> exact ⟨kept ▸ guarded, given, trivial⟩
  | opens db prepared starts organization invoice unused fresh opened =>
    rw [opened]
    refine ⟨guarded.opens _ fresh rfl ?_, given, ⟨_, mem_append_right _ (mem_singleton_self _),
      rfl, ⟨rfl, rfl, rfl⟩, rfl⟩, ?_⟩
    · rintro ⟨rfl, rfl, -⟩ standing member ⟨ofOrganization, ofInvoice, stamp⟩
      obtain ⟨operation, stored, rfl⟩ := mem_map.mp member
      exact moved.1 (by rw [starts, StampStage.begins]) organization invoice unused operation stored
        ofOrganization ofInvoice stamp
    · intro invocation member same
      obtain ⟨standing, stored, named, -⟩ := guarded.recorded invocation member
      exact fresh standing stored (named.trans same)
  | dispatches prepared ready =>
    rw [ready] at inStep
    refine ⟨guarded.dispatches inStep.1 inStep.2, given, inStep.1,
      ⟨_, getElem?_concat_length, ?_⟩, ?_⟩
    · exact ⟨rfl, rfl⟩
    · intro index invocation found same
      rw [getElem?_append] at found
      split at found
      next => exact absurd same (inStep.2 invocation (mem_of_getElem? found))
      next late =>
        have bound := (List.getElem?_eq_some_iff.mp found).1
        simp only [length_singleton] at bound
        omega
  | answers prepared number answer waits =>
    rw [waits] at inStep
    refine ⟨guarded.answers answer inStep, given, inStep.1, ?_⟩
    intro invocation member same
    obtain ⟨-, ⟨waiting, there, named, -⟩, unique⟩ := inStep
    obtain ⟨index, found⟩ := mem_iff_getElem?.mp member
    obtain ⟨before, thereToo, ⟨-, rfl⟩ | ⟨elsewhere, rfl⟩⟩ := getElem?_answered found
    · rfl
    · exact absurd (unique index invocation thereToo same) elsewhere
  | settles db prepared answer change result answered settled changed =>
    rw [answered] at inStep
    rw [changed]
    exact ⟨guarded.settles prepared answer change inStep settled, given, trivial⟩

theorem StampMoves.stable {other : StampCall}
    (inStepToo : InStep system.db.standings system.invocations other.stage)
    (apart : Apart call other) :
    InStep system'.db.standings system'.invocations other.stage ∧ Apart call' other := by
  cases moved.2.effect unassisted
    fun standing stored => guarded.closed standing stored _ given with
  | rests db stage idle kept =>
    refine ⟨kept ▸ inStepToo, fun prepared another held => ?_⟩
    rcases idle_cases idle with rfl | ⟨_, rfl⟩ <;> simp [goTo, StampStage.held] at held
  | opens db prepared starts organization invoice unused fresh opened =>
    rw [opened]
    refine ⟨inStepToo.moreStandings fun stamp held inFlight =>
      inFlight.mono (subset_append_left _ _), ?_⟩
    intro own another held heldToo same
    obtain rfl := Option.some.inj held
    obtain ⟨standing, stored, named, -⟩ := inStepToo.inFlight heldToo
    exact fresh standing stored (named.trans same.symm)
  | dispatches prepared ready =>
    have separate : ∀ another, other.stage.held = some another →
        prepared.operationId ≠ another.operationId := fun another heldToo =>
      apart prepared another (by rw [ready, StampStage.held]) heldToo
    refine ⟨inStepToo.dispatches separate, fun own another held heldToo => ?_⟩
    obtain rfl := Option.some.inj held
    exact separate another heldToo
  | answers prepared number answer waits =>
    have separate : ∀ another, other.stage.held = some another →
        prepared.operationId ≠ another.operationId := fun another heldToo =>
      apart prepared another (by rw [waits, StampStage.held]) heldToo
    rw [waits] at inStep
    obtain ⟨-, ⟨waiting, there, named, -⟩, -⟩ := inStep
    refine ⟨inStepToo.answers answer there fun another heldToo =>
      named ▸ separate another heldToo, fun own another held heldToo => ?_⟩
    obtain rfl := Option.some.inj held
    exact separate another heldToo
  | settles db prepared answer change result answered settled changed =>
    rw [changed]
    refine ⟨inStepToo.moreStandings fun another heldToo inFlight =>
      inFlight.settled _ _ change another (apart prepared another
        (by rw [answered, StampStage.held]) heldToo), fun own another held => ?_⟩
    simp [goTo, StampStage.held] at held

end Moves

/-- In every run in which operations of the invoice are opened after rejections only, the PAC is
asked again only after rejections. -/
theorem stamp_requested_once_unless_rejected (db : FiscalDb)
    (commands : List StampFiscalInvoiceCommand) (pool : Pool FiscalSystem StampCall)
    (unassisted : Unassisted service.connector)
    (closed : ∀ operation ∈ db.operations, ∀ command ∈ commands,
      command.Resumes operation.standing → operation.standing.Closed)
    (ids : (db.operations.map OperationRow.id).Nodup) (unopened : ∀ operation ∈ db.operations,
      ¬(operation.organizationId = organizationId ∧ operation.invoiceId = invoiceId))
    (run : Reachable (StampMovesAfterRejections service organizationId invoiceId) LeavesOperations
      ⟨⟨db, []⟩, commands.map stampFiscalInvoice⟩ pool) :
    OnceUnlessRejected organizationId invoiceId pool.shared.invocations := by
  have start : Guarded commands organizationId invoiceId db.standings [] := by
    constructor
    case closed =>
      intro standing member
      obtain ⟨operation, stored, rfl⟩ := mem_map.mp member
      exact closed operation stored
    case ids => simpa [standings, Function.comp_def, standing] using ids
    case recorded => simp
    case single =>
      rintro standing member - - ⟨organization, invoice, -⟩ - - -
      obtain ⟨operation, stored, rfl⟩ := mem_map.mp member
      exact absurd ⟨organization, invoice⟩ (unopened operation stored)
    case once => exact List.Pairwise.nil
  have waiting : ∀ call ∈ commands.map stampFiscalInvoice, call.stage = .start := by
    intro call member
    obtain ⟨command, -, rfl⟩ := mem_map.mp member
    rfl
  have idle : ∀ call ∈ commands.map stampFiscalInvoice,
      call.command ∈ commands ∧ InStep db.standings [] call.stage := by
    intro call member
    rw [waiting call member]
    obtain ⟨command, given, rfl⟩ := mem_map.mp member
    exact ⟨given, trivial⟩
  have reached := Holds.apartReachable
    (fun system : FiscalSystem =>
      Guarded commands organizationId invoiceId system.db.standings system.invocations)
    (fun (system : FiscalSystem) (call : StampCall) =>
      call.command ∈ commands ∧ InStep system.db.standings system.invocations call.stage)
    Apart.symm (fun guarded own => StampMoves.keeps unassisted own.1 guarded own.2)
    (fun guarded own other apart moved =>
      have stable := StampMoves.stable unassisted own.1 guarded own.2 moved other.2 apart
      ⟨⟨other.1, stable.1⟩, stable.2⟩)
    (fun guarded left => by
      rw [standings, left.1, left.2]
      exact guarded)
    (fun _ own left => by
      rw [standings, left.1, left.2]
      exact own)
    ⟨start, idle⟩
    (pairwise_of_forall_mem_list fun call member _ _ prepared _ held => by
      simp [waiting call member, StampStage.held] at held) run
  exact reached.1.1.once

end Runs

/-! ### Two keys for one invoice -/

def draftOrganization : String := "11111111-1111-4111-8111-111111111111"
def draftInvoice : String := "22222222-2222-4222-8222-222222222222"

def draftSha256 (text : String) : String :=
  if text = "22222222-2222-4222-8222-222222222222:FAC:1:116.0000:XAXX010101000" then
    "757ece06e4e070aa5eff50622951d6dadcfdf60c45e2ee68b044bc574cf36416"
  else ""

def unassistedService : BillingService where
  connector := ⟨"PAC", some "SPR190613I52", ⟨false, false, false⟩, false⟩
  isFiscalStampingEnabled := true
  fiscalSubscribers := some []
  sha256 := draftSha256
  sax _ := []
  precedes a b := a < b
  dateParses _ := true

def draftRow : FiscalInvoiceRow where
  id := 0x22222222222242228222222222222222
  organizationId := 0x11111111111141118111111111111111
  branchId := 3
  document := sampleInvoiceRow
  items := [sampleItemRow]
  status := .draft
  invoiceUuid := none
  stampedXml := none

def draftDb (operations : List OperationRow) : FiscalDb :=
  ⟨[draftRow], [(draftRow.organizationId, sampleEmisorRow (some "30001000000500003417"))], operations, []⟩

def draftSurroundings (operationId : Uuid) (answer : PacAnswer PacStampResult) :
    StampSurroundings where
  operationId := operationId
  signing := sampleSigning
  refuses _ := none
  lookup := none
  verified := true
  verifiedAgain := true
  answer := answer
  interruption := none

def draftCommand (idempotencyKey : Option String) : StampFiscalInvoiceCommand :=
  ⟨draftOrganization, draftInvoice, idempotencyKey⟩

def draftHash : String := "757ece06e4e070aa5eff50622951d6dadcfdf60c45e2ee68b044bc574cf36416"

def draftOperation (operationId : Uuid) (key : String) (signed : SignedInvoice)
    (status : FiscalStampingOperationStatus) (lastError : Option String) : OperationRow :=
  { newOperation operationId draftRow.organizationId draftRow .stamp key draftHash with
    requestXml := some signed.cfdiXml, status := status, lastError := lastError }

def draftPrepared (operationId : Uuid) (signed : SignedInvoice) : PreparedStamp :=
  ⟨draftRow.organizationId, operationId, draftHash, draftRow, "EKU9003173C9", signed⟩

def draftSigned : Except BillingError SignedInvoice := signInvoice sampleSigning
  { sampleInvoiceRow with organizationId := draftOrganization } [sampleItemRow]
  (some (sampleEmisorRow (some "30001000000500003417")))

theorem draft_signs : ∃ signed, draftSigned = .ok signed := exists_of_isOk (by decide +kernel)

theorem draft_reads (key : Option String) :
    Uuid.read (draftCommand key).organizationId = some draftRow.organizationId ∧
      Uuid.read (draftCommand key).invoiceId = some draftRow.id ∧
      stampRequestHash unassistedService (draftCommand key) draftRow = draftHash := by
  have reads : Uuid.read draftOrganization = some draftRow.organizationId ∧
      Uuid.read draftInvoice = some draftRow.id ∧
      stampRequestHash unassistedService (draftCommand none) draftRow = draftHash := by decide +kernel
  exact reads

section Draft

variable (signed : SignedInvoice) (answer : PacAnswer PacStampResult)

theorem draft_prepares (operationId : Uuid) (key : Option String) (operations : List OperationRow)
    (invocations : List Invocation) (signs : draftSigned = .ok signed)
    (unused : (draftDb operations).operationByKey draftRow.organizationId (draftCommand key).key = none)
    {opened : OperationRow} (opens : openStamp unassistedService (draftCommand key)
      (draftSurroundings operationId answer) (draftDb operations) draftRow.organizationId draftRow
      draftHash = .ok (draftDb (operations ++ [opened])))
    (pins : pinRequest (draftDb (operations ++ [opened])) draftRow.organizationId operationId
      signed.cfdiXml = .ok (draftDb (operations ++
        [draftOperation operationId (draftCommand key).key signed .inFlight none]))) :
    (stampFiscalInvoice (draftCommand key)).next unassistedService (draftSurroundings operationId answer)
        ⟨draftDb operations, invocations⟩ =
      (⟨draftDb (operations ++ [draftOperation operationId (draftCommand key).key signed .inFlight none]),
        invocations⟩, ⟨draftCommand key, .prepared (draftPrepared operationId signed)⟩) := by
  obtain ⟨organization, invoice, hash⟩ := draft_reads key
  have found : (draftDb operations).invoice draftRow.organizationId draftRow.id = some draftRow := rfl
  have draft : draftRow.status = .draft := rfl
  have signs' : signInvoice (draftSurroundings operationId answer).signing
      { draftRow.document with organizationId := (draftCommand key).organizationId } draftRow.items
      ((draftDb (operations ++ [opened])).emisor draftRow.organizationId) = .ok signed := signs
  have pins' : pinRequest _ _ (draftSurroundings operationId answer).operationId _ = _ := pins
  simp only [stampFiscalInvoice, StampCall.next, prepareStamp, readUuid, organization, invoice, hash,
    ok_bind, found, draft, validateCanStamp, unused, opens, signStamp, signs', pins']
  rfl

def draftRejection : PacAnswer PacStampResult := .returned {
  status := .rejected, pacProvider := some "PAC"
  correlation := some (stampCorrelation (draftCommand none) 10 draftHash)
  certifiedProviderRfc := none, uuid := none, selloSat := none, fechaTimbrado := none
  noCertificadoSat := none, stampedXml := none, xmlTimbrado := none }

def DraftSettles (status : FiscalStampingOperationStatus) (error : BillingError) : Prop :=
  (mk (draftCommand none) (.answered (draftPrepared 10 signed) answer)).next
      unassistedService (draftSurroundings 10 answer)
      ⟨draftDb [draftOperation 10 (draftCommand none).key signed .inFlight none],
        [⟨draftRow.organizationId, draftRow.id, 10, some answer⟩]⟩ =
    (⟨draftDb [draftOperation 10 (draftCommand none).key signed status (some sanitizedMessage)],
        [⟨draftRow.organizationId, draftRow.id, 10, some answer⟩]⟩,
      ⟨draftCommand none, .finished (.error error)⟩)

theorem draft_times_out : DraftSettles signed (.threw true) .reconciliationRequired
    ⟨.pacTimeout, sanitizedMessage⟩ := rfl

theorem draft_rejected : DraftSettles signed draftRejection .failedTerminal
    ⟨.invalidFiscalInvoice, sanitizedMessage⟩ := by
  have outcome : stampOutcome unassistedService (draftCommand none) (draftSurroundings 10 draftRejection)
      (draftPrepared 10 signed) draftRejection = .reject ⟨.invalidFiscalInvoice, sanitizedMessage⟩ := by
    simp [stampOutcome, draftRejection, validateFiscalEvidence, validateResultCorrelation,
      unassistedService, draftPrepared, draftSurroundings]
  simp only [DraftSettles, StampCall.next]
  rw [outcome]
  rfl

theorem draft_asked_twice (moves : FiscalSystem → StampCall → FiscalSystem → StampCall → Prop)
    {status : FiscalStampingOperationStatus} {error : BillingError} (signs : draftSigned = .ok signed)
    (settles : DraftSettles signed answer status error)
    (allowed : ∀ surroundings system system' call call',
      (call.stage.begins → ∀ operation ∈ system.db.operations, operation.status = status) →
      call.next unassistedService surroundings system = (system', call') →
      moves system call system' call') :
    Reachable moves LeavesOperations
      ⟨⟨draftDb [], []⟩, ([none, some "retry"].map draftCommand).map stampFiscalInvoice⟩
      ⟨⟨draftDb [draftOperation 10 (draftCommand none).key signed status (some sanitizedMessage),
          draftOperation 20 "retry" signed .inFlight none],
        [⟨draftRow.organizationId, draftRow.id, 10, some answer⟩,
          ⟨draftRow.organizationId, draftRow.id, 20, none⟩]⟩,
        [⟨draftCommand none, .finished (.error error)⟩,
          ⟨draftCommand (some "retry"), .dispatched (draftPrepared 20 signed) 1⟩]⟩ := by
  have first := fun system system' call call' begins moved =>
    @Step.call _ _ moves LeavesOperations system system' call call' []
      [stampFiscalInvoice (draftCommand (some "retry"))]
      (allowed (draftSurroundings 10 answer) system system' call call' begins moved)
  have second := fun system system' call call' begins moved =>
    @Step.call _ _ moves LeavesOperations system system' call call'
      [⟨draftCommand none, .finished (.error error)⟩] []
      (allowed (draftSurroundings 20 answer) system system' call call' begins moved)
  refine .head (first _ _ _ _ (by simp [draftDb])
    (draft_prepares signed answer 10 none [] [] signs rfl rfl (if_neg (not_not.mpr rfl)))) ?_
  refine .head (first _ _ _ _ (absurd · Bool.false_ne_true) rfl) ?_
  refine .head (first _ _ _ _ (absurd · Bool.false_ne_true) rfl) ?_
  refine .head (first _ _ _ _ (absurd · Bool.false_ne_true) settles) ?_
  refine .head (second _ _ _ _ (by simp [draftDb, draftOperation])
    (draft_prepares signed answer 20 (some "retry") _ _ signs rfl rfl (if_neg (not_not.mpr rfl)))) ?_
  exact .single (second _ _ _ _ (absurd · Bool.false_ne_true) rfl)

end Draft

/-- After a timeout a call with another key asks the PAC again. -/
theorem second_key_asks_again :
    Unassisted unassistedService.connector ∧
    ∃ pool, Reachable (StampMoves unassistedService) LeavesOperations
        ⟨⟨draftDb [], []⟩, ([none, some "retry"].map draftCommand).map stampFiscalInvoice⟩ pool ∧
      pool.shared.invocations.length = 2 ∧
      ¬OnceUnlessRejected draftRow.organizationId draftRow.id pool.shared.invocations := by
  obtain ⟨signed, signs⟩ := draft_signs
  refine ⟨⟨rfl, rfl⟩, _, draft_asked_twice signed (.threw true) (StampMoves unassistedService) signs
    (draft_times_out signed) fun surroundings _ _ _ _ _ moved => ⟨surroundings, moved⟩, rfl, ?_⟩
  simp [OnceUnlessRejected, Invocation.isFor, Invocation.rejected]

/-- After a rejection it may. -/
theorem second_key_after_rejection :
    ∃ pool, Reachable
        (StampMovesAfterRejections unassistedService draftRow.organizationId draftRow.id)
        LeavesOperations
        ⟨⟨draftDb [], []⟩, ([none, some "retry"].map draftCommand).map stampFiscalInvoice⟩ pool ∧
      pool.shared.invocations.length = 2 ∧
      OnceUnlessRejected draftRow.organizationId draftRow.id pool.shared.invocations := by
  obtain ⟨signed, signs⟩ := draft_signs
  have run := draft_asked_twice signed draftRejection
    (StampMovesAfterRejections unassistedService draftRow.organizationId draftRow.id) signs
    (draft_rejected signed) fun surroundings _ _ _ _ rejections moved =>
      ⟨fun begins _ _ _ operation stored _ _ _ => rejections begins operation stored,
        surroundings, moved⟩
  exact ⟨_, run, rfl, stamp_requested_once_unless_rejected (draftDb []) _ _ ⟨rfl, rfl⟩
    (by simp [draftDb]) (by simp [draftDb]) (by simp [draftDb]) run⟩

end TridentPos.Billing
