import TridentPos.Pos.DiningService
import TridentPos.Pos.PaymentService

/-!
# REST routes of accounts

The handlers of `fastify-app.ts` that change an account: `POST /cuentas`,
`POST /ordenes/partidas` and `PUT /cuentas/:id/cerrar` run their operation and enqueue its event
in one transaction, so each is one step; `POST /cuentas/:id/pagos` is a `TenderCall`. A text
field that is missing is the empty text.
-/
namespace TridentPos.Pos

open Core Library Fallible

structure RouteOptions where
  (organizationId branchId : String)
  stationId : Option String

variable (options : RouteOptions) (db : EdgeDb)

def RouteOptions.payment : PaymentOptions :=
  let tenant : TenantOptions :=
    { organizationId := some options.organizationId, branchId := some options.branchId
      stationId := options.stationId }
  { service := tenant, repository := tenant }

def missingFieldsError (message : String) : DomainError := ⟨message, "MISSING_FIELDS", 400⟩

def invalidClientOpIdError : DomainError :=
  ⟨"clientOpId must be a valid UUIDv4", "VALIDATION_ERROR", 400⟩

/-- `executeWithOutbox` with the one event its callers pass. -/
def executeWithOutbox {α : Type} (db : EdgeDb) (mutation : EdgeDb → Except DomainError (α × EdgeDb))
    (event : α → Edge.EnqueueOutboxInput PosEvent) : Except DomainError (α × EdgeDb) := do
  let (result, db) ← mutation db
  let db ← db.enqueueOutbox (event result)
  return (result, db)

def cuentaEvent (cuentaId action clientOpId : String) (sequence : Nat)
    (payload : PosEvent) : Edge.EnqueueOutboxInput PosEvent :=
  { organizationId := options.organizationId, branchId := options.branchId
    aggregateType := "CUENTA", aggregateId := cuentaId, action := action, clientOpId := clientOpId
    aggregateSequenceNumber := sequence, payload := payload }

/-! ### `POST /cuentas` -/

structure PostCuentaBody where
  input : OpenCuentaInput
  clientOpId : String

def postCuenta (body : PostCuentaBody) (now : Nat) : Except DomainError (Cuenta × EdgeDb) :=
  if body.input.id = "" ∨ body.input.epochId = "" ∨ body.input.openedByUserId = "" ∨
      body.clientOpId = "" then
    .error (missingFieldsError "Missing id, epochId, accountType, openedByUserId, or clientOpId")
  else if !isValidUuidV4 body.clientOpId then .error invalidClientOpIdError
  else
    executeWithOutbox db
      (fun db => do
        let (cuenta, _, db) ← openCuentaSync db body.input now
        return (cuenta, db))
      fun _ => cuentaEvent options body.input.id "OPEN_CUENTA" body.clientOpId 1
        (.openCuenta body.input.id body.input.mesaId body.input.accountType)

/-! ### `POST /ordenes/partidas` -/

structure PartidaModifierBody where
  (id modifierId modifierNameSnapshot modifierPriceApplied : String)

structure PostPartidaBody where
  (cuentaId id : String)
  expectedVersion : Option Nat
  (clientOpId productId productNameSnapshot : String)
  (unitPriceApplied quantity taxRateApplied discountAmountApplied : Option String)
  modifiers : Option (List PartidaModifierBody) := none

def scaled (text : String) : Except DomainError Int :=
  (decimalStringToScaledBigInt text).mapError plainError

def partidaInput (body : PostPartidaBody) (unitPrice quantity taxRate : String) :
    Except DomainError AddItemInput := do
  let unitPriceApplied ← scaled unitPrice
  let quantity ← scaled quantity
  let taxRateApplied ← scaled taxRate
  let discount ← match body.discountAmountApplied.filter fun text => text != "" with
    | some text => scaled text
    | none => pure 0
  let modifiers ← (body.modifiers.getD []).mapM fun modifier => do
    return ⟨modifier.id, modifier.modifierId, modifier.modifierNameSnapshot,
      ← scaled modifier.modifierPriceApplied⟩
  return {
    id := body.id, productId := body.productId, productNameSnapshot := body.productNameSnapshot
    unitPriceApplied := unitPriceApplied, quantity := quantity, taxRateApplied := taxRateApplied
    discountAmountApplied := some discount, modifiers := some modifiers }

def postPartida (body : PostPartidaBody) (now : Nat) : Except DomainError (Cuenta × EdgeDb) :=
  match body.expectedVersion, body.unitPriceApplied, body.quantity, body.taxRateApplied with
  | some expectedVersion, some unitPrice, some quantity, some taxRate =>
    if body.cuentaId = "" ∨ body.id = "" ∨ body.clientOpId = "" ∨ body.productId = "" ∨
        body.productNameSnapshot = "" then
      .error (missingFieldsError "Missing mandatory fields for adding item")
    else if !isValidUuidV4 body.clientOpId then .error invalidClientOpIdError
    else do
      let input ← partidaInput body unitPrice quantity taxRate
      executeWithOutbox db
        (fun db => addItemToCuentaSync db body.cuentaId expectedVersion input now)
        fun saved => cuentaEvent options body.cuentaId "ADD_ITEM" body.clientOpId saved.version
          (.addItem body.cuentaId body.id body.productId quantity
            (scaledBigIntToDecimalString saved.totalAmount))
  | _, _, _, _ => .error (missingFieldsError "Missing mandatory fields for adding item")

/-! ### `PUT /cuentas/:id/cerrar` -/

structure PutCerrarBody where
  expectedVersion : Option Nat
  clientOpId : String
  closedStatus : Option ClosedStatus

def putCerrar (id : String) (body : PutCerrarBody)
    (now : Nat) : Except DomainError (Cuenta × EdgeDb) :=
  match body.expectedVersion with
  | none => .error (missingFieldsError "Missing expectedVersion or clientOpId")
  | some expectedVersion =>
    if body.clientOpId = "" then
      .error (missingFieldsError "Missing expectedVersion or clientOpId")
    else if !isValidUuidV4 body.clientOpId then .error invalidClientOpIdError
    else
      executeWithOutbox db
        (fun db => do
          let (cuenta, _, db) ←
            closeCuentaSync db id expectedVersion (body.closedStatus.getD .pagada) now
          return (cuenta, db))
        fun saved => cuentaEvent options id "CLOSE_CUENTA" body.clientOpId saved.version
          (.closeCuenta id saved.status (scaledBigIntToDecimalString saved.totalAmount))

/-! ### One request -/

inductive RouteRequest where
  | cuenta (body : PostCuentaBody)
  | partida (body : PostPartidaBody)
  | cerrar (id : String) (body : PutCerrarBody)

def RouteRequest.cuentaId : RouteRequest → String
  | .cuenta body => body.input.id
  | .partida body => body.cuentaId
  | .cerrar id _ => id

def RouteRequest.clientOpId : RouteRequest → String
  | .cuenta body => body.clientOpId
  | .partida body => body.clientOpId
  | .cerrar _ body => body.clientOpId

def RouteRequest.run (now : Nat) :
    RouteRequest → Except DomainError (Cuenta × EdgeDb)
  | .cuenta body => postCuenta options db body now
  | .partida body => postPartida options db body now
  | .cerrar id body => putCerrar options db id body now

/-! ### What a request does -/

theorem executeWithOutbox_eq_ok {α : Type} {db db' : EdgeDb}
    {mutation : EdgeDb → Except DomainError (α × EdgeDb)}
    {event : α → Edge.EnqueueOutboxInput PosEvent} {result : α}
    (returned : executeWithOutbox db mutation event = .ok (result, db')) :
    ∃ mutated, mutation db = .ok (result, mutated) ∧
      mutated.enqueueOutbox (event result) = .ok db' := by
  simp only [executeWithOutbox, bind_eq_ok, pure_eq_ok, Prod.mk.injEq] at returned
  obtain ⟨⟨result', mutated⟩, mutates, enqueued, enqueues, rfl, rfl⟩ := returned
  exact ⟨mutated, mutates, enqueues⟩

/-- The tables after a request changed an account and before its event: the account was
inserted, or swapped for its next version. -/
def AccountWritten (mutated : EdgeDb) (saved : Cuenta) : Prop :=
  (db.findCuenta saved.id = none ∧ saved.version = 1 ∧
    ∃ mesas, mutated = { db with
      mesas := mesas, cuentas := db.cuentas ++ [saved.toCuentaRow] }) ∨
  (∃ row, db.findCuenta saved.id = some row ∧ saved.version = row.version + 1 ∧
    (∃ found ∈ db.cuentas, found.id = saved.id ∧ found.version = row.version) ∧
    ∃ mesas, mutated = { db.swapCuenta saved row.version with mesas := mesas })

theorem RouteRequest.run_eq_ok {options : RouteOptions} {db db' : EdgeDb} {now : Nat}
    (request : RouteRequest) {saved : Cuenta} (returned : request.run options db now = .ok (saved, db')) :
    saved.id = request.cuentaId ∧ (db.findCuenta saved.id = none → request.cuentaId ≠ "") ∧
    ∃ mutated action payload, action ≠ "" ∧ AccountWritten db mutated saved ∧
      mutated.enqueueOutbox (cuentaEvent options request.cuentaId action request.clientOpId
        saved.version payload) = .ok db' := by
  cases request with
  | cuenta body =>
    simp only [RouteRequest.run, postCuenta, refused_eq_ok] at returned
    obtain ⟨present, -, returned⟩ := returned
    obtain ⟨mutated, mutates, enqueues⟩ := executeWithOutbox_eq_ok returned
    simp only [bind_eq_ok, pure_eq_ok, Prod.mk.injEq] at mutates
    obtain ⟨⟨cuenta, mesa, opened⟩, opens, rfl, rfl⟩ := mutates
    obtain ⟨missing, rfl, mesas, rfl⟩ := openCuentaSync_eq_ok opens
    exact ⟨rfl, fun _ blank => present (.inl blank), _, _, _, by decide,
      .inl ⟨missing, rfl, mesas, rfl⟩, enqueues⟩
  | partida body =>
    simp only [RouteRequest.run, postPartida] at returned
    split at returned
    next expectedVersion unitPrice quantity taxRate _ _ _ _ =>
      simp only [refused_eq_ok, bind_eq_ok] at returned
      obtain ⟨-, -, input, -, executed⟩ := returned
      obtain ⟨mutated, mutates, enqueues⟩ := executeWithOutbox_eq_ok executed
      obtain ⟨cuenta, found, -, rfl, rfl, stored, rfl⟩ := addItemToCuentaSync_eq_ok mutates
      obtain ⟨known, -, isId⟩ := getCuentaById_eq_some found
      have known' : db.findCuenta cuenta.id = some cuenta.toCuentaRow := isId ▸ known
      refine ⟨isId, fun absent => ?_, _, _, _, by decide,
        .inr ⟨cuenta.toCuentaRow, known', rfl, stored, _, rfl⟩, enqueues⟩
      exact absurd (known'.symm.trans absent) (by simp)
    next => simp at returned
  | cerrar id body =>
    simp only [RouteRequest.run, putCerrar] at returned
    split at returned
    next => simp at returned
    next expectedVersion _ =>
      simp only [refused_eq_ok] at returned
      obtain ⟨-, -, returned⟩ := returned
      obtain ⟨mutated, mutates, enqueues⟩ := executeWithOutbox_eq_ok returned
      simp only [bind_eq_ok, pure_eq_ok, Prod.mk.injEq] at mutates
      obtain ⟨⟨closed, mesa, after⟩, closes, rfl, rfl⟩ := mutates
      obtain ⟨cuenta, found, rfl, rfl, stored, mesas, rfl⟩ := closeCuentaSync_eq_ok closes
      obtain ⟨known, -, isId⟩ := getCuentaById_eq_some found
      have known' : db.findCuenta cuenta.id = some cuenta.toCuentaRow := isId ▸ known
      refine ⟨isId, fun absent => ?_, _, _, _, by decide,
        .inr ⟨cuenta.toCuentaRow, known', rfl, stored, mesas, rfl⟩, enqueues⟩
      exact absurd (known'.symm.trans absent) (by simp)

end TridentPos.Pos
