import TridentPos.Pos.Database

/-!
# Payment service

`PaymentDomainService.submitTender` and the transaction it ends with,
`SqlitePaymentRepository.executeAtomicSettlementSync`. The service awaits between its reads,
so other requests run in between. `TenderCall.step` is the code from one `await` to the next;
`submitTender` is the whole call on a database nobody else changes.
-/
namespace TridentPos.Pos

open Core Library Fallible

structure SubmitTenderCommand where
  (cuentaId turnoCajaId operatorUserId operatorPin : String)
  paymentMethod : PaymentMethod
  amount : Int
  (tipAmount cashGiven : Option Int)
  referenceAuthCode : Option String
  clientOpId : String

structure TenantOptions where
  (organizationId branchId stationId : Option String)

structure PaymentOptions where
  (service repository : TenantOptions)

structure AtomicSettlementParams where
  pago : Pago
  updatedCuenta : Cuenta
  cashMovement : Option MovimientoCaja
  cuentaPagadaEvent : Option CuentaPagadaEvent

structure PaymentSettlementResult where
  pago : Pago
  (totalAmount totalPaid totalTips remainingBalance : Int)
  accountSettled : Bool
  accountStatus : CuentaStatus
  closedAt : Option Nat
  isIdempotentReplay : Bool

/-- What the runtime supplies for one settlement: the clock and two random UUIDs. -/
structure Stamp where
  now : Nat
  (pagoId movementId : String)

/-! ### The settlement transaction -/

variable (options : TenantOptions)

def cuentaPagadaOutbox (params : AtomicSettlementParams)
    (event : CuentaPagadaEvent) : Edge.EnqueueOutboxInput PosEvent :=
  { organizationId := options.organizationId.getD event.organizacionId
    branchId := options.branchId.getD event.sucursalId, aggregateType := "CUENTA"
    aggregateId := params.pago.cuentaId, action := "CuentaPagada"
    clientOpId := params.pago.clientOpId, aggregateSequenceNumber := params.updatedCuenta.version
    payload := .cuentaPagada event }

/-- Steps 4 and 5 of the transaction, which depend on the method and on the settlement. -/
def insertCashMovement (db : EdgeDb) : Option MovimientoCaja → Except DomainError EdgeDb
  | some movement => db.insertMovimiento movement
  | none => .ok db

def enqueueCuentaPagada (db : EdgeDb) (params : AtomicSettlementParams) :
    Except DomainError EdgeDb :=
  match params.cuentaPagadaEvent with
  | some event => db.enqueueOutbox (cuentaPagadaOutbox options params event)
  | none => .ok db

def throwIfInterrupted : Option DomainError → Except DomainError Unit
  | some error => .error error
  | none => .ok ()

/-- The body of the transaction. `interruption` is what the audit write or the hook before the
commit throws, if anything. -/
def executeAtomicSettlement (db : EdgeDb)
    (params : AtomicSettlementParams) (interruption : Option DomainError) :
    Except DomainError (Pago × EdgeDb) :=
  match db.findPaymentByClientOpId params.pago.cuentaId params.pago.clientOpId with
  | some existing => .ok (existing, db)
  | none => do
    let db ← db.insertPago params.pago
    let db ← db.saveCuenta params.updatedCuenta (params.updatedCuenta.version - 1)
    let db ← insertCashMovement db params.cashMovement
    let db ← enqueueCuentaPagada options db params
    throwIfInterrupted interruption
    return (params.pago, db)

/-! ### The checks of a tender -/

variable (command : SubmitTenderCommand) (cuenta : Cuenta)

def checkShift (found : Option TurnoCaja) : Except DomainError TurnoCaja :=
  match found with
  | none => .error (shiftNotFoundError command.turnoCajaId)
  | some shift =>
    if shift.status ≠ .abierto then .error (shiftNotOpenError shift.id shift.status.text)
    else if shift.responsibleUserId ≠ command.operatorUserId ∧
        shift.openedByUserId ≠ command.operatorUserId ∧
        command.operatorUserId ∉ shift.participatingOperators then
      .error (unauthorizedShiftOperatorError command.operatorUserId shift.id)
    else .ok shift

/-- Every method of the type is one of the three the source accepts. -/
def checkAccount (found : Option Cuenta) : Except DomainError Cuenta :=
  match found with
  | none => .error (cuentaNotFoundError command.cuentaId)
  | some cuenta =>
    if cuenta.status ≠ .abierta ∧ cuenta.status ≠ .impresa then
      .error (accountNotPayableError cuenta.id cuenta.status.text)
    else if command.amount ≤ 0 then
      .error (paymentValidationError "Payment amount must be greater than 0")
    else .ok cuenta

def tipOf : Int :=
  match command.tipAmount with
  | some tip => if tip > 0 then tip else 0
  | none => 0

def remainingOf (totalAmount paid : Int) : Int :=
  if totalAmount > paid then totalAmount - paid else 0

def cashChange : Except DomainError (Option Int × Option Int) :=
  match command.paymentMethod, command.cashGiven with
  | .efectivo, some given =>
    if given < command.amount + tipOf command then
      .error (paymentValidationError "Cash given cannot be less than tender amount plus tip")
    else .ok (some given, some (given - (command.amount + tipOf command)))
  | _, _ => .ok (none, none)

def newPago (stamp : Stamp) (cashGiven changeDue : Option Int) : Pago :=
  { id := stamp.pagoId, cuentaId := command.cuentaId, turnoCajaId := command.turnoCajaId
    operatorUserId := command.operatorUserId, paymentMethod := command.paymentMethod
    amount := command.amount, tipAmount := tipOf command, cashGiven := cashGiven
    changeDue := changeDue, referenceAuthCode := command.referenceAuthCode
    clientOpId := command.clientOpId, createdAt := stamp.now }

def settledCuenta (tips : Int) (settled : Bool) (now : Nat) : Cuenta :=
  { cuenta with
    tipsTotal := tips
    status := if settled then .pagada else cuenta.status
    closedAt := if settled then some now else cuenta.closedAt
    version := cuenta.version + 1, updatedAt := now }

def cashMovementOf (stamp : Stamp) : Option MovimientoCaja :=
  match command.paymentMethod with
  | .efectivo => some
      { id := stamp.movementId, turnoCajaId := command.turnoCajaId
        operatorUserId := command.operatorUserId, movementType := .ventaEfectivo
        amount := command.amount + tipOf command
        reason := "Cobro cuenta " ++ cuenta.id ++ " (Folio " ++
          ((cuenta.folioNumber.map toString).getD "S/F") ++ ")"
        referenceId := some stamp.pagoId, createdAt := stamp.now }
  | _ => none

def formaPago (pago : Pago) : FormaPago :=
  { method := pago.paymentMethod
    amount := scaledBigIntToDecimalString (pago.amount + pago.tipAmount)
    reference := pago.referenceAuthCode }

def cuentaPagadaOf (tips : Int) (pagos : List Pago) (now : Nat) : CuentaPagadaEvent :=
  { organizacionId := options.organizationId.getD "org_default"
    sucursalId := options.branchId.getD "branch_default"
    estacionId := options.stationId.getD "station_default", cuentaId := cuenta.id
    folioVenta := cuenta.folioNumber, subtotal := scaledBigIntToDecimalString cuenta.subtotal
    taxTotal := scaledBigIntToDecimalString cuenta.taxTotal
    discountsTotal := scaledBigIntToDecimalString cuenta.discountsTotal
    total := scaledBigIntToDecimalString cuenta.totalAmount, impuestoRate := "0.1600"
    impuestoAmount := scaledBigIntToDecimalString cuenta.taxTotal
    propina := scaledBigIntToDecimalString tips, formasPago := pagos.map formaPago
    meseroId := cuenta.currentWaiterUserId, clienteId := none, settledAt := now }

def settlementParams (existing : List Pago) (stamp : Stamp) (cashGiven changeDue : Option Int) :
    AtomicSettlementParams :=
  let pago := newPago command stamp cashGiven changeDue
  let tips := totalTips existing + tipOf command
  let settled := remainingOf cuenta.totalAmount (totalPaid existing + command.amount) == 0
  { pago := pago, updatedCuenta := settledCuenta cuenta tips settled stamp.now
    cashMovement := cashMovementOf command cuenta stamp
    cuentaPagadaEvent :=
      if settled then some (cuentaPagadaOf options cuenta tips (existing ++ [pago]) stamp.now)
      else none }

/-- Steps 8 to 15: the balance check, the change of a cash tender, and the parameters of the
transaction. -/
def buildSettlement (existing : List Pago) (stamp : Stamp) :
    Except DomainError AtomicSettlementParams := do
  let remaining := remainingOf cuenta.totalAmount (totalPaid existing)
  if command.amount > remaining then
    throw (paymentValidationError ("Payment amount (" ++
      scaledBigIntToDecimalString command.amount ++ ") exceeds remaining account balance (" ++
      scaledBigIntToDecimalString remaining ++ ")"))
  else
    let (cashGiven, changeDue) ← cashChange command
    return settlementParams options command cuenta existing stamp cashGiven changeDue

def replayResult (pago : Pago) (cuenta : Cuenta) (payments : List Pago) : PaymentSettlementResult :=
  { pago := pago, totalAmount := cuenta.totalAmount, totalPaid := totalPaid payments
    totalTips := totalTips payments
    remainingBalance := remainingOf cuenta.totalAmount (totalPaid payments)
    accountSettled := cuenta.status == .pagada, accountStatus := cuenta.status
    closedAt := cuenta.closedAt, isIdempotentReplay := true }

def settlementResult (saved : Pago) (cuenta : Cuenta)
    (existing : List Pago) (params : AtomicSettlementParams) : PaymentSettlementResult :=
  { pago := saved, totalAmount := cuenta.totalAmount
    totalPaid := totalPaid existing + command.amount
    totalTips := totalTips existing + tipOf command
    remainingBalance := remainingOf cuenta.totalAmount (totalPaid existing + command.amount)
    accountSettled := remainingOf cuenta.totalAmount (totalPaid existing + command.amount) == 0
    accountStatus := params.updatedCuenta.status, closedAt := params.updatedCuenta.closedAt
    isIdempotentReplay := false }

/-! ### The call, whole and in steps -/

def replayNotFoundError : DomainError :=
  ⟨"Cuenta not found for idempotent replay", "CUENTA_NOT_FOUND", 404⟩

def submitTender (options : PaymentOptions) (validatePin : String → String → Option String → Bool)
    (db : EdgeDb) (command : SubmitTenderCommand) (stamp : Stamp)
    (interruption : Option DomainError) : Except DomainError (PaymentSettlementResult × EdgeDb) :=
  match db.findPaymentByClientOpId command.cuentaId command.clientOpId with
  | some existing =>
    match db.getCuentaById command.cuentaId with
    | none => .error replayNotFoundError
    | some cuenta =>
      .ok (replayResult existing cuenta (db.listPaymentsByCuentaId command.cuentaId), db)
  | none => do
    if !validatePin command.operatorUserId command.operatorPin options.service.stationId then
      throw (invalidOperatorPinError command.operatorUserId)
    let _ ← checkShift command (db.getShiftById command.turnoCajaId)
    let cuenta ← checkAccount command (db.getCuentaById command.cuentaId)
    let existing := db.listPaymentsByCuentaId command.cuentaId
    let params ← buildSettlement options.service command cuenta existing stamp
    let (saved, db) ← executeAtomicSettlement options.repository db params interruption
    return (settlementResult command saved cuenta existing params, db)

/-- Where a call stands: what it will do next, and what it has read so far. -/
inductive TenderState where
  | lookup
  | replayAccount (pago : Pago)
  | replayPayments (pago : Pago) (cuenta : Cuenta)
  | pin
  | shift
  | account
  | payments (cuenta : Cuenta)
  | commit (cuenta : Cuenta) (existing : List Pago) (params : AtomicSettlementParams)
  | done (result : Except DomainError PaymentSettlementResult)

structure TenderCall where
  command : SubmitTenderCommand
  state : TenderState

structure TenderOracle where
  pinValid : Bool
  stamp : Stamp
  interruption : Option DomainError

def TenderCall.step (options : PaymentOptions) (oracle : TenderOracle) (db : EdgeDb)
    (call : TenderCall) : EdgeDb × TenderCall :=
  let command := call.command
  match call.state with
  | .lookup =>
    match db.findPaymentByClientOpId command.cuentaId command.clientOpId with
    | some existing => (db, { call with state := .replayAccount existing })
    | none => (db, { call with state := .pin })
  | .replayAccount pago =>
    match db.getCuentaById command.cuentaId with
    | none => (db, { call with state := .done (.error replayNotFoundError) })
    | some cuenta => (db, { call with state := .replayPayments pago cuenta })
  | .replayPayments pago cuenta =>
    (db, { call with
      state := .done (.ok (replayResult pago cuenta
        (db.listPaymentsByCuentaId command.cuentaId))) })
  | .pin =>
    if oracle.pinValid then (db, { call with state := .shift })
    else (db, { call with
      state := .done (.error (invalidOperatorPinError command.operatorUserId)) })
  | .shift =>
    match checkShift command (db.getShiftById command.turnoCajaId) with
    | .error e => (db, { call with state := .done (.error e) })
    | .ok _ => (db, { call with state := .account })
  | .account =>
    match checkAccount command (db.getCuentaById command.cuentaId) with
    | .error e => (db, { call with state := .done (.error e) })
    | .ok cuenta => (db, { call with state := .payments cuenta })
  | .payments cuenta =>
    let existing := db.listPaymentsByCuentaId command.cuentaId
    match buildSettlement options.service command cuenta existing oracle.stamp with
    | .error e => (db, { call with state := .done (.error e) })
    | .ok params => (db, { call with state := .commit cuenta existing params })
  | .commit cuenta existing params =>
    match executeAtomicSettlement options.repository db params oracle.interruption with
    | .error e => (db, { call with state := .done (.error e) })
    | .ok (saved, db') =>
      (db', { call with
        state := .done (.ok (settlementResult command saved cuenta existing params)) })
  | .done _ => (db, call)

/-! ### What the parts of a call do -/

variable {command}

theorem checkShift_eq_ok {found : Option TurnoCaja} {shift : TurnoCaja}
    (accepted : checkShift command found = .ok shift) :
    found = some shift ∧ shift.status = .abierto := by
  unfold checkShift at accepted
  split at accepted
  next => simp at accepted
  next read =>
    simp only [refused_eq_ok, not_not, Except.ok.injEq] at accepted
    obtain ⟨isOpen, -, rfl⟩ := accepted
    exact ⟨rfl, isOpen⟩

variable {cuenta}

theorem checkAccount_eq_ok {found : Option Cuenta}
    (accepted : checkAccount command found = .ok cuenta) :
    found = some cuenta ∧ (cuenta.status = .abierta ∨ cuenta.status = .impresa) ∧
      0 < command.amount := by
  unfold checkAccount at accepted
  split at accepted
  next => simp at accepted
  next read =>
    simp only [refused_eq_ok, Except.ok.injEq] at accepted
    obtain ⟨payable, positive, rfl⟩ := accepted
    refine ⟨rfl, ?_, by omega⟩
    by_contra neither
    exact payable (by simpa only [ne_eq, not_or] using neither)

theorem tipOf_nonneg (command : SubmitTenderCommand) : 0 ≤ tipOf command := by
  unfold tipOf
  split
  · split <;> omega
  · omega

variable {params : AtomicSettlementParams} {options}

theorem buildSettlement_eq_ok {existing : List Pago} {stamp : Stamp}
    (built : buildSettlement options command cuenta existing stamp = .ok params) :
    command.amount ≤ remainingOf cuenta.totalAmount (totalPaid existing) ∧
      ∃ cashGiven changeDue,
        params = settlementParams options command cuenta existing stamp cashGiven changeDue := by
  unfold buildSettlement at built
  obtain ⟨covered, built⟩ := refused_eq_ok.mp built
  rw [bind_eq_ok] at built
  obtain ⟨⟨cashGiven, changeDue⟩, -, returned⟩ := built
  rw [pure_eq_ok] at returned
  exact ⟨by omega, cashGiven, changeDue, returned.symm⟩

theorem buildSettlement_ids {existing : List Pago} {stamp : Stamp}
    (built : buildSettlement options command cuenta existing stamp = .ok params) :
    params.updatedCuenta.id = cuenta.id ∧ params.updatedCuenta.version = cuenta.version + 1 ∧
      params.pago.cuentaId = command.cuentaId ∧ params.pago.clientOpId = command.clientOpId := by
  obtain ⟨-, cashGiven, changeDue, rfl⟩ := buildSettlement_eq_ok built
  exact ⟨rfl, rfl, rfl, rfl⟩

variable {db db' : EdgeDb}

theorem insertCashMovement_eq_ok {movement : Option MovimientoCaja}
    (inserted : insertCashMovement db movement = .ok db') :
    db' = { db with movimientos := db.movimientos ++ movement.toList } := by
  cases movement with
  | none => simpa [insertCashMovement] using inserted.symm
  | some movement => exact insertMovimiento_eq_ok inserted

theorem enqueueCuentaPagada_eq_ok (enqueued : enqueueCuentaPagada options db params = .ok db') :
    (∀ event, params.cuentaPagadaEvent = some event →
      isValidUuidV4 params.pago.clientOpId ∧
      params.updatedCuenta.version ≤ maxSafeInteger ∧
      ∀ row ∈ db.outbox, row.clientOpId ≠ params.pago.clientOpId) ∧
    db' = { db with
      outbox := db.outbox ++ params.cuentaPagadaEvent.toList.map fun event =>
        Edge.pendingRow db.outbox (cuentaPagadaOutbox options params event) } := by
  unfold enqueueCuentaPagada at enqueued
  split at enqueued
  next event present =>
    obtain ⟨valid, bounded, -, fresh, rfl⟩ := enqueueOutbox_eq_ok enqueued
    refine ⟨fun _ _ => ⟨valid, bounded, fresh⟩, ?_⟩
    simp [present]
  next absent =>
    obtain rfl := Except.ok.inj enqueued
    simp [absent]

def settledDb (options : TenantOptions) (db : EdgeDb) (params : AtomicSettlementParams) : EdgeDb :=
  { db with
    pagos := db.pagos ++ [params.pago], cuentas := Table.updateWhere
      (fun row => row.id == params.updatedCuenta.id &&
        row.version == params.updatedCuenta.version - 1)
      (overwriteCuenta params.updatedCuenta.toCuentaRow) db.cuentas
    items := persistItems db.items params.updatedCuenta.items
    modificadores := db.modificadores.persist params.updatedCuenta.modificadores
    movimientos := db.movimientos ++ params.cashMovement.toList
    outbox := db.outbox ++ params.cuentaPagadaEvent.toList.map fun event =>
      Edge.pendingRow db.outbox (cuentaPagadaOutbox options params event) }

/-- A settlement returns the stored payment of the operation, or it passes the compare-and-swap
and writes the payment, the account, the movement and the event together. -/
theorem executeAtomicSettlement_eq_ok {interruption : Option DomainError} {saved : Pago}
    (known : db.findCuenta params.updatedCuenta.id ≠ none)
    (returned : executeAtomicSettlement options db params interruption = .ok (saved, db')) :
    (db.findPaymentByClientOpId params.pago.cuentaId params.pago.clientOpId = some saved ∧
      db' = db) ∨
    (db.findPaymentByClientOpId params.pago.cuentaId params.pago.clientOpId = none ∧
      saved = params.pago ∧
      (∀ row ∈ db.pagos, row.id ≠ params.pago.id) ∧
      (∃ row ∈ db.cuentas, row.id = params.updatedCuenta.id ∧
        row.version = params.updatedCuenta.version - 1) ∧
      (∀ event, params.cuentaPagadaEvent = some event →
        isValidUuidV4 params.pago.clientOpId ∧
        params.updatedCuenta.version ≤ maxSafeInteger ∧
        ∀ row ∈ db.outbox, row.clientOpId ≠ params.pago.clientOpId) ∧
      db' = settledDb options db params) := by
  unfold executeAtomicSettlement at returned
  split at returned
  next existing found =>
    obtain ⟨rfl, rfl⟩ := returned
    exact .inl ⟨found, rfl⟩
  next absent =>
    simp only [bind_eq_ok] at returned
    obtain ⟨withPago, inserted, withCuenta, swapped, withMovement, moved, withEvent, enqueued, _, -,
      finish⟩ := returned
    obtain ⟨rfl, rfl⟩ := finish
    obtain ⟨freshId, -, rfl⟩ := (insertPago_eq_ok ..).mp inserted
    rcases (saveCuenta_eq_ok ..).mp swapped with ⟨-, missing, -⟩ | ⟨-, stored, rfl⟩
    · exact absurd missing known
    · have movements := insertCashMovement_eq_ok moved
      subst movements
      obtain ⟨accepted, rfl⟩ := enqueueCuentaPagada_eq_ok enqueued
      exact .inr ⟨absent, rfl, freshId, stored, accepted, rfl⟩

/-! ### One step of a call -/

def TenderState.holdsAccount : TenderState → Bool
  | .payments _ | .commit .. => true
  | _ => false

open TenderCall

/-- What a step can do: read the account, read its payments and build the settlement, commit
it, or leave both the tables and the held account alone. -/
theorem TenderCall.step_cases {options : PaymentOptions} {oracle : TenderOracle}
    {call call' : TenderCall} (moved : call.step options oracle db = (db', call')) :
    call'.command = call.command ∧
    ((db' = db ∧ call'.state.holdsAccount = false) ∨
     (db' = db ∧ ∃ cuenta, call'.state = .payments cuenta ∧
        checkAccount call.command (db.getCuentaById call.command.cuentaId) = .ok cuenta) ∨
     (db' = db ∧ ∃ cuenta params, call.state = .payments cuenta ∧
        buildSettlement options.service call.command cuenta
          (db.listPaymentsByCuentaId call.command.cuentaId) oracle.stamp = .ok params ∧
        call'.state = .commit cuenta (db.listPaymentsByCuentaId call.command.cuentaId) params) ∨
     (∃ cuenta existing params saved result, call.state = .commit cuenta existing params ∧
        executeAtomicSettlement options.repository db params oracle.interruption =
          .ok (saved, db') ∧ call'.state = .done result)) := by
  obtain ⟨command, state⟩ := call
  cases state with
  | account =>
    simp only [step] at moved
    split at moved <;> obtain ⟨rfl, rfl⟩ := Prod.mk.inj moved
    next => exact ⟨rfl, .inl ⟨rfl, rfl⟩⟩
    next cuenta accepted => exact ⟨rfl, .inr (.inl ⟨rfl, cuenta, rfl, accepted⟩)⟩
  | payments cuenta =>
    simp only [step] at moved
    split at moved <;> obtain ⟨rfl, rfl⟩ := Prod.mk.inj moved
    next => exact ⟨rfl, .inl ⟨rfl, rfl⟩⟩
    next params built => exact ⟨rfl, .inr (.inr (.inl ⟨rfl, cuenta, params, rfl, built, rfl⟩))⟩
  | commit cuenta existing params =>
    simp only [step] at moved
    split at moved <;> obtain ⟨rfl, rfl⟩ := Prod.mk.inj moved
    next => exact ⟨rfl, .inl ⟨rfl, rfl⟩⟩
    next saved after committed =>
      exact ⟨rfl, .inr (.inr (.inr ⟨cuenta, existing, params, saved, _, rfl, committed, rfl⟩))⟩
  | _ =>
    -- the remaining states only read
    simp only [step] at moved
    repeat' split at moved
    all_goals
      obtain ⟨rfl, rfl⟩ := Prod.mk.inj moved
      exact ⟨rfl, .inl ⟨rfl, rfl⟩⟩

def TenderCall.run (options : PaymentOptions) (oracle : TenderOracle) :
    Nat → EdgeDb × TenderCall → EdgeDb × TenderCall
  | 0, reached => reached
  | n + 1, (db, call) => run options oracle n (call.step options oracle db)

/-- Undisturbed, the six steps of a call are the call. -/
theorem TenderCall.run_eq_submitTender (options : PaymentOptions)
    (validatePin : String → String → Option String → Bool) (db : EdgeDb)
    (command : SubmitTenderCommand) (stamp : Stamp) (interruption : Option DomainError) :
    run options
        ⟨validatePin command.operatorUserId command.operatorPin options.service.stationId, stamp,
          interruption⟩ 6 (db, ⟨command, .lookup⟩) =
      match submitTender options validatePin db command stamp interruption with
      | .ok (result, db') => (db', ⟨command, .done (.ok result)⟩)
      | .error e => (db, ⟨command, .done (.error e)⟩) := by
  unfold submitTender
  cases found : db.findPaymentByClientOpId command.cuentaId command.clientOpId with
  | some existing =>
    cases account : db.getCuentaById command.cuentaId <;>
      simp [run, step, found, account]
  | none =>
    cases pin : validatePin command.operatorUserId command.operatorPin options.service.stationId with
    | false =>
      simp [run, step, found, throw, throwThe, MonadExceptOf.throw]
    | true =>
      cases shift : checkShift command (db.getShiftById command.turnoCajaId) with
      | error e => simp [run, step, found, shift]
      | ok turno =>
        cases account : checkAccount command (db.getCuentaById command.cuentaId) with
        | error e => simp [run, step, found, shift, account]
        | ok cuenta =>
          cases built : buildSettlement options.service command cuenta
              (db.listPaymentsByCuentaId command.cuentaId) stamp with
          | error e => simp [run, step, found, shift, account, built]
          | ok params =>
            cases committed : executeAtomicSettlement options.repository db params interruption <;>
              simp [run, step, found, shift, account, built, committed]

end TridentPos.Pos
