import TridentPos.Core.Money

/-!
# POS entities

Tables, accounts, payments and cash shifts of an edge node (`types.ts`,
`payment-types.ts`, `cash-shift-types.ts`), and the errors of its domain services. Amounts are
scale-4 integers, versions are `Nat`, and an ISO timestamp is the number of its millisecond.
-/
namespace TridentPos.Pos

/-! ### Errors -/

structure DomainError where
  (message code : String)
  statusCode : Nat

def occConflictError (aggregateId : String) (expectedVersion actualVersion : Nat) : DomainError :=
  { message := "OCC conflict on aggregate '" ++ aggregateId ++ "': expected version " ++
      toString expectedVersion ++ ", but current version is " ++ toString actualVersion
    code := "OCC_CONFLICT", statusCode := 409 }

def shiftNotFoundError (shiftId : String) : DomainError :=
  ⟨"Shift '" ++ shiftId ++ "' not found", "SHIFT_NOT_FOUND", 404⟩

def shiftInvalidStatusError (shiftId currentStatus expectedStatus : String) : DomainError :=
  ⟨"Shift '" ++ shiftId ++ "' is in status '" ++ currentStatus ++ "', but expected '" ++
    expectedStatus ++ "'", "SHIFT_INVALID_STATUS", 400⟩

def shiftLockedError (shiftId : String) : DomainError :=
  ⟨"Shift '" ++ shiftId ++ "' is permanently locked (Corte Z issued) and cannot be modified",
    "SHIFT_LOCKED", 409⟩

def unauthorizedShiftOperatorError (operatorUserId shiftId : String) : DomainError :=
  ⟨"User '" ++ operatorUserId ++ "' is not authorized or participating in shift '" ++ shiftId ++
    "'", "UNAUTHORIZED_SHIFT_OPERATOR", 403⟩

def invalidCashMovementError (reason : String) : DomainError :=
  ⟨"Invalid cash movement: " ++ reason, "INVALID_CASH_MOVEMENT", 400⟩

def invalidOperatorPinError (userId : String) : DomainError :=
  ⟨"Invalid or unauthorized PIN for user '" ++ userId ++ "'", "INVALID_OPERATOR_PIN", 401⟩

def paymentValidationError (message : String) : DomainError :=
  ⟨message, "PAYMENT_VALIDATION_ERROR", 400⟩

def accountNotPayableError (cuentaId currentStatus : String) : DomainError :=
  ⟨"Account '" ++ cuentaId ++ "' is in status '" ++ currentStatus ++
    "' and cannot receive payments", "ACCOUNT_NOT_PAYABLE", 400⟩

def shiftNotOpenError (shiftId currentStatus : String) : DomainError :=
  ⟨"Shift '" ++ shiftId ++ "' is in status '" ++ currentStatus ++
    "' and cannot process payments (must be ABIERTO)", "SHIFT_NOT_OPEN", 400⟩

def cuentaNotFoundError (cuentaId : String) : DomainError :=
  ⟨"Cuenta '" ++ cuentaId ++ "' not found", "CUENTA_NOT_FOUND", 404⟩

/-- An error that is not a `DomainError`: a constraint of the database, or a thrown text. -/
def plainError (message : String) : DomainError := ⟨message, "", 500⟩

/-! ### Dining room -/

inductive MesaStatus where
  | disponible
  | ocupada
  | enCuenta
  | bloqueada
deriving DecidableEq

def MesaStatus.text : MesaStatus → String
  | .disponible => "DISPONIBLE"
  | .ocupada => "OCUPADA"
  | .enCuenta => "EN_CUENTA"
  | .bloqueada => "BLOQUEADA"

inductive AccountType where
  | comedor
  | mostrador
  | rappi
  | uber
  | domicilio
deriving DecidableEq

inductive CuentaStatus where
  | abierta
  | impresa
  | pagada
  | anulada
deriving DecidableEq

def CuentaStatus.text : CuentaStatus → String
  | .abierta => "ABIERTA"
  | .impresa => "IMPRESA"
  | .pagada => "PAGADA"
  | .anulada => "ANULADA"

inductive CuentaItemStatus where
  | ordenado
  | enCocina
  | preparado
  | entregado
  | cancelado
deriving DecidableEq

def CuentaItemStatus.text : CuentaItemStatus → String
  | .ordenado => "ORDENADO"
  | .enCocina => "EN_COCINA"
  | .preparado => "PREPARADO"
  | .entregado => "ENTREGADO"
  | .cancelado => "CANCELADO"

structure Mesa where
  (id roomName tableNumber : String)
  status : MesaStatus
  currentAccountId : Option String
  (posX posY capacity : Option Int)
  (version updatedAt : Nat)
deriving DecidableEq

structure CuentaItem where
  (id cuentaId productId productNameSnapshot : String)
  (unitPriceApplied quantity taxRateApplied taxAmountApplied discountAmountApplied subtotal : Int)
  total : Int
  status : CuentaItemStatus
  (cancellationReason cancelledByUserId : Option String)
  cancelledAt : Option Nat
  requiresWasteRecord : Bool
  createdAt : Nat
deriving DecidableEq

structure CuentaItemModificador where
  (id cuentaItemId modifierId modifierNameSnapshot : String)
  modifierPriceApplied : Int
deriving DecidableEq

def modifiersOf (rows : List CuentaItemModificador) (items : List CuentaItem) :
    List CuentaItemModificador :=
  items.flatMap fun item => rows.filter fun row => row.cuentaItemId == item.id

structure CuentaRow where
  id : String
  folioNumber : Option Nat
  epochId : String
  mesaId : Option String
  accountType : AccountType
  status : CuentaStatus
  (subtotal taxTotal discountsTotal tipsTotal totalAmount : Int)
  openedByUserId : String
  currentWaiterUserId : Option String
  guestCount : Int
  openedAt : Nat
  (printedAt closedAt : Option Nat)
  parentCuentaId : Option String
  splitSequence : Option Nat
  (version updatedAt : Nat)
deriving DecidableEq

structure Cuenta extends CuentaRow where
  items : List CuentaItem
  modificadores : List CuentaItemModificador

/-! ### Payments -/

inductive PaymentMethod where
  | efectivo
  | tarjeta
  | transferencia
deriving DecidableEq

structure Pago where
  (id cuentaId turnoCajaId operatorUserId : String)
  paymentMethod : PaymentMethod
  (amount tipAmount : Int)
  (cashGiven changeDue : Option Int)
  referenceAuthCode : Option String
  clientOpId : String
  createdAt : Nat
deriving DecidableEq

structure FormaPago where
  method : PaymentMethod
  amount : String
  reference : Option String

structure CuentaPagadaEvent where
  (organizacionId sucursalId estacionId cuentaId : String)
  folioVenta : Option Nat
  (subtotal taxTotal discountsTotal total impuestoRate impuestoAmount propina : String)
  formasPago : List FormaPago
  (meseroId clienteId : Option String)
  settledAt : Nat

/-! ### Cash shifts -/

inductive TurnoCajaStatus where
  | abierto
  | cerradoArqueo
  | corteZEmitido
deriving DecidableEq

def TurnoCajaStatus.text : TurnoCajaStatus → String
  | .abierto => "ABIERTO"
  | .cerradoArqueo => "CERRADO_ARQUEO"
  | .corteZEmitido => "CORTE_Z_EMITIDO"

inductive MovimientoCajaType where
  | ingreso
  | egreso
  | ventaEfectivo
  | devolucionEfectivo
  | fondoInicial
deriving DecidableEq

structure TurnoCajaRow where
  (id organizationId branchId stationId responsibleUserId openedByUserId : String)
  shiftNumber : Nat
  openingCashFloat : Int
  (closingDeclaredCash calculatedCashTotal cashDifference : Option Int)
  status : TurnoCajaStatus
  assignmentStrategy : String
  openedAt : Nat
  closedAt : Option Nat
  (version updatedAt : Nat)
deriving DecidableEq

structure TurnoCaja extends TurnoCajaRow where
  participatingOperators : List String

structure MovimientoCaja where
  (id turnoCajaId operatorUserId : String)
  movementType : MovimientoCajaType
  amount : Int
  reason : String
  referenceId : Option String
  createdAt : Nat
deriving DecidableEq

structure ArqueoCiego where
  (id turnoCajaId performedByUserId : String)
  (declaredCash calculatedCash difference : Int)
  createdAt : Nat

structure OperatorBreakdown where
  operatorUserId : String
  (totalIngresos totalEgresos totalVentasEfectivo netCash : Int)
  movementsCount : Nat
deriving DecidableEq

inductive CorteCajaType where
  | corteX
  | corteZ
deriving DecidableEq

structure CorteCaja where
  (id turnoCajaId : String)
  tipoCorte : CorteCajaType
  generatedByUserId : String
  (openingCashFloat totalIngresos totalEgresos totalVentasEfectivo totalCalculado : Int)
  (totalDeclarado diferencia : Option Int)
  desgloseOperadores : List OperatorBreakdown
  generatedAt : Nat

/-! ### Outbox payloads -/

structure OperatorBreakdownText where
  (operatorUserId totalIngresos totalEgresos totalVentasEfectivo netCash : String)
  movementsCount : Nat

structure CorteZGeneradoPayload where
  (shiftId organizationId branchId stationId responsibleUserId : String)
  shiftNumber : Nat
  (openingCashFloat totalIngresos totalEgresos totalVentasEfectivo totalCalculado : String)
  (totalDeclarado diferencia : String)
  desgloseOperadores : List OperatorBreakdownText
  openedAt : Nat
  closedAt : Option Nat

inductive PosEvent where
  | openCuenta (cuentaId : String) (mesaId : Option String) (accountType : AccountType)
  | addItem (cuentaId itemId productId quantity total : String)
  | closeCuenta (cuentaId : String) (status : CuentaStatus) (totalAmount : String)
  | cuentaPagada (event : CuentaPagadaEvent)
  | corteZGenerado (payload : CorteZGeneradoPayload)

end TridentPos.Pos
