import TridentPos.Pos.Database
import TridentPos.Pos.Policies

/-!
# Cash shifts

`CashShiftDomainService` (operators, movements, blind count and Corte Z) over
`SqliteCashShiftRepository`. As for tenders, `ShiftCall.step` is the code from one `await` to the
next: the shift is read, then the PIN is awaited; a blind count and a Corte Z also await the list
of movements before they save. Every save is one transaction with a compare-and-swap of the
shift's version.
-/
namespace TridentPos.Pos

open Core Library Fallible

/-! ### Totals of a shift -/

structure CashBreakdown where
  (totalIngresos totalEgresos totalVentasEfectivo : Int)
  desgloseOperadores : List OperatorBreakdown

def CashBreakdown.totalCalculado (breakdown : CashBreakdown) (openingCashFloat : Int) : Int :=
  openingCashFloat + breakdown.totalIngresos + breakdown.totalVentasEfectivo - breakdown.totalEgresos

def OperatorBreakdown.none (operatorUserId : String) : OperatorBreakdown :=
  { operatorUserId := operatorUserId, totalIngresos := 0, totalEgresos := 0
    totalVentasEfectivo := 0, netCash := 0, movementsCount := 0 }

def OperatorBreakdown.record (movement : MovimientoCaja) (stats : OperatorBreakdown) :
    OperatorBreakdown :=
  let stats := { stats with movementsCount := stats.movementsCount + 1 }
  match movement.movementType with
  | .ingreso =>
    { stats with
      totalIngresos := stats.totalIngresos + movement.amount
      netCash := stats.netCash + movement.amount }
  | .ventaEfectivo =>
    { stats with
      totalVentasEfectivo := stats.totalVentasEfectivo + movement.amount
      netCash := stats.netCash + movement.amount }
  | .egreso | .devolucionEfectivo =>
    { stats with
      totalEgresos := stats.totalEgresos + movement.amount
      netCash := stats.netCash - movement.amount }
  | .fondoInicial => stats

/-- The body of the loop of `computeBreakdown`. -/
def CashBreakdown.record (breakdown : CashBreakdown) (movement : MovimientoCaja) : CashBreakdown :=
  let breakdown := { breakdown with
    desgloseOperadores := Table.upsert (fun stats => stats.operatorUserId == movement.operatorUserId)
      (OperatorBreakdown.record movement)
      ((OperatorBreakdown.none movement.operatorUserId).record movement)
      breakdown.desgloseOperadores }
  match movement.movementType with
  | .ingreso => { breakdown with totalIngresos := breakdown.totalIngresos + movement.amount }
  | .ventaEfectivo =>
    { breakdown with totalVentasEfectivo := breakdown.totalVentasEfectivo + movement.amount }
  | .egreso | .devolucionEfectivo =>
    { breakdown with totalEgresos := breakdown.totalEgresos + movement.amount }
  | .fondoInicial => breakdown

def computeBreakdown (movements : List MovimientoCaja) : CashBreakdown :=
  movements.foldl CashBreakdown.record ⟨0, 0, 0, []⟩

/-- What a movement adds to the drawer. The initial float is counted with the shift. -/
def MovimientoCaja.signed (movement : MovimientoCaja) : Int :=
  match movement.movementType with
  | .ingreso | .ventaEfectivo => movement.amount
  | .egreso | .devolucionEfectivo => -movement.amount
  | .fondoInicial => 0

def signedSum (movements : List MovimientoCaja) : Int := (movements.map MovimientoCaja.signed).sum

/-! ### Tables of shifts -/

variable (db : EdgeDb) (oracle : ShiftOracle)

def EdgeDb.swapTurno (id : String) (expectedVersion : Nat)
    (set : TurnoCajaRow → TurnoCajaRow) : Except DomainError EdgeDb :=
  if db.turnos.any fun row => row.id == id && row.version == expectedVersion then
    .ok { db with
      turnos := Table.updateWhere (fun row => row.id == id && row.version == expectedVersion) set
        db.turnos }
  else
    .error (occConflictError id expectedVersion
      (((db.turnos.find? fun row => row.id == id).map TurnoCajaRow.version).getD 0))

/-- `INSERT OR IGNORE` of the operators that take part. -/
def insertOperadores (rows : List (String × String)) (shiftId : String) (operators : List String) :
    List (String × String) :=
  operators.foldl (fun rows operator =>
    if rows.contains (shiftId, operator) then rows else rows ++ [(shiftId, operator)]) rows

def missingTenantError (field : String) : DomainError :=
  ⟨field ++ " is required", "MISSING_TENANT_IDENTITY", 400⟩

variable (shift : TurnoCaja)

def checkTenant : Except DomainError Unit :=
  if isBlank shift.organizationId then .error (missingTenantError "organizationId")
  else if isBlank shift.branchId then .error (missingTenantError "branchId")
  else .ok ()

def TurnoCaja.saved (row : TurnoCajaRow) : TurnoCajaRow :=
  { row with
    closingDeclaredCash := shift.closingDeclaredCash
    calculatedCashTotal := shift.calculatedCashTotal, cashDifference := shift.cashDifference
    status := shift.status, closedAt := shift.closedAt, version := shift.version
    updatedAt := shift.updatedAt }

def TurnoCaja.counted (row : TurnoCajaRow) : TurnoCajaRow :=
  { shift.saved row with closedAt := row.closedAt }

def TurnoCaja.cut (row : TurnoCajaRow) : TurnoCajaRow :=
  { row with
    status := shift.status, closedAt := shift.closedAt, version := shift.version
    updatedAt := shift.updatedAt }

/-- `saveShift` of a shift that is stored; version 0 stands for an insertion, which fails then. -/
def EdgeDb.saveShift (expectedVersion : Nat) : Except DomainError EdgeDb := do
  checkTenant shift
  if expectedVersion = 0 then
    throw ⟨"Shift '" ++ shift.id ++ "' already exists", "DUPLICATE_SHIFT", 409⟩
  let db ← db.swapTurno shift.id expectedVersion shift.saved
  return { db with operadores := insertOperadores db.operadores shift.id shift.participatingOperators }

def EdgeDb.addMovement (movement : MovimientoCaja) (shift : TurnoCaja)
    (expectedVersion : Nat) : Except DomainError EdgeDb := do
  let db ← db.swapTurno shift.id expectedVersion fun row =>
    { row with version := shift.version, updatedAt := shift.updatedAt }
  db.insertMovimiento movement

def EdgeDb.saveArqueoCiego (arqueo : ArqueoCiego) (shift : TurnoCaja)
    (expectedVersion : Nat) : Except DomainError EdgeDb := do
  let db ← db.swapTurno shift.id expectedVersion shift.counted
  if db.arqueos.any fun row => row.id == arqueo.id then
    throw (plainError "UNIQUE constraint failed: arqueos_ciegos.id")
  else return { db with arqueos := db.arqueos ++ [arqueo] }

def EdgeDb.insertCorte (corte : CorteCaja) : Except DomainError EdgeDb :=
  if db.cortes.any fun row => row.id == corte.id then
    .error (plainError "UNIQUE constraint failed: cortes_caja.id")
  else .ok { db with cortes := db.cortes ++ [corte] }

def operatorText (stats : OperatorBreakdown) : OperatorBreakdownText :=
  { operatorUserId := stats.operatorUserId
    totalIngresos := scaledBigIntToDecimalString stats.totalIngresos
    totalEgresos := scaledBigIntToDecimalString stats.totalEgresos
    totalVentasEfectivo := scaledBigIntToDecimalString stats.totalVentasEfectivo
    netCash := scaledBigIntToDecimalString stats.netCash, movementsCount := stats.movementsCount }

def corteZPayload (corte : CorteCaja) (shift : TurnoCaja) : CorteZGeneradoPayload :=
  { shiftId := shift.id, organizationId := shift.organizationId, branchId := shift.branchId
    stationId := shift.stationId, responsibleUserId := shift.responsibleUserId
    shiftNumber := shift.shiftNumber
    openingCashFloat := scaledBigIntToDecimalString corte.openingCashFloat
    totalIngresos := scaledBigIntToDecimalString corte.totalIngresos
    totalEgresos := scaledBigIntToDecimalString corte.totalEgresos
    totalVentasEfectivo := scaledBigIntToDecimalString corte.totalVentasEfectivo
    totalCalculado := scaledBigIntToDecimalString corte.totalCalculado
    totalDeclarado := (corte.totalDeclarado.map scaledBigIntToDecimalString).getD "0.0000"
    diferencia := (corte.diferencia.map scaledBigIntToDecimalString).getD "0.0000"
    desgloseOperadores := corte.desgloseOperadores.map operatorText, openedAt := shift.openedAt
    closedAt := shift.closedAt }

def corteZOutbox (corte : CorteCaja) (shift : TurnoCaja) (randomOp : String) :
    Edge.EnqueueOutboxInput PosEvent :=
  { organizationId := shift.organizationId, branchId := shift.branchId, aggregateType := "CORTE_Z"
    aggregateId := corte.id, action := "CorteZGenerado"
    clientOpId := if isValidUuidV4 corte.id then corte.id else randomOp
    aggregateSequenceNumber := if shift.shiftNumber ≥ 1 then shift.shiftNumber else 1
    payload := .corteZGenerado (corteZPayload corte shift) }

/-- `interruption` is what the audit write or the hook before the commit throws, if anything. -/
def EdgeDb.saveCorteZ (corte : CorteCaja) (shift : TurnoCaja) (expectedVersion : Nat)
    (randomOp : String) (interruption : Option DomainError) : Except DomainError EdgeDb := do
  checkTenant shift
  let db ← db.swapTurno shift.id expectedVersion shift.cut
  let db ← db.insertCorte corte
  let db ← db.enqueueOutbox (corteZOutbox corte shift randomOp)
  match interruption with
  | some error => throw error
  | none => return db

/-! ### Who may do what -/

def canOperate (operatorUserId : String) : Bool :=
  !isBlank operatorUserId &&
    (operatorUserId == shift.responsibleUserId || operatorUserId == shift.openedByUserId ||
      shift.participatingOperators.contains operatorUserId)

def canAddOperator (operatorUserId requestingUserId : String) : Bool :=
  !isBlank operatorUserId && shift.status == .abierto &&
    (requestingUserId == shift.responsibleUserId ||
      shift.participatingOperators.contains requestingUserId)

def canClose (requestingUserId : String) : Bool :=
  canOperate shift requestingUserId

/-! ### Commands -/

structure AgregarOperadorCommand where
  (shiftId operatorUserId requestingUserId : String)
  expectedVersion : Nat
  requestingPin : Option String

structure RegistrarMovimientoCommand where
  (shiftId operatorUserId : String)
  movementType : MovimientoCajaType
  amount : Int
  reason : String
  referenceId : Option String
  expectedVersion : Nat
  operatorPin : Option String

structure RealizarArqueoCiegoCommand where
  (shiftId performedByUserId : String)
  declaredCash : Int
  expectedVersion : Nat
  performedByPin : Option String

structure GenerarCorteZCommand where
  (shiftId closedByUserId : String)
  expectedVersion : Nat
  closedByPin : Option String

inductive ShiftCommand where
  | agregarOperador (command : AgregarOperadorCommand)
  | registrarMovimiento (command : RegistrarMovimientoCommand)
  | realizarArqueoCiego (command : RealizarArqueoCiegoCommand)
  | generarCorteZ (command : GenerarCorteZCommand)

def ShiftCommand.shiftId : ShiftCommand → String
  | .agregarOperador command => command.shiftId
  | .registrarMovimiento command => command.shiftId
  | .realizarArqueoCiego command => command.shiftId
  | .generarCorteZ command => command.shiftId

def ShiftCommand.userId : ShiftCommand → String
  | .agregarOperador command => command.requestingUserId
  | .registrarMovimiento command => command.operatorUserId
  | .realizarArqueoCiego command => command.performedByUserId
  | .generarCorteZ command => command.closedByUserId

def ShiftCommand.needs : ShiftCommand → TurnoCajaStatus
  | .generarCorteZ _ => .cerradoArqueo
  | _ => .abierto

def checkStatus (shiftId : String) (expectedVersion : Nat) (needed : TurnoCajaStatus)
    (mismatch : TurnoCaja → DomainError) (found : Option TurnoCaja) :
    Except DomainError TurnoCaja :=
  match found with
  | none => .error (shiftNotFoundError shiftId)
  | some shift =>
    if shift.version ≠ expectedVersion then
      .error (occConflictError shift.id expectedVersion shift.version)
    else if shift.status = .corteZEmitido then .error (shiftLockedError shift.id)
    else if shift.status ≠ needed then .error (mismatch shift)
    else .ok shift

def notOpenError : DomainError :=
  shiftInvalidStatusError shift.id shift.status.text "ABIERTO"

def blindCountRequiredError : DomainError :=
  ⟨"Arqueo ciego is mandatory before issuing Corte Z", "BLIND_COUNT_REQUIRED", 400⟩

def requirePin (userId : String) (pin : Option String) : Except DomainError Unit :=
  if (pin.map isBlank).getD true then .error (invalidOperatorPinError userId) else .ok ()

def checkDeclared (declaredCash : Int) : Except DomainError Unit :=
  if declaredCash < 0 then
    .error ⟨"Declared cash amount must be non-negative", "INVALID_DECLARED_CASH", 400⟩
  else .ok ()

def ShiftCommand.check (found : Option TurnoCaja) : ShiftCommand → Except DomainError TurnoCaja
  | .agregarOperador command => do
    let shift ← checkStatus command.shiftId command.expectedVersion .abierto notOpenError found
    requirePin command.requestingUserId command.requestingPin
    return shift
  | .registrarMovimiento command => do
    let shift ← checkStatus command.shiftId command.expectedVersion .abierto notOpenError found
    requirePin command.operatorUserId command.operatorPin
    return shift
  | .realizarArqueoCiego command => do
    let shift ← checkStatus command.shiftId command.expectedVersion .abierto notOpenError found
    checkDeclared command.declaredCash
    requirePin command.performedByUserId command.performedByPin
    return shift
  | .generarCorteZ command => do
    let shift ← checkStatus command.shiftId command.expectedVersion .cerradoArqueo
      (fun _ => blindCountRequiredError) found
    requirePin command.closedByUserId command.closedByPin
    return shift

/-! ### What the commands save -/

/-- What the surroundings decide in one step: the PIN, the clock and random ids. -/
structure ShiftOracle where
  pinValid : Bool
  now : Nat
  (id randomOp : String)
  interruption : Option DomainError

inductive ShiftResult where
  | operador (shift : TurnoCaja)
  | movimiento (shift : TurnoCaja) (movement : MovimientoCaja)
  | arqueo (shift : TurnoCaja) (arqueo : ArqueoCiego)
  | corte (shift : TurnoCaja) (corte : CorteCaja)

def nextVersion (now : Nat) : TurnoCaja :=
  { shift with version := shift.version + 1, updatedAt := now }

def addOperator (db : EdgeDb) (command : AgregarOperadorCommand)
    (shift : TurnoCaja) : Except DomainError (ShiftResult × EdgeDb) :=
  if !canAddOperator shift command.operatorUserId command.requestingUserId then
    .error (unauthorizedShiftOperatorError command.requestingUserId shift.id)
  else if shift.participatingOperators.contains command.operatorUserId then
    .ok (.operador shift, db)
  else do
    let updated := { nextVersion shift oracle.now with
      participatingOperators := shift.participatingOperators ++ [command.operatorUserId] }
    let db ← db.saveShift updated shift.version
    return (.operador updated, db)

def recordMovement (db : EdgeDb) (command : RegistrarMovimientoCommand)
    (shift : TurnoCaja) : Except DomainError (ShiftResult × EdgeDb) :=
  if !canOperate shift command.operatorUserId then
    .error (unauthorizedShiftOperatorError command.operatorUserId shift.id)
  else if command.amount ≤ 0 then
    .error (invalidCashMovementError "Movement amount must be greater than zero")
  else if isBlank command.reason then
    .error (invalidCashMovementError "Movement reason is required")
  else do
    let movement : MovimientoCaja :=
      { id := oracle.id, turnoCajaId := shift.id, operatorUserId := command.operatorUserId
        movementType := command.movementType, amount := command.amount
        reason := trimmed command.reason, referenceId := command.referenceId
        createdAt := oracle.now }
    let updated := nextVersion shift oracle.now
    let db ← db.addMovement movement updated shift.version
    return (.movimiento updated movement, db)

def blindCountOf (command : RealizarArqueoCiegoCommand) (shift : TurnoCaja)
    (calculated : Int) : ArqueoCiego :=
  { id := oracle.id, turnoCajaId := shift.id, performedByUserId := command.performedByUserId
    declaredCash := command.declaredCash, calculatedCash := calculated
    difference := command.declaredCash - calculated, createdAt := oracle.now }

def countedShift (command : RealizarArqueoCiegoCommand) (shift : TurnoCaja)
    (calculated : Int) : TurnoCaja :=
  { nextVersion shift oracle.now with
    status := .cerradoArqueo, closingDeclaredCash := some command.declaredCash
    calculatedCashTotal := some calculated
    cashDifference := some (command.declaredCash - calculated) }

def saveBlindCount (db : EdgeDb) (command : RealizarArqueoCiegoCommand)
    (shift : TurnoCaja) (movements : List MovimientoCaja) :
    Except DomainError (ShiftResult × EdgeDb) := do
  let calculated := (computeBreakdown movements).totalCalculado shift.openingCashFloat
  let arqueo := blindCountOf oracle command shift calculated
  let updated := countedShift oracle command shift calculated
  let db ← db.saveArqueoCiego arqueo updated shift.version
  return (.arqueo updated arqueo, db)

def corteZOf (command : GenerarCorteZCommand) (shift : TurnoCaja)
    (movements : List MovimientoCaja) : CorteCaja :=
  let breakdown := computeBreakdown movements
  { id := oracle.id, turnoCajaId := shift.id, tipoCorte := .corteZ
    generatedByUserId := command.closedByUserId, openingCashFloat := shift.openingCashFloat
    totalIngresos := breakdown.totalIngresos, totalEgresos := breakdown.totalEgresos
    totalVentasEfectivo := breakdown.totalVentasEfectivo
    totalCalculado := breakdown.totalCalculado shift.openingCashFloat
    totalDeclarado := shift.closingDeclaredCash, diferencia := shift.cashDifference
    desgloseOperadores := breakdown.desgloseOperadores, generatedAt := oracle.now }

/-- `generarCorteZ` after the movements were listed. The drawer's pulse comes after the commit
and cannot fail it. -/
def issueCorteZ (db : EdgeDb) (command : GenerarCorteZCommand)
    (shift : TurnoCaja) (movements : List MovimientoCaja) :
    Except DomainError (ShiftResult × EdgeDb) := do
  let corte := corteZOf oracle command shift movements
  let closed := { nextVersion shift oracle.now with
    status := .corteZEmitido, closedAt := some oracle.now }
  let db ← db.saveCorteZ corte closed shift.version oracle.randomOp oracle.interruption
  return (.corte closed corte, db)

/-! ### Calls -/

inductive ShiftState where
  | read
  | pin (shift : TurnoCaja)
  | save (shift : TurnoCaja) (movements : List MovimientoCaja)
  | done (result : Except DomainError ShiftResult)

structure ShiftCall where
  command : ShiftCommand
  state : ShiftState

def ShiftCall.finish (call : ShiftCall) :
    Except DomainError (ShiftResult × EdgeDb) → EdgeDb × ShiftCall
  | .error e => (db, { call with state := .done (.error e) })
  | .ok (result, db') => (db', { call with state := .done (.ok result) })

/-- The list of movements is read right after the checks that follow the PIN. -/
def ShiftCall.list (call : ShiftCall) (shift : TurnoCaja) (allowed : Bool) : EdgeDb × ShiftCall :=
  if allowed then (db, { call with state := .save shift (db.listMovements shift.id) })
  else (db, { call with
    state := .done (.error (unauthorizedShiftOperatorError call.command.userId shift.id)) })

def ShiftCall.step (db : EdgeDb) (call : ShiftCall) : EdgeDb × ShiftCall :=
  match call.state with
  | .read =>
    match call.command.check (db.getShiftById call.command.shiftId) with
    | .error e => (db, { call with state := .done (.error e) })
    | .ok shift => (db, { call with state := .pin shift })
  | .pin shift =>
    if !oracle.pinValid then
      (db, { call with state := .done (.error (invalidOperatorPinError call.command.userId)) })
    else
      match call.command with
      | .agregarOperador command => call.finish db (addOperator oracle db command shift)
      | .registrarMovimiento command => call.finish db (recordMovement oracle db command shift)
      | .realizarArqueoCiego command =>
        call.list db shift (canOperate shift command.performedByUserId)
      | .generarCorteZ command => call.list db shift (canClose shift command.closedByUserId)
  | .save shift movements =>
    match call.command with
    | .realizarArqueoCiego command =>
      call.finish db (saveBlindCount oracle db command shift movements)
    | .generarCorteZ command => call.finish db (issueCorteZ oracle db command shift movements)
    | _ => (db, call)
  | .done _ => (db, call)

/-! ### The totals -/

theorem CashBreakdown.record_totalCalculado (breakdown : CashBreakdown) (movement : MovimientoCaja)
    (openingCashFloat : Int) :
    (breakdown.record movement).totalCalculado openingCashFloat =
      breakdown.totalCalculado openingCashFloat + movement.signed := by
  cases kind : movement.movementType <;>
    simp only [CashBreakdown.record, CashBreakdown.totalCalculado, MovimientoCaja.signed, kind] <;>
    omega

theorem computeBreakdown_totalCalculado (movements : List MovimientoCaja) (openingCashFloat : Int) :
    (computeBreakdown movements).totalCalculado openingCashFloat =
      openingCashFloat + signedSum movements := by
  have loop (breakdown : CashBreakdown) :
      (movements.foldl CashBreakdown.record breakdown).totalCalculado openingCashFloat =
        breakdown.totalCalculado openingCashFloat + signedSum movements := by
    induction movements generalizing breakdown with
    | nil => simp [signedSum]
    | cons movement movements ih =>
      rw [List.foldl_cons, ih, breakdown.record_totalCalculado]
      simp only [signedSum, List.map_cons, List.sum_cons]
      omega
  have total := loop ⟨0, 0, 0, []⟩
  simpa [computeBreakdown, CashBreakdown.totalCalculado] using total

/-! ### The books of a shift -/

def EdgeDb.turnoRows (shiftId : String) : List TurnoCajaRow :=
  db.turnos.filter fun row => row.id == shiftId

def EdgeDb.movimientosOf (shiftId : String) : List MovimientoCaja :=
  db.movimientos.filter fun row => row.turnoCajaId == shiftId

def EdgeDb.arqueosOf (shiftId : String) : List ArqueoCiego :=
  db.arqueos.filter fun row => row.turnoCajaId == shiftId

def EdgeDb.cortesZOf (shiftId : String) : List CorteCaja :=
  db.cortes.filter fun row => row.turnoCajaId == shiftId && row.tipoCorte == .corteZ

theorem listMovements_perm (shiftId : String) :
    (db.listMovements shiftId).Perm (db.movimientosOf shiftId) :=
  List.perm_insertionSort _ _

variable {movements : List MovimientoCaja}

theorem signedSum_perm {movements' : List MovimientoCaja} (same : movements.Perm movements') :
    signedSum movements = signedSum movements' :=
  (same.map MovimientoCaja.signed).sum_eq

theorem signedSum_append (movements movements' : List MovimientoCaja) :
    signedSum (movements ++ movements') = signedSum movements + signedSum movements' := by
  simp [signedSum]

variable {db db' : EdgeDb} {shift}

theorem getShiftById_eq_some {shiftId : String} (unique : (db.turnoRows shiftId).length ≤ 1)
    (found : db.getShiftById shiftId = some shift) :
    db.turnoRows shiftId = [shift.toTurnoCajaRow] ∧ shift.id = shiftId := by
  obtain ⟨row, read, rfl⟩ := Option.map_eq_some_iff.mp found
  have isId : row.id = shiftId := by simpa using List.find?_some read
  rw [← List.head?_filter] at read
  obtain ⟨rest, rows⟩ := List.head?_eq_some_iff.mp read
  have listed : db.turnoRows shiftId = row :: rest := rows
  rw [listed] at unique ⊢
  have none : rest = [] := List.eq_nil_of_length_eq_zero (by simpa using unique)
  exact ⟨by rw [none], isId⟩

theorem swapTurno_passed {id : String} {expectedVersion : Nat} {set : TurnoCajaRow → TurnoCajaRow}
    (swapped : db.swapTurno id expectedVersion set = .ok db') :
    (∃ row ∈ db.turnos, row.id = id ∧ row.version = expectedVersion) ∧
      db' = { db with
        turnos := Table.updateWhere (fun row => row.id == id && row.version == expectedVersion) set
          db.turnos } := by
  unfold EdgeDb.swapTurno at swapped
  split at swapped
  next hit => exact ⟨by simpa using hit, (Except.ok.inj swapped).symm⟩
  next => simp at swapped

theorem swapTurno_eq_ok {id : String} {expectedVersion : Nat} {set : TurnoCajaRow → TurnoCajaRow}
    {row : TurnoCajaRow} (stored : db.turnoRows id = [row])
    (swapped : db.swapTurno id expectedVersion set = .ok db')
    (keepsId : ∀ row, (set row).id = row.id) :
    row.version = expectedVersion ∧ db'.turnoRows id = [set row] ∧
      ∃ turnos, db' = { db with turnos := turnos } := by
  obtain ⟨⟨found, member, sameId, sameVersion⟩, rfl⟩ := swapTurno_passed swapped
  have isRow : found ∈ db.turnoRows id := by simp [EdgeDb.turnoRows, member, sameId]
  obtain rfl : found = row := by simpa [stored] using isRow
  have rows := Table.filter_updateWhere
    (fun row : TurnoCajaRow => row.id == id && row.version == expectedVersion)
    (fun row => row.id == id) set db.turnos fun row _ => by simp [keepsId]
  have listed : (db.turnos.filter fun row => row.id == id) = [found] := stored
  rw [listed] at rows
  simpa [EdgeDb.turnoRows, sameId, sameVersion] using rows

section Saves

variable {expectedVersion : Nat} (row : TurnoCajaRow) (stored : db.turnoRows shift.id = [row])

include stored

theorem saveShift_eq_ok (saved : db.saveShift shift expectedVersion = .ok db') :
    row.version = expectedVersion ∧
      db'.turnoRows shift.id = [shift.saved row] ∧
      ∃ turnos operadores, db' = { db with turnos := turnos, operadores := operadores } := by
  simp only [EdgeDb.saveShift, bind_eq_ok] at saved
  obtain ⟨-, -, saved⟩ := saved
  simp only [guard_eq_ok, bind_eq_ok, pure_eq_ok] at saved
  obtain ⟨-, swapped, swaps, rfl⟩ := saved
  obtain ⟨version, rows, turnos, rfl⟩ := swapTurno_eq_ok stored swaps fun _ => rfl
  exact ⟨version, rows, turnos, _, rfl⟩

theorem addMovement_eq_ok {movement : MovimientoCaja}
    (saved : db.addMovement movement shift expectedVersion = .ok db') :
    row.version = expectedVersion ∧
      db'.turnoRows shift.id =
        [{ row with version := shift.version, updatedAt := shift.updatedAt }] ∧
      ∃ turnos, db' = { db with
        turnos := turnos
        movimientos := db.movimientos ++ [movement] } := by
  simp only [EdgeDb.addMovement, bind_eq_ok] at saved
  obtain ⟨swapped, swaps, inserts⟩ := saved
  obtain ⟨version, rows, turnos, rfl⟩ := swapTurno_eq_ok stored swaps fun _ => rfl
  obtain rfl := insertMovimiento_eq_ok inserts
  exact ⟨version, rows, turnos, rfl⟩

theorem saveArqueoCiego_eq_ok {arqueo : ArqueoCiego}
    (saved : db.saveArqueoCiego arqueo shift expectedVersion = .ok db') :
    row.version = expectedVersion ∧
      db'.turnoRows shift.id = [shift.counted row] ∧
      ∃ turnos, db' = { db with turnos := turnos, arqueos := db.arqueos ++ [arqueo] } := by
  simp only [EdgeDb.saveArqueoCiego, bind_eq_ok] at saved
  obtain ⟨swapped, swaps, inserts⟩ := saved
  obtain ⟨version, rows, turnos, rfl⟩ := swapTurno_eq_ok stored swaps fun _ => rfl
  simp only [thrown_eq_ok, pure_eq_ok] at inserts
  obtain ⟨-, rfl⟩ := inserts
  exact ⟨version, rows, turnos, rfl⟩

omit stored in
theorem saveCorteZ_passed {corte : CorteCaja} {randomOp : String}
    {interruption : Option DomainError}
    (saved : db.saveCorteZ corte shift expectedVersion randomOp interruption = .ok db') :
    checkTenant shift = .ok () ∧
      isValidUuidV4 (corteZOutbox corte shift randomOp).clientOpId ∧
      (corteZOutbox corte shift randomOp).aggregateSequenceNumber ≤ maxSafeInteger ∧
      ∃ after, db.swapTurno shift.id expectedVersion shift.cut = .ok after ∧
        db' = { after with
          cortes := after.cortes ++ [corte]
          outbox := after.outbox ++
            [Edge.pendingRow after.outbox (corteZOutbox corte shift randomOp)] } := by
  simp only [EdgeDb.saveCorteZ, EdgeDb.insertCorte, bind_eq_ok, refused_eq_ok, Except.ok.injEq] at saved
  obtain ⟨⟨⟩, tenant, after, swaps, cut, ⟨-, rfl⟩, queued, enqueues, finished⟩ := saved
  obtain ⟨valid, upper, -, -, rfl⟩ := enqueueOutbox_eq_ok enqueues
  cases interruption with
  | some error => exact absurd finished throw_ne_ok
  | none =>
    obtain rfl := pure_eq_ok.mp finished
    exact ⟨tenant, valid, upper, after, swaps, rfl⟩

theorem saveCorteZ_eq_ok {corte : CorteCaja} {randomOp : String} {interruption : Option DomainError}
    (saved : db.saveCorteZ corte shift expectedVersion randomOp interruption = .ok db') :
    row.version = expectedVersion ∧
      db'.turnoRows shift.id = [shift.cut row] ∧
      ∃ turnos outbox, db' = { db with
        turnos := turnos, cortes := db.cortes ++ [corte]
        outbox := outbox } := by
  obtain ⟨-, -, -, after, swaps, rfl⟩ := saveCorteZ_passed saved
  obtain ⟨version, rows, turnos, rfl⟩ := swapTurno_eq_ok stored swaps fun _ => rfl
  exact ⟨version, rows, turnos, _, rfl⟩

end Saves

/-! ### One step of a call -/

variable {found : Option TurnoCaja}

theorem checkStatus_eq_ok {shiftId : String} {expectedVersion : Nat} {needed : TurnoCajaStatus}
    {mismatch : TurnoCaja → DomainError}
    (accepted : checkStatus shiftId expectedVersion needed mismatch found = .ok shift) :
    found = some shift ∧ shift.status = needed := by
  unfold checkStatus at accepted
  split at accepted
  next => simp at accepted
  next read =>
    simp only [refused_eq_ok, not_not, Except.ok.injEq] at accepted
    obtain ⟨-, -, same, rfl⟩ := accepted
    exact ⟨rfl, same⟩

theorem ShiftCommand.check_eq_ok (command : ShiftCommand)
    (accepted : command.check found = .ok shift) :
    found = some shift ∧ shift.status = command.needs := by
  cases command <;>
    simp only [ShiftCommand.check, bind_eq_ok, pure_eq_ok] at accepted
  case realizarArqueoCiego command =>
    obtain ⟨read, checked, -, -, -, -, rfl⟩ := accepted
    exact checkStatus_eq_ok checked
  all_goals
    obtain ⟨read, checked, -, -, rfl⟩ := accepted
    exact checkStatus_eq_ok checked

inductive ShiftSave (oracle : ShiftOracle) (db db' : EdgeDb) (call : ShiftCall) : Prop
  | operador (shift updated : TurnoCaja) (command : AgregarOperadorCommand)
      (isCommand : call.command = .agregarOperador command) (state : call.state = .pin shift)
      (isUpdated : updated = { nextVersion shift oracle.now with
        participatingOperators := shift.participatingOperators ++ [command.operatorUserId] })
      (saved : db.saveShift updated shift.version = .ok db')
  | movimiento (shift : TurnoCaja) (command : RegistrarMovimientoCommand)
      (movement : MovimientoCaja) (isCommand : call.command = .registrarMovimiento command)
      (state : call.state = .pin shift) (about : movement.turnoCajaId = shift.id)
      (saved : db.addMovement movement (nextVersion shift oracle.now) shift.version = .ok db')
  | arqueo (shift : TurnoCaja) (command : RealizarArqueoCiegoCommand)
      (movements : List MovimientoCaja) (calculated : Int)
      (isCommand : call.command = .realizarArqueoCiego command)
      (state : call.state = .save shift movements)
      (isTotal : calculated = shift.openingCashFloat + signedSum movements)
      (saved : db.saveArqueoCiego (blindCountOf oracle command shift calculated)
        (countedShift oracle command shift calculated) shift.version = .ok db')
  | corteZ (shift closed : TurnoCaja) (command : GenerarCorteZCommand)
      (movements : List MovimientoCaja) (isCommand : call.command = .generarCorteZ command)
      (state : call.state = .save shift movements)
      (isClosed : closed = { nextVersion shift oracle.now with
        status := .corteZEmitido, closedAt := some oracle.now })
      (saved : db.saveCorteZ (corteZOf oracle command shift movements) closed shift.version
        oracle.randomOp oracle.interruption = .ok db')

def ShiftState.holdsShift : ShiftState → Bool
  | .pin _ | .save .. => true
  | _ => false

theorem ShiftCall.finish_eq {call call' : ShiftCall} {done : Prop}
    {outcome : Except DomainError (ShiftResult × EdgeDb)}
    (finished : call.finish db outcome = (db', call'))
    (does : ∀ result, outcome = .ok (result, db') → db' = db ∨ done) :
    call'.command = call.command ∧
      ((db' = db ∧ (call'.state.holdsShift = false ∨ call' = call)) ∨
        (done ∧ call'.state.holdsShift = false)) := by
  cases outcome <;> obtain ⟨rfl, rfl⟩ := Prod.mk.inj finished
  case error e => exact ⟨rfl, .inl ⟨rfl, .inl rfl⟩⟩
  case ok pair => exact ⟨rfl, (does pair.1 rfl).imp (⟨·, .inl rfl⟩) (⟨·, rfl⟩)⟩

open ShiftCall

theorem ShiftCall.list_eq (call call' : ShiftCall) {allowed : Bool}
    (listed : call.list db shift allowed = (db', call')) :
    call'.command = call.command ∧ db' = db ∧
      (call'.state.holdsShift = false ∨ call'.state = .save shift (db.listMovements shift.id)) := by
  unfold list at listed
  split at listed <;> obtain ⟨rfl, rfl⟩ := Prod.mk.inj listed
  next => exact ⟨rfl, rfl, .inr rfl⟩
  next => exact ⟨rfl, rfl, .inl rfl⟩

section Outcomes

variable {oracle} {call : ShiftCall} {result : ShiftResult}

theorem addOperator_eq_ok {command : AgregarOperadorCommand}
    (isCommand : call.command = .agregarOperador command) (state : call.state = .pin shift)
    (returned : addOperator oracle db command shift = .ok (result, db')) :
    db' = db ∨ ShiftSave oracle db db' call := by
  unfold addOperator at returned
  split at returned
  next => simp at returned
  split at returned
  next => exact .inl (Prod.mk.inj (Except.ok.inj returned)).2.symm
  next =>
    simp only [bind_eq_ok, pure_eq_ok, Prod.mk.injEq] at returned
    obtain ⟨after, saved, -, rfl⟩ := returned
    exact .inr (.operador shift _ command isCommand state rfl saved)

theorem recordMovement_eq_ok {command : RegistrarMovimientoCommand}
    (isCommand : call.command = .registrarMovimiento command) (state : call.state = .pin shift)
    (returned : recordMovement oracle db command shift = .ok (result, db')) :
    ShiftSave oracle db db' call := by
  simp only [recordMovement, refused_eq_ok, bind_eq_ok, pure_eq_ok, Prod.mk.injEq] at returned
  obtain ⟨-, -, -, after, saved, -, rfl⟩ := returned
  exact .movimiento shift command _ isCommand state rfl saved

theorem saveBlindCount_eq_ok {command : RealizarArqueoCiegoCommand}
    (isCommand : call.command = .realizarArqueoCiego command)
    (state : call.state = .save shift movements)
    (returned : saveBlindCount oracle db command shift movements = .ok (result, db')) :
    ShiftSave oracle db db' call := by
  simp only [saveBlindCount, bind_eq_ok, pure_eq_ok, Prod.mk.injEq] at returned
  obtain ⟨after, saved, -, rfl⟩ := returned
  exact .arqueo shift command movements _ isCommand state
    (computeBreakdown_totalCalculado movements shift.openingCashFloat) saved

theorem issueCorteZ_eq_ok {command : GenerarCorteZCommand}
    (isCommand : call.command = .generarCorteZ command) (state : call.state = .save shift movements)
    (returned : issueCorteZ oracle db command shift movements = .ok (result, db')) :
    ShiftSave oracle db db' call := by
  simp only [issueCorteZ, bind_eq_ok, pure_eq_ok, Prod.mk.injEq] at returned
  obtain ⟨after, saved, -, rfl⟩ := returned
  exact .corteZ shift _ command movements isCommand state rfl saved

end Outcomes

theorem ShiftCall.step_cases {oracle : ShiftOracle} (call call' : ShiftCall)
    (moved : call.step oracle db = (db', call')) :
    call'.command = call.command ∧
    ((db' = db ∧ (call'.state.holdsShift = false ∨ call' = call)) ∨
     (db' = db ∧ ∃ shift, call'.state = .pin shift ∧
        call.command.check (db.getShiftById call.command.shiftId) = .ok shift) ∨
     (db' = db ∧ ∃ shift, call.state = .pin shift ∧
        call'.state = .save shift (db.listMovements shift.id)) ∨
     (ShiftSave oracle db db' call ∧ call'.state.holdsShift = false)) := by
  cases state : call.state with
  | read =>
    simp only [step, state] at moved
    split at moved
    next =>
      obtain ⟨rfl, rfl⟩ := Prod.mk.inj moved
      exact ⟨rfl, .inl ⟨rfl, .inl rfl⟩⟩
    next shift accepted =>
      obtain ⟨rfl, rfl⟩ := Prod.mk.inj moved
      exact ⟨rfl, .inr (.inl ⟨rfl, shift, rfl, accepted⟩)⟩
  | pin shift =>
    simp only [step, state] at moved
    split at moved
    next =>
      obtain ⟨rfl, rfl⟩ := Prod.mk.inj moved
      exact ⟨rfl, .inl ⟨rfl, .inl rfl⟩⟩
    split at moved
    next command isCommand =>
      exact (finish_eq moved fun _ returned => addOperator_eq_ok isCommand state returned).imp_right
        (.imp_right fun saved => .inr (.inr saved))
    next command isCommand =>
      exact (finish_eq moved fun _ returned =>
        .inr (recordMovement_eq_ok isCommand state returned)).imp_right
        (.imp_right fun saved => .inr (.inr saved))
    all_goals
      obtain ⟨kept, same, free | listed⟩ := list_eq _ _ moved
      · exact ⟨kept, .inl ⟨same, .inl free⟩⟩
      · exact ⟨kept, .inr (.inr (.inl ⟨same, shift, rfl, listed⟩))⟩
  | save shift movements =>
    simp only [step, state] at moved
    split at moved
    next command isCommand =>
      exact (finish_eq moved fun _ returned =>
        .inr (saveBlindCount_eq_ok isCommand state returned)).imp_right
        (.imp_right fun saved => .inr (.inr saved))
    next command isCommand =>
      exact (finish_eq moved fun _ returned =>
        .inr (issueCorteZ_eq_ok isCommand state returned)).imp_right
        (.imp_right fun saved => .inr (.inr saved))
    next =>
      obtain ⟨rfl, rfl⟩ := Prod.mk.inj moved
      exact ⟨rfl, .inl ⟨rfl, .inr rfl⟩⟩
  | done result =>
    simp only [step, state] at moved
    obtain ⟨rfl, rfl⟩ := Prod.mk.inj moved
    exact ⟨rfl, .inl ⟨rfl, .inr rfl⟩⟩

end TridentPos.Pos
