import TridentPos.Pos.DiningService

/-!
# Tables and operational commands

The operations of `DiningDomainService` on tables, and the ones that change an account but not its
items. `transferCuentaSync` saves two tables and the account one after the other, so it returns
the tables of the database next to its outcome: a transfer that throws leaves what it has saved.
-/
namespace TridentPos.Pos

open Core Library List

/-! ### Tables -/

structure CreateMesaInput where
  (id roomName tableNumber : String)
  (posX posY capacity : Option Int)

def newMesa (input : CreateMesaInput) (now : Nat) : Mesa :=
  { id := input.id, roomName := input.roomName, tableNumber := input.tableNumber
    status := .disponible, currentAccountId := none, posX := input.posX, posY := input.posY
    capacity := input.capacity, version := 1, updatedAt := now }

variable (validatePin : String → String → Bool) (db : EdgeDb)

def createMesaSync (input : CreateMesaInput) (now : Nat) : Except DomainError (Mesa × EdgeDb) :=
  if (db.getMesaById input.id).isSome then
    .error ⟨"Mesa with id '" ++ input.id ++ "' already exists", "DUPLICATE_MESA", 409⟩
  else do
    let db ← db.saveMesa (newMesa input now) 0
    return (newMesa input now, db)

def freedMesa (mesa : Mesa) (now : Nat) : Mesa :=
  { mesa with
    status := .disponible, currentAccountId := none, version := mesa.version + 1, updatedAt := now }

def occupiedMesa (mesa : Mesa) (cuentaId : String) (now : Nat) : Mesa :=
  { mesa with
    status := .ocupada, currentAccountId := some cuentaId, version := mesa.version + 1
    updatedAt := now }

structure LiberarMesaInput where
  mesaId : String
  expectedVersion : Nat
  performedByUserId : String
  force : Bool

/-- The account that keeps a table from being released, if there is one. An empty id names none. -/
def blockingCuenta (mesa : Mesa) (force : Bool) : Option Cuenta :=
  if force then none
  else ((mesa.currentAccountId.filter fun id => id != "").bind db.getCuentaById).filter fun cuenta =>
    cuenta.status != .pagada && cuenta.status != .anulada

def liberarMesaSync (input : LiberarMesaInput) (now : Nat) : Except DomainError (Mesa × EdgeDb) :=
  match db.getMesaById input.mesaId with
  | none => .error ⟨"Mesa '" ++ input.mesaId ++ "' not found", "MESA_NOT_FOUND", 404⟩
  | some mesa =>
    if mesa.version ≠ input.expectedVersion then
      .error (occConflictError input.mesaId input.expectedVersion mesa.version)
    else if mesa.status = .disponible then .ok (mesa, db)
    else
      match blockingCuenta db mesa input.force with
      | some cuenta =>
        .error ⟨"Cannot release table '" ++ mesa.tableNumber ++ "' with active account '" ++
          cuenta.id ++ "' in status '" ++ cuenta.status.text ++ "' without force",
          "TABLE_HAS_ACTIVE_ACCOUNT", 409⟩
      | none => do
        let db ← db.saveMesa (freedMesa mesa now) input.expectedVersion
        return (freedMesa mesa now, db)

/-! ### Transfer -/

structure TransferCuentaInput where
  cuentaId : String
  expectedVersion : Nat
  (sourceMesaId targetMesaId sourceWaiterUserId targetWaiterUserId targetWaiterPin : String)
  reason : Option String

def TransferCuentaInput.context (input : TransferCuentaInput) : TransferValidationContext :=
  { operatorUserId := input.sourceWaiterUserId, targetWaiterUserId := some input.targetWaiterUserId
    targetWaiterPinProvided := true, reason := input.reason }

def planTransfer (input : TransferCuentaInput) : Except DomainError (Cuenta × Mesa × Mesa) :=
  if !validatePin input.targetWaiterUserId input.targetWaiterPin then
    .error ⟨"Invalid PIN for target waiter '" ++ input.targetWaiterUserId ++ "'",
      "INVALID_TARGET_WAITER_PIN", 401⟩
  else
    match db.getCuentaById input.cuentaId with
    | none => .error (cuentaNotFoundError input.cuentaId)
    | some cuenta =>
      if cuenta.version ≠ input.expectedVersion then
        .error (occConflictError input.cuentaId input.expectedVersion cuenta.version)
      else
        match db.getMesaById input.sourceMesaId with
        | none =>
          .error ⟨"Source table '" ++ input.sourceMesaId ++ "' not found", "SOURCE_MESA_NOT_FOUND", 404⟩
        | some sourceMesa =>
          match db.getMesaById input.targetMesaId with
          | none =>
            .error ⟨"Target table '" ++ input.targetMesaId ++ "' not found", "TARGET_MESA_NOT_FOUND",
              404⟩
          | some targetMesa =>
            let validation := validateTransfer sourceMesa targetMesa cuenta input.context
            if !validation.allowed then
              .error ⟨validation.reason.getD "Transfer disallowed", "TRANSFER_DISALLOWED", 403⟩
            else .ok (cuenta, sourceMesa, targetMesa)

def transferredCuenta (cuenta : Cuenta) (targetMesa : Mesa) (input : TransferCuentaInput)
    (now : Nat) : Cuenta :=
  { cuenta with
    mesaId := some targetMesa.id, currentWaiterUserId := some input.targetWaiterUserId
    version := cuenta.version + 1, updatedAt := now }

def transferCuentaSync (input : TransferCuentaInput) (now : Nat) :
    Except DomainError (Cuenta × Mesa × Mesa) × EdgeDb :=
  match planTransfer validatePin db input with
  | .error e => (.error e, db)
  | .ok (cuenta, sourceMesa, targetMesa) =>
    match db.saveMesa (freedMesa sourceMesa now) sourceMesa.version with
    | .error e => (.error e, db)
    | .ok freed =>
      match freed.saveMesa (occupiedMesa targetMesa cuenta.id now) targetMesa.version with
      | .error e => (.error e, freed)
      | .ok occupied =>
        let moved := transferredCuenta cuenta targetMesa input now
        match occupied.saveCuenta moved input.expectedVersion with
        | .error e => (.error e, occupied)
        | .ok saved =>
          (.ok (moved, freedMesa sourceMesa now, occupiedMesa targetMesa cuenta.id now), saved)

/-! ### Cancelling an account -/

structure CancelCuentaInput where
  cuentaId : String
  expectedVersion : Nat
  (reason requestedByUserId requestedByPin : String)
  managerPin : Option String

/-- A printed account is cancelled with the PIN of a manager; an empty PIN counts as not given. -/
def checkManagerPin (input : CancelCuentaInput) (cuenta : Cuenta) : Except DomainError Unit :=
  if cuenta.status ≠ .impresa then .ok ()
  else
    match input.managerPin.filter fun pin => pin != "" with
    | none =>
      .error ⟨"Printed account cancellation requires manager PIN (DEC-013)", "MANAGER_PIN_REQUIRED",
        403⟩
    | some pin =>
      if validatePin "manager" pin || validatePin "gerente" pin ||
          validatePin input.requestedByUserId pin then .ok ()
      else .error ⟨"Invalid manager PIN provided", "INVALID_MANAGER_PIN", 401⟩

def cancelCuentaSync (input : CancelCuentaInput) (now : Nat) :
    Except DomainError (Cuenta × Option Mesa × EdgeDb) :=
  if isBlank input.reason then
    .error ⟨"Cancellation reason is mandatory (DEC-013)", "MISSING_REASON", 400⟩
  else if !validatePin input.requestedByUserId input.requestedByPin then
    .error ⟨"Invalid PIN for user '" ++ input.requestedByUserId ++ "'", "INVALID_OPERATOR_PIN", 401⟩
  else
    match db.getCuentaById input.cuentaId with
    | none => .error (cuentaNotFoundError input.cuentaId)
    | some cuenta =>
      if cuenta.status = .pagada then
        .error ⟨"Cannot cancel a settled/paid account", "INVALID_ACCOUNT_STATUS", 400⟩
      else if cuenta.status = .anulada then
        .error ⟨"Account is already cancelled", "ALREADY_CANCELLED", 400⟩
      else if cuenta.version ≠ input.expectedVersion then
        .error (occConflictError input.cuentaId input.expectedVersion cuenta.version)
      else do
        checkManagerPin validatePin input cuenta
        let cancelled := closedCuenta cuenta .anulada now
        let db ← db.saveCuenta cancelled input.expectedVersion
        let (mesa, db) ← freeMesa db cancelled now
        return (cancelled, mesa, db)

/-! ### Operational commands -/

def readActive (cuentaId : String) (expectedVersion : Nat) (verb : String) :
    Except DomainError Cuenta :=
  match db.getCuentaById cuentaId with
  | none => .error (cuentaNotFoundError cuentaId)
  | some cuenta =>
    if cuenta.status ≠ .abierta ∧ cuenta.status ≠ .impresa then
      .error (invalidAccountStatusError verb cuenta.status)
    else if cuenta.version ≠ expectedVersion then
      .error (occConflictError cuentaId expectedVersion cuenta.version)
    else .ok cuenta

def checkGivenPin (userId : String) (pin : Option String) : Except DomainError Unit :=
  match pin.filter fun pin => pin != "" with
  | none => .ok ()
  | some pin =>
    if validatePin userId pin then .ok ()
    else .error ⟨"Invalid PIN for user '" ++ userId ++ "'", "INVALID_OPERATOR_PIN", 401⟩

structure ReassignWaiterInput where
  cuentaId : String
  expectedVersion : Nat
  (newWaiterUserId requestingUserId requestingPin : String)

def reassignWaiterSync (input : ReassignWaiterInput) (now : Nat) :
    Except DomainError (Cuenta × EdgeDb) :=
  if !validatePin input.requestingUserId input.requestingPin then
    .error ⟨"Invalid PIN for user '" ++ input.requestingUserId ++ "'", "INVALID_OPERATOR_PIN", 401⟩
  else do
    let cuenta ← readActive db input.cuentaId input.expectedVersion "reassign waiter for"
    let updated : Cuenta :=
      { cuenta with
        currentWaiterUserId := some input.newWaiterUserId, version := cuenta.version + 1
        updatedAt := now }
    let db ← db.saveCuenta updated input.expectedVersion
    return (updated, db)

structure ChangeGuestCountInput where
  cuentaId : String
  expectedVersion : Nat
  guestCount : Int
  performedByUserId : String
  operatorPin : Option String

def changeGuestCountSync (input : ChangeGuestCountInput) (now : Nat) :
    Except DomainError (Cuenta × EdgeDb) :=
  if input.guestCount < 1 then
    .error ⟨"Guest count must be at least 1", "INVALID_GUEST_COUNT", 400⟩
  else do
    checkGivenPin validatePin input.performedByUserId input.operatorPin
    let cuenta ← readActive db input.cuentaId input.expectedVersion "change guest count for"
    let updated : Cuenta :=
      { cuenta with
        guestCount := input.guestCount, version := cuenta.version + 1, updatedAt := now }
    let db ← db.saveCuenta updated input.expectedVersion
    return (updated, db)

structure RequestCheckInput where
  cuentaId : String
  expectedVersion : Nat
  requestedByUserId : String
  operatorPin : Option String
  nextFolioNumber : Option Nat

def inCheckMesa (mesa : Mesa) (now : Nat) : Mesa :=
  { mesa with
    status := .enCuenta, version := mesa.version + 1, updatedAt := now }

/-- The table an account names goes into check, whatever account it holds. -/
def markInCheck (cuenta : Cuenta) (now : Nat) : Except DomainError (Option Mesa × EdgeDb) :=
  match (cuenta.mesaId.filter fun id => id != "").bind db.getMesaById with
  | none => .ok (none, db)
  | some mesa => do
    let db ← db.saveMesa (inCheckMesa mesa now) mesa.version
    return (some (inCheckMesa mesa now), db)

def requestCheckSync (input : RequestCheckInput) (now : Nat) :
    Except DomainError (Cuenta × Option Mesa × EdgeDb) := do
  checkGivenPin validatePin input.requestedByUserId input.operatorPin
  let cuenta ← readActive db input.cuentaId input.expectedVersion "request check for"
  let folioNumber := (cuenta.folioNumber.or input.nextFolioNumber).getD (now / 1000)
  let updated : Cuenta :=
    { cuenta with
      folioNumber := some folioNumber, status := .impresa
      printedAt := some (cuenta.printedAt.getD now), version := cuenta.version + 1
      updatedAt := now }
  let db ← db.saveCuenta updated input.expectedVersion
  let (mesa, db) ← markInCheck db updated now
  return (updated, mesa, db)

/-! ### Saving a table -/

def EdgeDb.MesasKeyed : Prop := (db.mesas.map Mesa.id).Nodup

def EdgeDb.replaceMesa (mesa : Mesa) : EdgeDb :=
  { db with mesas := Table.updateWhere (fun row => row.id == mesa.id) (fun _ => mesa) db.mesas }

theorem getMesaById_eq_some {db : EdgeDb} (keyed : db.MesasKeyed) (id : String) (mesa : Mesa) :
    db.getMesaById id = some mesa ↔ mesa ∈ db.mesas ∧ mesa.id = id := by
  constructor
  · intro found
    exact ⟨mem_of_find?_eq_some found, by simpa using find?_some found⟩
  · rintro ⟨member, rfl⟩
    cases found : db.getMesaById mesa.id with
    | none => exact absurd (by simp) (find?_eq_none.mp found mesa member)
    | some other =>
      have inMesas := mem_of_find?_eq_some found
      have same : other.id = mesa.id := by simpa using find?_some found
      rw [inj_on_of_nodup_map keyed inMesas member same]

theorem mem_replaceMesa (mesa row : Mesa) (known : ∃ old ∈ db.mesas, old.id = mesa.id) :
    row ∈ (db.replaceMesa mesa).mesas ↔ row = mesa ∨ (row ∈ db.mesas ∧ row.id ≠ mesa.id) := by
  obtain ⟨old, member, same⟩ := known
  rw [EdgeDb.replaceMesa, Table.mem_updateWhere]
  constructor
  · rintro (⟨_, _, _, rfl⟩ | ⟨kept, apart⟩)
    · exact .inl rfl
    · exact .inr ⟨kept, by simpa using apart⟩
  · rintro (rfl | ⟨kept, apart⟩)
    · exact .inl ⟨old, member, by simpa using same, rfl⟩
    · exact .inr ⟨kept, by simpa using apart⟩

theorem replaceMesa_keyed {db : EdgeDb} (mesa : Mesa) (keyed : db.MesasKeyed) :
    (db.replaceMesa mesa).MesasKeyed := by
  have ids : (db.replaceMesa mesa).mesas.map Mesa.id = db.mesas.map Mesa.id := by
    rw [EdgeDb.replaceMesa, Table.updateWhere, map_map]
    apply map_congr_left
    intro row _
    by_cases same : row.id = mesa.id <;> simp [same]
  rw [EdgeDb.MesasKeyed, ids]
  exact keyed

theorem getMesaById_replaceMesa (mesa : Mesa) (id : String) : (db.replaceMesa mesa).getMesaById id =
      if id = mesa.id then (db.getMesaById id).map fun _ => mesa else db.getMesaById id := by
  by_cases same : id = mesa.id
  · subst same
    rw [if_pos rfl]
    exact Table.find?_updateWhere_self _ _ _ fun _ _ => by simp
  · rw [if_neg same]
    apply Table.find?_updateWhere_other
    · intro row hit
      simpa [beq_iff_eq.mp hit] using Ne.symm same
    · intro row _
      simpa using Ne.symm same

theorem saveMesa_stored (db' : EdgeDb) (keyed : db.MesasKeyed) (mesa stored : Mesa)
    (expectedVersion : Nat) (found : db.getMesaById mesa.id = some stored) :
    db.saveMesa mesa expectedVersion = .ok db' ↔
      expectedVersion ≠ 0 ∧ stored.version = expectedVersion ∧ db' = db.replaceMesa mesa := by
  obtain ⟨member, isId⟩ := (getMesaById_eq_some keyed _ _).mp found
  have only (row : Mesa) (inMesas : row ∈ db.mesas) (same : row.id = mesa.id) : row = stored :=
    inj_on_of_nodup_map keyed inMesas member (same.trans isId.symm)
  unfold EdgeDb.saveMesa
  by_cases insertion : expectedVersion = 0
  · simp [insertion, found]
  rw [if_neg insertion]
  by_cases current : stored.version = expectedVersion
  · have hit : (db.mesas.any fun row => row.id == mesa.id && row.version == expectedVersion) :=
      any_eq_true.mpr ⟨stored, member, by simp [isId, current]⟩
    have swap : Table.updateWhere (fun row => row.id == mesa.id && row.version == expectedVersion)
        (fun _ => mesa) db.mesas =
        Table.updateWhere (fun row => row.id == mesa.id) (fun _ => mesa) db.mesas := by
      apply map_congr_left
      intro row inMesas
      by_cases same : row.id = mesa.id
      · simp [only row inMesas same, current]
      · simp [same]
    rw [if_pos hit, Except.ok.injEq, swap]
    exact ⟨fun saved => ⟨insertion, current, saved.symm⟩, fun saved => saved.2.2.symm⟩
  · have missed : (db.mesas.any fun row =>
        row.id == mesa.id && row.version == expectedVersion) = false := by
      rw [any_eq_false]
      intro row inMesas hit
      simp only [Bool.and_eq_true, beq_iff_eq] at hit
      exact current (only row inMesas hit.1 ▸ hit.2)
    simp [missed, current]

end TridentPos.Pos
