import TridentPos.Pos.Database
import TridentPos.Pos.Policies

/-!
# Dining service

The account operations of `DiningDomainService` over the SQLite repository. An operation that
returns `Except` writes nothing before its last check that can fail. `splitCuentaSync` saves
the sub-accounts one by one outside a transaction, so it returns the tables next to its
outcome: a split that throws leaves the accounts it has saved.
-/
namespace TridentPos.Pos

open Core Library Fallible

/-! ### Financials -/

structure ItemFinancials where
  (subtotal taxAmount total : Int)

def calculateItemFinancials (unitPrice quantity taxRate discountAmount : Int) : ItemFinancials :=
  let subtotal := calculateLineSubtotal unitPrice quantity
  let netSubtotal := calculateNetSubtotal subtotal discountAmount
  let taxAmount := calculateTaxAmount netSubtotal taxRate
  ⟨subtotal, taxAmount, calculateLineTotal netSubtotal taxAmount⟩

structure CuentaTotals where
  (subtotal taxTotal discountsTotal totalAmount : Int)

def activeSum (column : CuentaItem → Int) (items : List CuentaItem) : Int :=
  ((activeItems items).map column).sum

def recalculateCuentaTotals (items : List CuentaItem) (tipsTotal : Int) : CuentaTotals :=
  { subtotal := activeSum CuentaItem.subtotal items
    taxTotal := activeSum CuentaItem.taxAmountApplied items
    discountsTotal := activeSum CuentaItem.discountAmountApplied items
    totalAmount := activeSum CuentaItem.total items + tipsTotal }

def withItems (cuenta : Cuenta) (items : List CuentaItem) (now : Nat) : Cuenta :=
  let totals := recalculateCuentaTotals items cuenta.tipsTotal
  { cuenta with
    subtotal := totals.subtotal, taxTotal := totals.taxTotal
    discountsTotal := totals.discountsTotal, totalAmount := totals.totalAmount
    version := cuenta.version + 1, updatedAt := now, items := items }

/-! ### Opening -/

structure OpenCuentaInput where
  id : String
  mesaId : Option String
  epochId : String
  accountType : AccountType
  openedByUserId : String
  currentWaiterUserId : Option String
  guestCount : Option Int

variable (validatePin : String → String → Bool) (db : EdgeDb)

/-- The table of the account, if it names one, becomes occupied. An empty id names none. -/
def occupyMesa (input : OpenCuentaInput) (now : Nat) : Except DomainError (Option Mesa × EdgeDb) :=
  match input.mesaId.filter fun id => id != "" with
  | none => .ok (none, db)
  | some mesaId =>
    match db.getMesaById mesaId with
    | none => .error ⟨"Mesa '" ++ mesaId ++ "' not found", "MESA_NOT_FOUND", 404⟩
    | some mesa =>
      if mesa.status ≠ .disponible then
        .error ⟨"Mesa '" ++ mesaId ++ "' is not available (current status: " ++ mesa.status.text ++
          ")", "MESA_NOT_AVAILABLE", 409⟩
      else do
        let occupied : Mesa :=
          { mesa with
            status := .ocupada, currentAccountId := some input.id, version := mesa.version + 1
            updatedAt := now }
        let db ← db.saveMesa occupied mesa.version
        return (some occupied, db)

def newCuenta (input : OpenCuentaInput) (now : Nat) : Cuenta :=
  { id := input.id, folioNumber := none, epochId := input.epochId, mesaId := input.mesaId
    accountType := input.accountType, status := .abierta, subtotal := 0, taxTotal := 0
    discountsTotal := 0, tipsTotal := 0, totalAmount := 0, openedByUserId := input.openedByUserId
    currentWaiterUserId := some (input.currentWaiterUserId.getD input.openedByUserId)
    guestCount := input.guestCount.getD 1, openedAt := now, printedAt := none, closedAt := none
    parentCuentaId := none, splitSequence := none, version := 1, updatedAt := now, items := []
    modificadores := [] }

def openCuentaSync (input : OpenCuentaInput) (now : Nat) :
    Except DomainError (Cuenta × Option Mesa × EdgeDb) :=
  if (db.getCuentaById input.id).isSome then
    .error ⟨"Cuenta with id '" ++ input.id ++ "' already exists", "DUPLICATE_CUENTA", 409⟩
  else do
    let (mesa, db) ← occupyMesa db input now
    let db ← db.saveCuenta (newCuenta input now) 0
    return (newCuenta input now, mesa, db)

/-! ### Adding an item -/

structure AddItemModifierInput where
  (id modifierId modifierNameSnapshot : String)
  modifierPriceApplied : Int

structure AddItemInput where
  (id productId productNameSnapshot : String)
  (unitPriceApplied quantity taxRateApplied : Int)
  discountAmountApplied : Option Int
  modifiers : Option (List AddItemModifierInput) := none

def AddItemInput.financials (input : AddItemInput) : ItemFinancials :=
  calculateItemFinancials input.unitPriceApplied input.quantity input.taxRateApplied
    (input.discountAmountApplied.getD 0)

def newItem (cuentaId : String) (input : AddItemInput) (now : Nat) : CuentaItem :=
  { id := input.id, cuentaId := cuentaId, productId := input.productId
    productNameSnapshot := input.productNameSnapshot, unitPriceApplied := input.unitPriceApplied
    quantity := input.quantity, taxRateApplied := input.taxRateApplied
    taxAmountApplied := input.financials.taxAmount
    discountAmountApplied := input.discountAmountApplied.getD 0
    subtotal := input.financials.subtotal, total := input.financials.total, status := .ordenado
    cancellationReason := none, cancelledByUserId := none, cancelledAt := none
    requiresWasteRecord := false, createdAt := now }

def newModificadores (input : AddItemInput) : List CuentaItemModificador :=
  (input.modifiers.getD []).map fun modifier =>
    { id := modifier.id, cuentaItemId := input.id, modifierId := modifier.modifierId
      modifierNameSnapshot := modifier.modifierNameSnapshot
      modifierPriceApplied := modifier.modifierPriceApplied }

def withNewItem (cuenta : Cuenta) (cuentaId : String) (input : AddItemInput) (now : Nat) : Cuenta :=
  { withItems cuenta (cuenta.items ++ [newItem cuentaId input now]) now with
    modificadores := cuenta.modificadores ++ newModificadores input }

def invalidAccountStatusError (verb : String) (status : CuentaStatus) : DomainError :=
  ⟨"Cannot " ++ verb ++ " cuenta in status '" ++ status.text ++ "'", "INVALID_ACCOUNT_STATUS", 400⟩

def addItemToCuentaSync (cuentaId : String) (expectedVersion : Nat)
    (input : AddItemInput) (now : Nat) : Except DomainError (Cuenta × EdgeDb) :=
  match db.getCuentaById cuentaId with
  | none => .error (cuentaNotFoundError cuentaId)
  | some cuenta =>
    if cuenta.status ≠ .abierta then .error (invalidAccountStatusError "add items to" cuenta.status)
    else if cuenta.version ≠ expectedVersion then
      .error (occConflictError cuentaId expectedVersion cuenta.version)
    else do
      let updated := withNewItem cuenta cuentaId input now
      let db ← db.saveCuenta updated expectedVersion
      return (updated, db)

/-! ### Closing -/

inductive ClosedStatus where
  | pagada
  | anulada
deriving DecidableEq

def ClosedStatus.toCuentaStatus : ClosedStatus → CuentaStatus
  | .pagada => .pagada
  | .anulada => .anulada

def closedCuenta (cuenta : Cuenta) (closedStatus : ClosedStatus) (now : Nat) : Cuenta :=
  { cuenta with
    status := closedStatus.toCuentaStatus, closedAt := some now, version := cuenta.version + 1
    updatedAt := now }

def freeMesa (cuenta : Cuenta) (now : Nat) : Except DomainError (Option Mesa × EdgeDb) :=
  match (cuenta.mesaId.filter fun id => id != "").bind db.getMesaById with
  | none => .ok (none, db)
  | some mesa =>
    if mesa.currentAccountId = some cuenta.id then do
      let freed : Mesa :=
        { mesa with
          status := .disponible, currentAccountId := none, version := mesa.version + 1
          updatedAt := now }
      let db ← db.saveMesa freed mesa.version
      return (some freed, db)
    else .ok (none, db)

def closeCuentaSync (cuentaId : String) (expectedVersion : Nat)
    (closedStatus : ClosedStatus) (now : Nat) :
    Except DomainError (Cuenta × Option Mesa × EdgeDb) :=
  match db.getCuentaById cuentaId with
  | none => .error (cuentaNotFoundError cuentaId)
  | some cuenta =>
    if cuenta.status ≠ .abierta ∧ cuenta.status ≠ .impresa then
      .error (invalidAccountStatusError "close" cuenta.status)
    else if cuenta.version ≠ expectedVersion then
      .error (occConflictError cuentaId expectedVersion cuenta.version)
    else do
      let closed := closedCuenta cuenta closedStatus now
      let db ← db.saveCuenta closed expectedVersion
      let (mesa, db) ← freeMesa db closed now
      return (closed, mesa, db)

/-! ### Cancelling an item -/

structure CancelItemInput where
  (cuentaId itemId : String)
  expectedVersion : Nat
  (reason operatorUserId operatorPin : String)
  (supervisorPin kitchenStatus : Option String)

/-- A supervisor PIN that is given must be valid; an empty one counts as not given. -/
def supervisorAuthorization (input : CancelItemInput) : Except DomainError Bool :=
  match input.supervisorPin.filter fun pin => pin != "" with
  | none => .ok false
  | some pin =>
    if validatePin "supervisor" pin || validatePin input.operatorUserId pin then .ok true
    else .error ⟨"Invalid supervisor PIN provided", "INVALID_SUPERVISOR_PIN", 401⟩

def checkCancellation (input : CancelItemInput) (item : CuentaItem) : Except DomainError Bool := do
  let authorized ← supervisorAuthorization validatePin input
  let check := canCancelItem
    { kitchenStatus := input.kitchenStatus.getD item.status.text
      hasSupervisorAuthorization := authorized, reason := input.reason }
  if !check.allowed then
    throw ⟨check.reason.getD "Cancellation disallowed by policy", "CANCELLATION_DISALLOWED", 403⟩
  else return check.requiresWasteRecord

def cancelledItem (item : CuentaItem) (input : CancelItemInput) (waste : Bool) (now : Nat) :
    CuentaItem :=
  { item with
    status := .cancelado, cancellationReason := some input.reason
    cancelledByUserId := some input.operatorUserId, cancelledAt := some now
    requiresWasteRecord := waste }

def findItem (cuenta : Cuenta) (itemId : String) : Except DomainError (Nat × CuentaItem) :=
  match cuenta.items.findIdx? fun item => item.id == itemId with
  | none => .error ⟨"Item '" ++ itemId ++ "' not found in cuenta", "ITEM_NOT_FOUND", 404⟩
  | some index =>
    match cuenta.items[index]? with
    | none => .error ⟨"Item '" ++ itemId ++ "' not found in cuenta", "ITEM_NOT_FOUND", 404⟩
    | some item =>
      if item.status = .cancelado then
        .error ⟨"Item '" ++ itemId ++ "' is already cancelled", "ITEM_ALREADY_CANCELLED", 400⟩
      else .ok (index, item)

def cancelItemSync (input : CancelItemInput)
    (now : Nat) : Except DomainError (Cuenta × CuentaItem × EdgeDb) :=
  if isBlank input.reason then
    .error ⟨"Cancellation reason is mandatory (DEC-010)", "MISSING_REASON", 400⟩
  else if !validatePin input.operatorUserId input.operatorPin then
    .error ⟨"Invalid PIN for user '" ++ input.operatorUserId ++ "'", "INVALID_OPERATOR_PIN", 401⟩
  else
    match db.getCuentaById input.cuentaId with
    | none => .error (cuentaNotFoundError input.cuentaId)
    | some cuenta =>
      if cuenta.version ≠ input.expectedVersion then
        .error (occConflictError input.cuentaId input.expectedVersion cuenta.version)
      else do
        let (index, item) ← findItem cuenta input.itemId
        let waste ← checkCancellation validatePin input item
        let cancelled := cancelledItem item input waste now
        let updated := withItems cuenta (cuenta.items.set index cancelled) now
        let db ← db.saveCuenta updated input.expectedVersion
        return (updated, cancelled, db)

/-! ### Splitting -/

structure SplitCuentaInput where
  cuentaId : String
  expectedVersion : Nat
  (performedByUserId operatorPin : String)
  partitions : List SplitPartitionPlan

/-- The sub-accounts are inserted one after the other until one fails. -/
def saveSubCuentas : EdgeDb → List Cuenta → Except DomainError Unit × EdgeDb
  | db, [] => (.ok (), db)
  | db, sub :: subs =>
    match db.saveCuenta sub 0 with
    | .error e => (.error e, db)
    | .ok db' => saveSubCuentas db' subs

def planSplit (input : SplitCuentaInput) (now : Nat) : Except DomainError (Cuenta × List Cuenta) :=
  if !validatePin input.performedByUserId input.operatorPin then
    .error ⟨"Invalid PIN for user '" ++ input.performedByUserId ++ "'", "INVALID_OPERATOR_PIN", 401⟩
  else
    match db.getCuentaById input.cuentaId with
    | none => .error (cuentaNotFoundError input.cuentaId)
    | some cuenta =>
      if cuenta.status ≠ .abierta ∧ cuenta.status ≠ .impresa then
        .error (invalidAccountStatusError "split" cuenta.status)
      else if cuenta.version ≠ input.expectedVersion then
        .error (occConflictError input.cuentaId input.expectedVersion cuenta.version)
      else do
        let subs ← prorateSplit cuenta input.partitions now
        let sum := (subs.map fun sub => sub.totalAmount).sum
        if sum ≠ cuenta.totalAmount then
          throw ⟨"Split total sum (" ++ toString sum ++ ") does not match original total (" ++
            toString cuenta.totalAmount ++ ")", "SPLIT_INVARIANT_VIOLATION", 500⟩
        else return (cuenta, subs)

def relinkMesa (cuenta : Cuenta) (subs : List Cuenta) (now : Nat) :
    Except DomainError (Option Mesa × EdgeDb) :=
  match (cuenta.mesaId.filter fun id => id != "").bind db.getMesaById, subs.head? with
  | some mesa, some sub => do
    let linked : Mesa :=
      { mesa with
        currentAccountId := some sub.id, version := mesa.version + 1, updatedAt := now }
    let db ← db.saveMesa linked mesa.version
    return (some linked, db)
  | _, _ => .ok (none, db)

def splitCuentaSync (input : SplitCuentaInput) (now : Nat) :
    Except DomainError (Cuenta × List Cuenta × Option Mesa) × EdgeDb :=
  match planSplit validatePin db input now with
  | .error e => (.error e, db)
  | .ok (cuenta, subs) =>
    match saveSubCuentas db subs with
    | (.error e, db) => (.error e, db)
    | (.ok (), db) =>
      let original := closedCuenta cuenta .anulada now
      match db.saveCuenta original input.expectedVersion with
      | .error e => (.error e, db)
      | .ok db =>
        match relinkMesa db cuenta subs now with
        | .error e => (.error e, db)
        | .ok (mesa, db) => (.ok (original, subs, mesa), db)

/-! ### What the operations write -/

variable {mesa : Option Mesa} {now : Nat} {db' : EdgeDb} {db} {input : OpenCuentaInput}

theorem occupyMesa_eq_ok (returned : occupyMesa db input now = .ok (mesa, db')) :
    ∃ mesas, db' = { db with mesas := mesas } := by
  unfold occupyMesa at returned
  split at returned
  next =>
    obtain ⟨-, rfl⟩ := Prod.mk.inj (Except.ok.inj returned)
    exact ⟨db.mesas, rfl⟩
  split at returned
  next => simp at returned
  simp only [refused_eq_ok, bind_eq_ok, pure_eq_ok, Prod.mk.injEq] at returned
  obtain ⟨-, saved, saves, -, rfl⟩ := returned
  exact saveMesa_eq_ok saves

variable {cuenta saved : Cuenta}

theorem freeMesa_eq_ok (returned : freeMesa db cuenta now = .ok (mesa, db')) :
    ∃ mesas, db' = { db with mesas := mesas } := by
  unfold freeMesa at returned
  split at returned
  next =>
    obtain ⟨-, rfl⟩ := Prod.mk.inj (Except.ok.inj returned)
    exact ⟨db.mesas, rfl⟩
  split at returned
  next =>
    simp only [bind_eq_ok, pure_eq_ok, Prod.mk.injEq] at returned
    obtain ⟨saved, saves, -, rfl⟩ := returned
    exact saveMesa_eq_ok saves
  next =>
    obtain ⟨-, rfl⟩ := Prod.mk.inj (Except.ok.inj returned)
    exact ⟨db.mesas, rfl⟩

theorem relinkMesa_eq_ok {subs : List Cuenta}
    (returned : relinkMesa db cuenta subs now = .ok (mesa, db')) :
    ∃ mesas, db' = { db with mesas := mesas } := by
  unfold relinkMesa at returned
  split at returned
  next =>
    simp only [bind_eq_ok, pure_eq_ok, Prod.mk.injEq] at returned
    obtain ⟨saved, saves, -, rfl⟩ := returned
    exact saveMesa_eq_ok saves
  next =>
    obtain ⟨-, rfl⟩ := Prod.mk.inj (Except.ok.inj returned)
    exact ⟨db.mesas, rfl⟩

theorem openCuentaSync_passed (returned : openCuentaSync db input now = .ok (cuenta, mesa, db')) :
    db.findCuenta input.id = none ∧ cuenta = newCuenta input now ∧
      ∃ occupied, occupyMesa db input now = .ok (mesa, occupied) ∧
        db' = { occupied with
          cuentas := occupied.cuentas ++ [(newCuenta input now).toCuentaRow] } := by
  simp only [openCuentaSync, refused_eq_ok, bind_eq_ok, pure_eq_ok, Prod.mk.injEq] at returned
  obtain ⟨absent, ⟨_, occupied⟩, occupies, saved, saves, rfl, rfl, rfl⟩ := returned
  rcases (saveCuenta_eq_ok ..).mp saves with ⟨-, -, rfl⟩ | ⟨nonzero, -, -⟩
  · exact ⟨by simpa [EdgeDb.getCuentaById] using absent, rfl, occupied, occupies, rfl⟩
  · exact absurd rfl nonzero

theorem openCuentaSync_eq_ok (returned : openCuentaSync db input now = .ok (cuenta, mesa, db')) :
    db.findCuenta input.id = none ∧ cuenta = newCuenta input now ∧
      ∃ mesas, db' = { db with
        mesas := mesas
        cuentas := db.cuentas ++ [(newCuenta input now).toCuentaRow] } := by
  obtain ⟨missing, rfl, occupied, occupies, rfl⟩ := openCuentaSync_passed returned
  obtain ⟨mesas, rfl⟩ := occupyMesa_eq_ok occupies
  exact ⟨missing, rfl, mesas, rfl⟩

theorem addItemToCuentaSync_eq_ok {cuentaId : String} {expectedVersion : Nat} {input : AddItemInput}
    (returned : addItemToCuentaSync db cuentaId expectedVersion input now = .ok (saved, db')) :
    ∃ cuenta, db.getCuentaById cuentaId = some cuenta ∧ cuenta.status = .abierta ∧
      cuenta.version = expectedVersion ∧
      saved = withNewItem cuenta cuentaId input now ∧
      (∃ row ∈ db.cuentas, row.id = saved.id ∧ row.version = expectedVersion) ∧
      db' = db.swapCuenta saved expectedVersion := by
  unfold addItemToCuentaSync at returned
  split at returned
  next => simp at returned
  next cuenta found =>
    simp only [refused_eq_ok, not_not, bind_eq_ok, pure_eq_ok, Prod.mk.injEq] at returned
    obtain ⟨isOpen, current, after, saves, rfl, rfl⟩ := returned
    obtain ⟨row, swapped⟩ := saveCuenta_read found saves rfl
    exact ⟨cuenta, found, isOpen, current, rfl, row, swapped⟩

theorem closeCuentaSync_passed {cuentaId : String} {expectedVersion : Nat}
    {closedStatus : ClosedStatus}
    (returned : closeCuentaSync db cuentaId expectedVersion closedStatus now =
      .ok (saved, mesa, db')) :
    ∃ cuenta between, db.getCuentaById cuentaId = some cuenta ∧
      ¬(cuenta.status ≠ .abierta ∧ cuenta.status ≠ .impresa) ∧ cuenta.version = expectedVersion ∧
      saved = closedCuenta cuenta closedStatus now ∧
      db.saveCuenta saved expectedVersion = .ok between ∧
      freeMesa between saved now = .ok (mesa, db') := by
  unfold closeCuentaSync at returned
  split at returned
  next => simp at returned
  next cuenta found =>
    simp only [refused_eq_ok, bind_eq_ok, pure_eq_ok, Prod.mk.injEq] at returned
    obtain ⟨active, current, between, saves, ⟨_, _⟩, frees, rfl, rfl, rfl⟩ := returned
    exact ⟨cuenta, between, found, active, not_not.mp current, rfl, saves, frees⟩

theorem closeCuentaSync_eq_ok {cuentaId : String} {expectedVersion : Nat}
    {closedStatus : ClosedStatus}
    (returned : closeCuentaSync db cuentaId expectedVersion closedStatus now =
      .ok (saved, mesa, db')) :
    ∃ cuenta, db.getCuentaById cuentaId = some cuenta ∧ cuenta.version = expectedVersion ∧
      saved = closedCuenta cuenta closedStatus now ∧
      (∃ row ∈ db.cuentas, row.id = saved.id ∧ row.version = expectedVersion) ∧
      ∃ mesas, db' = { db.swapCuenta saved expectedVersion with mesas := mesas } := by
  obtain ⟨cuenta, between, found, -, current, rfl, saves, frees⟩ := closeCuentaSync_passed returned
  obtain ⟨row, rfl⟩ := saveCuenta_read found saves rfl
  obtain ⟨mesas, rfl⟩ := freeMesa_eq_ok frees
  exact ⟨cuenta, found, current, rfl, row, mesas, rfl⟩

theorem findItem_eq_ok {itemId : String} {index : Nat} {item : CuentaItem}
    (found : findItem cuenta itemId = .ok (index, item)) :
    cuenta.items[index]? = some item ∧ item.id = itemId ∧ item.status ≠ .cancelado := by
  unfold findItem at found
  split at found
  next => simp at found
  next position located =>
    split at found
    next => simp at found
    next listed present =>
      obtain ⟨active, same⟩ := refused_eq_ok.mp found
      obtain ⟨rfl, rfl⟩ := Prod.mk.inj (Except.ok.inj same)
      refine ⟨present, ?_, active⟩
      obtain ⟨bound, hit, -⟩ := List.findIdx?_eq_some_iff_getElem.mp located
      obtain ⟨_, isItem⟩ := List.getElem?_eq_some_iff.mp present
      rw [isItem] at hit
      simpa using hit

structure CancelItemPasses (validatePin : String → String → Bool) (db : EdgeDb)
    (input : CancelItemInput) (cuenta : Cuenta) (index : Nat) (item : CuentaItem) (waste : Bool) :
    Prop where
  reason : isBlank input.reason = false
  found : db.getCuentaById input.cuentaId = some cuenta
  current : cuenta.version = input.expectedVersion
  located : findItem cuenta input.itemId = .ok (index, item)
  checked : checkCancellation validatePin input item = .ok waste

section CancelItem

variable {validatePin} {input : CancelItemInput} {cancelled : CuentaItem}
  (returned : cancelItemSync validatePin db input now = .ok (saved, cancelled, db'))
include returned

theorem cancelItemSync_passed :
    ∃ cuenta index item waste, CancelItemPasses validatePin db input cuenta index item waste ∧
      cancelled = cancelledItem item input waste now ∧
      saved = withItems cuenta (cuenta.items.set index cancelled) now ∧
      db.saveCuenta saved input.expectedVersion = .ok db' := by
  simp only [cancelItemSync, refused_eq_ok] at returned
  obtain ⟨reason, -, returned⟩ := returned
  split at returned
  next => simp at returned
  next cuenta found =>
    simp only [refused_eq_ok, bind_eq_ok, pure_eq_ok, Prod.mk.injEq] at returned
    obtain ⟨current, ⟨index, item⟩, located, waste, checked, after, saves, rfl, rfl, rfl⟩ := returned
    exact ⟨cuenta, index, item, waste,
      ⟨by simpa using reason, found, not_not.mp current, located, checked⟩, rfl, rfl, saves⟩

end CancelItem

end TridentPos.Pos
