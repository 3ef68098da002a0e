import TridentPos.Edge.Outbox
import TridentPos.Pos.Types
import Mathlib.Data.List.Sort

/-!
# The edge database

The SQLite tables of an edge node and the repository functions of the dining room
(`dining-sqlite-repository.ts`) and of payments (`payment-sqlite-repository.ts`). A function
that throws returns no tables: its caller decides whether the writes made before it stay.
-/
namespace TridentPos.Pos

open Core Library Table List

/-! ### Modifiers -/

/-- `ON CONFLICT(id) DO UPDATE`: the item and the modifier of a stored row stay. -/
def overwriteModificador (modificador old : CuentaItemModificador) : CuentaItemModificador :=
  { old with
    modifierNameSnapshot := modificador.modifierNameSnapshot
    modifierPriceApplied := modificador.modifierPriceApplied }

structure ModificadorTable where
  rows : List CuentaItemModificador
  keyed : (rows.map CuentaItemModificador.id).Nodup

def ModificadorTable.persist (table : ModificadorTable)
    (modificadores : List CuentaItemModificador) : ModificadorTable where
  rows := upsertAll CuentaItemModificador.id overwriteModificador table.rows modificadores
  keyed := nodup_upsertAll overwriteModificador (fun _ _ => rfl) _ table.keyed

theorem ModificadorTable.persist_stored (table : ModificadorTable)
    {modificadores : List CuentaItemModificador} (stored : ∀ row ∈ modificadores, row ∈ table.rows) :
    table.persist modificadores = table := by
  have rows := upsertAll_stored overwriteModificador (fun _ => rfl) table.keyed stored
  cases table
  simp_all [ModificadorTable.persist]

/-! ### The tables -/

/-- The tables in insertion order. A row of `turnos_caja_operadores` is kept as the shift and
the operator it joins. -/
structure EdgeDb where
  mesas : List Mesa
  cuentas : List CuentaRow
  items : List CuentaItem
  modificadores : ModificadorTable := ⟨[], nodup_nil⟩
  pagos : List Pago
  turnos : List TurnoCajaRow
  operadores : List (String × String)
  movimientos : List MovimientoCaja
  arqueos : List ArqueoCiego
  cortes : List CorteCaja
  outbox : List (Edge.EdgeOutboxRecord PosEvent)

def EdgeDb.empty : EdgeDb :=
  { mesas := [], cuentas := [], items := [], pagos := [], turnos := [], operadores := []
    movimientos := [], arqueos := [], cortes := [], outbox := [] }

/-! ### Tables of the dining room -/

variable (db : EdgeDb)

def EdgeDb.getMesaById (id : String) : Option Mesa :=
  db.mesas.find? fun row => row.id == id

def EdgeDb.saveMesa (mesa : Mesa) (expectedVersion : Nat) : Except DomainError EdgeDb :=
  if expectedVersion = 0 then
    if (db.getMesaById mesa.id).isSome then
      .error ⟨"Mesa '" ++ mesa.id ++ "' already exists", "DUPLICATE_MESA", 409⟩
    else .ok { db with mesas := db.mesas ++ [mesa] }
  else if db.mesas.any fun row => row.id == mesa.id && row.version == expectedVersion then
    .ok { db with
      mesas := updateWhere
        (fun row => row.id == mesa.id && row.version == expectedVersion) (fun _ => mesa) db.mesas }
  else
    .error (occConflictError mesa.id expectedVersion
      (((db.getMesaById mesa.id).map Mesa.version).getD 0))

/-! ### Accounts -/

def EdgeDb.findCuenta (id : String) : Option CuentaRow :=
  db.cuentas.find? fun row => row.id == id

def EdgeDb.cuentaRows (cuentaId : String) : List CuentaRow :=
  db.cuentas.filter fun row => row.id == cuentaId

def EdgeDb.itemRows (cuentaId : String) : List CuentaItem :=
  db.items.filter fun item => item.cuentaId == cuentaId

def EdgeDb.modifierRows (cuentaId : String) : List CuentaItemModificador :=
  modifiersOf db.modificadores.rows (db.itemRows cuentaId)

def EdgeDb.itemsOf (cuentaId : String) : List CuentaItem :=
  (db.itemRows cuentaId).insertionSort fun a b => a.createdAt ≤ b.createdAt

def EdgeDb.getCuentaById (id : String) : Option Cuenta :=
  (db.findCuenta id).map fun row =>
    { row with
      items := db.itemsOf id
      modificadores := modifiersOf db.modificadores.rows (db.itemsOf id) }

/-- `ON CONFLICT(id) DO UPDATE`: the account, the product and the creation time of a stored
row stay. -/
def overwriteItem (item old : CuentaItem) : CuentaItem :=
  { old with
    status := item.status, unitPriceApplied := item.unitPriceApplied, quantity := item.quantity
    taxRateApplied := item.taxRateApplied, taxAmountApplied := item.taxAmountApplied
    discountAmountApplied := item.discountAmountApplied, subtotal := item.subtotal
    total := item.total, cancellationReason := item.cancellationReason
    cancelledByUserId := item.cancelledByUserId, cancelledAt := item.cancelledAt
    requiresWasteRecord := item.requiresWasteRecord }

def upsertItem (rows : List CuentaItem) (item : CuentaItem) : List CuentaItem :=
  upsert (fun row => row.id == item.id) (overwriteItem item) item rows

def persistItems (rows : List CuentaItem) (items : List CuentaItem) : List CuentaItem :=
  items.foldl upsertItem rows

/-- `UPDATE cuentas SET ...`: who opened the account, and when, is not among the columns. -/
def overwriteCuenta (cuenta : CuentaRow) (old : CuentaRow) : CuentaRow :=
  { cuenta with openedByUserId := old.openedByUserId, openedAt := old.openedAt }

def EdgeDb.insertCuenta (cuenta : Cuenta) : EdgeDb :=
  { db with
    cuentas := db.cuentas ++ [cuenta.toCuentaRow], items := persistItems db.items cuenta.items
    modificadores := db.modificadores.persist cuenta.modificadores }

def EdgeDb.swapCuenta (cuenta : Cuenta) (expectedVersion : Nat) : EdgeDb :=
  { db with
    cuentas := updateWhere
      (fun row => row.id == cuenta.id && row.version == expectedVersion)
      (overwriteCuenta cuenta.toCuentaRow) db.cuentas
    items := persistItems db.items cuenta.items
    modificadores := db.modificadores.persist cuenta.modificadores }

def EdgeDb.saveCuenta (cuenta : Cuenta) (expectedVersion : Nat) : Except DomainError EdgeDb :=
  if expectedVersion = 0 then
    if (db.findCuenta cuenta.id).isSome then
      .error ⟨"Cuenta '" ++ cuenta.id ++ "' already exists", "DUPLICATE_CUENTA", 409⟩
    else .ok (db.insertCuenta cuenta)
  else if db.cuentas.any fun row => row.id == cuenta.id && row.version == expectedVersion then
    .ok (db.swapCuenta cuenta expectedVersion)
  else
    .error (occConflictError cuenta.id expectedVersion
      (((db.findCuenta cuenta.id).map CuentaRow.version).getD 0))

/-! ### Shifts -/

def EdgeDb.getShiftById (id : String) : Option TurnoCaja :=
  (db.turnos.find? fun row => row.id == id).map fun row =>
    { row with
      participatingOperators := (db.operadores.filter fun entry => entry.1 == id).map (·.2) }

def EdgeDb.listMovements (shiftId : String) : List MovimientoCaja :=
  (db.movimientos.filter fun row => row.turnoCajaId == shiftId).insertionSort
    fun a b => a.createdAt ≤ b.createdAt

/-! ### Payments -/

def EdgeDb.findPaymentByClientOpId (cuentaId clientOpId : String) : Option Pago :=
  db.pagos.find? fun row => row.cuentaId == cuentaId && row.clientOpId == clientOpId

def EdgeDb.listPaymentsByCuentaId (cuentaId : String) : List Pago :=
  (db.pagos.filter fun row => row.cuentaId == cuentaId).insertionSort
    fun a b => a.createdAt ≤ b.createdAt

def EdgeDb.insertPago (pago : Pago) : Except DomainError EdgeDb :=
  if db.pagos.any fun row => row.id == pago.id then
    .error (plainError "UNIQUE constraint failed: pagos.id")
  else if db.pagos.any fun row => row.cuentaId == pago.cuentaId &&
      row.clientOpId == pago.clientOpId then
    .error (plainError "UNIQUE constraint failed: pagos.cuenta_id, pagos.client_op_id")
  else .ok { db with pagos := db.pagos ++ [pago] }

def EdgeDb.insertMovimiento (movement : MovimientoCaja) : Except DomainError EdgeDb :=
  if db.movimientos.any fun row => row.id == movement.id then
    .error (plainError "UNIQUE constraint failed: movimientos_caja.id")
  else .ok { db with movimientos := db.movimientos ++ [movement] }

def EdgeDb.enqueueOutbox (input : Edge.EnqueueOutboxInput PosEvent) : Except DomainError EdgeDb :=
  match Edge.enqueue db.outbox input with
  | .ok queue => .ok { db with outbox := queue }
  | .error message => .error (plainError message)

/-! ### What an account owes -/

def totalPaid (pagos : List Pago) : Int := (pagos.map Pago.amount).sum

def totalTips (pagos : List Pago) : Int := (pagos.map Pago.tipAmount).sum

def EdgeDb.pagosOf (cuentaId : String) : List Pago :=
  db.pagos.filter fun row => row.cuentaId == cuentaId

def EdgeDb.paid (cuentaId : String) : Int := totalPaid (db.pagosOf cuentaId)

def EdgeDb.cuentaEvents (cuentaId : String) : List (Edge.EdgeOutboxRecord PosEvent) :=
  db.outbox.filter fun row => row.aggregateType == "CUENTA" && row.aggregateId == cuentaId

/-- What the primary keys and the references of the tables guarantee. -/
structure EdgeDb.WellFormed (db : EdgeDb) : Prop where
  cuentas : ∀ id, (db.cuentaRows id).length ≤ 1
  items : (db.items.map CuentaItem.id).Nodup
  owned : ∀ id, db.cuentaRows id = [] → db.itemRows id = [] ∧ db.pagosOf id = []

/-! ### Lemmas -/

/-- A change that leaves one row to each account it saves, and gives no item or payment to the
others, keeps the tables well formed. -/
theorem EdgeDb.WellFormed.of_saved {db db' : EdgeDb} (formed : db.WellFormed)
    (saved : String → Prop) (rows : ∀ id, saved id → ∃ row, db'.cuentaRows id = [row])
    (items : (db'.items.map CuentaItem.id).Nodup)
    (others : ∀ id, ¬ saved id → db'.cuentaRows id = db.cuentaRows id ∧
      (db.itemRows id = [] → db'.itemRows id = []) ∧ db'.pagosOf id = db.pagosOf id) :
    db'.WellFormed := by
  constructor
  · intro id
    by_cases mine : saved id
    · obtain ⟨row, stored⟩ := rows id mine
      simp [stored]
    · rw [(others id mine).1]
      exact formed.cuentas id
  · exact items
  · intro id none
    have apart : ¬ saved id := by
      intro mine
      obtain ⟨row, stored⟩ := rows id mine
      simp [stored] at none
    obtain ⟨sameRows, noItems, samePagos⟩ := others id apart
    obtain ⟨unowned, unpaid⟩ := formed.owned id (sameRows ▸ none)
    exact ⟨noItems unowned, samePagos.trans unpaid⟩

variable {rows : List CuentaItem} (cuenta : Cuenta) (cuentaId : String) (expectedVersion : Nat)

theorem listPaymentsByCuentaId_perm :
    (db.listPaymentsByCuentaId cuentaId).Perm (db.pagosOf cuentaId) :=
  perm_insertionSort _ _

theorem itemsOf_perm : (db.itemsOf cuentaId).Perm (db.itemRows cuentaId) :=
  perm_insertionSort _ _

theorem totalPaid_perm {xs ys : List Pago} (same : xs.Perm ys) : totalPaid xs = totalPaid ys :=
  (same.map Pago.amount).sum_eq

theorem totalTips_perm {xs ys : List Pago} (same : xs.Perm ys) : totalTips xs = totalTips ys :=
  (same.map Pago.tipAmount).sum_eq

@[simp] theorem totalPaid_append (xs ys : List Pago) :
    totalPaid (xs ++ ys) = totalPaid xs + totalPaid ys := by
  simp [totalPaid]

@[simp] theorem totalTips_append (xs ys : List Pago) :
    totalTips (xs ++ ys) = totalTips xs + totalTips ys := by
  simp [totalTips]

open EdgeDb

theorem saveCuenta_eq_ok (db' : EdgeDb) (cuenta : Cuenta) (expectedVersion : Nat) :
    db.saveCuenta cuenta expectedVersion = .ok db' ↔
      (expectedVersion = 0 ∧ db.findCuenta cuenta.id = none ∧ db' = db.insertCuenta cuenta) ∨
      (expectedVersion ≠ 0 ∧
        (∃ row ∈ db.cuentas, row.id = cuenta.id ∧ row.version = expectedVersion) ∧
        db' = db.swapCuenta cuenta expectedVersion) := by
  unfold saveCuenta
  by_cases insertion : expectedVersion = 0
  · cases found : db.findCuenta cuenta.id with
    | none => simp [insertion, eq_comm]
    | some row => simp [insertion]
  · simp only [insertion, if_false, false_and, false_or, not_false_eq_true, ne_eq, true_and]
    split
    next stored =>
      simp only [any_eq_true, Bool.and_eq_true, beq_iff_eq] at stored
      simp only [Except.ok.injEq]
      constructor
      · rintro rfl
        exact ⟨stored, rfl⟩
      · rintro ⟨-, rfl⟩
        rfl
    next missing =>
      simp only [any_eq_true, Bool.and_eq_true, beq_iff_eq] at missing
      simp [missing]

theorem saveCuenta_stored (db' : EdgeDb) (cuenta : Cuenta) (expectedVersion : Nat)
    (known : db.findCuenta cuenta.id ≠ none)
    (saved : db.saveCuenta cuenta expectedVersion = .ok db') :
    (∃ row ∈ db.cuentas, row.id = cuenta.id ∧ row.version = expectedVersion) ∧
      db' = db.swapCuenta cuenta expectedVersion := by
  rcases (saveCuenta_eq_ok ..).mp saved with ⟨-, missing, -⟩ | ⟨-, stored, rfl⟩
  · exact absurd missing known
  · exact ⟨stored, rfl⟩

theorem findCuenta_of_cuentaRows {row : CuentaRow} (stored : db.cuentaRows cuentaId = [row]) :
    db.findCuenta cuentaId = some row := by
  unfold findCuenta
  rw [← head?_filter]
  exact congrArg List.head? stored

theorem cuentaRows_of_findCuenta {db : EdgeDb} {cuentaId : String} {row : CuentaRow}
    (unique : (db.cuentaRows cuentaId).length ≤ 1) (found : db.findCuenta cuentaId = some row) :
    db.cuentaRows cuentaId = [row] := by
  unfold findCuenta at found
  rw [← head?_filter] at found
  obtain ⟨rest, rows⟩ := head?_eq_some_iff.mp found
  have listed : db.cuentaRows cuentaId = row :: rest := rows
  rw [listed] at unique ⊢
  have none : rest = [] := eq_nil_of_length_eq_zero (by simpa using unique)
  rw [none]

theorem findCuenta_eq_none : db.findCuenta cuentaId = none ↔ db.cuentaRows cuentaId = [] := by
  simp [findCuenta, cuentaRows, find?_eq_none, filter_eq_nil_iff]

theorem cuentaRows_id {db : EdgeDb} {cuentaId : String} {row : CuentaRow}
    (stored : db.cuentaRows cuentaId = [row]) : row.id = cuentaId := by
  have member : row ∈ db.cuentaRows cuentaId := by simp [stored]
  simpa [cuentaRows] using (mem_filter.mp member).2

theorem forall_rows_of_written {db db' : EdgeDb} {id : String} {row : CuentaRow}
    {holds : String → CuentaRow → Prop} (rows : db'.cuentaRows id = [row])
    (others : ∀ other, other ≠ id → db'.cuentaRows other = db.cuentaRows other)
    (written : holds id row)
    (kept : ∀ other row, other ≠ id → db.cuentaRows other = [row] → holds other row) :
    ∀ other row, db'.cuentaRows other = [row] → holds other row := by
  intro other row' stored
  by_cases mine : other = id
  · subst mine
    exact singleton_inj.mp (rows.symm.trans stored) ▸ written
  · exact kept other row' mine (others other mine ▸ stored)

variable {db} {cuentaId}

theorem getCuentaById_eq_some {cuenta : Cuenta} (found : db.getCuentaById cuentaId = some cuenta) :
    db.findCuenta cuentaId = some cuenta.toCuentaRow ∧ cuenta.items = db.itemsOf cuentaId ∧
      cuenta.id = cuentaId := by
  obtain ⟨row, stored, rfl⟩ := Option.map_eq_some_iff.mp found
  exact ⟨stored, rfl, by simpa using find?_some stored⟩

theorem getCuentaById_id {cuenta : Cuenta} (found : db.getCuentaById cuentaId = some cuenta) :
    cuenta.id = cuentaId :=
  (getCuentaById_eq_some found).2.2

theorem saveCuenta_read {db' : EdgeDb} {cuenta updated : Cuenta}
    {expectedVersion : Nat} (found : db.getCuentaById cuentaId = some cuenta)
    (saved : db.saveCuenta updated expectedVersion = .ok db') (same : updated.id = cuenta.id) :
    (∃ row ∈ db.cuentas, row.id = updated.id ∧ row.version = expectedVersion) ∧
      db' = db.swapCuenta updated expectedVersion := by
  obtain ⟨stored, -, isId⟩ := getCuentaById_eq_some found
  exact saveCuenta_stored _ _ _ _ (by simp [same, isId, stored]) saved

theorem saveMesa_eq_ok {db db' : EdgeDb} {mesa : Mesa} {expectedVersion : Nat}
    (saved : db.saveMesa mesa expectedVersion = .ok db') : ∃ mesas, db' = { db with mesas := mesas } := by
  unfold saveMesa at saved
  split at saved
  · split at saved
    · simp at saved
    · exact ⟨_, (Except.ok.inj saved).symm⟩
  · split at saved
    · exact ⟨_, (Except.ok.inj saved).symm⟩
    · simp at saved

theorem cuentaRows_swapCuenta (id : String) :
    (db.swapCuenta cuenta expectedVersion).cuentaRows id =
      updateWhere (fun row => row.id == cuenta.id && row.version == expectedVersion)
        (overwriteCuenta cuenta.toCuentaRow) (db.cuentaRows id) := by
  apply filter_updateWhere
  intro row hit
  simp only [Bool.and_eq_true, beq_iff_eq] at hit
  simp [overwriteCuenta, hit.1]

theorem swapCuenta_cuentaRows (row : CuentaRow) (stored : db.cuentaRows cuenta.id = [row])
    (swapped : ∃ found ∈ db.cuentas, found.id = cuenta.id ∧ found.version = expectedVersion) :
    row.version = expectedVersion ∧ (db.swapCuenta cuenta expectedVersion).cuentaRows cuenta.id =
      [overwriteCuenta cuenta.toCuentaRow row] := by
  obtain ⟨found, member, sameId, sameVersion⟩ := swapped
  have isRow : found ∈ db.cuentaRows cuenta.id := by simp [cuentaRows, member, sameId]
  obtain rfl : found = row := by simpa [stored] using isRow
  simp [cuentaRows_swapCuenta, stored, sameId, sameVersion]

theorem swapCuenta_cuentaRows_other (other : String) (different : other ≠ cuenta.id) :
    (db.swapCuenta cuenta expectedVersion).cuentaRows other = db.cuentaRows other := by
  rw [cuentaRows_swapCuenta]
  apply updateWhere_eq_self
  intro row member
  have rowId : row.id = other := by simpa [cuentaRows] using (mem_filter.mp member).2
  simp [rowId, different]

theorem swapCuenta_cuentaRows_ne_nil {db : EdgeDb} {id : String} (known : db.cuentaRows id ≠ []) :
    (db.swapCuenta cuenta expectedVersion).cuentaRows id ≠ [] := by
  rw [cuentaRows_swapCuenta]
  intro none
  have lengths := congrArg List.length none
  rw [length_updateWhere] at lengths
  exact known (eq_nil_of_length_eq_zero lengths)

theorem insertPago_eq_ok (db' : EdgeDb) (pago : Pago) :
    db.insertPago pago = .ok db' ↔
      (∀ row ∈ db.pagos, row.id ≠ pago.id) ∧
      (∀ row ∈ db.pagos, row.cuentaId = pago.cuentaId → row.clientOpId ≠ pago.clientOpId) ∧
      db' = { db with pagos := db.pagos ++ [pago] } := by
  unfold insertPago
  split
  next clash =>
    simp only [any_eq_true, beq_iff_eq] at clash
    obtain ⟨row, member, same⟩ := clash
    simp only [reduceCtorEq, false_iff]
    exact fun free => free.1 row member same
  next freeId =>
    split
    next clash =>
      simp only [any_eq_true, Bool.and_eq_true, beq_iff_eq] at clash
      obtain ⟨row, member, cuenta, op⟩ := clash
      simp only [reduceCtorEq, false_iff]
      exact fun free => free.2.1 row member cuenta op
    next freeOp =>
      simp only [any_eq_true, beq_iff_eq, not_exists, not_and, Bool.and_eq_true]
        at freeId freeOp
      simp only [Except.ok.injEq]
      constructor
      · rintro rfl
        exact ⟨freeId, freeOp, rfl⟩
      · rintro ⟨-, -, rfl⟩
        rfl

theorem insertMovimiento_eq_ok {db' : EdgeDb} {movement : MovimientoCaja}
    (inserted : db.insertMovimiento movement = .ok db') :
    db' = { db with movimientos := db.movimientos ++ [movement] } := by
  unfold insertMovimiento at inserted
  split at inserted
  · simp at inserted
  · exact (Except.ok.inj inserted).symm

theorem enqueueOutbox_eq_ok {db db' : EdgeDb} {input : Edge.EnqueueOutboxInput PosEvent}
    (enqueued : db.enqueueOutbox input = .ok db') :
    isValidUuidV4 input.clientOpId ∧ input.aggregateSequenceNumber ≤ maxSafeInteger ∧
      1 ≤ input.aggregateSequenceNumber ∧ (∀ row ∈ db.outbox, row.clientOpId ≠ input.clientOpId) ∧
      db' = { db with outbox := db.outbox ++ [Edge.pendingRow db.outbox input] } := by
  unfold enqueueOutbox at enqueued
  split at enqueued
  next queue accepted =>
    obtain ⟨valid, upper, lower, fresh, rfl⟩ := (Edge.enqueue_eq_ok _ _ _).mp accepted
    exact ⟨valid, upper, lower, fresh, (Except.ok.inj enqueued).symm⟩
  next => simp at enqueued

/-! ### Items -/

theorem persistItems_stored (rows items : List CuentaItem)
    (unique : (rows.map CuentaItem.id).Nodup) (stored : ∀ item ∈ items, item ∈ rows) :
    persistItems rows items = rows :=
  upsertAll_stored overwriteItem (fun _ => rfl) unique stored

theorem getCuentaById_modificadores {cuenta : Cuenta}
    (found : db.getCuentaById cuentaId = some cuenta) :
    ∀ row ∈ cuenta.modificadores, row ∈ db.modificadores.rows := by
  obtain ⟨account, -, rfl⟩ := Option.map_eq_some_iff.mp found
  intro row member
  obtain ⟨item, -, listed⟩ := mem_flatMap.mp member
  exact mem_of_mem_filter listed

theorem persistItems_append (rows items : List CuentaItem) (item : CuentaItem)
    (unique : (rows.map CuentaItem.id).Nodup) (stored : ∀ item ∈ items, item ∈ rows) :
    persistItems rows (items ++ [item]) = upsertItem rows item := by
  have earlier := persistItems_stored rows items unique stored
  simp only [persistItems, foldl_append, foldl_cons, foldl_nil] at earlier ⊢
  rw [earlier]

theorem upsertItem_fresh {item : CuentaItem} (fresh : ∀ row ∈ rows, row.id ≠ item.id) :
    upsertItem rows item = rows ++ [item] := by
  have missed : rows.any (fun row => row.id == item.id) = false := by
    simpa [any_eq_false] using fresh
  simp [upsertItem, upsert, missed]

theorem upsertItem_known {item old : CuentaItem} (member : old ∈ rows) (same : old.id = item.id) :
    upsertItem rows item =
      updateWhere (fun row => row.id == item.id) (overwriteItem item) rows := by
  have hit : rows.any (fun row => row.id == item.id) :=
    any_eq_true.mpr ⟨old, member, by simp [same]⟩
  simp [upsertItem, upsert, hit]

theorem map_id_updateItem (p : CuentaItem → Bool) (item : CuentaItem) (rows : List CuentaItem) :
    (updateWhere p (overwriteItem item) rows).map CuentaItem.id = rows.map CuentaItem.id :=
  map_updateWhere p (overwriteItem item) CuentaItem.id rows fun _ => rfl

theorem persistItems_set {items : List CuentaItem} {index : Nat} (item old : CuentaItem)
    (unique : (rows.map CuentaItem.id).Nodup) (stored : ∀ item ∈ items, item ∈ rows)
    (distinct : (items.map CuentaItem.id).Nodup) (replaced : items[index]? = some old)
    (same : old.id = item.id) :
    persistItems rows (items.set index item) =
      updateWhere (fun row => row.id == item.id) (overwriteItem item) rows := by
  obtain ⟨bound, isOld⟩ := List.getElem?_eq_some_iff.mp replaced
  have member : old ∈ items := isOld ▸ getElem_mem bound
  have parts : items = items.take index ++ old :: items.drop (index + 1) := by
    rw [← isOld, getElem_cons_drop, take_append_drop]
  -- after the replaced one come items whose rows it does not touch
  have rest : ∀ other ∈ items.drop (index + 1), other ∈ rows ∧ other.id ≠ item.id := by
    intro other later
    refine ⟨stored other (mem_of_mem_drop later), fun clash => ?_⟩
    rw [parts, map_append, map_cons, nodup_append, nodup_cons] at distinct
    exact distinct.2.1.1 (by rw [same, ← clash]; exact mem_map_of_mem later)
  have keeps : ∀ other ∈ items.drop (index + 1),
      other ∈ updateWhere (fun row => row.id == item.id) (overwriteItem item) rows := by
    intro other later
    obtain ⟨inRows, apart⟩ := rest other later
    exact mem_updateWhere.mpr (.inr ⟨inRows, by simpa using apart⟩)
  have updatedUnique : ((updateWhere (fun row => row.id == item.id) (overwriteItem item)
      rows).map CuentaItem.id).Nodup := by
    rw [map_id_updateItem]
    exact unique
  have before := persistItems_stored rows (items.take index) unique
    fun other earlier => stored other (mem_of_mem_take earlier)
  have after := persistItems_stored _ (items.drop (index + 1)) updatedUnique keeps
  have first := upsertItem_known (stored old member) same
  rw [set_eq_take_append_cons_drop, if_pos bound]
  simp only [persistItems, foldl_append, foldl_cons] at before after ⊢
  rw [before, first, after]

end TridentPos.Pos
