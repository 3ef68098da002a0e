import TridentPos.Pos.AccountBalances
import TridentPos.Pos.Transfers

/-!
# Runs of the dining room

Every request on tables and accounts, one after the other, and what a request does to the rows
of accounts: it opens one, splits one, or reads one and saves it again.
-/
namespace TridentPos.Pos

open Core Library Fallible List

/-! ### Requests -/

inductive SalonRequest where
  | createsMesa (input : CreateMesaInput)
  | liberatesMesa (input : LiberarMesaInput)
  | opens (input : OpenCuentaInput)
  | adds (cuentaId : String) (expectedVersion : Nat) (input : AddItemInput)
  | cancelsItem (input : CancelItemInput)
  | transfers (input : TransferCuentaInput)
  | splits (input : SplitCuentaInput)
  | requestsCheck (input : RequestCheckInput)
  | closes (cuentaId : String) (expectedVersion : Nat) (closedStatus : ClosedStatus)
  | cancelsCuenta (input : CancelCuentaInput)
  | reassignsWaiter (input : ReassignWaiterInput)
  | changesGuestCount (input : ChangeGuestCountInput)
  | tenders (command : SubmitTenderCommand)

def tablesAfter {α β : Type} (db : EdgeDb) : Except DomainError (α × β × EdgeDb) → EdgeDb
  | .ok (_, _, db') => db'
  | .error _ => db

def SalonRequest.run (options : PaymentOptions) (oracle : AccountOracle) (db : EdgeDb)
    (request : SalonRequest) : EdgeDb :=
  let validatePin := fun user pin => oracle.validatePin user pin none
  let now := oracle.stamp.now
  match request with
  | .createsMesa input => stateAfter db (createMesaSync db input now)
  | .liberatesMesa input => stateAfter db (liberarMesaSync db input now)
  | .opens input => tablesAfter db (openCuentaSync db input now)
  | .adds cuentaId expectedVersion input =>
    stateAfter db (addItemToCuentaSync db cuentaId expectedVersion input now)
  | .cancelsItem input => tablesAfter db (cancelItemSync validatePin db input now)
  | .transfers input => (transferCuentaSync validatePin db input now).2
  | .splits input => (splitCuentaSync validatePin db input now).2
  | .requestsCheck input => tablesAfter db (requestCheckSync validatePin db input now)
  | .closes cuentaId expectedVersion closedStatus =>
    tablesAfter db (closeCuentaSync db cuentaId expectedVersion closedStatus now)
  | .cancelsCuenta input => tablesAfter db (cancelCuentaSync validatePin db input now)
  | .reassignsWaiter input => stateAfter db (reassignWaiterSync validatePin db input now)
  | .changesGuestCount input =>
    stateAfter db (changeGuestCountSync validatePin db input now)
  | .tenders command =>
    stateAfter db
      (submitTender options oracle.validatePin db command oracle.stamp oracle.interruption)

/-! ### Items saved again -/

theorem persistItems_nodup (rows items : List CuentaItem)
    (unique : (rows.map CuentaItem.id).Nodup) :
    ((persistItems rows items).map CuentaItem.id).Nodup :=
  Table.nodup_upsertAll overwriteItem (fun _ _ => rfl) items unique

theorem persistItems_other (rows items : List CuentaItem) (id : String)
    (apart : ∀ item ∈ items, item.cuentaId ≠ id ∧ ∀ row ∈ rows, row.id = item.id → row.cuentaId ≠ id) :
    (persistItems rows items).filter (fun row => row.cuentaId == id) =
      rows.filter fun row => row.cuentaId == id :=
  Table.filter_upsertAll overwriteItem (fun _ _ => rfl) (fun _ _ => rfl) apart

/-! ### An account saved again -/

def Cuenta.SameItems (updated cuenta : Cuenta) : Prop :=
  updated.items = cuenta.items ∧ updated.modificadores = cuenta.modificadores

structure Resaved (db db' : EdgeDb) (cuenta updated : Cuenta) : Prop where
  read : db.getCuentaById cuenta.id = some cuenta
  rows : db'.cuentaRows cuenta.id = [overwriteCuenta updated.toCuentaRow cuenta.toCuentaRow]
  otherRows : ∀ other, other ≠ cuenta.id → db'.cuentaRows other = db.cuentaRows other
  otherPagos : ∀ other, other ≠ cuenta.id → db'.pagosOf other = db.pagosOf other
  items : db'.items = persistItems db.items updated.items
  modificadores : db'.modificadores = db.modificadores.persist updated.modificadores
  owner : ∀ item ∈ updated.items, item.cuentaId = cuenta.id
  version : updated.version = cuenta.version + 1

variable {mesa : Option Mesa} {saved : Cuenta} {cuentaId : String} {db db' : EdgeDb}

theorem swapCuenta_resaved (wellFormed : db.WellFormed) (cuenta updated : Cuenta)
    (expectedVersion : Nat) (found : db.getCuentaById cuentaId = some cuenta)
    (same : updated.id = cuenta.id) (owner : ∀ item ∈ updated.items, item.cuentaId = cuenta.id)
    (version : updated.version = cuenta.version + 1)
    (swapped : ∃ row ∈ db.cuentas, row.id = updated.id ∧ row.version = expectedVersion) :
    Resaved db (db.swapCuenta updated expectedVersion) cuenta updated := by
  have isId := getCuentaById_id found
  have stored := getCuentaById_stored wellFormed found
  have rows := (swapCuenta_cuentaRows updated expectedVersion cuenta.toCuentaRow
    (by rw [same]; exact stored) swapped).2
  exact ⟨by rw [isId]; exact found, by rw [← same]; exact rows,
    fun other apart => swapCuenta_cuentaRows_other _ _ other (by rwa [same]), fun _ _ => rfl, rfl,
    rfl, owner, version⟩

theorem saveCuenta_resaved (wellFormed : db.WellFormed) {cuenta updated : Cuenta}
    {expectedVersion : Nat} (found : db.getCuentaById cuentaId = some cuenta)
    (saved : db.saveCuenta updated expectedVersion = .ok db') (same : updated.id = cuenta.id)
    (kept : updated.items = cuenta.items) (version : updated.version = cuenta.version + 1) :
    Resaved db db' cuenta updated ∧ db'.mesas = db.mesas := by
  obtain ⟨swapped, rfl⟩ := saveCuenta_read found saved same
  refine ⟨swapCuenta_resaved wellFormed cuenta updated expectedVersion found same ?_
    version swapped, rfl⟩
  intro item member
  rw [kept] at member
  exact (getCuentaById_items found item member).2

section Resave

variable {cuenta updated : Cuenta} (resaved : Resaved db db' cuenta updated)
  (formed : db.WellFormed)

include resaved

theorem Resaved.with_mesas {after : EdgeDb} {mesas : List Mesa}
    (same : after = { db' with mesas := mesas }) : Resaved db after cuenta updated := by
  subst same
  exact ⟨resaved.read, resaved.rows, resaved.otherRows, resaved.otherPagos, resaved.items,
    resaved.modificadores, resaved.owner, resaved.version⟩

theorem Resaved.versions (versions : ∀ id row, db.cuentaRows id = [row] → row.version ≠ 0) :
    ∀ id row, db'.cuentaRows id = [row] → row.version ≠ 0 :=
  forall_rows_of_written resaved.rows resaved.otherRows
    (by simp [overwriteCuenta, resaved.version]) fun id row _ => versions id row

include formed

theorem Resaved.wellFormed : db'.WellFormed := by
  apply formed.of_saved (· = cuenta.id)
  · rintro id rfl
    exact ⟨_, resaved.rows⟩
  · rw [resaved.items]
    exact persistItems_nodup _ _ formed.items
  · intro id apart
    refine ⟨resaved.otherRows id apart, fun noItems => ?_, resaved.otherPagos id apart⟩
    have unowned (row : CuentaItem) (member : row ∈ db.items) : row.cuentaId ≠ id := by
      intro mine
      have listed : row ∈ db.itemRows id := mem_filter.mpr ⟨member, by simp [mine]⟩
      simp [noItems] at listed
    rw [EdgeDb.itemRows, resaved.items, persistItems_other, ← EdgeDb.itemRows, noItems]
    intro item member
    exact ⟨by rw [resaved.owner item member]; exact Ne.symm apart, fun row stored _ => unowned row stored⟩

theorem Resaved.items_eq (kept : updated.SameItems cuenta) :
    db'.items = db.items ∧ db'.modificadores = db.modificadores := by
  rw [resaved.items, kept.1, resaved.modificadores, kept.2]
  exact ⟨persistItems_stored db.items cuenta.items formed.items fun item member =>
    (getCuentaById_items resaved.read item member).1,
    ModificadorTable.persist_stored _ (getCuentaById_modificadores resaved.read)⟩

end Resave

/-! ### What the requests save -/

def CuentaRow.Active (row : CuentaRow) : Prop := row.status = .abierta ∨ row.status = .impresa
deriving Decidable

theorem active_of_guard (row : CuentaRow)
    (passed : ¬ (row.status ≠ .abierta ∧ row.status ≠ .impresa)) : row.Active := by
  by_contra neither
  exact passed (by simpa only [CuentaRow.Active, not_or] using neither)

section Specs

variable {validatePin : String → String → Bool} (formed : db.WellFormed)

include formed

variable {expectedVersion now : Nat}

theorem addItem_resaved {input : AddItemInput}
    (returned : addItemToCuentaSync db cuentaId expectedVersion input now = .ok (saved, db')) :
    ∃ cuenta, cuenta.id = cuentaId ∧ cuenta.status = .abierta ∧ db'.mesas = db.mesas ∧
      Resaved db db' cuenta (withNewItem cuenta cuentaId input now) := by
  obtain ⟨cuenta, found, isOpen, -, rfl, swapped, rfl⟩ := addItemToCuentaSync_eq_ok returned
  have isId := getCuentaById_id found
  refine ⟨cuenta, isId, isOpen, rfl, swapCuenta_resaved formed cuenta _ _ found rfl ?_ rfl swapped⟩
  intro item member
  rcases mem_append.mp member with stored | new
  · exact (getCuentaById_items found item stored).2
  · rw [mem_singleton.mp new, isId]
    rfl

theorem cancelItem_resaved {input : CancelItemInput} {cancelled : CuentaItem}
    (returned : cancelItemSync validatePin db input now = .ok (saved, cancelled, db')) :
    ∃ cuenta index item waste, CancelItemPasses validatePin db input cuenta index item waste ∧
      db'.mesas = db.mesas ∧ Resaved db db' cuenta (withItems cuenta
        (cuenta.items.set index (cancelledItem item input waste now)) now) := by
  obtain ⟨cuenta, index, item, waste, passes, rfl, rfl, saves⟩ := cancelItemSync_passed returned
  obtain ⟨present, -, -⟩ := findItem_eq_ok passes.located
  obtain ⟨swapped, rfl⟩ := saveCuenta_read passes.found saves rfl
  have read := getCuentaById_items passes.found
  refine ⟨cuenta, index, item, waste, passes, rfl,
    swapCuenta_resaved formed cuenta _ _ passes.found rfl ?_ rfl swapped⟩
  intro other member
  rcases mem_or_eq_of_mem_set member with stored | rfl
  · exact (read other stored).2
  · exact (read item (mem_of_getElem? present)).2

theorem closeCuenta_resaved {closedStatus : ClosedStatus}
    (returned : closeCuentaSync db cuentaId expectedVersion closedStatus now =
      .ok (saved, mesa, db')) :
    ∃ cuenta between, cuenta.Active ∧ between.mesas = db.mesas ∧
      Resaved db between cuenta (closedCuenta cuenta closedStatus now) ∧
      freeMesa between (closedCuenta cuenta closedStatus now) now = .ok (mesa, db') := by
  obtain ⟨cuenta, between, found, active, -, rfl, saves, frees⟩ := closeCuentaSync_passed returned
  obtain ⟨resaved, mesas⟩ := saveCuenta_resaved formed found saves rfl rfl rfl
  exact ⟨cuenta, between, active_of_guard _ active, mesas, resaved, frees⟩

omit formed in
theorem cancelCuentaSync_passed {input : CancelCuentaInput}
    (returned : cancelCuentaSync validatePin db input now = .ok (saved, mesa, db')) :
    isBlank input.reason = false ∧ ∃ cuenta between,
      db.getCuentaById input.cuentaId = some cuenta ∧ cuenta.status ≠ .pagada ∧
      cuenta.status ≠ .anulada ∧ cuenta.version = input.expectedVersion ∧
      checkManagerPin validatePin input cuenta = .ok () ∧
      db.saveCuenta (closedCuenta cuenta .anulada now) input.expectedVersion = .ok between ∧
      freeMesa between (closedCuenta cuenta .anulada now) now = .ok (mesa, db') := by
  simp only [cancelCuentaSync, refused_eq_ok] at returned
  obtain ⟨reason, -, returned⟩ := returned
  split at returned
  next => simp at returned
  next cuenta found =>
    simp only [refused_eq_ok, bind_eq_ok, pure_eq_ok, Prod.mk.injEq] at returned
    obtain ⟨unpaid, standing, current, ⟨⟩, checked, between, saves, ⟨_, _⟩, frees, -, rfl, rfl⟩ :=
      returned
    exact ⟨by simpa using reason, cuenta, between, found, unpaid, standing, not_not.mp current,
      checked, saves, frees⟩

theorem cancelCuenta_resaved {input : CancelCuentaInput}
    (returned : cancelCuentaSync validatePin db input now = .ok (saved, mesa, db')) :
    ∃ cuenta between, cuenta.Active ∧ between.mesas = db.mesas ∧
      Resaved db between cuenta (closedCuenta cuenta .anulada now) ∧
      freeMesa between (closedCuenta cuenta .anulada now) now = .ok (mesa, db') := by
  obtain ⟨-, cuenta, between, found, unpaid, standing, -, -, saves, frees⟩ :=
    cancelCuentaSync_passed returned
  obtain ⟨resaved, mesas⟩ := saveCuenta_resaved formed found saves rfl rfl rfl
  refine ⟨cuenta, between, ?_, mesas, resaved, frees⟩
  unfold CuentaRow.Active
  cases status : cuenta.status with
  | abierta => exact .inl rfl
  | impresa => exact .inr rfl
  | pagada => exact absurd status unpaid
  | anulada => exact absurd status standing

omit formed in
theorem readActive_eq_ok {cuentaId verb : String} {cuenta : Cuenta}
    (read : readActive db cuentaId expectedVersion verb = .ok cuenta) :
    db.getCuentaById cuentaId = some cuenta ∧ cuenta.Active := by
  unfold readActive at read
  split at read
  next => simp at read
  next stored found =>
    simp only [refused_eq_ok, Except.ok.injEq] at read
    obtain ⟨active, -, rfl⟩ := read
    exact ⟨found, active_of_guard _ active⟩

theorem reassignWaiter_resaved {input : ReassignWaiterInput}
    (returned : reassignWaiterSync validatePin db input now = .ok (saved, db')) :
    ∃ cuenta, cuenta.Active ∧ saved.status = cuenta.status ∧ saved.mesaId = cuenta.mesaId ∧
      saved.SameItems cuenta ∧ db'.mesas = db.mesas ∧ Resaved db db' cuenta saved := by
  simp only [reassignWaiterSync, refused_eq_ok, bind_eq_ok, pure_eq_ok, Prod.mk.injEq] at returned
  obtain ⟨-, cuenta, read, after, saves, rfl, rfl⟩ := returned
  obtain ⟨found, active⟩ := readActive_eq_ok read
  obtain ⟨resaved, mesas⟩ := saveCuenta_resaved formed found saves rfl rfl rfl
  exact ⟨cuenta, active, rfl, rfl, ⟨rfl, rfl⟩, mesas, resaved⟩

theorem changeGuestCount_resaved {input : ChangeGuestCountInput}
    (returned : changeGuestCountSync validatePin db input now = .ok (saved, db')) :
    ∃ cuenta, cuenta.Active ∧ saved.status = cuenta.status ∧ saved.mesaId = cuenta.mesaId ∧
      saved.SameItems cuenta ∧ db'.mesas = db.mesas ∧ Resaved db db' cuenta saved := by
  simp only [changeGuestCountSync, refused_eq_ok, bind_eq_ok, pure_eq_ok, Prod.mk.injEq] at returned
  obtain ⟨-, -, -, cuenta, read, after, saves, rfl, rfl⟩ := returned
  obtain ⟨found, active⟩ := readActive_eq_ok read
  obtain ⟨resaved, mesas⟩ := saveCuenta_resaved formed found saves rfl rfl rfl
  exact ⟨cuenta, active, rfl, rfl, ⟨rfl, rfl⟩, mesas, resaved⟩

theorem requestCheck_resaved {input : RequestCheckInput}
    (returned : requestCheckSync validatePin db input now = .ok (saved, mesa, db')) :
    ∃ cuenta between, cuenta.id = input.cuentaId ∧ cuenta.Active ∧ saved.status = .impresa ∧
      saved.mesaId = cuenta.mesaId ∧ saved.SameItems cuenta ∧ between.mesas = db.mesas ∧
      Resaved db between cuenta saved ∧ markInCheck between saved now = .ok (mesa, db') := by
  simp only [requestCheckSync, bind_eq_ok, pure_eq_ok, Prod.mk.injEq] at returned
  obtain ⟨-, -, cuenta, read, between, saves, ⟨marked, after⟩, marks, rfl, rfl, rfl⟩ := returned
  obtain ⟨found, active⟩ := readActive_eq_ok read
  have isId := getCuentaById_id found
  obtain ⟨resaved, mesas⟩ := saveCuenta_resaved formed found saves rfl rfl rfl
  exact ⟨cuenta, between, isId, active, rfl, rfl, ⟨rfl, rfl⟩, mesas, resaved, marks⟩

theorem submitTender_resaved {options : PaymentOptions}
    {authorize : String → String → Option String → Bool} {command : SubmitTenderCommand}
    {stamp : Stamp} {interruption : Option DomainError} {result : PaymentSettlementResult}
    (returned : submitTender options authorize db command stamp interruption = .ok (result, db')) :
    db' = db ∨ ∃ cuenta updated, cuenta.id = command.cuentaId ∧ cuenta.Active ∧
      updated.mesaId = cuenta.mesaId ∧ updated.SameItems cuenta ∧ db'.mesas = db.mesas ∧
      (updated.status = cuenta.status ∨
        command.amount = cuenta.totalAmount - db.paid command.cuentaId) ∧
      Resaved db db' cuenta updated := by
  rcases submitTender_commits
    (formed.cuentas _) returned with same | ⟨cuenta, existing, params, found, commits⟩
  · exact .inl same
  right
  have others := commits.other
  have isId := commits.id
  have read : db.getCuentaById cuenta.id = some cuenta := by
    rw [isId]
    exact found
  obtain ⟨stamp', built⟩ := commits.built
  have paid : totalPaid existing = db.paid command.cuentaId := commits.readPaid
  obtain ⟨within, cashGiven, changeDue, isParams⟩ := buildSettlement_eq_ok built
  have fits := remainingOf_covers commits.positive within
  have kept : params.updatedCuenta.SameItems cuenta := by
    rw [isParams]
    exact ⟨rfl, rfl⟩
  refine ⟨cuenta, params.updatedCuenta, isId, commits.payable, by rw [isParams]; rfl, kept,
    by rw [commits.settled]; rfl, ?_, read, by rw [isId]; exact commits.rows, ?_, ?_,
    by rw [commits.settled]; rfl, by rw [commits.settled]; rfl, ?_, by rw [isParams]; rfl⟩
  · by_cases settles : remainingOf cuenta.totalAmount (totalPaid existing + command.amount) = 0
    · have reached := (remainingOf_eq_zero _ _).mp settles
      dsimp only at fits
      exact .inr (by omega)
    · left
      rw [isParams]
      simp [settlementParams, settledCuenta, settles]
  · exact fun other apart => (others other (by rwa [← isId])).1
  · exact fun other apart => (others other (by rwa [← isId])).2
  · intro item member
    rw [kept.1] at member
    exact (getCuentaById_items read item member).2

theorem transfer_resaved {input : TransferCuentaInput} {cuenta : Cuenta} {source target : Mesa}
    (allowed : TransferAllowed validatePin db input cuenta source target)
    (saved : db' = db.transferred input cuenta source target now) :
    Resaved db db' cuenta (transferredCuenta cuenta target input now) := by
  have stored := getCuentaById_stored formed allowed.account
  have row : cuenta.toCuentaRow ∈ db.cuentas :=
    mem_of_find?_eq_some (findCuenta_of_cuentaRows db cuenta.id stored)
  have resaved := swapCuenta_resaved formed cuenta (transferredCuenta cuenta target input now)
    input.expectedVersion allowed.account rfl
    (fun item member => (getCuentaById_items allowed.account item member).2) rfl
    ⟨cuenta.toCuentaRow, row, rfl, allowed.current⟩
  exact resaved.with_mesas saved

end Specs

theorem TransferAllowed.active (validatePin : String → String → Bool) (db : EdgeDb)
    (input : TransferCuentaInput) (cuenta : Cuenta) (source target : Mesa)
    (allowed : TransferAllowed validatePin db input cuenta source target) : cuenta.Active := by
  apply active_of_guard
  intro closed
  have rule := allowed.rule
  simp [validateTransfer, closed] at rule

/-! ### Requests that save tables only -/

theorem createMesaSync_eq_ok {input : CreateMesaInput} {now : Nat} {mesa : Mesa}
    (returned : createMesaSync db input now = .ok (mesa, db')) :
    db.getMesaById input.id = none ∧
      db' = { db with mesas := db.mesas ++ [newMesa input now] } := by
  simp only [createMesaSync, refused_eq_ok, bind_eq_ok, pure_eq_ok, Prod.mk.injEq] at returned
  obtain ⟨absent, after, saves, -, rfl⟩ := returned
  have missing : db.getMesaById (newMesa input now).id = none := by simpa [newMesa] using absent
  simp only [EdgeDb.saveMesa, if_true, missing, Option.isSome_none, Bool.false_eq_true, if_false,
    Except.ok.injEq] at saves
  exact ⟨missing, saves.symm⟩

section SavedMesa

variable (keyed : db.MesasKeyed)

include keyed

theorem saveMesa_member {stored mesa : Mesa} {expectedVersion : Nat} (member : stored ∈ db.mesas)
    (saved : db.saveMesa mesa expectedVersion = .ok db') (same : mesa.id = stored.id) :
    db' = db.replaceMesa mesa := by
  have own := (getMesaById_eq_some keyed mesa.id stored).mpr ⟨member, same.symm⟩
  exact ((saveMesa_stored db db' keyed mesa stored _ own).mp saved).2.2

variable {now : Nat}

theorem liberarMesaSync_eq_ok {input : LiberarMesaInput} {mesa : Mesa}
    (returned : liberarMesaSync db input now = .ok (mesa, db')) :
    db' = db ∨ ∃ stored ∈ db.mesas, db' = db.replaceMesa (freedMesa stored now) := by
  unfold liberarMesaSync at returned
  split at returned
  next => simp at returned
  next stored found =>
    obtain ⟨-, returned⟩ := refused_eq_ok.mp returned
    split at returned
    next => exact .inl (Prod.mk.inj (Except.ok.inj returned)).2.symm
    split at returned
    next => simp at returned
    simp only [bind_eq_ok, pure_eq_ok, Prod.mk.injEq] at returned
    obtain ⟨after, saves, -, rfl⟩ := returned
    have member := ((getMesaById_eq_some keyed _ _).mp found).1
    exact .inr ⟨stored, member, saveMesa_member keyed member saves rfl⟩

theorem namedMesa_eq_some (mesaId : Option String) (stored : Mesa) :
    (mesaId.filter fun id => id != "").bind db.getMesaById = some stored ↔
      stored ∈ db.mesas ∧ stored.id ≠ "" ∧ mesaId = some stored.id := by
  simp only [Option.bind_eq_some_iff, Option.filter_eq_some_iff, getMesaById_eq_some keyed,
    bne_iff_ne]
  constructor
  · rintro ⟨_, ⟨names, nonempty⟩, member, rfl⟩
    exact ⟨member, nonempty, names⟩
  · rintro ⟨member, nonempty, names⟩
    exact ⟨_, ⟨names, nonempty⟩, member, rfl⟩

theorem freeMesa_saved {cuenta : Cuenta} (returned : freeMesa db cuenta now = .ok (mesa, db')) :
    (db' = db ∧ ∀ stored ∈ db.mesas, stored.id ≠ "" → cuenta.mesaId = some stored.id →
      stored.currentAccountId ≠ some cuenta.id) ∨
    ∃ stored ∈ db.mesas, cuenta.mesaId = some stored.id ∧
      stored.currentAccountId = some cuenta.id ∧ db' = db.replaceMesa (freedMesa stored now) := by
  unfold freeMesa at returned
  split at returned
  next nothing =>
    refine .inl ⟨(Prod.mk.inj (Except.ok.inj returned)).2.symm, ?_⟩
    intro stored member nonempty names
    rw [(namedMesa_eq_some keyed _ _).mpr ⟨member, nonempty, names⟩] at nothing
    cases nothing
  next stored found =>
    obtain ⟨member, -, names⟩ := (namedMesa_eq_some keyed _ _).mp found
    split at returned
    next holds =>
      simp only [bind_eq_ok, pure_eq_ok, Prod.mk.injEq] at returned
      obtain ⟨after, saves, -, rfl⟩ := returned
      exact .inr ⟨stored, member, names, holds, saveMesa_member keyed member saves rfl⟩
    next other =>
      refine .inl ⟨(Prod.mk.inj (Except.ok.inj returned)).2.symm, ?_⟩
      intro mesa member nonempty names holds
      rw [(namedMesa_eq_some keyed _ _).mpr ⟨member, nonempty, names⟩, Option.some.injEq] at found
      exact other (found ▸ holds)

theorem markInCheck_saved {cuenta : Cuenta}
    (returned : markInCheck db cuenta now = .ok (mesa, db')) :
    db' = db ∨ ∃ stored ∈ db.mesas, cuenta.mesaId = some stored.id ∧
      db' = db.replaceMesa (inCheckMesa stored now) := by
  unfold markInCheck at returned
  split at returned
  next => exact .inl (Prod.mk.inj (Except.ok.inj returned)).2.symm
  next stored found =>
    obtain ⟨member, -, names⟩ := (namedMesa_eq_some keyed _ _).mp found
    simp only [bind_eq_ok, pure_eq_ok, Prod.mk.injEq] at returned
    obtain ⟨after, saves, -, rfl⟩ := returned
    exact .inr ⟨stored, member, names, saveMesa_member keyed member saves rfl⟩

theorem occupyMesa_saved {input : OpenCuentaInput}
    (returned : occupyMesa db input now = .ok (mesa, db')) :
    db' = db ∨ ∃ stored ∈ db.mesas, input.mesaId = some stored.id ∧ stored.id ≠ "" ∧
      stored.status = .disponible ∧ db' = db.replaceMesa (occupiedMesa stored input.id now) := by
  unfold occupyMesa at returned
  split at returned
  next => exact .inl (Prod.mk.inj (Except.ok.inj returned)).2.symm
  next id filtered =>
    obtain ⟨names, nonempty⟩ := Option.filter_eq_some_iff.mp filtered
    split at returned
    next => simp at returned
    next stored read =>
      simp only [refused_eq_ok, not_not, bind_eq_ok, pure_eq_ok, Prod.mk.injEq] at returned
      obtain ⟨free, after, saves, -, rfl⟩ := returned
      obtain ⟨member, rfl⟩ := (getMesaById_eq_some keyed _ _).mp read
      exact .inr ⟨stored, member, names, by simpa using nonempty, free,
        saveMesa_member keyed member saves rfl⟩

def relinkedMesa (mesa : Mesa) (cuentaId : String) (now : Nat) : Mesa :=
  { mesa with
    currentAccountId := some cuentaId, version := mesa.version + 1, updatedAt := now }

omit keyed in
theorem relinkMesa_named (cuenta sub : Cuenta) (subs : List Cuenta) (now : Nat) {stored : Mesa}
    (named : (cuenta.mesaId.filter fun id => id != "").bind db.getMesaById = some stored) :
    relinkMesa db cuenta (sub :: subs) now = do
      let db ← db.saveMesa (relinkedMesa stored sub.id now) stored.version
      return (some (relinkedMesa stored sub.id now), db) := by
  simp only [relinkMesa, named, head?_cons]
  rfl

theorem relinkMesa_saved {cuenta sub : Cuenta} {subs : List Cuenta}
    (returned : relinkMesa db cuenta (sub :: subs) now = .ok (mesa, db')) :
    (db' = db ∧ ∀ stored ∈ db.mesas, stored.id ≠ "" → cuenta.mesaId ≠ some stored.id) ∨
      ∃ stored ∈ db.mesas, cuenta.mesaId = some stored.id ∧
        db' = db.replaceMesa (relinkedMesa stored sub.id now) := by
  cases named : (cuenta.mesaId.filter fun id => id != "").bind db.getMesaById with
  | none =>
    simp only [relinkMesa, named] at returned
    refine .inl ⟨(Prod.mk.inj (Except.ok.inj returned)).2.symm, ?_⟩
    intro stored member nonempty names
    rw [(namedMesa_eq_some keyed _ _).mpr ⟨member, nonempty, names⟩] at named
    cases named
  | some stored =>
    obtain ⟨member, -, names⟩ := (namedMesa_eq_some keyed _ _).mp named
    rw [relinkMesa_named cuenta sub subs now named] at returned
    simp only [bind_eq_ok, pure_eq_ok, Prod.mk.injEq] at returned
    obtain ⟨after, saves, -, rfl⟩ := returned
    exact .inr ⟨stored, member, names, saveMesa_member keyed member saves rfl⟩

theorem relinkMesa_succeeds (cuenta sub : Cuenta) (subs : List Cuenta) (now : Nat)
    (versions : ∀ mesa ∈ db.mesas, mesa.version ≠ 0) (e : DomainError) :
    relinkMesa db cuenta (sub :: subs) now ≠ .error e := by
  cases named : (cuenta.mesaId.filter fun id => id != "").bind db.getMesaById with
  | none => simp [relinkMesa, named]
  | some stored =>
    obtain ⟨member, -, -⟩ := (namedMesa_eq_some keyed _ _).mp named
    have own := (getMesaById_eq_some keyed (relinkedMesa stored sub.id now).id stored).mpr
      ⟨member, rfl⟩
    have saves := (saveMesa_stored db _ keyed (relinkedMesa stored sub.id now) stored stored.version
      own).mpr ⟨versions stored member, rfl, rfl⟩
    rw [relinkMesa_named cuenta sub subs now named, saves]
    simp [pure, Except.pure]

end SavedMesa

/-! ### What a request can do -/

section Mesas

variable (now : Nat) (db db' : EdgeDb)

def TakesMesa (input : OpenCuentaInput) : Prop :=
  db'.mesas = db.mesas ∨ ∃ mesa ∈ db.mesas, input.mesaId = some mesa.id ∧ mesa.id ≠ "" ∧
    mesa.status = .disponible ∧ db'.mesas = (db.replaceMesa (occupiedMesa mesa input.id now)).mesas

def MarksMesa (cuenta : Cuenta) : Prop :=
  db'.mesas = db.mesas ∨ ∃ mesa ∈ db.mesas, cuenta.mesaId = some mesa.id ∧
    db'.mesas = (db.replaceMesa (inCheckMesa mesa now)).mesas

def FreesMesa (cuenta : Cuenta) : Prop :=
  (db'.mesas = db.mesas ∧ ∀ mesa ∈ db.mesas, mesa.id ≠ "" →
    cuenta.mesaId = some mesa.id → mesa.currentAccountId ≠ some cuenta.id) ∨
  ∃ mesa ∈ db.mesas, cuenta.mesaId = some mesa.id ∧
    db'.mesas = (db.replaceMesa (freedMesa mesa now)).mesas

end Mesas

/-- The moves of the dining room: what each request does to the rows of accounts and tables, if it
does anything. -/
inductive SalonMove (now : Nat) (db db' : EdgeDb) : SalonRequest → Prop
  | idle (request : SalonRequest) (same : db' = db) : SalonMove now db db' request
  | created (input : CreateMesaInput) (absent : db.getMesaById input.id = none)
      (after : db' = { db with mesas := db.mesas ++ [newMesa input now] }) :
      SalonMove now db db' (.createsMesa input)
  | liberated (input : LiberarMesaInput) (mesa : Mesa) (member : mesa ∈ db.mesas)
      (after : db' = db.replaceMesa (freedMesa mesa now)) :
      SalonMove now db db' (.liberatesMesa input)
  | opened (input : OpenCuentaInput) (account : Opened db db' (newCuenta input now))
      (mesas : TakesMesa now db db' input) :
      SalonMove now db db' (.opens input)
  | added (cuentaId : String) (expectedVersion : Nat) (input : AddItemInput) (cuenta : Cuenta)
      (isId : cuenta.id = cuentaId) (isOpen : cuenta.status = .abierta)
      (mesas : db'.mesas = db.mesas)
      (resaved : Resaved db db' cuenta (withNewItem cuenta cuentaId input now)) :
      SalonMove now db db' (.adds cuentaId expectedVersion input)
  | cancelled (input : CancelItemInput) (cuenta : Cuenta) (index : Nat) (item : CuentaItem)
      (waste : Bool) (isId : cuenta.id = input.cuentaId)
      (present : cuenta.items[index]? = some item) (mesas : db'.mesas = db.mesas)
      (resaved : Resaved db db' cuenta (withItems cuenta
        (cuenta.items.set index (cancelledItem item input waste now)) now)) :
      SalonMove now db db' (.cancelsItem input)
  | vacated (validatePin : String → String → Bool) (input : TransferCuentaInput) (cuenta : Cuenta)
      (source target : Mesa) (allowed : TransferAllowed validatePin db input cuenta source target)
      (after : db' = db.replaceMesa (freedMesa source now)) :
      SalonMove now db db' (.transfers input)
  | stranded (validatePin : String → String → Bool) (input : TransferCuentaInput) (cuenta : Cuenta)
      (source target : Mesa) (allowed : TransferAllowed validatePin db input cuenta source target)
      (version : cuenta.version = 0)
      (after : db' = db.reseated source target cuenta.id now) :
      SalonMove now db db' (.transfers input)
  | transferred (validatePin : String → String → Bool) (input : TransferCuentaInput)
      (cuenta : Cuenta) (source target : Mesa)
      (allowed : TransferAllowed validatePin db input cuenta source target)
      (apart : input.sourceMesaId ≠ input.targetMesaId)
      (mesas : db'.mesas = (db.reseated source target cuenta.id now).mesas)
      (resaved : Resaved db db' cuenta (transferredCuenta cuenta target input now)) :
      SalonMove now db db' (.transfers input)
  | split (validatePin : String → String → Bool) (input : SplitCuentaInput) (cuenta : Cuenta)
      (saved rest : List Cuenta)
      (result : Except DomainError (Cuenta × List Cuenta × Option Mesa))
      (planned : planSplit validatePin db input now = .ok (cuenta, saved ++ rest))
      (into : SplitInto db db' cuenta saved)
      (ends : SplitEnds db db' cuenta saved rest now result) : SalonMove now db db' (.splits input)
  | checked (input : RequestCheckInput) (cuenta updated : Cuenta) (isId : cuenta.id = input.cuentaId)
      (active : cuenta.Active) (printed : updated.status = .impresa)
      (sameMesa : updated.mesaId = cuenta.mesaId) (sameItems : updated.SameItems cuenta)
      (mesas : MarksMesa now db db' cuenta)
      (resaved : Resaved db db' cuenta updated) : SalonMove now db db' (.requestsCheck input)
  | closed (request : SalonRequest) (cuenta : Cuenta) (closedStatus : ClosedStatus)
      (active : cuenta.Active)
      (mesas : FreesMesa now db db' cuenta)
      (resaved : Resaved db db' cuenta (closedCuenta cuenta closedStatus now)) :
      SalonMove now db db' request
  | kept (request : SalonRequest) (cuenta updated : Cuenta) (active : cuenta.Active)
      (sameStatus : updated.status = cuenta.status) (sameMesa : updated.mesaId = cuenta.mesaId)
      (sameItems : updated.SameItems cuenta) (mesas : db'.mesas = db.mesas)
      (resaved : Resaved db db' cuenta updated) : SalonMove now db db' request
  | tendered (command : SubmitTenderCommand) (cuenta updated : Cuenta)
      (isId : cuenta.id = command.cuentaId) (active : cuenta.Active)
      (sameMesa : updated.mesaId = cuenta.mesaId) (sameItems : updated.SameItems cuenta)
      (mesas : db'.mesas = db.mesas)
      (status : updated.status = cuenta.status ∨
        command.amount = cuenta.totalAmount - db.paid command.cuentaId)
      (resaved : Resaved db db' cuenta updated) : SalonMove now db db' (.tenders command)

theorem mesas_replaceMesa (mesa : Mesa) (same : db'.mesas = db.mesas) :
    (db'.replaceMesa mesa).mesas = (db.replaceMesa mesa).mesas := by
  simp only [EdgeDb.replaceMesa, same]

theorem keyed_of_mesas (keyed : db.MesasKeyed) (same : db'.mesas = db.mesas) : db'.MesasKeyed := by
  rwa [EdgeDb.MesasKeyed, same]

open SalonRequest

section Run

variable (options : PaymentOptions) (oracle : AccountOracle) (db : EdgeDb)
  (formed : db.WellFormed) (keyed : db.MesasKeyed)

include keyed

variable {now : Nat} {between db' : EdgeDb}

theorem SalonMove.of_close (request : SalonRequest) {cuenta : Cuenta} {closedStatus : ClosedStatus}
    (active : cuenta.Active) (mesas : between.mesas = db.mesas)
    (resaved : Resaved db between cuenta (closedCuenta cuenta closedStatus now))
    (frees : freeMesa between (closedCuenta cuenta closedStatus now) now = .ok (mesa, db')) :
    SalonMove now db db' request := by
  have saved := freeMesa_saved (keyed_of_mesas keyed mesas) frees
  rw [mesas] at saved
  rcases saved with ⟨rfl, none⟩ | ⟨stored, member, names, -, rfl⟩
  · exact .closed request cuenta closedStatus active (.inl ⟨mesas, none⟩) resaved
  · exact .closed request cuenta closedStatus active
      (.inr ⟨stored, member, names, mesas_replaceMesa _ mesas⟩)
      (resaved.with_mesas rfl)

theorem SalonMove.of_check {input : RequestCheckInput} {cuenta updated : Cuenta}
    (isId : cuenta.id = input.cuentaId) (active : cuenta.Active)
    (printed : updated.status = .impresa) (sameMesa : updated.mesaId = cuenta.mesaId)
    (sameItems : updated.SameItems cuenta) (mesas : between.mesas = db.mesas)
    (resaved : Resaved db between cuenta updated)
    (marks : markInCheck between updated now = .ok (mesa, db')) :
    SalonMove now db db' (.requestsCheck input) := by
  have saved := markInCheck_saved (keyed_of_mesas keyed mesas) marks
  rw [mesas, sameMesa] at saved
  rcases saved with rfl | ⟨stored, member, names, rfl⟩
  · exact .checked input cuenta updated isId active printed sameMesa sameItems (.inl mesas) resaved
  · exact .checked input cuenta updated isId active printed sameMesa sameItems
      (.inr ⟨stored, member, names, mesas_replaceMesa _ mesas⟩)
      (resaved.with_mesas rfl)

include formed

theorem SalonMove.of_transfer (input : TransferCuentaInput) (validatePin : String → String → Bool)
    (now : Nat) :
    SalonMove now db (transferCuentaSync validatePin db input now).2 (.transfers input) := by
  obtain ⟨result, db', returned⟩ : ∃ result db',
      transferCuentaSync validatePin db input now = (result, db') := ⟨_, _, rfl⟩
  rw [returned]
  rcases transferCuentaSync_cases keyed formed returned with
    same | ⟨cuenta, source, target, allowed, after | ⟨apart, ⟨version, after⟩ | after⟩⟩
  · exact .idle _ same
  · exact .vacated validatePin input cuenta source target allowed after
  · exact .stranded validatePin input cuenta source target allowed version after
  · refine .transferred validatePin input cuenta source target allowed apart ?_
      (transfer_resaved formed allowed after)
    rw [after]
    rfl

theorem SalonMove.of_open {input : OpenCuentaInput} {cuenta : Cuenta}
    (returned : openCuentaSync db input now = .ok (cuenta, mesa, db')) :
    SalonMove now db db' (.opens input) := by
  obtain ⟨rfl, opened⟩ := openCuentaSync_opened returned
  refine .opened input opened ?_
  obtain ⟨-, -, occupied, occupies, rfl⟩ := openCuentaSync_passed returned
  rcases occupyMesa_saved keyed occupies with rfl | ⟨stored, member, names, nonempty, free, rfl⟩
  · exact .inl rfl
  · exact .inr ⟨stored, member, names, nonempty, free, rfl⟩

omit keyed formed in
theorem SalonMove.of_stateAfter {α : Type} {request : SalonRequest}
    {result : Except DomainError (α × EdgeDb)}
    (done : ∀ value db', result = .ok (value, db') → SalonMove now db db' request) :
    SalonMove now db (stateAfter db result) request := by
  cases result with
  | error e => exact .idle _ rfl
  | ok result => exact done _ _ rfl

omit keyed formed in
theorem SalonMove.of_tablesAfter {α β : Type} {request : SalonRequest}
    {result : Except DomainError (α × β × EdgeDb)}
    (done : ∀ value other db', result = .ok (value, other, db') → SalonMove now db db' request) :
    SalonMove now db (tablesAfter db result) request := by
  cases result with
  | error e => exact .idle _ rfl
  | ok result => exact done _ _ _ rfl

theorem SalonRequest.run_move (request : SalonRequest) :
    SalonMove oracle.stamp.now db (request.run options oracle db) request := by
  cases request with
  | createsMesa input =>
    refine .of_stateAfter db fun _ _ returned => ?_
    obtain ⟨absent, after⟩ := createMesaSync_eq_ok returned
    exact .created input absent after
  | liberatesMesa input =>
    refine .of_stateAfter db fun _ _ returned => ?_
    rcases liberarMesaSync_eq_ok keyed returned with same | ⟨mesa, member, after⟩
    · exact .idle _ same
    · exact .liberated input mesa member after
  | opens input => exact .of_tablesAfter db fun _ _ _ returned => .of_open db formed keyed returned
  | adds cuentaId expectedVersion input =>
    refine .of_stateAfter db fun _ _ returned => ?_
    obtain ⟨cuenta, isId, isOpen, mesas, resaved⟩ := addItem_resaved formed returned
    exact .added cuentaId expectedVersion input cuenta isId isOpen mesas resaved
  | cancelsItem input =>
    refine .of_tablesAfter db fun _ _ _ returned => ?_
    obtain ⟨cuenta, index, item, waste, passes, mesas, resaved⟩ :=
      cancelItem_resaved formed returned
    exact .cancelled input cuenta index item waste (getCuentaById_id passes.found)
      (findItem_eq_ok passes.located).1 mesas resaved
  | transfers input => exact .of_transfer db formed keyed input _ _
  | splits input =>
    rcases splitCuentaSync_splitInto (fun user pin => oracle.validatePin user pin none) formed
      input oracle.stamp.now rfl with ⟨same, -⟩ | ⟨cuenta, saved, rest, planned, into, ends⟩
    · exact .idle _ same
    · exact .split _ input cuenta saved rest _ planned into ends
  | requestsCheck input =>
    refine .of_tablesAfter db fun _ _ _ returned => ?_
    obtain ⟨cuenta, between, isId, active, printed, sameMesa, sameItems, mesas, resaved, marks⟩ :=
      requestCheck_resaved formed returned
    exact .of_check db keyed isId active printed sameMesa sameItems mesas resaved marks
  | closes cuentaId expectedVersion closedStatus =>
    refine .of_tablesAfter db fun _ _ _ returned => ?_
    obtain ⟨cuenta, between, active, mesas, resaved, frees⟩ := closeCuenta_resaved formed returned
    exact .of_close db keyed _ active mesas resaved frees
  | cancelsCuenta input =>
    refine .of_tablesAfter db fun _ _ _ returned => ?_
    obtain ⟨cuenta, between, active, mesas, resaved, frees⟩ := cancelCuenta_resaved formed returned
    exact .of_close db keyed _ active mesas resaved frees
  | reassignsWaiter input =>
    refine .of_stateAfter db fun _ _ returned => ?_
    obtain ⟨cuenta, active, status, mesa, items, mesas, resaved⟩ :=
      reassignWaiter_resaved formed returned
    exact .kept _ cuenta _ active status mesa items mesas resaved
  | changesGuestCount input =>
    refine .of_stateAfter db fun _ _ returned => ?_
    obtain ⟨cuenta, active, status, mesa, items, mesas, resaved⟩ :=
      changeGuestCount_resaved formed returned
    exact .kept _ cuenta _ active status mesa items mesas resaved
  | tenders command =>
    refine .of_stateAfter db fun _ _ returned => ?_
    rcases submitTender_resaved formed returned with same |
      ⟨cuenta, updated, isId, active, mesa, items, mesas, status, resaved⟩
    · exact .idle _ same
    · exact .tendered command cuenta updated isId active mesa items mesas status resaved

end Run

theorem planSplit_ne_nil {validatePin : String → String → Bool} {input : SplitCuentaInput}
    {now : Nat} {cuenta : Cuenta} {subs : List Cuenta}
    (planned : planSplit validatePin db input now = .ok (cuenta, subs)) : subs ≠ [] := by
  obtain ⟨-, -, prorated, -⟩ := planSplit_eq_ok _ planned
  have ids := congrArg List.length (prorateSplit_ids prorated)
  have enough := (prorateSplit_eq_ok prorated).1
  rintro rfl
  simp only [map_nil, length_nil, length_map] at ids
  omega

theorem SplitEnds.mesas (db db' : EdgeDb) (keyed : db.MesasKeyed) (cuenta : Cuenta)
    (saved rest : List Cuenta) (now : Nat) (some : saved ++ rest ≠ [])
    (result : Except DomainError (Cuenta × List Cuenta × Option Mesa))
    (ends : SplitEnds db db' cuenta saved rest now result) :
    (db'.mesas = db.mesas ∧ (db'.cuentaRows cuenta.id = [cuenta.toCuentaRow] ∨
        (rest = [] ∧ ∃ e, relinkMesa db' cuenta saved now = .error e) ∨
        ∀ mesa ∈ db.mesas, mesa.id ≠ "" → cuenta.mesaId ≠ .some mesa.id)) ∨
      ∃ mesa ∈ db.mesas, ∃ sub ∈ saved, cuenta.mesaId = .some mesa.id ∧
        db'.mesas = (db.replaceMesa (relinkedMesa mesa sub.id now)).mesas := by
  cases ends with
  | early e original mesas => exact .inl ⟨mesas, .inl original⟩
  | unlinked e all original mesas fails => exact .inl ⟨mesas, .inr (.inl ⟨all, e, fails⟩)⟩
  | finished between mesa all original mesas relinked =>
    rw [all, append_nil] at some
    obtain ⟨sub, subs, rfl⟩ := exists_cons_of_ne_nil some
    have keyed' := keyed_of_mesas keyed mesas
    rcases relinkMesa_saved keyed' relinked with
      ⟨rfl, unnamed⟩ | ⟨stored, member, names, rfl⟩
    · exact .inl ⟨mesas, .inr (.inr (mesas ▸ unnamed))⟩
    · exact .inr ⟨stored, mesas ▸ member, sub, mem_cons_self, names, mesas_replaceMesa _ mesas⟩

/-! ### What every request keeps -/

section Keeps

variable {now : Nat} {request : SalonRequest}
  (move : SalonMove now db db' request) (formed : db.WellFormed)

include move

theorem SalonMove.keyed (before : db.MesasKeyed) : db'.MesasKeyed := by
  have replaced (mesa : Mesa) (mesas : db'.mesas = (db.replaceMesa mesa).mesas) : db'.MesasKeyed :=
    keyed_of_mesas (replaceMesa_keyed mesa before) mesas
  cases move with
  | idle _ same => exact same ▸ before
  | created input absent after =>
    subst after
    rw [EdgeDb.MesasKeyed, map_append]
    apply Table.nodup_append_singleton before
    intro clash
    obtain ⟨mesa, member, same⟩ := mem_map.mp clash
    have found := (getMesaById_eq_some before input.id mesa).mpr ⟨member, same⟩
    rw [absent] at found
    simp at found
  | liberated _ mesa _ after | vacated _ _ _ _ _ _ after => exact replaced _ (by rw [after])
  | opened _ _ mesas =>
    rcases mesas with same | ⟨mesa, -, -, -, -, after⟩
    · exact keyed_of_mesas before same
    · exact replaced _ after
  | added _ _ _ _ _ _ mesas | cancelled _ _ _ _ _ _ _ mesas | kept _ _ _ _ _ _ _ mesas
  | tendered _ _ _ _ _ _ _ mesas => exact keyed_of_mesas before mesas
  | stranded _ _ _ source _ _ _ after =>
    rw [after]
    exact replaceMesa_keyed _ (replaceMesa_keyed _ before)
  | transferred _ _ _ _ _ _ _ mesas =>
    exact keyed_of_mesas (replaceMesa_keyed _ (replaceMesa_keyed _ before)) mesas
  | split _ _ cuenta saved rest result planned into ends =>
    have some := planSplit_ne_nil planned
    rcases ends.mesas _ _ before _ _ _ _ some with ⟨same, -⟩ | ⟨mesa, -, sub, -, -, after⟩
    · exact keyed_of_mesas before same
    · exact replaced _ after
  | checked _ _ _ _ _ _ _ _ mesas =>
    rcases mesas with same | ⟨mesa, -, -, after⟩
    · exact keyed_of_mesas before same
    · exact replaced _ after
  | closed _ _ _ _ mesas =>
    rcases mesas with ⟨same, -⟩ | ⟨mesa, -, -, after⟩
    · exact keyed_of_mesas before same
    · exact replaced _ after

include formed

theorem SalonMove.wellFormed : db'.WellFormed := by
  cases move with
  | idle _ same => exact same ▸ formed
  | created _ _ after | liberated _ _ _ after | vacated _ _ _ _ _ _ after
  | stranded _ _ _ _ _ _ _ after => exact after ▸ ⟨formed.cuentas, formed.items, formed.owned⟩
  | opened _ account => exact account.wellFormed _ _ _ formed
  | added _ _ _ _ _ _ _ resaved | cancelled _ _ _ _ _ _ _ _ resaved
  | transferred _ _ _ _ _ _ _ _ resaved | checked _ _ _ _ _ _ _ _ _ resaved
  | closed _ _ _ _ _ resaved | kept _ _ _ _ _ _ _ _ resaved | tendered _ _ _ _ _ _ _ _ _ resaved =>
    exact resaved.wellFormed formed
  | split _ _ cuenta saved rest result planned into ends =>
    refine into.wellFormed formed ?_
    rcases ends.original_row with same | ⟨-, annulled⟩
    · exact ⟨_, same⟩
    · exact ⟨_, annulled⟩

end Keeps

def SalonStep (options : PaymentOptions) (db db' : EdgeDb) : Prop :=
  ∃ oracle request, run options oracle db request = db'

structure EmptySalon (db : EdgeDb) : Prop extends NoAccounts db where
  mesas : db.mesas = []

theorem EmptySalon.formed (db : EdgeDb) (empty : EmptySalon db) :
    db.WellFormed ∧ db.MesasKeyed := by
  refine ⟨⟨fun _ => ?_, ?_, fun _ _ => ⟨?_, ?_⟩⟩, ?_⟩
  · simp [EdgeDb.cuentaRows, empty.cuentas]
  · simp [empty.items]
  · simp [EdgeDb.itemRows, empty.items]
  · simp [EdgeDb.pagosOf, empty.pagos]
  · simp [EdgeDb.MesasKeyed, empty.mesas]

theorem SalonStep.formed {options : PaymentOptions} {start : EdgeDb} (empty : EmptySalon start)
    (run : Relation.ReflTransGen (SalonStep options) start db) : db.WellFormed ∧ db.MesasKeyed := by
  induction run with
  | refl => exact empty.formed
  | tail _ step ih =>
    obtain ⟨oracle, request, rfl⟩ := step
    have move := request.run_move options oracle _ ih.1 ih.2
    exact ⟨move.wellFormed ih.1, move.keyed ih.2⟩

/-! ### Sample requests -/

def SalonRequest.next (db : EdgeDb) (request : SalonRequest) : EdgeDb :=
  request.run sampleOptions sampleAccountOracle db

theorem SalonRequest.next_step (db : EdgeDb) (request : SalonRequest) :
    SalonStep sampleOptions db (request.next db) :=
  ⟨sampleAccountOracle, request, rfl⟩

def seatingOf (id mesaId : String) : SalonRequest :=
  .opens { sampleAccount id with mesaId := some mesaId, accountType := .comedor }

end TridentPos.Pos
