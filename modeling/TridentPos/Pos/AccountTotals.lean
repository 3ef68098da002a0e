import TridentPos.Pos.AccountBooks
import TridentPos.Pos.HeldAccounts

/-!
# Totals of open accounts

Accounts are opened, served, corrected and paid in parts, with tenders suspended in between. The
totals of an account are written by the dining service, which counts the tips in `totalAmount`,
and by the payment service, which moves `tipsTotal` alone. They agree with the stored items while
no item id is used twice and a tender with a tip pays all that is left.
-/
namespace TridentPos.Pos

open Core Library Interleaving Fallible EdgeDb

/-! ### Runs -/

inductive DiningRequest where
  | opens (input : OpenCuentaInput)
  | adds (cuentaId : String) (expectedVersion : Nat) (input : AddItemInput)
  | cancels (input : CancelItemInput)

def DiningRequest.run (validatePin : String → String → Bool) (db : EdgeDb) (now : Nat) :
    DiningRequest → Except DomainError (Cuenta × EdgeDb)
  | .opens input => do
    let (cuenta, _, db) ← openCuentaSync db input now
    return (cuenta, db)
  | .adds cuentaId expectedVersion input =>
    addItemToCuentaSync db cuentaId expectedVersion input now
  | .cancels input => do
    let (cuenta, _, db) ← cancelItemSync validatePin db input now
    return (cuenta, db)

def DiningRequest.ItemFree (db : EdgeDb) : DiningRequest → Prop
  | .adds cuentaId _ input => ItemIdFree db cuentaId input.id
  | _ => True

instance (db : EdgeDb) : DecidablePred (DiningRequest.ItemFree db) := fun request => by
  cases request <;> unfold DiningRequest.ItemFree <;> infer_instance

/-- A tender about to commit carries no tip, or pays all that is left of the account. -/
def TipSettles (db : EdgeDb) (call : TenderCall) : Prop :=
  ∀ cuenta existing params, call.state = .commit cuenta existing params →
    0 < tipOf call.command → ∀ row ∈ db.cuentaRows call.command.cuentaId,
      call.command.amount = row.totalAmount - db.paid call.command.cuentaId

open DiningRequest

def DiningMove (db db' : EdgeDb) : Prop :=
  ∃ validatePin request now saved, run validatePin db now request = .ok (saved, db')

def FreeDiningMove (db db' : EdgeDb) : Prop :=
  ∃ validatePin request now saved, request.ItemFree db ∧
    run validatePin db now request = .ok (saved, db')

def SettlingTenderMove (options : PaymentOptions) (db : EdgeDb) (call : TenderCall) (db' : EdgeDb)
    (call' : TenderCall) : Prop :=
  TipSettles db call ∧ TenderMove options db call db' call'

structure NoAccounts (db : EdgeDb) : Prop where
  cuentas : db.cuentas = []
  items : db.items = []
  pagos : db.pagos = []

/-! ### The invariant -/

structure Tallied (row : CuentaRow) (items : List CuentaItem) : Prop where
  subtotal : row.subtotal = activeSum CuentaItem.subtotal items
  taxTotal : row.taxTotal = activeSum CuentaItem.taxAmountApplied items
  discountsTotal : row.discountsTotal = activeSum CuentaItem.discountAmountApplied items
  totalAmount : row.totalAmount = activeSum CuentaItem.total items + row.tipsTotal

/-- Open accounts are tallied, and every account carries the tips of its payments. -/
structure Booked (db : EdgeDb) : Prop where
  wellFormed : db.WellFormed
  tips : ∀ id row, db.cuentaRows id = [row] → row.tipsTotal = totalTips (db.pagosOf id)
  tallied : ∀ id row, db.cuentaRows id = [row] → row.status = .abierta →
    Tallied row (db.itemRows id)

/-- How a step changes an account for the calls that hold it. -/
inductive BooksMove (id : String) (db db' : EdgeDb) : Prop
  | same (rows : db'.cuentaRows id = db.cuentaRows id) (pagos : db'.pagosOf id = db.pagosOf id)
      (items : db'.itemRows id = db.itemRows id)
  | opened (rows : db.cuentaRows id = [])
  | newer (row row' : CuentaRow) (rows : db.cuentaRows id = [row])
      (rows' : db'.cuentaRows id = [row']) (version : row.version < row'.version)

def ItemsHeld (db : EdgeDb) (call : TenderCall) : Prop :=
  match call.state with
  | .payments cuenta | .commit cuenta _ _ =>
    ∀ row ∈ db.cuentaRows cuenta.id, row.version = cuenta.version →
      ∀ item ∈ cuenta.items, item ∈ db.itemRows cuenta.id
  | _ => True

def Follows (options : PaymentOptions) (db : EdgeDb) (call : TenderCall) : Prop :=
  Attends options call.command.cuentaId db call ∧ ItemsHeld db call

theorem Tallied.of_sums {row : CuentaRow} {items items' : List CuentaItem}
    (tallied : Tallied row items) (same : SameSums items items') : Tallied row items' := by
  obtain ⟨subtotal, taxTotal, discountsTotal, totalAmount⟩ := tallied
  constructor
  · rw [subtotal, same _ (by simp [amountColumns])]
  · rw [taxTotal, same _ (by simp [amountColumns])]
  · rw [discountsTotal, same _ (by simp [amountColumns])]
  · rw [totalAmount, same _ (by simp [amountColumns])]

variable (options : PaymentOptions) (db : EdgeDb) (call : TenderCall)

theorem NoAccounts.booked (empty : NoAccounts db) : Booked db := by
  obtain ⟨cuentas, items, pagos⟩ := empty
  refine ⟨⟨?_, ?_, ?_⟩, ?_, ?_⟩
  · simp [cuentaRows, cuentas]
  · simp [items]
  · simp [itemRows, pagosOf, items, pagos]
  · simp [cuentaRows, cuentas]
  · simp [cuentaRows, cuentas]

/-! ### Dining requests -/

variable {db' : EdgeDb}

theorem Booked.of_opened {input : OpenCuentaInput} {now : Nat} (booked : Booked db)
    (opened : Opened db db' (newCuenta input now)) : Booked db' ∧ ∀ id, BooksMove id db db' := by
  obtain ⟨noItems, noPagos⟩ := booked.wellFormed.owned _ opened.missing
  have items (id : String) : db'.itemRows id = db.itemRows id := by
    rw [itemRows, opened.items, itemRows]
  have pagos (id : String) : db'.pagosOf id = db.pagosOf id := by
    rw [pagosOf, opened.pagos, pagosOf]
  refine ⟨⟨opened.wellFormed _ _ _ booked.wellFormed, ?_, ?_⟩, ?_⟩
  · simp only [pagos]
    refine forall_rows_of_written opened.rows opened.otherRows ?_ fun id row _ => booked.tips id row
    rw [noPagos]
    rfl
  · simp only [items]
    refine forall_rows_of_written opened.rows opened.otherRows ?_ fun id row _ =>
      booked.tallied id row
    rw [noItems]
    exact fun _ => ⟨rfl, rfl, rfl, rfl⟩
  · intro id
    by_cases mine : id = (newCuenta input now).id
    · exact .opened (mine ▸ opened.missing)
    · exact .same (opened.otherRows id mine) (pagos id) (items id)

variable {cuenta : Cuenta}

theorem Booked.of_reitemed {items : List CuentaItem} {now : Nat} (booked : Booked db)
    (reitemed : Reitemed db db' cuenta items now) : Booked db' ∧ ∀ id, BooksMove id db db' := by
  have pagos (id : String) : db'.pagosOf id = db.pagosOf id := by
    rw [pagosOf, reitemed.pagos, pagosOf]
  refine ⟨⟨reitemed.wellFormed booked.wellFormed, ?_, ?_⟩, ?_⟩
  · simp only [pagos]
    have before := booked.tips _ _ reitemed.stored
    exact forall_rows_of_written reitemed.rows reitemed.otherRows before fun id row _ =>
      booked.tips id row
  · refine forall_rows_of_written reitemed.rows reitemed.otherRows ?_ ?_
    · -- the service wrote the sums over the items it saved
      exact fun _ => Tallied.of_sums ⟨rfl, rfl, rfl, rfl⟩ reitemed.sums
    · intro id row apart
      rw [reitemed.otherItems id apart]
      exact booked.tallied id row
  · intro id
    by_cases mine : id = cuenta.id
    · subst mine
      exact .newer _ _ reitemed.stored reitemed.rows (by simp [withItems])
    · exact .same (reitemed.otherRows id mine) (pagos id) (reitemed.otherItems id mine)

theorem FreeDiningMove.booked {db : EdgeDb} (booked : Booked db) (move : FreeDiningMove db db') :
    Booked db' ∧ ∀ id, BooksMove id db db' := by
  obtain ⟨validatePin, request, now, saved, free, returned⟩ := move
  cases request with
  | opens input =>
    simp only [run, bind_eq_ok, pure_eq_ok, Prod.mk.injEq] at returned
    obtain ⟨⟨cuenta, mesa, after⟩, opens, rfl, rfl⟩ := returned
    obtain ⟨rfl, opened⟩ := openCuentaSync_opened opens
    exact booked.of_opened _ opened
  | adds cuentaId expectedVersion input =>
    obtain ⟨cuenta, -, -, reitemed⟩ := addItemToCuentaSync_reitemed booked.wellFormed free returned
    exact booked.of_reitemed _ reitemed
  | cancels input =>
    simp only [run, bind_eq_ok, pure_eq_ok, Prod.mk.injEq] at returned
    obtain ⟨⟨cuenta, item, after⟩, cancels, rfl, rfl⟩ := returned
    obtain ⟨cuenta, index, item, -, -, -, -, -, -, reitemed⟩ := cancelItemSync_reitemed
      booked.wellFormed cancels
    exact booked.of_reitemed _ reitemed

/-! ### Tenders -/

theorem Booked.of_commit {call : TenderCall} {existing : List Pago}
    {params : AtomicSettlementParams} (commits : Commits options db db' call cuenta existing params)
    (booked : Booked db) (settles : TipSettles db call)
    (held : ∀ item ∈ cuenta.items, item ∈ db.itemRows call.command.cuentaId) :
    Booked db' ∧ ∀ id, BooksMove id db db' := by
  obtain ⟨row', rows, subtotal, taxTotal, discountsTotal, totalAmount, -, tips, version, paid,
    -, status⟩ := commits.newRow
  have items := commits.items booked.wellFormed.items held
  have sameItems (id : String) : db'.itemRows id = db.itemRows id := by
    rw [itemRows, items, itemRows]
  have others := commits.other
  have otherRows := fun id apart => (others id apart).1
  refine ⟨⟨commits.wellFormed booked.wellFormed items, ?_, ?_⟩, ?_⟩
  · refine forall_rows_of_written rows otherRows tips fun id row apart stored => ?_
    rw [(others id apart).2]
    exact booked.tips id row stored
  · simp only [sameItems]
    refine forall_rows_of_written rows otherRows (fun isOpen => ?_) fun id row _ =>
      booked.tallied id row
    have partly : db'.paid call.command.cuentaId ≠ row'.totalAmount := by
      intro reached
      rw [if_pos reached] at status
      simp [status] at isOpen
    rw [if_neg partly, isOpen] at status
    have untipped : tipOf call.command = 0 := by
      by_contra tipped
      have nonneg := tipOf_nonneg call.command
      have left := settles cuenta existing params commits.state (by omega) cuenta.toCuentaRow
        (by simp [commits.stored])
      omega
    have sameTips : row'.tipsTotal = cuenta.tipsTotal := by
      have before := booked.tips _ _ commits.stored
      obtain ⟨stamp, cashGiven, changeDue, isParams⟩ := commits.params_eq
      rw [tips, commits.pagosOf, totalTips_append, ← before, isParams]
      simp [totalTips, settlementParams, newPago, untipped]
    have tallied := booked.tallied _ _ commits.stored status.symm
    exact ⟨subtotal.trans tallied.subtotal, taxTotal.trans tallied.taxTotal,
      discountsTotal.trans tallied.discountsTotal,
      by rw [totalAmount, sameTips]; exact tallied.totalAmount⟩
  · intro id
    by_cases mine : id = call.command.cuentaId
    · subst mine
      exact .newer _ row' commits.stored rows (by rw [version]; exact Nat.lt_succ_self _)
    · exact .same (others id mine).1 (others id mine).2 (sameItems id)

/-! ### Calls between their steps -/

theorem BooksMove.rowsMove (id : String) (db db' : EdgeDb) (move : BooksMove id db db') :
    RowsMove id db db' ∧ (db.cuentaRows id ≠ [] → db'.cuentaRows id ≠ []) := by
  cases move with
  | same rows pagos items => exact ⟨.same rows pagos, fun known => by rwa [rows]⟩
  | opened none => exact ⟨.opened none, fun known => absurd none known⟩
  | newer row row' rows rows' version => exact ⟨.newer row row' rows rows' version, by simp [rows']⟩

theorem ItemsHeld.of_free (free : call.state.holdsAccount = false) : ItemsHeld db call := by
  unfold ItemsHeld
  cases state : call.state <;> simp_all [TenderState.holdsAccount]

theorem ItemsHeld.of_cuenta {db : EdgeDb} (move : BooksMove cuenta.id db db')
    (known : db.cuentaRows cuenta.id ≠ []) (seen : Seen cuenta.id db cuenta)
    (held : ∀ row ∈ db.cuentaRows cuenta.id, row.version = cuenta.version →
      ∀ item ∈ cuenta.items, item ∈ db.itemRows cuenta.id) :
    ∀ row ∈ db'.cuentaRows cuenta.id, row.version = cuenta.version →
      ∀ item ∈ cuenta.items, item ∈ db'.itemRows cuenta.id := by
  cases move with
  | same rows pagos items =>
    rw [rows, items]
    exact held
  | opened none => exact absurd none known
  | newer row row' rows rows' version =>
    -- the account has moved on
    intro found member current
    obtain rfl : found = row' := by simpa [rows'] using member
    have behind := seen.version row (by simp [rows])
    omega

theorem Follows.of_move {call : TenderCall} (moves : ∀ id, BooksMove id db db')
    (follows : Follows options db call) : Follows options db' call := by
  obtain ⟨attends, items⟩ := follows
  refine ⟨attends.of_move (moves _).rowsMove.1 fun id => (moves id).rowsMove.2, ?_⟩
  obtain ⟨held, inStep⟩ := attends
  obtain ⟨-, seen⟩ := inStep rfl
  unfold ItemsHeld at items ⊢
  unfold Held at held
  split at items
  next cuenta state =>
    rw [state] at held seen
    exact ItemsHeld.of_cuenta (moves _) held.2 (held.1 ▸ seen.1) items
  next cuenta existing params state =>
    rw [state] at held seen
    exact ItemsHeld.of_cuenta (moves _) held.2.1 (held.1 ▸ seen.1) items
  next => trivial

theorem ItemsHeld.of_step {oracle : TenderOracle} {db : EdgeDb} {call call' : TenderCall}
    (items : ItemsHeld db call) (moved : call.step options oracle db = (db, call')) :
    ItemsHeld db call' := by
  rcases (TenderCall.step_cases moved).2 with ⟨-, free⟩ | ⟨-, cuenta, reads, accepted⟩ |
    ⟨-, cuenta, params, was, -, reads⟩ | ⟨cuenta, existing, params, saved, result, -, -, finished⟩
  · exact .of_free db call' free
  · obtain ⟨found, -, -⟩ := checkAccount_eq_ok accepted
    simp only [ItemsHeld, reads]
    intro row _ _ item member
    obtain ⟨stored, mine⟩ := getCuentaById_items found item member
    exact List.mem_filter.mpr ⟨stored, by simp [mine]⟩
  · simp only [ItemsHeld, was] at items
    simp only [ItemsHeld, reads]
    exact items
  · exact .of_free db call' (by simp [finished, TenderState.holdsAccount])

theorem SettlingTenderMove.booked {options : PaymentOptions} {db : EdgeDb} {call call' : TenderCall}
    (booked : Booked db) (follows : Follows options db call)
    (move : SettlingTenderMove options db call db' call') :
    Booked db' ∧ (∀ id, BooksMove id db db') ∧ Follows options db' call' := by
  obtain ⟨settles, move⟩ := move
  obtain ⟨attends, items⟩ := follows
  obtain ⟨command, attends', same | ⟨free, cuenta, existing, params, commits⟩⟩ :=
    TenderMove.reads_or_commits (booked.wellFormed.cuentas _) attends move
  · subst same
    obtain ⟨oracle, moved⟩ := move
    exact ⟨booked, fun _ => .same rfl rfl rfl, command ▸ attends', items.of_step _ moved⟩
  · have held : ∀ item ∈ cuenta.items, item ∈ db.itemRows call.command.cuentaId := by
      simp only [ItemsHeld, commits.state] at items
      rw [← commits.id]
      exact items cuenta.toCuentaRow (by simp [commits.id, commits.stored]) rfl
    obtain ⟨booked', moves⟩ := booked.of_commit _ _ commits settles held
    exact ⟨booked', moves, command ▸ attends', .of_free db' call' free⟩

/-! ### Every run -/

theorem Booked.reachable {calls : List TenderCall} (start : NoAccounts db)
    (begun : ∀ call ∈ calls, call.state = .lookup) {pool : Pool EdgeDb TenderCall}
    (run : Reachable (SettlingTenderMove options) FreeDiningMove ⟨db, calls⟩ pool) :
    Booked pool.shared := by
  refine (Holds.reachable Booked (Follows options) ?_ ?_ ?_ ?_ ?_ run).1
  · intro db call db' call' booked follows move
    obtain ⟨booked', -, follows'⟩ := SettlingTenderMove.booked booked follows move
    exact ⟨booked', follows'⟩
  · intro db call db' call' other booked follows waits move
    obtain ⟨-, moves, -⟩ := SettlingTenderMove.booked booked follows move
    exact waits.of_move _ _ moves
  · exact fun booked move => (move.booked booked).1
  · exact fun booked follows move => follows.of_move _ _ (move.booked booked).2
  · refine ⟨start.booked, fun call member => ?_⟩
    have state := begun call member
    exact ⟨⟨by simp [Held, state], fun about => ⟨about, by rw [state]; trivial⟩⟩,
      .of_free db call (by simp [state, TenderState.holdsAccount])⟩

/-- With free item ids and tips that settle, an open account that is read back carries the sums
over its items that are not cancelled, and adding an item raises its total by the item's. -/
theorem open_accounts_tallied (options : PaymentOptions) (db : EdgeDb) (calls : List TenderCall)
    (start : NoAccounts db) (begun : ∀ call ∈ calls, call.state = .lookup)
    (pool : Pool EdgeDb TenderCall)
    (run : Reachable (SettlingTenderMove options) FreeDiningMove ⟨db, calls⟩ pool) :
    (∀ id cuenta, pool.shared.getCuentaById id = some cuenta → cuenta.status = .abierta →
      Tallied cuenta.toCuentaRow cuenta.items) ∧
    ∀ id expectedVersion input now saved db',
      addItemToCuentaSync pool.shared id expectedVersion input now = .ok (saved, db') →
      ∃ before after, pool.shared.getCuentaById id = some before ∧
        db'.getCuentaById id = some after ∧
        after.totalAmount = before.totalAmount + (newItem id input now).total := by
  have booked := Booked.reachable options db start begun run
  have tallied (id : String) (cuenta : Cuenta) (found : pool.shared.getCuentaById id = some cuenta)
      (isOpen : cuenta.status = .abierta) : Tallied cuenta.toCuentaRow cuenta.items := by
    have stored := getCuentaById_stored booked.wellFormed found
    refine Tallied.of_sums (booked.tallied _ _ stored isOpen) fun column _ => ?_
    exact (activeSum_read found column).symm
  refine ⟨tallied, ?_⟩
  intro id expectedVersion input now saved db' returned
  obtain ⟨cuenta, found, isOpen, -, rfl, swapped, rfl⟩ := addItemToCuentaSync_eq_ok returned
  have isId := getCuentaById_id found
  have stored := getCuentaById_stored booked.wellFormed found
  have read := findCuenta_of_cuentaRows _ _ (swapCuenta_cuentaRows
    (withNewItem cuenta id input now) expectedVersion _ stored swapped).2
  have sameId : (withNewItem cuenta id input now).id = id := isId
  rw [sameId] at read
  refine ⟨cuenta, _, found, by rw [getCuentaById, read]; rfl, ?_⟩
  have before := (tallied id cuenta found isOpen).totalAmount
  simp only [overwriteCuenta, withNewItem, withItems, recalculateCuentaTotals, activeSum_append]
  simp only [counted, newItem, reduceCtorEq, if_false]
  omega

/-! ### An account served twice and paid in parts -/

def DiningRequest.next (db : EdgeDb) (request : DiningRequest) : EdgeDb :=
  stateAfter db (request.run (fun _ _ => true) db 0)

theorem DiningRequest.run_next (request : DiningRequest)
    (accepted : (request.run (fun _ _ => true) db 0).isOk) :
    ∃ saved, request.run (fun _ _ => true) db 0 = .ok (saved, request.next db) :=
  eq_ok_stateAfter db _ accepted

theorem DiningRequest.next_free (request : DiningRequest) (free : request.ItemFree db)
    (accepted : (request.run (fun _ _ => true) db 0).isOk) :
    FreeDiningMove db (request.next db) := by
  obtain ⟨saved, returned⟩ := request.run_next db accepted
  exact ⟨_, request, 0, saved, free, returned⟩

def sampleAccount (id : String) : OpenCuentaInput :=
  { id := id, mesaId := none, epochId := "ep_1", accountType := .mostrador
    openedByUserId := "ana", currentWaiterUserId := none, guestCount := none }

def sampleOpening : DiningRequest := .opens (sampleAccount "c")

def sampleItem (id : String) : AddItemInput :=
  { id := id, productId := "p", productNameSnapshot := "Taco", unitPriceApplied := 1000000
    quantity := 10000, taxRateApplied := 0, discountAmountApplied := none }

def sampleMistake (itemId : String) (version : Nat) : CancelItemInput :=
  { cuentaId := "c", itemId := itemId, expectedVersion := version, reason := "error"
    operatorUserId := "ana", operatorPin := "1234", supervisorPin := none, kitchenStatus := none }

def sampleCorrection : DiningRequest := .cancels (sampleMistake "i" 2)

def sampleBegun : EdgeDb := (adds "c" 1 (sampleItem "i")).next (sampleOpening.next sampleShiftDb)

def sampleReordered : EdgeDb :=
  (adds "c" 3 (sampleItem "i")).next (sampleCorrection.next sampleBegun)

def sampleRepeated : EdgeDb := (adds "c" 2 (sampleItem "i")).next sampleBegun

def sampleTipped : EdgeDb × TenderCall :=
  TenderCall.run sampleOptions (sampleOracle "p1") 6 (sampleBegun, sampleCash)

def samplePartlyPaid : EdgeDb × TenderCall :=
  TenderCall.run sampleOptions (sampleOracle "p1") 6 (sampleReordered, sampleCard)

/-- A tip left with the first part of the bill, or an item id sent twice, and the totals no
longer are those of the stored items. -/
theorem tip_and_repeated_id_break_totals :
    NoAccounts sampleShiftDb ∧
    (Reachable (TenderMove sampleOptions) DiningMove
        ⟨sampleShiftDb, [sampleCash]⟩ ⟨sampleTipped.1, [sampleTipped.2]⟩ ∧
      ∃ cuenta, sampleTipped.1.getCuentaById "c" = some cuenta ∧ cuenta.status = .abierta ∧
        cuenta.totalAmount ≠ activeSum CuentaItem.total cuenta.items + cuenta.tipsTotal) ∧
    (Reachable (TenderMove sampleOptions) DiningMove
        ⟨sampleShiftDb, [sampleCash]⟩ ⟨sampleRepeated, [sampleCash]⟩ ∧
      ∃ cuenta, sampleRepeated.getCuentaById "c" = some cuenta ∧ cuenta.status = .abierta ∧
        cuenta.subtotal ≠ activeSum CuentaItem.subtotal cuenta.items) := by
  obtain ⟨_, opens⟩ := sampleOpening.run_next sampleShiftDb (by decide +kernel)
  obtain ⟨_, serves⟩ := (adds "c" 1 (sampleItem "i")).run_next
    (sampleOpening.next sampleShiftDb) (by decide +kernel)
  obtain ⟨_, repeats⟩ := (adds "c" 2 (sampleItem "i")).run_next sampleBegun (by decide +kernel)
  have begun : Reachable (TenderMove sampleOptions) DiningMove
      ⟨sampleShiftDb, [sampleCash]⟩ ⟨sampleBegun, [sampleCash]⟩ :=
    .head (.others _ _ _ ⟨_, _, _, _, opens⟩) (.single (.others _ _ _ ⟨_, _, _, _, serves⟩))
  refine ⟨⟨rfl, rfl, rfl⟩, ⟨?_, _, rfl, by decide +kernel, by decide +kernel⟩, ?_, _, rfl,
    by decide +kernel, by decide +kernel⟩
  · exact begun.trans (reachable_run sampleOptions _ (sampleOracle "p1") [] [] 6 _ _
      fun _ _ => ⟨_, rfl⟩)
  · exact begun.tail (.others _ _ _ ⟨_, _, _, _, repeats⟩)

theorem sample_settling_run :
    Reachable (SettlingTenderMove sampleOptions) FreeDiningMove
      ⟨sampleShiftDb, [sampleCard]⟩ ⟨samplePartlyPaid.1, [samplePartlyPaid.2]⟩ := by
  have opens := sampleOpening.next_free sampleShiftDb trivial (by decide +kernel)
  have serves := (adds "c" 1 (sampleItem "i")).next_free
    (sampleOpening.next sampleShiftDb) (by decide +kernel) (by decide +kernel)
  have corrects := sampleCorrection.next_free sampleBegun trivial (by decide +kernel)
  have reorders := (adds "c" 3 (sampleItem "i")).next_free
    (sampleCorrection.next sampleBegun) (by decide +kernel) (by decide +kernel)
  refine .head (.others _ _ _ opens) (.head (.others _ _ _ serves) ?_)
  refine .head (.others _ _ _ corrects) (.head (.others _ _ _ reorders) ?_)
  refine reachable_run sampleOptions _ (sampleOracle "p1") [] [] 6 sampleReordered sampleCard
    fun k lt => ⟨?_, _, rfl⟩
  -- the command of a call stays, and this one has no tip
  have untipped : ∀ k < 6, tipOf (TenderCall.run sampleOptions (sampleOracle "p1") k
      (sampleReordered, sampleCard)).2.command = 0 := by
    decide +kernel
  intro cuenta existing params _ tipped
  exact absurd (untipped k lt) tipped.ne'

theorem sample_totals_tallied :
    (∃ cuenta, samplePartlyPaid.1.getCuentaById "c" = some cuenta ∧ cuenta.status = .abierta ∧
      Tallied cuenta.toCuentaRow cuenta.items) ∧
    ∃ before after, samplePartlyPaid.1.getCuentaById "c" = some before ∧
      ((adds "c" 5 (sampleItem "j")).next samplePartlyPaid.1).getCuentaById "c" = some after ∧
      after.totalAmount = before.totalAmount + 1000000 := by
  obtain ⟨tallied, raises⟩ := open_accounts_tallied sampleOptions sampleShiftDb [sampleCard]
    ⟨rfl, rfl, rfl⟩ (by simp [sampleCard]) ⟨samplePartlyPaid.1, [samplePartlyPaid.2]⟩
    sample_settling_run
  obtain ⟨_, serves⟩ := (adds "c" 5 (sampleItem "j")).run_next samplePartlyPaid.1
    (by decide +kernel)
  refine ⟨⟨_, rfl, by decide +kernel, tallied "c" _ rfl (by decide +kernel)⟩, ?_⟩
  exact raises "c" 5 (sampleItem "j") 0 _ _ serves

end TridentPos.Pos
