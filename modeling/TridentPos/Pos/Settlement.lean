import TridentPos.Library.Interleaving
import TridentPos.Pos.PaymentService

/-!
# Tenders on one account

Any number of `submitTender` calls on one account, suspended and resumed in any order, while
nobody else writes the account, its payments or its `CuentaPagada` events. What keeps the
account balanced is the version: a call that commits has read the row and the payments that
are stored, or the compare-and-swap in `saveCuenta` fails and nothing is written.
-/
namespace TridentPos.Pos

open Core Library Interleaving TenderCall EdgeDb List

/-! ### The calls and their surroundings -/

/-- The tables, and the movements the calls have inserted so far. -/
structure TenderWorld where
  db : EdgeDb
  charged : List MovimientoCaja

def TenderCall.advance (options : PaymentOptions) (oracle : TenderOracle) (world : TenderWorld)
    (call : TenderCall) : TenderWorld × TenderCall :=
  let (db, call) := call.step options oracle world.db
  (⟨db, world.charged ++ db.movimientos.drop world.db.movimientos.length⟩, call)

def TenderStep (options : PaymentOptions) (world : TenderWorld) (call : TenderCall)
    (world' : TenderWorld) (call' : TenderCall) : Prop :=
  ∃ oracle : TenderOracle, call.advance options oracle world = (world', call')

def EdgeDb.pagadaEvents (db : EdgeDb) (cuentaId : String) : List (Edge.EdgeOutboxRecord PosEvent) :=
  (db.cuentaEvents cuentaId).filter fun row => row.action == "CuentaPagada"

structure LeavesAccount (cuentaId : String) (world world' : TenderWorld) : Prop where
  rows : world'.db.cuentaRows cuentaId = world.db.cuentaRows cuentaId
  pagos : world'.db.pagosOf cuentaId = world.db.pagosOf cuentaId
  events : world'.db.pagadaEvents cuentaId = world.db.pagadaEvents cuentaId
  charged : world'.charged = world.charged

variable {command : SubmitTenderCommand} (call : TenderCall) {options : PaymentOptions}

theorem TenderCall.advance_eq {oracle : TenderOracle} {world world' : TenderWorld}
    {call' : TenderCall} (moved : call.advance options oracle world = (world', call')) :
    call.step options oracle world.db = (world'.db, call') ∧
      world'.charged =
        world.charged ++ world'.db.movimientos.drop world.db.movimientos.length := by
  obtain ⟨rfl, rfl⟩ := Prod.mk.inj moved
  exact ⟨rfl, rfl⟩

/-! ### The account's books -/

/-- The amounts of the event's `formasPago` add up to the total and the tips it carries. -/
def CuentaPagadaEvent.Covers (event : CuentaPagadaEvent) (total : Int) : Prop :=
  ∃ tips, decimalValue event.propina = some tips ∧
    (event.formasPago.mapM fun forma => decimalValue forma.amount).map List.sum =
      some (total + tips)

def EventsMatch (row : CuentaRow) (events : List (Edge.EdgeOutboxRecord PosEvent)) : Prop :=
  if row.status = .pagada then
    ∃ record event, events = [record] ∧ record.payload = .cuentaPagada event ∧
      event.Covers row.totalAmount
  else events = []

/-- The account is stored once, its payments do not exceed its total, it is `PAGADA` exactly
when they reach it, no operation paid twice, and the event was sent exactly then. -/
structure BalancedAccount (db : EdgeDb) (cuentaId : String) (row : CuentaRow) : Prop where
  stored : db.cuentaRows cuentaId = [row]
  covered : db.paid cuentaId ≤ row.totalAmount
  settled : row.status = .pagada ↔ db.paid cuentaId = row.totalAmount
  distinct : ((db.pagosOf cuentaId).map Pago.clientOpId).Nodup
  events : EventsMatch row (db.pagadaEvents cuentaId)

/-- What the calls have done to an account that started as `origin` with the payments `before`:
`added` are their payments. -/
structure TenderedAccount (cuentaId : String) (origin : CuentaRow) (before : List Pago)
    (world : TenderWorld) (row : CuentaRow) (added : List Pago) : Prop where
  balanced : BalancedAccount world.db cuentaId row
  total : row.totalAmount = origin.totalAmount
  pagos : world.db.pagosOf cuentaId = before ++ added
  version : row.version = origin.version + added.length
  sales : ∀ movement ∈ world.charged, movement.movementType = .ventaEfectivo
  cash : (world.charged.map MovimientoCaja.amount).sum =
    ((added.filter fun pago => pago.paymentMethod == .efectivo).map
      fun pago => pago.amount + pago.tipAmount).sum

variable {db db' : EdgeDb} {cuentaId : String} {row : CuentaRow}

theorem balancedAccount_of_unpaid (stored : db.cuentaRows cuentaId = [row])
    (owes : 0 < row.totalAmount) (unpaid : db.pagosOf cuentaId = [])
    (payable : row.status ≠ .pagada) (silent : db.pagadaEvents cuentaId = []) :
    BalancedAccount db cuentaId row := by
  have nothing : db.paid cuentaId = 0 := by simp [paid, unpaid, totalPaid]
  refine ⟨stored, by omega, ?_, by simp [unpaid], by simp [EventsMatch, payable, silent]⟩
  constructor
  · exact fun paid => absurd paid payable
  · intro reached
    omega

/-! ### What a call has seen -/

/-- The account a call holds is not newer than the stored row, and is that row while the
versions agree. -/
structure Seen (cuentaId : String) (db : EdgeDb) (cuenta : Cuenta) : Prop where
  id : cuenta.id = cuentaId
  version : ∀ row ∈ db.cuentaRows cuentaId, cuenta.version ≤ row.version
  current : ∀ row ∈ db.cuentaRows cuentaId, row.version = cuenta.version → cuenta.toCuentaRow = row
  payable : cuenta.status = .abierta ∨ cuenta.status = .impresa

def InStep (options : PaymentOptions) (cuentaId : String) (db : EdgeDb) (call : TenderCall) :
    Prop :=
  call.command.cuentaId = cuentaId ∧
  match call.state with
  | .payments cuenta => Seen cuentaId db cuenta ∧ 0 < call.command.amount
  | .commit cuenta existing params =>
    Seen cuentaId db cuenta ∧ 0 < call.command.amount ∧
    (∀ row ∈ db.cuentaRows cuentaId, row.version = cuenta.version →
      existing.Perm (db.pagosOf cuentaId)) ∧
    ∃ stamp, buildSettlement options.service call.command cuenta existing stamp = .ok params
  | _ => True

theorem InStep.of_same {call : TenderCall} (rows : db'.cuentaRows cuentaId = db.cuentaRows cuentaId)
    (pagos : db'.pagosOf cuentaId = db.pagosOf cuentaId) (inStep : InStep options cuentaId db call) :
    InStep options cuentaId db' call := by
  obtain ⟨about, seen⟩ := inStep
  refine ⟨about, ?_⟩
  have keep (cuenta : Cuenta) (old : Seen cuentaId db cuenta) : Seen cuentaId db' cuenta :=
    ⟨old.id, rows ▸ old.version, rows ▸ old.current, old.payable⟩
  cases state : call.state with
  | payments cuenta =>
    rw [state] at seen
    exact ⟨keep cuenta seen.1, seen.2⟩
  | commit cuenta existing params =>
    rw [state] at seen
    obtain ⟨account, positive, payments, built⟩ := seen
    exact ⟨keep cuenta account, positive, by rwa [rows, pagos], built⟩
  | _ => trivial

theorem InStep.of_newer {call : TenderCall} {row' : CuentaRow}
    (stored : db.cuentaRows cuentaId = [row]) (stored' : db'.cuentaRows cuentaId = [row'])
    (newer : row.version < row'.version) (inStep : InStep options cuentaId db call) :
    InStep options cuentaId db' call := by
  obtain ⟨about, seen⟩ := inStep
  refine ⟨about, ?_⟩
  have stale (cuenta : Cuenta) (old : Seen cuentaId db cuenta) : cuenta.version < row'.version := by
    have := old.version row (by simp [stored])
    omega
  have keep (cuenta : Cuenta) (old : Seen cuentaId db cuenta) : Seen cuentaId db' cuenta := by
    have behind := stale cuenta old
    refine ⟨old.id, ?_, ?_, old.payable⟩
    · intro found member
      obtain rfl : found = row' := by simpa [stored'] using member
      omega
    · intro found member same
      obtain rfl : found = row' := by simpa [stored'] using member
      omega
  cases state : call.state with
  | payments cuenta =>
    rw [state] at seen
    exact ⟨keep cuenta seen.1, seen.2⟩
  | commit cuenta existing params =>
    rw [state] at seen
    obtain ⟨account, positive, -, built⟩ := seen
    refine ⟨keep cuenta account, positive, ?_, built⟩
    intro found member same
    obtain rfl : found = row' := by simpa [stored'] using member
    have := stale cuenta account
    omega
  | _ => trivial

theorem InStep.of_step {oracle : TenderOracle} {call call' : TenderCall}
    (unique : (db.cuentaRows cuentaId).length ≤ 1) (inStep : InStep options cuentaId db call)
    (moved : call.step options oracle db = (db, call')) : InStep options cuentaId db call' := by
  obtain ⟨command, kinds⟩ := step_cases moved
  obtain ⟨about, seen⟩ := inStep
  refine ⟨by rw [command, about], ?_⟩
  rcases kinds with ⟨-, free⟩ | ⟨-, cuenta, reads, accepted⟩ |
    ⟨-, cuenta, params, was, built, reads⟩ | ⟨cuenta, existing, params, saved, result, -, -, finished⟩
  · cases state : call'.state <;> simp_all [TenderState.holdsAccount]
  · -- the account was read just now
    rw [reads, command]
    obtain ⟨found, payable, positive⟩ := checkAccount_eq_ok accepted
    rw [about] at found
    obtain ⟨read, -, isId⟩ := getCuentaById_eq_some found
    have stored := cuentaRows_of_findCuenta unique read
    have isRow (other : CuentaRow) (member : other ∈ db.cuentaRows cuentaId) :
        other = cuenta.toCuentaRow := by simpa [stored] using member
    refine ⟨⟨isId, ?_, ?_, payable⟩, positive⟩
    · intro other member
      rw [isRow other member]
    · intro other member _
      rw [isRow other member]
  · -- the payments were read just now
    rw [was] at seen
    rw [reads, command]
    refine ⟨seen.1, seen.2, fun _ _ _ => ?_, oracle.stamp, built⟩
    rw [about]
    exact listPaymentsByCuentaId_perm db cuentaId
  · rw [finished]
    trivial

/-! ### What a settlement does to the account -/

theorem remainingOf_covers {total paid amount : Int} (positive : 0 < amount)
    (within : amount ≤ remainingOf total paid) : paid + amount ≤ total := by
  unfold remainingOf at within
  split at within <;> omega

theorem remainingOf_eq_zero (total paid : Int) : remainingOf total paid = 0 ↔ total ≤ paid := by
  unfold remainingOf
  split <;> omega

theorem mapM_formaPago (pagos : List Pago) :
    (pagos.map formaPago).mapM (fun forma => decimalValue forma.amount) =
      some (pagos.map fun pago => pago.amount + pago.tipAmount) := by
  induction pagos with
  | nil => rfl
  | cons pago pagos ih =>
    simp only [map_cons, mapM_cons, ih]
    simp [formaPago, decimalValue_scaledBigIntToDecimalString]

theorem cuentaPagadaOf_covers (options : TenantOptions) (cuenta : Cuenta) {tips total : Int}
    {pagos : List Pago} (now : Nat) (paid : totalPaid pagos = total)
    (tipped : totalTips pagos = tips) :
    (cuentaPagadaOf options cuenta tips pagos now).Covers total := by
  refine ⟨tips, decimalValue_scaledBigIntToDecimalString tips, ?_⟩
  have listed : (pagos.map fun pago => pago.amount + pago.tipAmount).sum = total + tips := by
    rw [← paid, ← tipped]
    exact sum_map_add
  simp only [cuentaPagadaOf, mapM_formaPago, Option.map_some, listed]

section Settled

variable (options : TenantOptions) (db : EdgeDb) (params : AtomicSettlementParams)
  (cuentaId : String)

theorem settledDb_cuentaRows {row : CuentaRow} (stored : db.cuentaRows cuentaId = [row])
    (about : params.updatedCuenta.id = cuentaId)
    (swapped : ∃ found ∈ db.cuentas, found.id = params.updatedCuenta.id ∧
      found.version = params.updatedCuenta.version - 1) :
    row.version = params.updatedCuenta.version - 1 ∧
      (settledDb options db params).cuentaRows cuentaId =
        [overwriteCuenta params.updatedCuenta.toCuentaRow row] := by
  have rows := swapCuenta_cuentaRows params.updatedCuenta (params.updatedCuenta.version - 1) row
    (about ▸ stored) swapped
  rw [about] at rows
  exact rows

theorem settledDb_pagosOf (about : params.pago.cuentaId = cuentaId) :
    (settledDb options db params).pagosOf cuentaId = db.pagosOf cuentaId ++ [params.pago] := by
  simp [pagosOf, settledDb, about]

theorem settledDb_cuentaEvents (about : params.pago.cuentaId = cuentaId) :
    (settledDb options db params).cuentaEvents cuentaId =
      db.cuentaEvents cuentaId ++ params.cuentaPagadaEvent.toList.map fun event =>
        Edge.pendingRow db.outbox (cuentaPagadaOutbox options params event) := by
  cases event : params.cuentaPagadaEvent with
  | none => simp [cuentaEvents, settledDb, event]
  | some event' =>
    simp [cuentaEvents, settledDb, event, cuentaPagadaOutbox, Edge.pendingRow, about]

theorem settledDb_pagadaEvents (about : params.pago.cuentaId = cuentaId) :
    (settledDb options db params).pagadaEvents cuentaId =
      db.pagadaEvents cuentaId ++ params.cuentaPagadaEvent.toList.map fun event =>
        Edge.pendingRow db.outbox (cuentaPagadaOutbox options params event) := by
  rw [pagadaEvents, settledDb_cuentaEvents options db params cuentaId about,
    filter_append, ← pagadaEvents]
  cases params.cuentaPagadaEvent with
  | none => rfl
  | some event => simp [cuentaPagadaOutbox, Edge.pendingRow]

theorem settledDb_other (updated : params.updatedCuenta.id ≠ cuentaId)
    (pago : params.pago.cuentaId ≠ cuentaId) :
    (settledDb options db params).cuentaRows cuentaId = db.cuentaRows cuentaId ∧
      (settledDb options db params).pagosOf cuentaId = db.pagosOf cuentaId ∧
      (settledDb options db params).cuentaEvents cuentaId = db.cuentaEvents cuentaId := by
  refine ⟨swapCuenta_cuentaRows_other params.updatedCuenta _ cuentaId (Ne.symm updated), ?_, ?_⟩
  · simp [pagosOf, settledDb, pago]
  · cases event : params.cuentaPagadaEvent with
    | none => simp [cuentaEvents, settledDb, event]
    | some event' =>
      simp [cuentaEvents, settledDb, event, cuentaPagadaOutbox, Edge.pendingRow, pago]

end Settled

theorem findPaymentByClientOpId_eq_none {clientOpId : String}
    (absent : db.findPaymentByClientOpId cuentaId clientOpId = none) :
    clientOpId ∉ (db.pagosOf cuentaId).map Pago.clientOpId := by
  simp only [findPaymentByClientOpId, find?_eq_none, Bool.and_eq_true, beq_iff_eq,
    not_and] at absent
  simp only [mem_map, pagosOf, mem_filter, beq_iff_eq, not_exists, not_and]
  intro pago member same
  exact absent pago member.1 member.2 same

/-! ### Commits -/

structure Commits (options : PaymentOptions) (db db' : EdgeDb) (call : TenderCall)
    (cuenta : Cuenta) (existing : List Pago) (params : AtomicSettlementParams) : Prop where
  state : call.state = .commit cuenta existing params
  stored : db.cuentaRows call.command.cuentaId = [cuenta.toCuentaRow]
  payable : cuenta.status = .abierta ∨ cuenta.status = .impresa
  positive : 0 < call.command.amount
  allRead : existing.Perm (db.pagosOf call.command.cuentaId)
  built : ∃ stamp, buildSettlement options.service call.command cuenta existing stamp = .ok params
  fresh : call.command.clientOpId ∉ (db.pagosOf call.command.cuentaId).map Pago.clientOpId
  accepted : params.cuentaPagadaEvent ≠ none → isValidUuidV4 params.pago.clientOpId ∧
    params.updatedCuenta.version ≤ maxSafeInteger
  settled : db' = settledDb options.repository db params
  rows : db'.cuentaRows call.command.cuentaId =
    [overwriteCuenta params.updatedCuenta.toCuentaRow cuenta.toCuentaRow]

variable {call : TenderCall} {cuenta : Cuenta} {existing : List Pago}
  {params : AtomicSettlementParams}

/-- A settlement that passed the compare-and-swap was built from the stored row and the stored
payments; else the operation had been paid before. -/
theorem commit_current {interruption : Option DomainError} {saved : Pago}
    (stored : db.cuentaRows cuentaId = [row])
    (inStep : InStep options cuentaId db call) (state : call.state = .commit cuenta existing params)
    (committed : executeAtomicSettlement options.repository db params interruption =
      .ok (saved, db')) :
    (db' = db ∧ db.findPaymentByClientOpId cuentaId call.command.clientOpId = some saved) ∨
    (Commits options db db' call cuenta existing params ∧ saved = params.pago ∧
      db.findPaymentByClientOpId cuentaId call.command.clientOpId = none) := by
  obtain ⟨rfl, seen⟩ := inStep
  rw [state] at seen
  obtain ⟨seen, positive, current, stamp, built⟩ := seen
  obtain ⟨idUpdated, version, idPago, opPago⟩ := buildSettlement_ids built
  have isUpdated := idUpdated.trans seen.id
  have known : db.findCuenta params.updatedCuenta.id ≠ none := by
    rw [isUpdated, findCuenta_of_cuentaRows db _ stored]
    simp
  have settles := executeAtomicSettlement_eq_ok known committed
  rw [idPago, opPago] at settles
  rcases settles with ⟨found, same⟩ | ⟨absent, isSaved, -, swapped, accepted, rfl⟩
  · exact .inl ⟨same, found⟩
  obtain ⟨sameVersion, rows⟩ :=
    settledDb_cuentaRows options.repository db params _ stored isUpdated swapped
  have isRow : row ∈ db.cuentaRows call.command.cuentaId := by simp [stored]
  have versions : row.version = cuenta.version := by omega
  obtain rfl := seen.current row isRow versions
  refine .inr ⟨⟨state, stored, seen.payable, positive, current _ isRow rfl, ⟨stamp, built⟩,
    findPaymentByClientOpId_eq_none absent, fun sends => ?_, rfl, rows⟩, isSaved, absent⟩
  obtain ⟨event, isEvent⟩ := Option.ne_none_iff_exists'.mp sends
  rw [opPago]
  exact ⟨(accepted event isEvent).1, (accepted event isEvent).2.1⟩

section Commit

variable (commits : Commits options db db' call cuenta existing params)

include commits

theorem Commits.id : cuenta.id = call.command.cuentaId := cuentaRows_id commits.stored

theorem Commits.params_eq : ∃ stamp cashGiven changeDue, params =
    settlementParams options.service call.command cuenta existing stamp cashGiven changeDue := by
  obtain ⟨stamp, built⟩ := commits.built
  exact ⟨stamp, (buildSettlement_eq_ok built).2⟩

theorem Commits.readPaid : totalPaid existing = db.paid call.command.cuentaId :=
  totalPaid_perm commits.allRead

theorem Commits.pagosOf :
    db'.pagosOf call.command.cuentaId = db.pagosOf call.command.cuentaId ++ [params.pago] := by
  obtain ⟨stamp, built⟩ := commits.built
  rw [commits.settled]
  exact settledDb_pagosOf _ _ _ _ (buildSettlement_ids built).2.2.1

theorem Commits.unpaid : cuenta.status ≠ .pagada := by
  rcases commits.payable with isOpen | printed
  · simp [isOpen]
  · simp [printed]

theorem Commits.newRow : ∃ row, db'.cuentaRows call.command.cuentaId = [row] ∧
    row.subtotal = cuenta.subtotal ∧ row.taxTotal = cuenta.taxTotal ∧
    row.discountsTotal = cuenta.discountsTotal ∧ row.totalAmount = cuenta.totalAmount ∧
    row.parentCuentaId = cuenta.parentCuentaId ∧
    row.tipsTotal = totalTips (db'.pagosOf call.command.cuentaId) ∧
    row.version = cuenta.version + 1 ∧
    db'.paid call.command.cuentaId = db.paid call.command.cuentaId + call.command.amount ∧
    db'.paid call.command.cuentaId ≤ row.totalAmount ∧
    row.status =
      if db'.paid call.command.cuentaId = row.totalAmount then .pagada else cuenta.status := by
  have pagos := commits.pagosOf
  obtain ⟨stamp, built⟩ := commits.built
  obtain ⟨within, cashGiven, changeDue, rfl⟩ := buildSettlement_eq_ok built
  have readTips : totalTips existing = totalTips (db.pagosOf call.command.cuentaId) :=
    totalTips_perm commits.allRead
  have paid : db'.paid call.command.cuentaId =
      db.paid call.command.cuentaId + call.command.amount := by
    rw [EdgeDb.paid, pagos, totalPaid_append, ← EdgeDb.paid]
    simp [totalPaid, settlementParams, newPago]
  have fits := remainingOf_covers commits.positive within
  refine ⟨_, commits.rows, rfl, rfl, rfl, rfl, rfl, ?_, rfl, paid, ?_, ?_⟩
  · rw [pagos, totalTips_append, ← readTips]
    simp [overwriteCuenta, settlementParams, settledCuenta, totalTips, newPago]
  · rw [paid, ← commits.readPaid]
    exact fits
  · rw [paid, ← commits.readPaid]
    simp only [overwriteCuenta, settlementParams, settledCuenta, beq_iff_eq, remainingOf_eq_zero]
    by_cases reached : totalPaid existing + call.command.amount = cuenta.totalAmount
    · rw [if_pos reached, if_pos reached.ge]
    · rw [if_neg reached, if_neg (by omega)]

theorem Commits.balanced (balanced : BalancedAccount db call.command.cuentaId cuenta.toCuentaRow)
    (rows : db'.cuentaRows call.command.cuentaId = [row]) :
    BalancedAccount db' call.command.cuentaId row := by
  obtain ⟨row', rows', -, -, -, total, -, -, -, paid, within, status⟩ := commits.newRow
  obtain rfl : row' = row := by simpa [rows'] using rows
  have pagos := commits.pagosOf
  obtain ⟨stamp, built⟩ := commits.built
  obtain ⟨-, -, idPago, opPago⟩ := buildSettlement_ids built
  have settled : row'.status = .pagada ↔ db'.paid call.command.cuentaId = row'.totalAmount := by
    rw [status]
    split
    next reached => simp [reached]
    next short => simp [short, commits.unpaid]
  refine ⟨rows, within, settled, ?_, ?_⟩
  · rw [pagos, map_append, nodup_append]
    refine ⟨balanced.distinct, by simp, ?_⟩
    intro op member last isLast
    obtain rfl : last = call.command.clientOpId := by simpa [opPago] using isLast
    exact fun same => commits.fresh (same ▸ member)
  · have silent : db.pagadaEvents call.command.cuentaId = [] := by
      have before := balanced.events
      rwa [EventsMatch, if_neg commits.unpaid] at before
    have readPaid := commits.readPaid
    obtain ⟨-, cashGiven, changeDue, isParams⟩ := buildSettlement_eq_ok built
    rw [EventsMatch, commits.settled, settledDb_pagadaEvents _ _ _ _ idPago, silent]
    have event : params.cuentaPagadaEvent =
        if row'.status = .pagada then
          some (cuentaPagadaOf options.service cuenta (totalTips existing + tipOf call.command)
            (existing ++ [params.pago]) stamp.now)
        else none := by
      have reaches : remainingOf cuenta.totalAmount (totalPaid existing + call.command.amount) = 0 ↔
          row'.status = .pagada := by
        rw [remainingOf_eq_zero, settled]
        omega
      rw [isParams]
      simp [settlementParams, reaches]
    split
    next hit =>
      rw [event, if_pos hit]
      refine ⟨_, _, rfl, rfl, cuentaPagadaOf_covers _ _ _ ?_ ?_⟩
      · rw [← settled.mp hit, EdgeDb.paid, pagos, totalPaid_append, totalPaid_append, readPaid]
        rfl
      · rw [totalTips_append, isParams]
        simp [totalTips, settlementParams, newPago]
    next miss =>
      rw [event, if_neg miss]
      rfl

end Commit

/-! ### Every step, every run -/

theorem cashMovementOf_amount (command : SubmitTenderCommand) (cuenta : Cuenta) (stamp : Stamp)
    (cashGiven changeDue : Option Int) :
    ((cashMovementOf command cuenta stamp).toList.map MovimientoCaja.amount).sum =
      (([newPago command stamp cashGiven changeDue].filter
        fun pago => pago.paymentMethod == .efectivo).map
          fun pago => pago.amount + pago.tipAmount).sum := by
  cases method : command.paymentMethod <;> simp [cashMovementOf, newPago, method]

theorem cashMovementOf_sale {cuenta : Cuenta} {stamp : Stamp} {movement : MovimientoCaja}
    (member : movement ∈ (cashMovementOf command cuenta stamp).toList) :
    movement.movementType = .ventaEfectivo := by
  cases method : command.paymentMethod <;> simp [cashMovementOf, method] at member
  subst member
  rfl

def Tendered (cuentaId : String) (origin : CuentaRow) (before : List Pago) (world : TenderWorld) :
    Prop :=
  ∃ row added, TenderedAccount cuentaId origin before world row added

section Runs

variable (options : PaymentOptions) (cuentaId : String) (origin : CuentaRow) {before : List Pago}
  {world world' : TenderWorld}

section Step

variable {call call' : TenderCall} {row : CuentaRow}
  (stored : world.db.cuentaRows cuentaId = [row]) (inStep : InStep options cuentaId world.db call)
  (step : TenderStep options world call world' call')

include stored inStep step

theorem TenderStep.cases : world' = world ∨ call'.state.holdsAccount = false ∧
    ∃ cuenta existing params, Commits options world.db world'.db call cuenta existing params ∧
      row = cuenta.toCuentaRow ∧ world'.charged = world.charged ++ params.cashMovement.toList := by
  obtain ⟨oracle, advanced⟩ := step
  obtain ⟨moved, charged⟩ := advance_eq _ advanced
  obtain ⟨-, kinds⟩ := step_cases moved
  have unchanged (same : world'.db = world.db) : world' = world := by
    cases world; cases world'; simp_all
  rcases kinds with ⟨same, -⟩ | ⟨same, -⟩ | ⟨same, -⟩ |
    ⟨cuenta, existing, params, saved, result, state, committed, finished⟩
  · exact .inl (unchanged same)
  · exact .inl (unchanged same)
  · exact .inl (unchanged same)
  rcases commit_current stored inStep state committed with ⟨same, -⟩ | ⟨commits, -⟩
  · exact .inl (unchanged same)
  obtain rfl := inStep.1
  refine .inr ⟨by rw [finished]; rfl, cuenta, existing, params, commits, ?_, ?_⟩
  · simpa [commits.stored] using stored.symm
  · rw [charged, commits.settled]
    simp [settledDb]

theorem TenderStep.keepsStep : (∃ row', world'.db.cuentaRows cuentaId = [row']) ∧
    InStep options cuentaId world'.db call' ∧
    ∀ other, InStep options cuentaId world.db other → InStep options cuentaId world'.db other := by
  have reached := TenderStep.cases options cuentaId stored inStep step
  obtain ⟨oracle, advanced⟩ := step
  obtain ⟨moved, -⟩ := advance_eq _ advanced
  rcases reached with rfl | ⟨released, cuenta, existing, params, commits, rfl, -⟩
  · exact ⟨⟨row, stored⟩, InStep.of_step (by simp [stored]) inStep moved, fun _ waits => waits⟩
  obtain ⟨row', rows, -, -, -, -, -, -, version, -⟩ := commits.newRow
  obtain ⟨rfl, -⟩ := inStep
  refine ⟨⟨row', rows⟩, ⟨by rw [(step_cases moved).1], ?_⟩,
    fun other => InStep.of_newer stored rows (by omega)⟩
  cases state : call'.state <;> simp_all [TenderState.holdsAccount]

end Step

theorem TenderStep.tendered {call call' : TenderCall}
    (tendered : Tendered cuentaId origin before world)
    (inStep : InStep options cuentaId world.db call)
    (step : TenderStep options world call world' call') :
    Tendered cuentaId origin before world' := by
  obtain ⟨row, added, tendered⟩ := tendered
  rcases TenderStep.cases options cuentaId tendered.balanced.stored inStep step with
    rfl | ⟨-, cuenta, existing, params, commits, rfl, inserted⟩
  · exact ⟨row, added, tendered⟩
  obtain rfl := inStep.1
  obtain ⟨row', rows, -, -, -, total, -, -, version, -⟩ := commits.newRow
  obtain ⟨stamp, cashGiven, changeDue, isParams⟩ := commits.params_eq
  have versions := tendered.version
  refine ⟨row', added ++ [params.pago], commits.balanced tendered.balanced rows,
    total.trans tendered.total, ?_, ?_, ?_, ?_⟩
  · rw [commits.pagosOf, tendered.pagos, append_assoc]
  · rw [length_append, length_singleton]
    omega
  · intro movement member
    rw [inserted, mem_append] at member
    rcases member with earlier | now
    · exact tendered.sales movement earlier
    · rw [isParams] at now
      exact cashMovementOf_sale now
  · rw [inserted, map_append, sum_append, tendered.cash, filter_append,
      map_append, sum_append, isParams]
    exact congrArg _ (cashMovementOf_amount _ _ _ _ _)

theorem Tendered.of_leaves (tendered : Tendered cuentaId origin before world)
    (leaves : LeavesAccount cuentaId world world') : Tendered cuentaId origin before world' := by
  obtain ⟨row, added, balanced, total, pagos, version, sales, cash⟩ := tendered
  refine ⟨row, added, ⟨?_, ?_, ?_, ?_, ?_⟩, total, ?_, version, ?_, ?_⟩
  · rw [leaves.rows, balanced.stored]
  · simpa only [paid, leaves.pagos] using balanced.covered
  · simpa only [paid, leaves.pagos] using balanced.settled
  · rw [leaves.pagos]
    exact balanced.distinct
  · rw [leaves.events]
    exact balanced.events
  · rw [leaves.pagos, pagos]
  · rw [leaves.charged]
    exact sales
  · rw [leaves.charged]
    exact cash

/-- Calls that start on a balanced account leave it balanced, whatever the order of their
steps, with one version for each of their payments and one cash sale for each in cash. -/
theorem tenders_keep_account_balanced (db : EdgeDb) (calls : List TenderCall)
    (start : BalancedAccount db cuentaId origin)
    (begun : ∀ call ∈ calls, call.command.cuentaId = cuentaId ∧ call.state = .lookup)
    (pool : Pool TenderWorld TenderCall)
    (run : Reachable (TenderStep options) (LeavesAccount cuentaId)
      ⟨⟨db, []⟩, calls⟩ pool) :
    ∃ row added,
      TenderedAccount cuentaId origin (db.pagosOf cuentaId) pool.shared row added := by
  have holds := Holds.reachable (Tendered cuentaId origin (db.pagosOf cuentaId))
    (fun world call => InStep options cuentaId world.db call) ?_ ?_ ?_ ?_ ?_ run
  · exact holds.1
  · rintro world call world' call' ⟨row, added, tendered⟩ inStep step
    exact ⟨TenderStep.tendered options cuentaId origin ⟨row, added, tendered⟩ inStep step,
      (TenderStep.keepsStep options cuentaId tendered.balanced.stored inStep step).2.1⟩
  · rintro world call world' call' other ⟨row, added, tendered⟩ inStep waits step
    exact (TenderStep.keepsStep options cuentaId tendered.balanced.stored inStep step).2.2 other waits
  · exact fun tendered leaves => Tendered.of_leaves _ _ tendered leaves
  · exact fun _ inStep leaves => InStep.of_same leaves.rows leaves.pagos inStep
  · refine ⟨⟨origin, [], start, rfl, by simp, by simp, by simp, by simp⟩, ?_⟩
    intro call member
    obtain ⟨about, state⟩ := begun call member
    refine ⟨about, ?_⟩
    rw [state]
    trivial

end Runs

/-! ### Two tenders racing for one account -/

def TenderCall.advances (options : PaymentOptions) (oracle : TenderOracle) :
    Nat → TenderWorld × TenderCall → TenderWorld × TenderCall
  | 0, reached => reached
  | n + 1, (world, call) =>
    advances options oracle n (call.advance options oracle world)

theorem reachable_advances (options : PaymentOptions) (oracle : TenderOracle) (cuentaId : String)
    (earlier later : List TenderCall) (n : Nat) (world : TenderWorld) (call : TenderCall) :
    Reachable (TenderStep options) (LeavesAccount cuentaId)
      ⟨world, earlier ++ call :: later⟩
      ⟨(advances options oracle n (world, call)).1,
        earlier ++ (advances options oracle n (world, call)).2 :: later⟩ := by
  induction n generalizing world call with
  | zero => exact .refl
  | succ n ih =>
    exact .head (.call _ _ _ _ earlier later ⟨oracle, rfl⟩)
      (ih (call.advance options oracle world).1 (call.advance options oracle world).2)

def sampleOptions : PaymentOptions :=
  { service := { organizationId := none, branchId := none, stationId := none }
    repository := { organizationId := none, branchId := none, stationId := none } }

def sampleCuentaRow : CuentaRow :=
  { id := "c", folioNumber := none, epochId := "ep_1", mesaId := none, accountType := .mostrador
    status := .abierta, subtotal := 1000000, taxTotal := 0, discountsTotal := 0, tipsTotal := 0
    totalAmount := 1000000, openedByUserId := "ana", currentWaiterUserId := none, guestCount := 1
    openedAt := 0, printedAt := none, closedAt := none, parentCuentaId := none
    splitSequence := none, version := 2, updatedAt := 0 }

def sampleTurnoRow : TurnoCajaRow :=
  { id := "t", organizationId := "o", branchId := "b", stationId := "s"
    responsibleUserId := "ana", openedByUserId := "ana", shiftNumber := 1, openingCashFloat := 0
    closingDeclaredCash := none, calculatedCashTotal := none, cashDifference := none
    status := .abierto, assignmentStrategy := "SINGLE", openedAt := 0, closedAt := none
    version := 1, updatedAt := 0 }

def sampleShiftDb : EdgeDb := { empty with turnos := [sampleTurnoRow] }

def sampleDb : EdgeDb := { empty with cuentas := [sampleCuentaRow], turnos := [sampleTurnoRow] }

def sampleTender (method : PaymentMethod) (amount tip : Int) (clientOpId : String) :
    SubmitTenderCommand :=
  { cuentaId := "c", turnoCajaId := "t", operatorUserId := "ana", operatorPin := "1234"
    paymentMethod := method, amount := amount, tipAmount := some tip, cashGiven := none
    referenceAuthCode := none, clientOpId := clientOpId }

/-- Sixty in cash with a tip of five, sent twice under two operations, and forty by card. -/
def sampleCash : TenderCall :=
  ⟨sampleTender .efectivo 600000 50000 "11111111-1111-4111-8111-111111111111", .lookup⟩

def sampleCard : TenderCall :=
  ⟨sampleTender .tarjeta 400000 0 "22222222-2222-4222-8222-222222222222", .lookup⟩

def sampleRetry : TenderCall :=
  ⟨sampleTender .efectivo 600000 50000 "33333333-3333-4333-8333-333333333333", .lookup⟩

def sampleOracle (name : String) : TenderOracle :=
  { pinValid := true, stamp := { now := 1, pagoId := name, movementId := name }, interruption := none }

def sampleSuspended : TenderWorld × TenderCall :=
  advances sampleOptions (sampleOracle "p1") 5 (⟨sampleDb, []⟩, sampleCash)

def sampleOvertaken : TenderWorld × TenderCall :=
  advances sampleOptions (sampleOracle "p2") 6 (sampleSuspended.1, sampleCard)

def sampleRefused : TenderWorld × TenderCall :=
  advances sampleOptions (sampleOracle "p1") 1 (sampleOvertaken.1, sampleSuspended.2)

def sampleSettled : TenderWorld × TenderCall :=
  advances sampleOptions (sampleOracle "p3") 6 (sampleRefused.1, sampleRetry)

theorem sample_reachable :
    Reachable (TenderStep sampleOptions) (LeavesAccount "c")
      ⟨⟨sampleDb, []⟩, [sampleCash, sampleCard, sampleRetry]⟩
      ⟨sampleSettled.1, [sampleRefused.2, sampleOvertaken.2, sampleSettled.2]⟩ := by
  refine .trans (reachable_advances _ (sampleOracle "p1") _ [] [sampleCard, sampleRetry] 5 _ _) ?_
  refine .trans
    (reachable_advances _ (sampleOracle "p2") _ [sampleSuspended.2] [sampleRetry] 6 _ _) ?_
  refine .trans
    (reachable_advances _ (sampleOracle "p1") _ [] [sampleOvertaken.2, sampleRetry] 1 _ _) ?_
  exact reachable_advances _ (sampleOracle "p3") _ [sampleRefused.2, sampleOvertaken.2] [] 6 _ _

theorem sampleDb_balanced : BalancedAccount sampleDb "c" sampleCuentaRow :=
  balancedAccount_of_unpaid (by decide) (by decide) (by decide) (by decide) (by decide)

theorem sample_race_keeps_account_balanced :
    (∃ row added, TenderedAccount "c" sampleCuentaRow [] sampleSettled.1 row added) ∧
      ((sampleSettled.1.db.pagosOf "c").map Pago.amount = [400000, 600000] ∧
        (sampleSettled.1.db.cuentaRows "c").map CuentaRow.status = [.pagada]) :=
  ⟨tenders_keep_account_balanced sampleOptions "c" sampleCuentaRow sampleDb
    [sampleCash, sampleCard, sampleRetry] sampleDb_balanced
    (by simp [sampleCash, sampleCard, sampleRetry, sampleTender]) _ sample_reachable,
    by decide +kernel⟩

end TridentPos.Pos
