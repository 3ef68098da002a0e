import TridentPos.Pos.Settlement

/-!
# What a tender answers

The result of `submitTender` is put together from reads made before the transaction and from what
the transaction returns. It describes the stored account exactly when the transaction inserted the
payment, or, for a call that found its payment at once, when the account was not settled between
the reads of the account and of its payments.
-/
namespace TridentPos.Pos

open Core Library Interleaving TenderCall

/-- A result that describes the account as it is stored after the last step of the call. -/
structure DescribesAccount (cuentaId : String) (before after : EdgeDb)
    (command : SubmitTenderCommand) (result : PaymentSettlementResult) : Prop where
  pago : after.findPaymentByClientOpId cuentaId command.clientOpId = some result.pago
  totalPaid : result.totalPaid = after.paid cuentaId
  totalTips : result.totalTips = Pos.totalTips (after.pagosOf cuentaId)
  remaining : ∀ row ∈ after.cuentaRows cuentaId,
    result.remainingBalance = remainingOf row.totalAmount (after.paid cuentaId)
  settled : ∀ row ∈ after.cuentaRows cuentaId, result.accountSettled ↔ row.status = .pagada
  replay : result.isIdempotentReplay ↔ after.pagosOf cuentaId = before.pagosOf cuentaId

/-- Before its last step, a call has not been overtaken: by a payment of its own operation, or, if
it repeats one, by the settlement of the account it has read. -/
def NotOvertaken (cuentaId : String) (db : EdgeDb) (call : TenderCall) : Prop :=
  match call.state with
  | .commit .. => db.findPaymentByClientOpId cuentaId call.command.clientOpId = none
  | .replayPayments _ cuenta =>
    ∀ row ∈ db.cuentaRows cuentaId, row.status = .pagada → cuenta.status = .pagada
  | _ => True

/-! ### What a call that repeats a payment has read -/

theorem findPaymentByClientOpId_eq (db : EdgeDb) (cuentaId clientOpId : String) :
    db.findPaymentByClientOpId cuentaId clientOpId =
      (db.pagosOf cuentaId).find? fun pago => pago.clientOpId == clientOpId := by
  rw [EdgeDb.findPaymentByClientOpId, EdgeDb.pagosOf, List.find?_filter]
  simp only [Bool.decide_and, Bool.decide_eq_true]

/-- The payment of a repeated operation stays the one that is found, and the account keeps its
total and stays settled. -/
def ReplayRead (cuentaId : String) (db : EdgeDb) (call : TenderCall) : Prop :=
  match call.state with
  | .replayAccount pago => db.findPaymentByClientOpId cuentaId call.command.clientOpId = some pago
  | .replayPayments pago cuenta =>
    db.findPaymentByClientOpId cuentaId call.command.clientOpId = some pago ∧
    ∀ row ∈ db.cuentaRows cuentaId,
      cuenta.totalAmount = row.totalAmount ∧ (cuenta.status = .pagada → row.status = .pagada)
  | _ => True

/-- How the account may change: it keeps its total, is not reopened, and payments are added. -/
structure AccountAdvances (cuentaId : String) (db db' : EdgeDb) : Prop where
  rows : ∀ row' ∈ db'.cuentaRows cuentaId, ∃ row ∈ db.cuentaRows cuentaId,
    row'.totalAmount = row.totalAmount ∧ (row.status = .pagada → row'.status = .pagada)
  pagos : ∃ added, db'.pagosOf cuentaId = db.pagosOf cuentaId ++ added

variable {db' : EdgeDb}

theorem AccountAdvances.of_same (cuentaId : String) {db : EdgeDb}
    (rows : db'.cuentaRows cuentaId = db.cuentaRows cuentaId)
    (pagos : db'.pagosOf cuentaId = db.pagosOf cuentaId) : AccountAdvances cuentaId db db' where
  rows row' member := ⟨row', rows ▸ member, rfl, id⟩
  pagos := ⟨[], by rw [pagos, List.append_nil]⟩

variable {cuentaId : String}

theorem AccountAdvances.found {clientOpId : String} {db : EdgeDb} {pago : Pago}
    (advances : AccountAdvances cuentaId db db')
    (found : db.findPaymentByClientOpId cuentaId clientOpId = some pago) :
    db'.findPaymentByClientOpId cuentaId clientOpId = some pago := by
  obtain ⟨added, pagos⟩ := advances.pagos
  rw [findPaymentByClientOpId_eq] at found ⊢
  rw [pagos, List.find?_append, found, Option.some_or]

variable {params : AtomicSettlementParams} {db : EdgeDb} {call : TenderCall}

theorem ReplayRead.of_advances (advances : AccountAdvances cuentaId db db')
    (read : ReplayRead cuentaId db call) : ReplayRead cuentaId db' call := by
  unfold ReplayRead at read ⊢
  cases state : call.state with
  | replayAccount pago =>
    simp only [state] at read ⊢
    exact advances.found read
  | replayPayments pago cuenta =>
    simp only [state] at read ⊢
    obtain ⟨found, account⟩ := read
    refine ⟨advances.found found, fun row' member => ?_⟩
    obtain ⟨row, stored, total, stays⟩ := advances.rows row' member
    obtain ⟨sameTotal, closed⟩ := account row stored
    exact ⟨sameTotal.trans total.symm, fun paid => stays (closed paid)⟩
  | _ => trivial

variable {options : PaymentOptions}

theorem ReplayRead.of_step {oracle : TenderOracle} {db : EdgeDb} {call call' : TenderCall}
    (about : call.command.cuentaId = cuentaId) (unique : (db.cuentaRows cuentaId).length ≤ 1)
    (advances : AccountAdvances cuentaId db db') (read : ReplayRead cuentaId db call)
    (moved : call.step options oracle db = (db', call')) : ReplayRead cuentaId db' call' := by
  obtain ⟨command, state⟩ := call
  obtain rfl : command.cuentaId = cuentaId := about
  cases state with
  | lookup =>
    simp only [step] at moved
    split at moved <;> obtain ⟨rfl, rfl⟩ := Prod.mk.inj moved
    next pago found => exact found
    next => trivial
  | replayAccount pago =>
    simp only [step] at moved
    split at moved <;> obtain ⟨rfl, rfl⟩ := Prod.mk.inj moved
    next => trivial
    next cuenta account =>
      obtain ⟨found, -, -⟩ := getCuentaById_eq_some account
      have stored := cuentaRows_of_findCuenta unique found
      refine ⟨read, fun row member => ?_⟩
      obtain rfl : row = cuenta.toCuentaRow := by simpa [stored] using member
      exact ⟨rfl, id⟩
  | _ =>
    -- the other states do not lead to a replay
    simp only [step] at moved
    repeat' split at moved
    all_goals
      obtain ⟨rfl, rfl⟩ := Prod.mk.inj moved
      trivial

/-! ### The last step -/

variable {result : PaymentSettlementResult}

theorem TenderCall.step_resolves {oracle : TenderOracle} (call call' : TenderCall)
    (moved : call.step options oracle db = (db', call'))
    (resolved : call'.state = .done (.ok result)) :
    call.state = .done (.ok result) ∨
    (∃ pago cuenta, call.state = .replayPayments pago cuenta ∧ db' = db ∧
      result = replayResult pago cuenta (db.listPaymentsByCuentaId call.command.cuentaId)) ∨
    (∃ cuenta existing params saved, call.state = .commit cuenta existing params ∧
      executeAtomicSettlement options.repository db params oracle.interruption = .ok (saved, db') ∧
      result = settlementResult call.command saved cuenta existing params) := by
  obtain ⟨command, state⟩ := call
  cases state with
  | replayPayments pago cuenta =>
    obtain ⟨rfl, rfl⟩ := Prod.mk.inj moved
    simp only [TenderState.done.injEq, Except.ok.injEq] at resolved
    exact .inr (.inl ⟨pago, cuenta, rfl, rfl, resolved.symm⟩)
  | commit cuenta existing params =>
    simp only [step] at moved
    split at moved <;> obtain ⟨rfl, rfl⟩ := Prod.mk.inj moved
    next => simp at resolved
    next saved after committed =>
      simp only [TenderState.done.injEq, Except.ok.injEq] at resolved
      exact .inr (.inr ⟨cuenta, existing, params, saved, rfl, committed, resolved.symm⟩)
  | done finished =>
    obtain ⟨rfl, rfl⟩ := Prod.mk.inj moved
    exact .inl resolved
  | _ =>
    -- the other states go on reading or fail
    simp only [step] at moved
    repeat' split at moved
    all_goals
      obtain ⟨rfl, rfl⟩ := Prod.mk.inj moved
      simp at resolved

section Resolved

variable (options : PaymentOptions) (cuentaId : String) {cuenta : Cuenta} {row : CuentaRow}

theorem replay_describes_iff {pago : Pago} (stored : db.cuentaRows cuentaId = [row])
    (about : call.command.cuentaId = cuentaId) (state : call.state = .replayPayments pago cuenta)
    (read : ReplayRead cuentaId db call) :
    DescribesAccount cuentaId db db call.command
      (replayResult pago cuenta (db.listPaymentsByCuentaId call.command.cuentaId)) ↔
    NotOvertaken cuentaId db call := by
  simp only [ReplayRead, state] at read
  obtain ⟨found, account⟩ := read
  obtain ⟨sameTotal, closed⟩ := account row (by simp [stored])
  have paid := totalPaid_perm (listPaymentsByCuentaId_perm db cuentaId)
  have tips := totalTips_perm (listPaymentsByCuentaId_perm db cuentaId)
  have settled : (cuenta.status == .pagada) ↔ cuenta.status = .pagada := by simp
  rw [about]
  simp only [NotOvertaken, state, stored, List.mem_singleton, forall_eq]
  constructor
  · intro describes
    have agrees := describes.settled row (by simp [stored])
    exact fun isPaid => settled.mp (agrees.mpr isPaid)
  · intro current
    refine ⟨found, paid, tips, ?_, ?_, by simp [replayResult]⟩ <;> intro other member
    · obtain rfl : other = row := by simpa [stored] using member
      rw [← sameTotal, EdgeDb.paid, ← paid]
      rfl
    · obtain rfl : other = row := by simpa [stored] using member
      exact settled.trans ⟨closed, current⟩

theorem Commits.describes {existing : List Pago}
    (commits : Commits options db db' call cuenta existing params)
    (absent : db.findPaymentByClientOpId call.command.cuentaId call.command.clientOpId = none) :
    DescribesAccount call.command.cuentaId db db' call.command
      (settlementResult call.command params.pago cuenta existing params) := by
  obtain ⟨row, rows, -, -, -, total, -, -, -, paid, within, status⟩ := commits.newRow
  have pagos := commits.pagosOf
  have readPaid := commits.readPaid
  obtain ⟨stamp, cashGiven, changeDue, isParams⟩ := commits.params_eq
  have stored {other : CuentaRow} (member : other ∈ db'.cuentaRows call.command.cuentaId) :
      other = row := by simpa [rows] using member
  refine ⟨?_, ?_, ?_, ?_, ?_, by simp [pagos, settlementResult]⟩
  · rw [findPaymentByClientOpId_eq] at absent
    rw [findPaymentByClientOpId_eq, pagos, List.find?_append, absent, isParams]
    simp [settlementParams, newPago, settlementResult]
  · rw [paid, ← readPaid]
    rfl
  · rw [pagos, totalTips_append, ← totalTips_perm commits.allRead, isParams]
    simp [totalTips, settlementParams, newPago, settlementResult]
  · intro other member
    rw [stored member, total, paid, ← readPaid]
    rfl
  · intro other member
    rw [stored member, status, settlementResult, beq_iff_eq, remainingOf_eq_zero, readPaid]
    split
    next reached => simp; omega
    next short => simp only [commits.unpaid, iff_false]; omega

theorem commit_describes_iff {db' : EdgeDb} {existing : List Pago}
    {interruption : Option DomainError} {saved : Pago} (stored : db.cuentaRows cuentaId = [row])
    (inStep : InStep options cuentaId db call) (state : call.state = .commit cuenta existing params)
    (committed : executeAtomicSettlement options.repository db params interruption =
      .ok (saved, db')) :
    DescribesAccount cuentaId db db' call.command
      (settlementResult call.command saved cuenta existing params) ↔
    NotOvertaken cuentaId db call := by
  simp only [NotOvertaken, state]
  rcases commit_current stored inStep state committed with ⟨rfl, found⟩ | ⟨commits, rfl, absent⟩
  · simp only [found, reduceCtorEq, iff_false]
    intro describes
    have replayed := describes.replay.mpr rfl
    simp [settlementResult] at replayed
  · obtain rfl := inStep.1
    exact ⟨fun _ => absent, fun _ => commits.describes options absent⟩

/-! ### Every call of every run -/

theorem TenderStep.advances {world world' : TenderWorld} {call call' : TenderCall}
    (stored : world.db.cuentaRows cuentaId = [row]) (inStep : InStep options cuentaId world.db call)
    (step : TenderStep options world call world' call') :
    AccountAdvances cuentaId world.db world'.db := by
  rcases TenderStep.cases options cuentaId stored inStep step with
    rfl | ⟨-, cuenta, existing, params, commits, rfl, -⟩
  · exact .of_same cuentaId rfl rfl
  obtain rfl := inStep.1
  obtain ⟨row', rows, -, -, -, total, -⟩ := commits.newRow
  refine ⟨fun other member => ?_, [params.pago], commits.pagosOf⟩
  obtain rfl : other = row' := by simpa [rows] using member
  exact ⟨_, by simp [stored], total, fun isPaid => absurd isPaid commits.unpaid⟩

theorem tenders_stay_inStep {origin : CuentaRow} {calls : List TenderCall}
    (start : db.cuentaRows cuentaId = [origin])
    (begun : ∀ call ∈ calls, call.command.cuentaId = cuentaId ∧ call.state = .lookup)
    {pool : Pool TenderWorld TenderCall}
    (run : Reachable (TenderStep options) (LeavesAccount cuentaId)
      ⟨⟨db, []⟩, calls⟩ pool) :
    (∃ row, pool.shared.db.cuentaRows cuentaId = [row]) ∧
      ∀ call ∈ pool.calls, InStep options cuentaId pool.shared.db call ∧
        ReplayRead cuentaId pool.shared.db call := by
  refine Holds.reachable (fun world => ∃ row, world.db.cuentaRows cuentaId = [row])
    (fun world call => InStep options cuentaId world.db call ∧ ReplayRead cuentaId world.db call)
    ?_ ?_ ?_ ?_ ?_ run
  · -- the call that moves
    rintro world call world' call' ⟨row, stored⟩ ⟨inStep, read⟩ step
    have advances := TenderStep.advances options cuentaId stored inStep step
    obtain ⟨stored', inStep', -⟩ := TenderStep.keepsStep options cuentaId stored inStep step
    obtain ⟨oracle, advanced⟩ := step
    obtain ⟨moved, -⟩ := advance_eq _ advanced
    exact ⟨stored', inStep', .of_step inStep.1 (by simp [stored]) advances read moved⟩
  · -- the calls that wait
    rintro world call world' call' other ⟨row, stored⟩ ⟨inStep, -⟩ ⟨waits, read⟩ step
    exact ⟨(TenderStep.keepsStep options cuentaId stored inStep step).2.2 other waits,
      .of_advances (TenderStep.advances options cuentaId stored inStep step) read⟩
  · rintro world world' ⟨row, stored⟩ leaves
    exact ⟨row, leaves.rows.trans stored⟩
  · rintro world world' call - ⟨inStep, read⟩ leaves
    exact ⟨InStep.of_same leaves.rows leaves.pagos inStep,
      ReplayRead.of_advances (.of_same cuentaId leaves.rows leaves.pagos) read⟩
  · refine ⟨⟨origin, start⟩, fun call member => ?_⟩
    obtain ⟨about, state⟩ := begun call member
    refine ⟨⟨about, ?_⟩, ?_⟩
    · rw [state]
      trivial
    · rw [ReplayRead, state]
      trivial

/-- Whatever the order of the steps of the calls, the step in which a call resolves answers with
the account as stored exactly when the call was not overtaken. -/
theorem resolved_tender_describes_iff (db : EdgeDb) (origin : CuentaRow) (calls : List TenderCall)
    (start : db.cuentaRows cuentaId = [origin])
    (begun : ∀ call ∈ calls, call.command.cuentaId = cuentaId ∧ call.state = .lookup)
    (pool : Pool TenderWorld TenderCall)
    (run : Reachable (TenderStep options) (LeavesAccount cuentaId)
      ⟨⟨db, []⟩, calls⟩ pool) (call call' : TenderCall) (member : call ∈ pool.calls)
    (world' : TenderWorld) (step : TenderStep options pool.shared call world' call')
    (result : PaymentSettlementResult) (pending : ∀ earlier, call.state ≠ .done earlier)
    (resolved : call'.state = .done (.ok result)) :
    DescribesAccount cuentaId pool.shared.db world'.db call.command result ↔
      NotOvertaken cuentaId pool.shared.db call := by
  obtain ⟨⟨row, stored⟩, each⟩ := tenders_stay_inStep options cuentaId start begun run
  obtain ⟨inStep, read⟩ := each call member
  obtain ⟨oracle, advanced⟩ := step
  obtain ⟨moved, -⟩ := advance_eq _ advanced
  rcases step_resolves _ _ moved resolved with
    earlier | ⟨pago, cuenta, state, same, rfl⟩ |
    ⟨cuenta, existing, params, saved, state, committed, rfl⟩
  · exact absurd earlier (pending _)
  · rw [same]
    exact replay_describes_iff cuentaId stored inStep.1 state read
  · exact commit_describes_iff options cuentaId stored inStep state committed

end Resolved

/-! ### Two tenders under one operation -/

def sampleClash : TenderCall :=
  ⟨sampleTender .tarjeta 400000 0 "11111111-1111-4111-8111-111111111111", .lookup⟩

/-- Both have passed the first check and stand before their transactions. -/
def clashSuspended : TenderWorld × TenderCall :=
  advances sampleOptions (sampleOracle "p2") 5 (sampleSuspended.1, sampleClash)

def clashFirst : TenderWorld × TenderCall :=
  sampleSuspended.2.advance sampleOptions (sampleOracle "p1") clashSuspended.1

def clashSecond : TenderWorld × TenderCall :=
  clashSuspended.2.advance sampleOptions (sampleOracle "p2") clashFirst.1

def TenderCall.answer (call : TenderCall) : Option PaymentSettlementResult :=
  match call.state with
  | .done (.ok result) => some result
  | _ => none

theorem TenderCall.state_of_answer (call : TenderCall) (answered : call.answer = some result) :
    call.state = .done (.ok result) := by
  unfold answer at answered
  split at answered
  next answer state => rw [state, Option.some.inj answered]
  next => cases answered

theorem clash_reachable :
    Reachable (TenderStep sampleOptions) (LeavesAccount "c")
      ⟨⟨sampleDb, []⟩, [sampleCash, sampleClash]⟩
      ⟨clashSuspended.1, [sampleSuspended.2, clashSuspended.2]⟩ := by
  refine .trans (reachable_advances _ (sampleOracle "p1") _ [] [sampleClash] 5 _ _) ?_
  exact reachable_advances _ (sampleOracle "p2") _ [sampleSuspended.2] [] 5 _ _

/-- The first of the two to commit answers with what is stored. -/
theorem first_clashing_tender_describes :
    ∃ result, clashFirst.2.answer = some result ∧ result.totalPaid = 600000 ∧
      DescribesAccount "c" clashSuspended.1.db clashFirst.1.db sampleSuspended.2.command result := by
  obtain ⟨result, answered⟩ : ∃ result, clashFirst.2.answer = some result :=
    Option.isSome_iff_exists.mp (by decide +kernel)
  have paid : clashFirst.2.answer.map (·.totalPaid) = some 600000 := by decide +kernel
  refine ⟨result, answered, by simpa [answered] using paid, ?_⟩
  refine (resolved_tender_describes_iff sampleOptions "c" sampleDb sampleCuentaRow
    [sampleCash, sampleClash] (by decide) (by simp [sampleCash, sampleClash, sampleTender]) _
    clash_reachable sampleSuspended.2 clashFirst.2 (by simp) clashFirst.1 ⟨sampleOracle "p1", rfl⟩
    result ?_ (state_of_answer _ answered)).mpr ?_
  · intro earlier state
    have waiting : sampleSuspended.2.state.holdsAccount := by decide +kernel
    rw [state] at waiting
    cases waiting
  · exact (by decide +kernel : clashSuspended.1.db.findPaymentByClientOpId "c"
      "11111111-1111-4111-8111-111111111111" = none)

/-- The second inserts nothing, yet answers as if its own forty were the payment. -/
theorem second_clashing_tender_misreports :
    Reachable (TenderStep sampleOptions) (LeavesAccount "c")
      ⟨⟨sampleDb, []⟩, [sampleCash, sampleClash]⟩
      ⟨clashFirst.1, [clashFirst.2, clashSuspended.2]⟩ ∧
    TenderStep sampleOptions clashFirst.1 clashSuspended.2 clashSecond.1 clashSecond.2 ∧
    clashSecond.1.db.pagosOf "c" = clashFirst.1.db.pagosOf "c" ∧
    clashSecond.1.db.paid "c" = 600000 ∧
    ∃ result, clashSecond.2.answer = some result ∧ result.totalPaid = 400000 ∧
      result.isIdempotentReplay = false ∧
      ¬DescribesAccount "c" clashFirst.1.db clashSecond.1.db clashSuspended.2.command result := by
  have paid : clashSecond.1.db.paid "c" = 600000 := by decide +kernel
  have answers : clashSecond.2.answer.map (fun result => (result.totalPaid,
      result.isIdempotentReplay)) = some (400000, false) := by decide +kernel
  refine ⟨.tail clash_reachable (.call _ _ _ _ [] [clashSuspended.2] ⟨sampleOracle "p1", rfl⟩),
    ⟨sampleOracle "p2", rfl⟩, by decide +kernel, paid, ?_⟩
  obtain ⟨result, answered, values⟩ := Option.map_eq_some_iff.mp answers
  obtain ⟨reported, replay⟩ := Prod.mk.inj values
  refine ⟨result, answered, reported, replay, fun describes => ?_⟩
  have := describes.totalPaid
  omega

end TridentPos.Pos
