import TridentPos.Pos.HeldAccounts

/-!
# Tenders one after the other

What calls of `submitTender` leave in the tables, however they are suspended and resumed, is left by
calls that run from their first read to their commit with nothing in between: a commit that passes
the compare-and-swap is what the whole call would do on the tables it finds.
-/
namespace TridentPos.Pos

open Core Library Interleaving TenderCall EdgeDb

variable {options : PaymentOptions} {db db' : EdgeDb}

def WholeTender (options : PaymentOptions) (commands : List SubmitTenderCommand)
    (db db' : EdgeDb) : Prop :=
  ∃ command ∈ commands, ∃ validatePin stamp interruption result,
    submitTender options validatePin db command stamp interruption = .ok (result, db')

def Rereads (db : EdgeDb) (call : TenderCall) : Prop :=
  let shiftOk := ∃ shift,
    checkShift call.command (db.getShiftById call.command.turnoCajaId) = .ok shift
  let again (cuenta : Cuenta) (payments : Prop) :=
    ∀ row ∈ db.cuentaRows call.command.cuentaId, row.version = cuenta.version →
      checkAccount call.command (db.getCuentaById call.command.cuentaId) = .ok cuenta ∧ payments
  match call.state with
  | .account => shiftOk
  | .payments cuenta => shiftOk ∧ again cuenta True
  | .commit cuenta existing _ =>
    shiftOk ∧ again cuenta (db.listPaymentsByCuentaId call.command.cuentaId = existing)
  | _ => True

theorem Rereads.of_step {oracle : TenderOracle} {call call' : TenderCall}
    (rereads : Rereads db call) (moved : call.step options oracle db = (db, call')) :
    Rereads db call' := by
  obtain ⟨command, state⟩ := call
  cases state with
  | shift =>
    simp only [step] at moved
    split at moved <;> obtain ⟨-, rfl⟩ := Prod.mk.inj moved
    next => trivial
    next shift accepted => exact ⟨shift, accepted⟩
  | account =>
    simp only [step] at moved
    split at moved <;> obtain ⟨-, rfl⟩ := Prod.mk.inj moved
    next => trivial
    next cuenta accepted => exact ⟨rereads, fun _ _ _ => ⟨accepted, trivial⟩⟩
  | payments cuenta =>
    simp only [step] at moved
    split at moved <;> obtain ⟨-, rfl⟩ := Prod.mk.inj moved
    next => trivial
    next => exact ⟨rereads.1, fun row member same => ⟨(rereads.2 row member same).1, rfl⟩⟩
  | _ =>
    -- before the shift is checked nothing is kept, and after the commit nothing is needed
    simp only [step] at moved
    repeat' split at moved
    all_goals
      obtain ⟨-, rfl⟩ := Prod.mk.inj moved
      trivial

variable {mover call : TenderCall} {cuenta : Cuenta} {existing : List Pago}
  {params : AtomicSettlementParams}

theorem Rereads.items (formed : db.WellFormed) (rereads : Rereads db mover)
    (commits : Commits options db db' mover cuenta existing params) :
    db'.items = db.items ∧ db'.modificadores = db.modificadores := by
  simp only [Rereads, commits.state] at rereads
  obtain ⟨accepted, -⟩ := rereads.2 cuenta.toCuentaRow (by simp [commits.stored]) rfl
  obtain ⟨found, -⟩ := checkAccount_eq_ok accepted
  refine ⟨commits.items formed.items fun item member => ?_,
    commits.modificadores (getCuentaById_modificadores found)⟩
  obtain ⟨-, read, -⟩ := getCuentaById_eq_some found
  exact (itemsOf_perm db _).mem_iff.mp (read ▸ member)

theorem Rereads.of_commit (attends : Attends options call.command.cuentaId db call)
    (rereads : Rereads db call) (commits : Commits options db db' mover cuenta existing params)
    (items : db'.items = db.items ∧ db'.modificadores = db.modificadores) : Rereads db' call := by
  have shifts (id : String) : db'.getShiftById id = db.getShiftById id := by
    rw [commits.settled]
    rfl
  by_cases own : call.command.cuentaId = mover.command.cuentaId
  · -- the new version makes what the call holds out of date
    obtain ⟨-, seen⟩ := attends.2 rfl
    have stale (held : Cuenta) (seen : Seen call.command.cuentaId db held) :
        ∀ row ∈ db'.cuentaRows call.command.cuentaId, row.version ≠ held.version := by
      have known := seen.version cuenta.toCuentaRow (by simp [own, commits.stored])
      obtain ⟨row, rows, -, -, -, -, -, -, version, -⟩ := commits.newRow
      rw [own, rows]
      intro other member
      rw [List.mem_singleton.mp member]
      omega
    unfold Rereads at rereads ⊢
    cases state : call.state with
    | account => simpa only [state, shifts] using rereads
    | payments held | commit held _ _ =>
      simp only [state, shifts] at rereads seen ⊢
      exact ⟨rereads.1, fun row member same => absurd same (stale held seen.1 row member)⟩
    | _ => trivial
  · obtain ⟨rows, pagos⟩ := commits.other _ own
    have account : db'.getCuentaById call.command.cuentaId =
        db.getCuentaById call.command.cuentaId := by
      have read : db'.findCuenta call.command.cuentaId = db.findCuenta call.command.cuentaId := by
        unfold findCuenta
        rw [← List.head?_filter, ← List.head?_filter]
        exact congrArg List.head? rows
      simp only [getCuentaById, read, itemsOf, itemRows, items.1, items.2]
    have payments : db'.listPaymentsByCuentaId call.command.cuentaId =
        db.listPaymentsByCuentaId call.command.cuentaId := by
      unfold listPaymentsByCuentaId
      exact congrArg _ pagos
    simp only [Rereads, shifts, rows, account, payments]
    exact rereads

theorem Commits.whole {oracle : TenderOracle} {call' : TenderCall}
    (commits : Commits options db db' mover cuenta existing params) (rereads : Rereads db mover)
    (moved : mover.step options oracle db = (db', call')) (changed : db' ≠ db) :
    ∃ stamp result, call' = ⟨mover.command, .done (.ok result)⟩ ∧
      submitTender options (fun _ _ _ => true) db mover.command stamp oracle.interruption =
        .ok (result, db') := by
  simp only [Rereads, commits.state] at rereads
  obtain ⟨⟨shift, accepted⟩, again⟩ := rereads
  obtain ⟨account, rfl⟩ := again cuenta.toCuentaRow (by simp [commits.stored]) rfl
  obtain ⟨stamp, built⟩ := commits.built
  obtain ⟨-, -, idPago, opPago⟩ := buildSettlement_ids built
  simp only [step, commits.state] at moved
  split at moved <;> obtain ⟨rfl, rfl⟩ := Prod.mk.inj moved
  next => exact absurd rfl changed
  next saved after committed =>
    refine ⟨stamp, _, rfl, ?_⟩
    cases found : db.findPaymentByClientOpId mover.command.cuentaId mover.command.clientOpId with
    | some paid =>
      simp only [executeAtomicSettlement, idPago, opPago, found] at committed
      exact absurd (Prod.mk.inj (Except.ok.inj committed)).2.symm changed
    | none =>
      simp [submitTender, found, accepted, account, built, committed]

def Attentive (options : PaymentOptions) (commands : List SubmitTenderCommand) (db : EdgeDb)
    (call : TenderCall) : Prop :=
  call.command ∈ commands ∧ Attends options call.command.cuentaId db call ∧ Rereads db call

theorem TenderMove.serial {commands : List SubmitTenderCommand} {call' : TenderCall}
    (formed : db.WellFormed) (attentive : Attentive options commands db mover)
    (move : TenderMove options db mover db' call') :
    Attentive options commands db' call' ∧ (db' = db ∨ WholeTender options commands db db' ∧
      db'.WellFormed ∧ ∀ call, Attentive options commands db call →
        Attentive options commands db' call) := by
  obtain ⟨one, attends, rereads⟩ := attentive
  obtain ⟨command, attends', kinds⟩ := move.reads_or_commits (formed.cuentas _) attends
  have keeps := TenderMove.keeps_accounts options db db' mover call' attends.1 move
  obtain ⟨oracle, moved⟩ := move
  rw [← command] at attends'
  by_cases same : db' = db
  · subst same
    exact ⟨⟨command ▸ one, attends', rereads.of_step moved⟩, .inl rfl⟩
  · obtain ⟨-, cuenta, existing, params, commits⟩ := kinds.resolve_left same
    have items := rereads.items formed commits
    obtain ⟨stamp, result, rfl, whole⟩ := commits.whole rereads moved same
    refine ⟨⟨one, attends', trivial⟩,
      .inr ⟨⟨mover.command, one, _, stamp, _, result, whole⟩, commits.wellFormed formed items.1, ?_⟩⟩
    rintro call ⟨oneToo, attendsToo, rereadsToo⟩
    refine ⟨oneToo, attendsToo.of_move ?_ keeps, rereadsToo.of_commit attendsToo commits items⟩
    by_cases own : call.command.cuentaId = mover.command.cuentaId
    · obtain ⟨row, rows, -, -, -, -, -, -, version, -⟩ := commits.newRow
      rw [own]
      exact .newer _ row commits.stored rows (by omega)
    · exact .same (commits.other _ own).1 (commits.other _ own).2

/-- Whatever calls are suspended and resumed in whatever order, the tables are those of calls made
one after the other. -/
theorem tenders_serializable (options : PaymentOptions) (commands : List SubmitTenderCommand)
    (db : EdgeDb) (formed : db.WellFormed) (pool : Pool EdgeDb TenderCall)
    (run : Reachable (TenderMove options) (fun _ _ => False)
      ⟨db, commands.map fun command => ⟨command, .lookup⟩⟩ pool) :
    Relation.ReflTransGen (WholeTender options commands) db pool.shared := by
  have holds : Holds
      (fun reached => reached.WellFormed ∧
        Relation.ReflTransGen (WholeTender options commands) db reached)
      (Attentive options commands) pool := by
    refine Holds.reachable _ _ ?_ ?_ (fun _ => False.elim) (fun _ _ => False.elim) ?_ run
    · rintro now call after call' ⟨formed, earlier⟩ attentive move
      obtain ⟨attentive', rfl | ⟨whole, formed', -⟩⟩ := move.serial formed attentive
      · exact ⟨⟨formed, earlier⟩, attentive'⟩
      · exact ⟨⟨formed', earlier.tail whole⟩, attentive'⟩
    · rintro now call after call' other ⟨formed, -⟩ attentive waits move
      obtain ⟨-, rfl | ⟨-, -, stays⟩⟩ := move.serial formed attentive
      · exact waits
      · exact stays other waits
    · -- at first no call has read anything
      refine ⟨⟨formed, .refl⟩, fun call member => ?_⟩
      obtain ⟨command, one, rfl⟩ := List.mem_map.mp member
      exact ⟨one, ⟨trivial, fun _ => ⟨rfl, trivial⟩⟩, trivial⟩
  exact holds.1.2

/-- The card tender is made while the cash tender is suspended before its commit. -/
theorem sample_race_serializable :
    let suspended := run sampleOptions (sampleOracle "p1") 5 (sampleDb, sampleCash)
    let overtaken := run sampleOptions (sampleOracle "p2") 6 (suspended.1, sampleCard)
    (overtaken.1.pagosOf "c").map Pago.id = ["p2"] ∧
      Relation.ReflTransGen (WholeTender sampleOptions [sampleCash.command, sampleCard.command])
        sampleDb overtaken.1 := by
  intro suspended overtaken
  have formed : sampleDb.WellFormed := by
    refine ⟨fun id => List.length_filter_le _ _, by decide, fun id _ => ⟨rfl, rfl⟩⟩
  have first : Reachable (TenderMove sampleOptions) (fun _ _ => False)
      ⟨sampleDb, [sampleCash, sampleCard]⟩ ⟨suspended.1, [suspended.2, sampleCard]⟩ :=
    reachable_run _ _ (sampleOracle "p1") [] [sampleCard] 5 _ _ fun _ _ => ⟨_, rfl⟩
  have second : Reachable (TenderMove sampleOptions) (fun _ _ => False)
      ⟨suspended.1, [suspended.2, sampleCard]⟩ ⟨overtaken.1, [suspended.2, overtaken.2]⟩ :=
    reachable_run _ _ (sampleOracle "p2") [suspended.2] [] 6 _ _ fun _ _ => ⟨_, rfl⟩
  exact ⟨by decide +kernel, tenders_serializable _ [sampleCash.command, sampleCard.command] _ formed
    _ (first.trans second)⟩

end TridentPos.Pos
