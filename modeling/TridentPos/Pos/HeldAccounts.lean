import TridentPos.Pos.Settlement

/-!
# What suspended tenders hold

Tenders on any accounts, suspended and resumed while other requests write the accounts. A call
holds the account it has read; when it commits, the compare-and-swap makes sure that nothing was
written to the account in between.
-/
namespace TridentPos.Pos

open Core Library Interleaving TenderCall

variable (options : PaymentOptions)

def TenderMove (db : EdgeDb) (call : TenderCall) (db' : EdgeDb) (call' : TenderCall) : Prop :=
  ∃ oracle, call.step options oracle db = (db', call')

def Held (db : EdgeDb) (call : TenderCall) : Prop :=
  match call.state with
  | .payments cuenta => cuenta.id = call.command.cuentaId ∧ db.cuentaRows cuenta.id ≠ []
  | .commit cuenta existing params =>
    cuenta.id = call.command.cuentaId ∧ db.cuentaRows cuenta.id ≠ [] ∧
      ∃ stamp, buildSettlement options.service call.command cuenta existing stamp = .ok params
  | _ => True

def Attends (cuentaId : String) (db : EdgeDb) (call : TenderCall) : Prop :=
  Held options db call ∧ (call.command.cuentaId = cuentaId → InStep options cuentaId db call)

/-- How a step changes what the calls on an account have seen. -/
inductive RowsMove (cuentaId : String) (db db' : EdgeDb) : Prop
  | same (rows : db'.cuentaRows cuentaId = db.cuentaRows cuentaId)
      (pagos : db'.pagosOf cuentaId = db.pagosOf cuentaId)
  | opened (rows : db.cuentaRows cuentaId = [])
  | newer (row row' : CuentaRow) (rows : db.cuentaRows cuentaId = [row])
      (rows' : db'.cuentaRows cuentaId = [row']) (version : row.version < row'.version)

variable {options} {db db' : EdgeDb}

theorem Attends.of_move {cuentaId : String} {call : TenderCall} (rows : RowsMove cuentaId db db')
    (keeps : ∀ id, db.cuentaRows id ≠ [] → db'.cuentaRows id ≠ [])
    (attends : Attends options cuentaId db call) : Attends options cuentaId db' call := by
  obtain ⟨held, inStep⟩ := attends
  constructor
  · unfold Held at held ⊢
    split at held
    next state => exact ⟨held.1, keeps _ held.2⟩
    next state => exact ⟨held.1, keeps _ held.2.1, held.2.2⟩
    next => trivial
  · intro about
    cases rows with
    | same rows pagos => exact InStep.of_same rows pagos (inStep about)
    | newer row row' stored stored' version =>
      exact InStep.of_newer stored stored' version (inStep about)
    | opened none =>
      -- nobody holds an account that was not stored
      refine ⟨about, ?_⟩
      unfold Held at held
      split at held
      next cuenta state => exact absurd (by rw [held.1, about, none]) held.2
      next cuenta existing params state => exact absurd (by rw [held.1, about, none]) held.2.1
      next state =>
        cases current : call.state <;> simp_all

theorem TenderMove.attends (options : PaymentOptions) (cuentaId : String) (db : EdgeDb)
    (call call' : TenderCall) (unique : (db.cuentaRows cuentaId).length ≤ 1)
    (attends : Attends options cuentaId db call) (move : TenderMove options db call db call') :
    Attends options cuentaId db call' := by
  obtain ⟨held, inStep⟩ := attends
  obtain ⟨oracle, moved⟩ := move
  obtain ⟨command, kinds⟩ := step_cases moved
  constructor
  · rcases kinds with ⟨-, free⟩ | ⟨-, cuenta, reads, accepted⟩ |
      ⟨-, cuenta, params, was, built, reads⟩ |
      ⟨cuenta, existing, params, saved, result, -, -, finished⟩
    · unfold Held
      cases state : call'.state <;> simp_all [TenderState.holdsAccount]
    · obtain ⟨found, -, -⟩ := checkAccount_eq_ok accepted
      obtain ⟨stored, -, isId⟩ := getCuentaById_eq_some found
      simp only [Held, reads, command]
      refine ⟨isId, fun none => ?_⟩
      rw [isId, ← findCuenta_eq_none, stored] at none
      simp at none
    · simp only [Held, was] at held
      simp only [Held, reads, command]
      exact ⟨held.1, held.2, oracle.stamp, built⟩
    · simp [Held, finished]
  · intro about
    rw [command] at about
    exact InStep.of_step unique (inStep about) moved

theorem TenderMove.keeps_accounts (options : PaymentOptions) (db db' : EdgeDb)
    (call call' : TenderCall) (held : Held options db call)
    (move : TenderMove options db call db' call') (id : String) (known : db.cuentaRows id ≠ []) :
    db'.cuentaRows id ≠ [] := by
  obtain ⟨oracle, moved⟩ := move
  rcases (step_cases moved).2 with ⟨rfl, -⟩ | ⟨rfl, -⟩ | ⟨rfl, -⟩ |
    ⟨cuenta, existing, params, saved, result, state, committed, -⟩
  · exact known
  · exact known
  · exact known
  simp only [Held, state] at held
  obtain ⟨isId, stored, stamp, built⟩ := held
  obtain ⟨idUpdated, -⟩ := buildSettlement_ids built
  have found : db.findCuenta params.updatedCuenta.id ≠ none := by
    rwa [idUpdated, ne_eq, findCuenta_eq_none]
  rcases executeAtomicSettlement_eq_ok found committed with
    ⟨-, rfl⟩ | ⟨-, -, -, -, -, rfl⟩
  · exact known
  · exact swapCuenta_cuentaRows_ne_nil params.updatedCuenta _ known

/-! ### Commits -/

theorem TenderMove.reads_or_commits {call call' : TenderCall}
    (unique : (db.cuentaRows call.command.cuentaId).length ≤ 1)
    (attends : Attends options call.command.cuentaId db call)
    (move : TenderMove options db call db' call') :
    call'.command = call.command ∧ Attends options call.command.cuentaId db' call' ∧
      (db' = db ∨ (call'.state.holdsAccount = false ∧
        ∃ cuenta existing params, Commits options db db' call cuenta existing params)) := by
  obtain ⟨oracle, moved⟩ := id move
  obtain ⟨command, kinds⟩ := step_cases moved
  refine ⟨command, ?_⟩
  have reading (same : db' = db) : Attends options call.command.cuentaId db' call' ∧
      (db' = db ∨ (call'.state.holdsAccount = false ∧
        ∃ cuenta existing params, Commits options db db' call cuenta existing params)) := by
    subst same
    exact ⟨TenderMove.attends options _ db' call call' unique attends move, .inl rfl⟩
  rcases kinds with ⟨same, -⟩ | ⟨same, -⟩ | ⟨same, -⟩ |
    ⟨cuenta, existing, params, saved, result, state, committed, finished⟩
  · exact reading same
  · exact reading same
  · exact reading same
  refine ⟨⟨by simp [Held, finished], fun about => ⟨about, by rw [finished]; trivial⟩⟩, ?_⟩
  obtain ⟨held, inStep⟩ := attends
  simp only [Held, state] at held
  obtain ⟨isId, known, -⟩ := held
  rw [isId] at known
  obtain ⟨row, rest, rows⟩ := List.exists_cons_of_ne_nil known
  have stored : db.cuentaRows call.command.cuentaId = [row] := by
    rw [rows] at unique ⊢
    rw [List.eq_nil_of_length_eq_zero (l := rest) (by simpa using unique)]
  rcases commit_current stored (inStep rfl) state committed with ⟨same, -⟩ | ⟨commits, -⟩
  · exact .inl same
  · exact .inr ⟨by simp [finished, TenderState.holdsAccount], cuenta, existing, params, commits⟩

section Commit

variable {call : TenderCall} {cuenta : Cuenta} {existing : List Pago}
  {params : AtomicSettlementParams} (commits : Commits options db db' call cuenta existing params)

include commits

theorem Commits.other (other : String) (apart : other ≠ call.command.cuentaId) :
    db'.cuentaRows other = db.cuentaRows other ∧ db'.pagosOf other = db.pagosOf other := by
  obtain ⟨stamp, built⟩ := commits.built
  obtain ⟨idUpdated, -, idPago, -⟩ := buildSettlement_ids built
  obtain ⟨rows, pagos, -⟩ := settledDb_other options.repository db params other
    (by rw [idUpdated, commits.id]; exact Ne.symm apart) (by rw [idPago]; exact Ne.symm apart)
  rw [commits.settled]
  exact ⟨rows, pagos⟩

theorem Commits.items (unique : (db.items.map CuentaItem.id).Nodup)
    (held : ∀ item ∈ cuenta.items, item ∈ db.itemRows call.command.cuentaId) :
    db'.items = db.items := by
  obtain ⟨stamp, cashGiven, changeDue, rfl⟩ := commits.params_eq
  rw [commits.settled]
  exact persistItems_stored db.items cuenta.items unique
    fun item member => (List.mem_filter.mp (held item member)).1

theorem Commits.modificadores
    (held : ∀ row ∈ cuenta.modificadores, row ∈ db.modificadores.rows) :
    db'.modificadores = db.modificadores := by
  obtain ⟨stamp, cashGiven, changeDue, rfl⟩ := commits.params_eq
  rw [commits.settled]
  exact ModificadorTable.persist_stored _ held

theorem Commits.wellFormed (formed : db.WellFormed) (items : db'.items = db.items) :
    db'.WellFormed := by
  obtain ⟨row, rows, -⟩ := commits.newRow
  apply formed.of_saved (· = call.command.cuentaId)
  · rintro id rfl
    exact ⟨row, rows⟩
  · rw [items]
    exact formed.items
  · intro id apart
    simp [commits.other id apart, EdgeDb.itemRows, items]

end Commit

variable {command : SubmitTenderCommand}

theorem buildSettlement_event {options : TenantOptions} {cuenta : Cuenta} {existing : List Pago}
    {stamp : Stamp} {params : AtomicSettlementParams}
    (built : buildSettlement options command cuenta existing stamp = .ok params)
    (positive : 0 < command.amount) (sends : params.cuentaPagadaEvent ≠ none) :
    command.amount = cuenta.totalAmount - totalPaid existing := by
  obtain ⟨within, cashGiven, changeDue, rfl⟩ := buildSettlement_eq_ok built
  have fits := remainingOf_covers positive within
  have settles : remainingOf cuenta.totalAmount (totalPaid existing + command.amount) = 0 := by
    by_contra partly
    exact sends (by simp [settlementParams, partly])
  have reached := (remainingOf_eq_zero _ _).mp settles
  omega

theorem submitTender_commits {validatePin : String → String → Option String → Bool} {stamp : Stamp}
    {interruption : Option DomainError} {result : PaymentSettlementResult}
    (unique : (db.cuentaRows command.cuentaId).length ≤ 1)
    (returned : submitTender options validatePin db command stamp interruption =
      .ok (result, db')) :
    db' = db ∨ ∃ cuenta existing params, db.getCuentaById command.cuentaId = some cuenta ∧
      Commits options db db' ⟨command, .commit cuenta existing params⟩ cuenta existing params := by
  unfold submitTender at returned
  split at returned
  next =>
    split at returned
    next => simp at returned
    next =>
      obtain ⟨-, rfl⟩ := Prod.mk.inj (Except.ok.inj returned)
      exact .inl rfl
  split at returned
  next => simp [throw, throwThe, MonadExceptOf.throw] at returned
  simp only [Fallible.bind_eq_ok, Fallible.pure_eq_ok, Prod.mk.injEq] at returned
  obtain ⟨shift, -, cuenta, accepted, params, built, ⟨saved, after⟩, committed, -, rfl⟩ := returned
  obtain ⟨found, payable, positive⟩ := checkAccount_eq_ok accepted
  obtain ⟨read, -, isId⟩ := getCuentaById_eq_some found
  have stored := cuentaRows_of_findCuenta unique read
  have isRow (row : CuentaRow) (member : row ∈ db.cuentaRows command.cuentaId) :
      row = cuenta.toCuentaRow := by simpa [stored] using member
  have seen : Seen command.cuentaId db cuenta := by
    refine ⟨isId, ?_, ?_, payable⟩
    · intro row member
      rw [isRow row member]
    · intro row member _
      rw [isRow row member]
  have allRead := listPaymentsByCuentaId_perm db command.cuentaId
  have inStep : InStep options command.cuentaId db
      ⟨command, .commit cuenta (db.listPaymentsByCuentaId command.cuentaId) params⟩ :=
    ⟨rfl, seen, positive, fun _ _ _ => allRead, stamp, built⟩
  rcases commit_current stored inStep rfl committed with ⟨same, -⟩ | ⟨commits, -⟩
  · exact .inl same
  · exact .inr ⟨cuenta, _, params, found, commits⟩

/-! ### Calls on their own -/

theorem reachable_run {moves : EdgeDb → TenderCall → EdgeDb → TenderCall → Prop}
    (options : PaymentOptions) (others : EdgeDb → EdgeDb → Prop) (oracle : TenderOracle)
    (earlier later : List TenderCall) (n : Nat) (db : EdgeDb) (call : TenderCall)
    (allowed : ∀ k < n, let (db, call) := run options oracle k (db, call)
      moves db call (call.step options oracle db).1 (call.step options oracle db).2) :
    Reachable moves others ⟨db, earlier ++ call :: later⟩
      ⟨(run options oracle n (db, call)).1,
        earlier ++ (run options oracle n (db, call)).2 :: later⟩ := by
  induction n generalizing db call with
  | zero => exact .refl
  | succ n ih =>
    refine .head (.call _ _ _ _ earlier later (allowed 0 n.succ_pos)) ?_
    exact ih (call.step options oracle db).1 (call.step options oracle db).2
      fun k lt => allowed (k + 1) (Nat.succ_lt_succ lt)

end TridentPos.Pos
