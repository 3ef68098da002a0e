import TridentPos.Pos.SalonRuns

/-!
# Tables and their accounts

A table is free exactly when it holds no account, and an account that a table holds is active and
names that table. The two sides are written by different operations: most of them look at the
table they change, but a transfer does not ask whether the account sits at its source, a check
request and a split change the table the account names whatever it holds, and a tender that
settles an account leaves its table as it is.
-/
namespace TridentPos.Pos

open Core Library SalonRequest

/-! ### Agreement -/

structure TablesAgree (db : EdgeDb) : Prop where
  free : ∀ mesa ∈ db.mesas, mesa.status = .disponible ↔ mesa.currentAccountId = none
  held : ∀ mesa ∈ db.mesas, ∀ id, mesa.currentAccountId = some id →
    ∃ cuenta, db.getCuentaById id = some cuenta ∧ cuenta.Active ∧ cuenta.mesaId = some mesa.id
  once : ∀ mesa ∈ db.mesas, ∀ other ∈ db.mesas, mesa.currentAccountId ≠ none →
    mesa.currentAccountId = other.currentAccountId → mesa = other

/-- A transfer starts at the table that holds the account and ends at one with a name, a check is
requested or a split made only when the table the account names is not free, and no tender settles
an account that a table holds. -/
def SalonRequest.KeepsTables (db : EdgeDb) : SalonRequest → Prop
  | .transfers input => input.targetMesaId ≠ "" ∧ ∀ mesa ∈ db.mesas,
      mesa.currentAccountId = some input.cuentaId → mesa.id = input.sourceMesaId
  | .requestsCheck input => ∀ row ∈ db.cuentaRows input.cuentaId, ∀ mesa ∈ db.mesas,
      row.mesaId = some mesa.id → mesa.status ≠ .disponible
  | .splits input => ∀ row ∈ db.cuentaRows input.cuentaId, ∀ mesa ∈ db.mesas,
      row.mesaId = some mesa.id → mesa.status ≠ .disponible
  | .tenders command => ∀ row ∈ db.cuentaRows command.cuentaId,
      command.amount = row.totalAmount - db.paid command.cuentaId →
      ∀ mesa ∈ db.mesas, mesa.currentAccountId ≠ some command.cuentaId
  | _ => True

def KeepingStep (options : PaymentOptions) (db db' : EdgeDb) : Prop :=
  ∃ oracle request, request.KeepsTables db ∧ run options oracle db request = db'

/-! ### The invariant -/

structure Seated (db : EdgeDb) (mesa : Mesa) : Prop where
  free : mesa.status = .disponible ↔ mesa.currentAccountId = none
  held : ∀ id, mesa.currentAccountId = some id →
    ∃ row, db.cuentaRows id = [row] ∧ row.Active ∧ row.mesaId = some mesa.id
  named : mesa.currentAccountId ≠ none → mesa.id ≠ ""
  version : mesa.version ≠ 0

structure Linked (db : EdgeDb) : Prop where
  formed : db.WellFormed
  keyed : db.MesasKeyed
  seated : ∀ mesa ∈ db.mesas, Seated db mesa
  versions : ∀ id row, db.cuentaRows id = [row] → row.version ≠ 0

theorem Linked.agree (db : EdgeDb) (linked : Linked db) : TablesAgree db := by
  refine ⟨fun mesa member => (linked.seated mesa member).free, ?_, ?_⟩
  · intro mesa member id holds
    obtain ⟨row, stored, active, names⟩ := (linked.seated mesa member).held id holds
    have found := findCuenta_of_cuentaRows db id stored
    exact ⟨_, Option.map_eq_some_iff.mpr ⟨row, found, rfl⟩, active, names⟩
  · intro mesa member other inMesas holds same
    obtain ⟨id, isId⟩ := Option.ne_none_iff_exists'.mp holds
    obtain ⟨row, stored, -, names⟩ := (linked.seated mesa member).held id isId
    obtain ⟨row', stored', -, names'⟩ := (linked.seated other inMesas).held id (same ▸ isId)
    obtain rfl : row = row' := by simpa using stored.symm.trans stored'
    have sameId : mesa.id = other.id := Option.some.inj (names.symm.trans names')
    exact List.inj_on_of_nodup_map linked.keyed member inMesas sameId

theorem Seated.of_rows (db db' : EdgeDb) {mesa : Mesa} (seated : Seated db mesa)
    (rows : ∀ id row, mesa.currentAccountId = some id → db.cuentaRows id = [row] → row.Active →
      row.mesaId = some mesa.id →
      ∃ row', db'.cuentaRows id = [row'] ∧ row'.Active ∧ row'.mesaId = row.mesaId) :
    Seated db' mesa := by
  refine ⟨seated.free, ?_, seated.named, seated.version⟩
  intro id holds
  obtain ⟨row, stored, active, names⟩ := seated.held id holds
  obtain ⟨row', stored', active', same⟩ := rows id row holds stored active names
  exact ⟨row', stored', active', same.trans names⟩

theorem Seated.of_other_rows (db db' : EdgeDb) (mesa : Mesa) (seated : Seated db mesa)
    (same : ∀ id, mesa.currentAccountId = some id → db'.cuentaRows id = db.cuentaRows id) :
    Seated db' mesa :=
  seated.of_rows db db' fun id row holds stored active _ =>
    ⟨row, (same id holds).trans stored, active, rfl⟩

theorem seated_freedMesa (db : EdgeDb) (mesa : Mesa) (now : Nat) : Seated db (freedMesa mesa now) :=
  by constructor <;> simp [freedMesa]

theorem seated_occupiedMesa {db : EdgeDb} {mesa : Mesa} {row : CuentaRow} {id : String} (now : Nat)
    (stored : db.cuentaRows id = [row]) (active : row.Active) (names : row.mesaId = some mesa.id)
    (nonempty : mesa.id ≠ "") : Seated db (occupiedMesa mesa id now) :=
  ⟨by simp [occupiedMesa], fun _ holds => Option.some.inj holds ▸ ⟨row, stored, active, names⟩,
    fun _ => nonempty, Nat.succ_ne_zero _⟩

theorem seated_replaceMesa (db db' : EdgeDb) (stored mesa : Mesa) (member : stored ∈ db.mesas)
    (same : mesa.id = stored.id) (mesas : db'.mesas = (db.replaceMesa mesa).mesas)
    (own : Seated db' mesa) (others : ∀ other ∈ db.mesas, other.id ≠ stored.id → Seated db' other) :
    ∀ other ∈ db'.mesas, Seated db' other := by
  intro other inMesas
  rw [mesas] at inMesas
  rcases (mem_replaceMesa db mesa other ⟨stored, member, same.symm⟩).mp inMesas with rfl |
    ⟨kept, apart⟩
  · exact own
  · exact others other kept (same ▸ apart)

theorem Linked.names {db : EdgeDb} (linked : Linked db) {cuenta : Cuenta}
    (stored : db.cuentaRows cuenta.id = [cuenta.toCuentaRow]) (mesa : Mesa) (member : mesa ∈ db.mesas)
    (holds : mesa.currentAccountId = some cuenta.id) : cuenta.mesaId = some mesa.id := by
  obtain ⟨row, rows, -, names⟩ := (linked.seated mesa member).held _ holds
  obtain rfl : cuenta.toCuentaRow = row := by simpa using stored.symm.trans rows
  exact names

/-! ### Accounts saved again -/

section Resave

variable {db db' : EdgeDb} (linked : Linked db) {cuenta updated : Cuenta}
  (resaved : Resaved db db' cuenta updated)

include linked resaved

theorem Resaved.stored : db.cuentaRows cuenta.id = [cuenta.toCuentaRow] :=
  getCuentaById_stored linked.formed resaved.read

theorem Resaved.rows_kept (sameMesa : updated.mesaId = cuenta.mesaId)
    (active : cuenta.Active → updated.Active) (id : String) (row : CuentaRow)
    (stored : db.cuentaRows id = [row]) (wasActive : row.Active) :
    ∃ row', db'.cuentaRows id = [row'] ∧ row'.Active ∧ row'.mesaId = row.mesaId := by
  by_cases mine : id = cuenta.id
  · subst mine
    rw [resaved.stored linked] at stored
    obtain rfl : cuenta.toCuentaRow = row := by simpa using stored
    exact ⟨_, resaved.rows, active wasActive, sameMesa⟩
  · exact ⟨row, (resaved.otherRows id mine).trans stored, wasActive, rfl⟩

theorem Resaved.seated_other {mesa : Mesa} (member : mesa ∈ db.mesas)
    (other : mesa.currentAccountId ≠ some cuenta.id) : Seated db' mesa := by
  refine (linked.seated mesa member).of_other_rows db db' mesa fun id holds => ?_
  exact resaved.otherRows id fun mine => other (mine ▸ holds)

theorem Resaved.seated_kept (sameMesa : updated.mesaId = cuenta.mesaId)
    (active : cuenta.Active → updated.Active) (mesa : Mesa) (member : mesa ∈ db.mesas) :
    Seated db' mesa :=
  (linked.seated mesa member).of_rows db db' fun id row _ stored wasActive _ =>
    resaved.rows_kept linked sameMesa active id row stored wasActive

theorem Resaved.linked_of_seated (seated : ∀ mesa ∈ db'.mesas, Seated db' mesa)
    (keyed : db'.MesasKeyed) :
    Linked db' :=
  ⟨resaved.wellFormed linked.formed, keyed, seated, resaved.versions linked.versions⟩

theorem Resaved.linked_of_kept (mesas : db'.mesas = db.mesas)
    (seated : ∀ mesa ∈ db.mesas, Seated db' mesa) : Linked db' :=
  resaved.linked_of_seated linked (mesas ▸ seated) (keyed_of_mesas linked.keyed mesas)

theorem Resaved.linked_of_mesas (sameMesa : updated.mesaId = cuenta.mesaId)
    (active : cuenta.Active → updated.Active) (mesas : db'.mesas = db.mesas) : Linked db' :=
  resaved.linked_of_kept linked mesas (resaved.seated_kept linked sameMesa active)

theorem Resaved.linked_of_unheld (mesas : db'.mesas = db.mesas)
    (unheld : ∀ mesa ∈ db.mesas, mesa.currentAccountId ≠ some cuenta.id) : Linked db' :=
  resaved.linked_of_kept linked mesas fun mesa member =>
    resaved.seated_other linked member (unheld mesa member)

end Resave

/-! ### One request -/

section Step

variable {now : Nat} {db db' : EdgeDb} (linked : Linked db)

include linked

variable {cuenta : Cuenta}

theorem Linked.of_closed {closedStatus : ClosedStatus} (keyed : db'.MesasKeyed)
    (mesas : FreesMesa now db db' cuenta)
    (resaved : Resaved db db' cuenta (closedCuenta cuenta closedStatus now)) : Linked db' := by
  have names := linked.names (resaved.stored linked)
  rcases mesas with ⟨same, unheld⟩ | ⟨mesa, member, named, replaced⟩
  · refine resaved.linked_of_unheld linked same fun mesa member holds => ?_
    have nonempty := (linked.seated mesa member).named (by simp [holds])
    exact unheld mesa member nonempty (names mesa member holds) holds
  · refine resaved.linked_of_seated linked ?_ keyed
    refine seated_replaceMesa db db' mesa (freedMesa mesa now) member rfl replaced
      (seated_freedMesa ..) ?_
    intro other inMesas apart
    refine resaved.seated_other linked inMesas fun holds => ?_
    exact apart (Option.some.inj ((names other inMesas holds).symm.trans named))

theorem Linked.of_checked {input : RequestCheckInput} {updated : Cuenta}
    (isId : cuenta.id = input.cuentaId) (keyed : db'.MesasKeyed)
    (printed : updated.status = .impresa) (sameMesa : updated.mesaId = cuenta.mesaId)
    (mesas : MarksMesa now db db' cuenta)
    (resaved : Resaved db db' cuenta updated) (keeps : (requestsCheck input).KeepsTables db) :
    Linked db' := by
  have active : cuenta.Active → updated.Active := fun _ => .inr printed
  rcases mesas with same | ⟨mesa, member, named, replaced⟩
  · exact resaved.linked_of_mesas linked sameMesa active same
  · have seats := resaved.seated_kept linked sameMesa active
    refine resaved.linked_of_seated linked ?_ keyed
    refine seated_replaceMesa db db' mesa (inCheckMesa mesa now) member rfl replaced ?_
      fun other inMesas _ => seats other inMesas
    have own := seats mesa member
    have stored := resaved.stored linked
    have busy := keeps cuenta.toCuentaRow (by rw [← isId, stored]; simp) mesa member named
    refine ⟨?_, own.held, own.named, Nat.succ_ne_zero _⟩
    constructor
    · simp [inCheckMesa]
    · intro none
      exact absurd (own.free.mpr none) busy

variable {validatePin : String → String → Bool}

theorem Linked.of_transferred {input : TransferCuentaInput} {source target : Mesa}
    (keyed : db'.MesasKeyed) (allowed : TransferAllowed validatePin db input cuenta source target)
    (mesas : db'.mesas = (db.reseated source target cuenta.id now).mesas)
    (resaved : Resaved db db' cuenta (transferredCuenta cuenta target input now))
    (keeps : (transfers input).KeepsTables db) : Linked db' := by
  obtain ⟨inSource, sourceId⟩ := (getMesaById_eq_some linked.keyed _ _).mp allowed.fromMesa
  obtain ⟨inTarget, targetId⟩ := (getMesaById_eq_some linked.keyed _ _).mp allowed.toMesa
  have isId := getCuentaById_id allowed.account
  obtain ⟨nonempty, atSource⟩ := keeps
  refine resaved.linked_of_seated linked ?_ keyed
  have first (mesa : Mesa) := mem_replaceMesa db (freedMesa source now) mesa ⟨source, inSource, rfl⟩
  have replaced (mesa : Mesa) (member : mesa ∈ db'.mesas) :
      mesa = occupiedMesa target cuenta.id now ∨ mesa = freedMesa source now ∨
        (mesa ∈ db.mesas ∧ mesa.id ≠ source.id) := by
    rw [mesas] at member
    have known : ∃ old ∈ (db.replaceMesa (freedMesa source now)).mesas,
        old.id = (occupiedMesa target cuenta.id now).id := by
      by_cases same : target.id = source.id
      · exact ⟨freedMesa source now, (first _).mpr (.inl rfl), same.symm⟩
      · exact ⟨target, (first _).mpr (.inr ⟨inTarget, same⟩), rfl⟩
    rcases (mem_replaceMesa _ _ _ known).mp member with rfl | ⟨kept, -⟩
    · exact .inl rfl
    · exact .inr ((first mesa).mp kept)
  intro mesa member
  rcases replaced mesa member with rfl | rfl | ⟨kept, apart⟩
  · exact seated_occupiedMesa now resaved.rows (allowed.active ..) rfl (targetId ▸ nonempty)
  · exact seated_freedMesa ..
  · refine resaved.seated_other linked kept fun holds => ?_
    exact apart ((atSource mesa kept (isId ▸ holds)).trans sourceId.symm)

theorem Linked.of_vacated {mesa : Mesa} (member : mesa ∈ db.mesas)
    (after : db' = db.replaceMesa (freedMesa mesa now)) : Linked db' := by
  subst after
  refine ⟨⟨linked.formed.cuentas, linked.formed.items, linked.formed.owned⟩,
    replaceMesa_keyed _ linked.keyed, ?_, linked.versions⟩
  refine seated_replaceMesa db _ mesa (freedMesa mesa now) member rfl rfl (seated_freedMesa ..) ?_
  exact fun other inMesas _ => (linked.seated other inMesas).of_other_rows _ _ other fun _ _ => rfl

theorem Linked.of_opened {input : OpenCuentaInput} (keyed : db'.MesasKeyed)
    (account : Opened db db' (newCuenta input now))
    (mesas : TakesMesa now db db' input) : Linked db' := by
  have seats (mesa : Mesa) (member : mesa ∈ db.mesas) : Seated db' mesa := by
    refine (linked.seated mesa member).of_other_rows db db' mesa fun id holds => ?_
    apply account.otherRows
    rintro rfl
    obtain ⟨row, stored, -⟩ := (linked.seated mesa member).held _ holds
    simp [account.missing] at stored
  refine ⟨account.wellFormed _ _ _ linked.formed, keyed, ?_, ?_⟩
  · rcases mesas with same | ⟨mesa, member, names, nonempty, -, replaced⟩
    · exact fun mesa member => seats mesa (same ▸ member)
    · refine seated_replaceMesa db db' mesa (occupiedMesa mesa input.id now) member rfl replaced ?_
        fun other inMesas _ => seats other inMesas
      exact seated_occupiedMesa now account.rows (.inl rfl) names nonempty
  · exact forall_rows_of_written account.rows account.otherRows (by simp [newCuenta])
      fun id row _ => linked.versions id row

theorem Linked.of_split {input : SplitCuentaInput} {saved rest : List Cuenta}
    (keyed : db'.MesasKeyed) {result : Except DomainError (Cuenta × List Cuenta × Option Mesa)}
    (planned : planSplit validatePin db input now = .ok (cuenta, saved ++ rest))
    (into : SplitInto db db' cuenta saved) (ends : SplitEnds db db' cuenta saved rest now result)
    (formed : db'.WellFormed) (keeps : (splits input).KeepsTables db) : Linked db' := by
  obtain ⟨found, active, prorated, -⟩ := planSplit_eq_ok _ planned
  have isId := getCuentaById_id found
  have stored := getCuentaById_stored linked.formed found
  have isSub (sub : Cuenta) (member : sub ∈ saved) :
      sub.status = .abierta ∧ sub.mesaId = cuenta.mesaId ∧ sub.version = 1 := by
    obtain ⟨_, _, _, _, rfl⟩ := prorateSplit_subCuenta prorated sub (List.mem_append_left _ member)
    exact ⟨rfl, rfl, rfl⟩
  -- the account a table holds is none of the new ones
  have otherRow (mesa : Mesa) (member : mesa ∈ db.mesas) (id : String)
      (holds : mesa.currentAccountId = some id) (apart : id ≠ cuenta.id) :
      db'.cuentaRows id = db.cuentaRows id := by
    apply into.others id _ apart
    intro isNew
    obtain ⟨sub, inSaved, rfl⟩ := List.mem_map.mp isNew
    obtain ⟨row, rows, -⟩ := (linked.seated mesa member).held _ holds
    simp [into.fresh sub inSaved] at rows
  have names := linked.names stored
  have seats (mesa : Mesa) (member : mesa ∈ db.mesas)
      (other : mesa.currentAccountId ≠ some cuenta.id) : Seated db' mesa := by
    refine (linked.seated mesa member).of_other_rows db db' mesa fun id holds => ?_
    exact otherRow mesa member id holds fun mine => other (mine ▸ holds)
  refine ⟨formed, keyed, ?_, ?_⟩
  · have some := planSplit_ne_nil planned
    rcases ends.mesas _ _ linked.keyed _ _ _ _ some with
      ⟨same, original | ⟨rfl, e, fails⟩ | unnamed⟩ | ⟨mesa, member, sub, inSaved, named, replaced⟩
    · intro mesa member
      rw [same] at member
      refine (linked.seated mesa member).of_other_rows db db' mesa fun id holds => ?_
      by_cases mine : id = cuenta.id
      · rw [mine, original, stored]
      · exact otherRow mesa member id holds mine
    · rw [List.append_nil] at some
      obtain ⟨sub, subs, rfl⟩ := List.exists_cons_of_ne_nil some
      have versions (mesa : Mesa) (member : mesa ∈ db'.mesas) : mesa.version ≠ 0 :=
        (linked.seated mesa (same ▸ member)).version
      exact absurd fails (relinkMesa_succeeds keyed cuenta sub subs now versions e)
    · intro mesa member
      rw [same] at member
      refine seats mesa member fun holds => ?_
      exact unnamed mesa member ((linked.seated mesa member).named (by simp [holds]))
        (names mesa member holds)
    · have busy := keeps cuenta.toCuentaRow (by rw [← isId, stored]; simp) mesa member named
      have taken : mesa.currentAccountId ≠ none :=
        fun none => busy ((linked.seated mesa member).free.mpr none)
      obtain ⟨isOpen, sameMesa, -⟩ := isSub sub inSaved
      refine seated_replaceMesa db db' mesa (relinkedMesa mesa sub.id now) member rfl replaced ?_ ?_
      · refine ⟨?_, ?_, fun _ => (linked.seated mesa member).named taken, Nat.succ_ne_zero _⟩
        · simp [relinkedMesa, busy]
        · intro id holds
          obtain rfl : sub.id = id := by simpa [relinkedMesa] using holds
          exact ⟨_, into.subs sub inSaved, .inl isOpen, sameMesa.trans named⟩
      · intro other inMesas apart
        refine seats other inMesas fun holds => ?_
        exact apart (Option.some.inj ((names other inMesas holds).symm.trans named))
  · intro id row rows
    by_cases isNew : id ∈ saved.map (fun sub => sub.id)
    · obtain ⟨sub, inSaved, rfl⟩ := List.mem_map.mp isNew
      obtain rfl : sub.toCuentaRow = row := by simpa [into.subs sub inSaved] using rows
      simp [(isSub sub inSaved).2.2]
    · by_cases mine : id = cuenta.id
      · rw [mine] at rows
        rcases ends.original_row with same | ⟨-, annulled⟩
        · exact linked.versions cuenta.id row (by rw [stored, ← rows, same])
        · obtain rfl : (closedCuenta cuenta .anulada now).toCuentaRow = row := by
            simpa [annulled] using rows
          simp [closedCuenta]
      · exact linked.versions id row ((into.others id isNew mine).symm.trans rows)

theorem Linked.of_move (request : SalonRequest) (move : SalonMove now db db' request)
    (keeps : request.KeepsTables db) : Linked db' := by
  have keyed := move.keyed linked.keyed
  have formed := move.wellFormed linked.formed
  cases move with
  | idle _ same => exact same ▸ linked
  | created input absent after =>
    subst after
    refine ⟨formed, keyed, ?_, linked.versions⟩
    intro mesa member
    rcases List.mem_append.mp member with kept | new
    · exact (linked.seated mesa kept).of_other_rows _ _ mesa fun _ _ => rfl
    · rw [List.mem_singleton.mp new]
      constructor <;> simp [newMesa]
  | liberated _ mesa member after => exact linked.of_vacated member after
  | vacated _ _ _ source _ allowed after =>
    obtain ⟨member, -⟩ := (getMesaById_eq_some linked.keyed _ _).mp allowed.fromMesa
    exact linked.of_vacated member after
  | stranded _ _ cuenta _ _ allowed version _ =>
    have stored := getCuentaById_stored linked.formed allowed.account
    exact absurd version (linked.versions _ _ stored)
  | opened input account mesas => exact linked.of_opened keyed account mesas
  | added _ _ _ cuenta _ _ mesas resaved | cancelled _ cuenta _ _ _ _ _ mesas resaved =>
    exact resaved.linked_of_mesas linked rfl id mesas
  | transferred validatePin input cuenta source target allowed _ mesas resaved =>
    exact linked.of_transferred keyed allowed mesas resaved keeps
  | split validatePin input cuenta saved rest result planned into ends =>
    exact linked.of_split keyed planned into ends formed keeps
  | checked input cuenta updated isId _ printed sameMesa _ mesas resaved =>
    exact linked.of_checked isId keyed printed sameMesa mesas resaved keeps
  | closed _ cuenta closedStatus _ mesas resaved =>
    exact linked.of_closed keyed mesas resaved
  | kept _ cuenta updated _ sameStatus sameMesa _ mesas resaved =>
    refine resaved.linked_of_mesas linked sameMesa (fun active => ?_) mesas
    rwa [CuentaRow.Active, sameStatus]
  | tendered command cuenta updated isId active sameMesa _ mesas status resaved =>
    rcases status with same | settles
    · refine resaved.linked_of_mesas linked sameMesa (fun active => ?_) mesas
      rwa [CuentaRow.Active, same]
    · have stored := resaved.stored linked
      refine resaved.linked_of_unheld linked mesas ?_
      rw [isId]
      exact keeps cuenta.toCuentaRow (by rw [← isId, stored]; simp) settles

end Step

/-! ### Every run -/

theorem EmptySalon.linked (db : EdgeDb) (empty : EmptySalon db) : Linked db := by
  obtain ⟨formed, keyed⟩ := empty.formed
  refine ⟨formed, keyed, by simp [empty.mesas], fun id row stored => ?_⟩
  simp [EdgeDb.cuentaRows, empty.cuentas] at stored

/-- Tables and accounts agree in every state reached, as long as every request keeps to the tables
its account sits at. -/
theorem tables_agree_with_accounts (options : PaymentOptions) (start db : EdgeDb)
    (empty : EmptySalon start) (run : Relation.ReflTransGen (KeepingStep options) start db) :
    TablesAgree db := by
  have linked : Linked db := by
    induction run with
    | refl => exact empty.linked
    | tail _ step ih =>
      obtain ⟨oracle, request, keeps, rfl⟩ := step
      have move := request.run_move options oracle _ ih.formed ih.keyed
      exact ih.of_move _ move keeps
  exact linked.agree

/-! ### A transfer from a table the account does not sit at -/

def threeTables : EdgeDb :=
  (createsMesa (sampleMesa "m3")).next ((createsMesa (sampleMesa "m2")).next
    ((createsMesa (sampleMesa "m1")).next sampleShiftDb))

def sampleMisplaced : EdgeDb :=
  (transfers { sampleTransfer "m3" with sourceMesaId := "m2" }).next
    ((seatingOf "c" "m1").next threeTables)

def samplePaidSeated : EdgeDb :=
  (tenders (sampleTender .efectivo 1000000 0
    "11111111-1111-4111-8111-111111111111")).next
    ((adds "c" 1 (sampleItem "i")).next ((seatingOf "c" "m1").next threeTables))

/-- After the transfer two tables hold the account; after the payment one holds a paid account. -/
theorem tables_disagree : EmptySalon sampleShiftDb ∧
    (Relation.ReflTransGen (SalonStep sampleOptions) sampleShiftDb sampleMisplaced ∧
      ¬ TablesAgree sampleMisplaced) ∧
    (Relation.ReflTransGen (SalonStep sampleOptions) sampleShiftDb samplePaidSeated ∧
      ¬ TablesAgree samplePaidSeated) := by
  have tables : Relation.ReflTransGen (SalonStep sampleOptions) sampleShiftDb threeTables :=
    .head (next_step _ _) (.head (next_step _ _) (.single (next_step _ _)))
  refine ⟨⟨⟨rfl, rfl, rfl⟩, rfl⟩, ⟨?_, ?_⟩, ?_, ?_⟩
  · exact (tables.tail (next_step _ _)).tail (next_step _ _)
  · intro agree
    have twice : ∃ mesa ∈ sampleMisplaced.mesas, ∃ other ∈ sampleMisplaced.mesas,
        mesa.currentAccountId = some "c" ∧ other.currentAccountId = some "c" ∧ mesa ≠ other := by
      decide +kernel
    obtain ⟨mesa, member, other, inMesas, holds, holds', apart⟩ := twice
    exact apart (agree.once mesa member other inMesas (by simp [holds]) (holds.trans holds'.symm))
  · exact ((tables.tail (next_step _ _)).tail (next_step _ _)).tail (next_step _ _)
  · intro agree
    have paid : ∃ mesa ∈ samplePaidSeated.mesas, mesa.currentAccountId = some "c" ∧
        (samplePaidSeated.getCuentaById "c").map (fun cuenta => cuenta.status) = some .pagada := by
      decide +kernel
    obtain ⟨mesa, member, holds, settled⟩ := paid
    obtain ⟨cuenta, found, active, -⟩ := agree.held mesa member "c" holds
    rw [found, Option.map_some] at settled
    rcases active with isOpen | printed
    · simp [isOpen] at settled
    · simp [printed] at settled

def sampleMovedAndClosed : EdgeDb :=
  (closes "c" 3 .pagada).next ((requestsCheck
    { cuentaId := "c", expectedVersion := 2, requestedByUserId := "eva", operatorPin := none
      nextFolioNumber := some 7 }).next
    ((transfers (sampleTransfer "m2")).next ((seatingOf "c" "m1").next threeTables)))

theorem tables_agree_after_service : TablesAgree sampleMovedAndClosed ∧
    ∃ row ∈ sampleMovedAndClosed.cuentaRows "c", row.status = .pagada := by
  have run : Relation.ReflTransGen (KeepingStep sampleOptions) sampleShiftDb sampleMovedAndClosed := by
    refine .head ⟨sampleAccountOracle, .createsMesa (sampleMesa "m1"), trivial, rfl⟩ ?_
    refine .head ⟨sampleAccountOracle, .createsMesa (sampleMesa "m2"), trivial, rfl⟩ ?_
    refine .head ⟨sampleAccountOracle, .createsMesa (sampleMesa "m3"), trivial, rfl⟩ ?_
    refine .head ⟨sampleAccountOracle, seatingOf "c" "m1", trivial, rfl⟩ ?_
    refine .head ⟨sampleAccountOracle, .transfers (sampleTransfer "m2"), ?_, rfl⟩ ?_
    · unfold SalonRequest.KeepsTables
      decide +kernel
    refine .head ⟨sampleAccountOracle, .requestsCheck
      { cuentaId := "c", expectedVersion := 2, requestedByUserId := "eva", operatorPin := none
        nextFolioNumber := some 7 }, ?_, rfl⟩ ?_
    · unfold SalonRequest.KeepsTables
      decide +kernel
    exact .single ⟨sampleAccountOracle, .closes "c" 3 .pagada, trivial, rfl⟩
  exact ⟨tables_agree_with_accounts sampleOptions sampleShiftDb sampleMovedAndClosed
    ⟨⟨rfl, rfl, rfl⟩, rfl⟩ run, by decide +kernel⟩

end TridentPos.Pos
