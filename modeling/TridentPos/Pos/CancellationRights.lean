import TridentPos.Pos.SalonRuns

/-!
# Who may cancel

An operator who knows only a PIN of their own, and sequences of `cancelItemSync` and
`cancelCuentaSync`. The kitchen status of an item may be stated by the caller, and the PIN of the
operator passes for that of the supervisor or the manager, so what the kitchen has started and what
has been printed is safe only from calls that use neither.
-/
namespace TridentPos.Pos

open Core Library Fallible EdgeDb List

/-! ### Calls of one operator -/

inductive CancelCall where
  | item (input : CancelItemInput)
  | cuenta (input : CancelCuentaInput)

def CancelCall.run (validatePin : String → String → Bool) (db : EdgeDb) (now : Nat) :
    CancelCall → EdgeDb
  | .item input => tablesAfter db (cancelItemSync validatePin db input now)
  | .cuenta input => tablesAfter db (cancelCuentaSync validatePin db input now)

def runCancellations (validatePin : String → String → Bool) (db : EdgeDb) :
    List (Nat × CancelCall) → EdgeDb
  | [] => db
  | (now, call) :: calls => runCancellations validatePin (call.run validatePin db now) calls

/-- The PIN is the operator's own and nobody else's who could authorise them. -/
structure UnderPrivileged (validatePin : String → String → Bool) (user pin : String) : Prop where
  own : validatePin user pin
  supervisor : validatePin "supervisor" pin = false
  manager : validatePin "manager" pin = false
  gerente : validatePin "gerente" pin = false

def CancelCall.ByOperator (user pin : String) : CancelCall → Prop
  | .item input => input.operatorUserId = user ∧ input.operatorPin = pin ∧
      ∀ given, input.supervisorPin = some given → given = pin
  | .cuenta input => input.requestedByUserId = user ∧ input.requestedByPin = pin ∧
      ∀ given, input.managerPin = some given → given = pin

/-! ### What is to be protected -/

def CuentaItemStatus.Started (status : CuentaItemStatus) : Prop :=
  status.text ∉ unstartedStatuses ∧ status ≠ .cancelado

def EdgeDb.itemStatus (db : EdgeDb) (id : String) : Option CuentaItemStatus :=
  (db.items.find? fun item => item.id == id).map CuentaItem.status

def EdgeDb.cuentaStatus (db : EdgeDb) (id : String) : Option CuentaStatus :=
  (db.findCuenta id).map CuentaRow.status

structure Protects (db db' : EdgeDb) : Prop where
  items : ∀ id status, db.itemStatus id = some status → status.Started →
    db'.itemStatus id ≠ some .cancelado
  cuentas : ∀ id, db.cuentaStatus id = some .impresa → db'.cuentaStatus id ≠ some .anulada

def StatesUnstarted (input : CancelItemInput) : Prop :=
  ∃ text, input.kitchenStatus = some text ∧
    toUpperCase text ∈ unstartedStatuses

/-- A call that names a started item or a printed account at its stored version gives no PIN of a
supervisor or manager, and does not say that the kitchen has not begun. -/
def CancelCall.Restrained (db : EdgeDb) : CancelCall → Prop
  | .item input => ∀ cuenta index item, db.getCuentaById input.cuentaId = some cuenta →
      findItem cuenta input.itemId = .ok (index, item) → item.status.Started →
      cuenta.version = input.expectedVersion → isBlank input.reason = false →
      input.supervisorPin.getD "" = "" ∧ ¬StatesUnstarted input
  | .cuenta input => ∀ cuenta, db.getCuentaById input.cuentaId = some cuenta →
      cuenta.status = .impresa → cuenta.version = input.expectedVersion →
      isBlank input.reason = false → input.managerPin.getD "" = ""

def AllRestrained (validatePin : String → String → Bool) (db : EdgeDb) :
    List (Nat × CancelCall) → Prop
  | [] => True
  | (now, call) :: calls =>
    call.Restrained db ∧ AllRestrained validatePin (call.run validatePin db now) calls

structure Versioned (db : EdgeDb) : Prop where
  formed : db.WellFormed
  cuentas : ∀ id row, db.cuentaRows id = [row] → row.version ≠ 0
  mesas : ∀ mesa ∈ db.mesas, mesa.version ≠ 0

/-! ### Authorisation -/

theorem filter_given (pin : Option String) :
    (pin.filter fun given => given != "") = none ↔ pin.getD "" = "" := by
  cases pin with
  | none => simp
  | some given => simp [Option.filter_some]

theorem canCancelItem_allowed (context : CancellationContext) :
    (canCancelItem context).allowed ↔ isBlank context.reason = false ∧
      (toUpperCase context.kitchenStatus ∈ unstartedStatuses ∨
        context.hasSupervisorAuthorization) := by
  unfold canCancelItem
  dsimp only
  split
  next blank => simp [blank]
  next reason =>
    split
    next unstarted => simp [reason, unstarted]
    next started =>
      -- both remaining branches ask for the supervisor
      split
      · split
        next refused => simpa [reason, started] using refused
        next granted => simpa [reason, started] using granted
      · split
        next refused => simpa [reason, started] using refused
        next granted => simpa [reason, started] using granted

theorem text_upper (status : CuentaItemStatus) :
    toUpperCase status.text = status.text := by
  cases status <;> decide +kernel

variable {input : CancelItemInput} {saved : Cuenta} {now : Nat}

section Authorisation

variable {validatePin : String → String → Bool} {user pin : String}
  (rights : UnderPrivileged validatePin user pin)

include rights

theorem supervisorAuthorization_of_operator (made : (CancelCall.item input).ByOperator user pin) :
    supervisorAuthorization validatePin input = .ok (decide (input.supervisorPin.getD "" ≠ "")) := by
  obtain ⟨isUser, -, known⟩ := made
  unfold supervisorAuthorization
  split
  next absent => simp [(filter_given _).mp absent]
  next given present =>
    obtain ⟨isGiven, nonempty⟩ := Option.filter_eq_some_iff.mp present
    obtain rfl := known given isGiven
    rw [isUser, rights.own, isGiven]
    simpa using nonempty

theorem checkCancellation_started {item : CuentaItem}
    (made : (CancelCall.item input).ByOperator user pin) (started : item.status.Started)
    (reason : isBlank input.reason = false) :
    (∃ waste, checkCancellation validatePin input item = .ok waste) ↔
      ¬(input.supervisorPin.getD "" = "" ∧ ¬StatesUnstarted input) := by
  have stated : toUpperCase (input.kitchenStatus.getD item.status.text) ∈
      unstartedStatuses ↔ StatesUnstarted input := by
    cases given : input.kitchenStatus with
    | none => simpa [StatesUnstarted, given, text_upper] using started.1
    | some text => simp [StatesUnstarted, given]
  have allowed := canCancelItem_allowed
    { kitchenStatus := input.kitchenStatus.getD item.status.text
      hasSupervisorAuthorization := decide (input.supervisorPin.getD "" ≠ "")
      reason := input.reason }
  rw [stated] at allowed
  simp only [checkCancellation, supervisorAuthorization_of_operator rights made, ok_bind]
  constructor
  · rintro ⟨waste, accepted⟩ ⟨noPin, unstated⟩
    split at accepted
    next => exact throw_ne_ok accepted
    next permitted =>
      obtain ⟨-, either⟩ := allowed.mp (by simpa using permitted)
      rcases either with stating | authorized
      · exact unstated stating
      · exact absurd noPin (by simpa using authorized)
  · intro either
    have permitted := allowed.mpr ⟨reason, by
      by_contra neither
      rw [not_or] at neither
      exact either ⟨by simpa using neither.2, neither.1⟩⟩
    rw [permitted]
    exact ⟨_, rfl⟩

theorem checkManagerPin_printed {input : CancelCuentaInput} {cuenta : Cuenta}
    (made : (CancelCall.cuenta input).ByOperator user pin) (printed : cuenta.status = .impresa) :
    checkManagerPin validatePin input cuenta = .ok () ↔ input.managerPin.getD "" ≠ "" := by
  obtain ⟨isUser, -, known⟩ := made
  unfold checkManagerPin
  rw [if_neg (not_not.mpr printed)]
  split
  next absent => simp [(filter_given _).mp absent]
  next given present =>
    obtain ⟨isGiven, nonempty⟩ := Option.filter_eq_some_iff.mp present
    obtain rfl := known given isGiven
    rw [isUser, rights.own, isGiven]
    simpa using nonempty

end Authorisation

/-! ### What a call changes -/

structure CancelsOnly (db db' : EdgeDb) : Prop where
  items : ∀ id, db'.itemStatus id = db.itemStatus id ∨
    (db.itemStatus id ≠ none ∧ db'.itemStatus id = some .cancelado)
  cuentas : ∀ id, db'.cuentaStatus id = db.cuentaStatus id ∨
    (db.cuentaStatus id ≠ none ∧ db'.cuentaStatus id = some .anulada)

structure CancelsOne {σ : Type} (cancelled : σ) (id : String) (status : σ)
    (before after : String → Option σ) : Prop where
  was : before id = some status
  is : after id = some cancelled
  others : ∀ other, other ≠ id → after other = before other

section One

variable {σ : Type} {cancelled status : σ} {id other : String} {before after : String → Option σ}
  (one : CancelsOne cancelled id status before after)

include one

theorem CancelsOne.cancels (other : String) :
    after other = before other ∨ (before other ≠ none ∧ after other = some cancelled) := by
  by_cases mine : other = id
  · rw [mine]
    exact .inr ⟨by simp [one.was], one.is⟩
  · exact .inl (one.others other mine)

theorem CancelsOne.of_cancelled {known : σ} (stored : before other = some known)
    (gone : after other = some cancelled) (standing : known ≠ cancelled) : status = known := by
  by_cases mine : other = id
  · exact Option.some.inj (one.was.symm.trans (mine ▸ stored))
  · rw [one.others other mine, stored] at gone
    exact absurd (Option.some.inj gone) standing

end One

theorem cuentaStatus_of_cuentaRows {db db' : EdgeDb} {id : String}
    (same : db'.cuentaRows id = db.cuentaRows id) : db'.cuentaStatus id = db.cuentaStatus id := by
  have heads (db : EdgeDb) : db.findCuenta id = (db.cuentaRows id).head? := by
    rw [findCuenta, cuentaRows, head?_filter]
  rw [cuentaStatus, cuentaStatus, heads db, heads db', same]

theorem cuentaStatus_of_row {db : EdgeDb} {id : String} {row : CuentaRow}
    (stored : db.cuentaRows id = [row]) : db.cuentaStatus id = some row.status := by
  rw [cuentaStatus, findCuenta_of_cuentaRows db id stored]
  rfl

section Effects

variable {validatePin : String → String → Bool} {db db' : EdgeDb} (before : Versioned db)

include before

variable {cuenta : Cuenta}

theorem Resaved.versioned_after {updated : Cuenta} (resaved : Resaved db db' cuenta updated)
    (mesas : ∀ mesa ∈ db'.mesas, mesa.version ≠ 0) : Versioned db' :=
  ⟨resaved.wellFormed before.formed, resaved.versions before.cuentas, mesas⟩

theorem saveCuenta_succeeds {cuentaId : String} (cuenta updated : Cuenta)
    (found : db.getCuentaById cuentaId = some cuenta) (same : updated.id = cuenta.id) :
    ∃ db', db.saveCuenta updated cuenta.version = .ok db' := by
  have stored := getCuentaById_stored before.formed found
  have nonzero := before.cuentas _ _ stored
  have listed : cuenta.toCuentaRow ∈ db.cuentas :=
    (mem_filter.mp (stored ▸ mem_singleton_self _ :
      cuenta.toCuentaRow ∈ db.cuentaRows cuenta.id)).1
  exact ⟨_, (saveCuenta_eq_ok ..).mpr (.inr ⟨nonzero, ⟨_, listed, same.symm, rfl⟩, rfl⟩)⟩

variable {item cancelled : CuentaItem}

theorem itemStatus_of_mem (member : item ∈ db.items) :
    db.items.find? (fun row => row.id == item.id) = some item := by
  cases hit : db.items.find? fun row => row.id == item.id with
  | none => exact absurd (find?_eq_none.mp hit item member) (by simp)
  | some row =>
    have same : row.id = item.id := by simpa using find?_some hit
    rw [inj_on_of_nodup_map before.formed.items (mem_of_find?_eq_some hit) member same]

theorem cancelItemSync_accepted (now : Nat) {index : Nat} {waste : Bool}
    (valid : validatePin input.operatorUserId input.operatorPin)
    (passes : CancelItemPasses validatePin db input cuenta index item waste) :
    ∃ result, cancelItemSync validatePin db input now = .ok result := by
  obtain ⟨reason, found, current, located, checked⟩ := passes
  obtain ⟨after, saves⟩ := saveCuenta_succeeds before cuenta
    (withItems cuenta (cuenta.items.set index (cancelledItem item input waste now)) now) found rfl
  rw [current] at saves
  simp only [cancelItemSync, reason, valid, found, current, located, checked, ok_bind,
    saves, Bool.false_eq_true, Bool.not_true, if_false, ne_eq, not_true_eq_false]
  exact ⟨_, rfl⟩

theorem cancelItemSync_statuses
    (returned : cancelItemSync validatePin db input now = .ok (saved, cancelled, db')) :
    ∃ cuenta index item waste, CancelItemPasses validatePin db input cuenta index item waste ∧
      Versioned db' ∧ (∀ id, db'.cuentaStatus id = db.cuentaStatus id) ∧
      CancelsOne .cancelado item.id item.status db.itemStatus db'.itemStatus := by
  obtain ⟨cuenta, index, item, waste, passes, mesas, resaved⟩ :=
    cancelItem_resaved before.formed returned
  have found := passes.found
  obtain ⟨present, -, -⟩ := findItem_eq_ok passes.located
  obtain ⟨stored, -⟩ := getCuentaById_items found item (mem_of_getElem? present)
  have items := persistItems_replaced before.formed item
    (cancelledItem item input waste now) found present rfl
  refine ⟨cuenta, index, item, waste, passes,
    resaved.versioned_after before (mesas ▸ before.mesas), ?_, ?_, ?_, ?_⟩
  · intro id
    by_cases mine : id = cuenta.id
    · rw [mine, cuentaStatus_of_row resaved.rows,
        cuentaStatus_of_row (getCuentaById_stored before.formed found)]
      rfl
    · exact cuentaStatus_of_cuentaRows (resaved.otherRows id mine)
  · rw [itemStatus, itemStatus_of_mem before stored]
    rfl
  · have hit := Table.find?_updateWhere_self (fun row => row.id == item.id)
      (overwriteItem (cancelledItem item input waste now)) db.items fun row same => same
    rw [itemStatus, resaved.items]
    exact congrArg (Option.map CuentaItem.status)
      ((congrArg (List.find? _) items).trans (hit.trans (by
        rw [itemStatus_of_mem before stored])))
  · intro id apart
    rw [itemStatus, resaved.items]
    refine congrArg (Option.map CuentaItem.status) ((congrArg (List.find? _) items).trans ?_)
    apply Table.find?_updateWhere_other
    · intro row same
      have isItem : row.id = item.id := beq_iff_eq.mp same
      simpa [isItem] using apart.symm
    · intro row same
      have isItem : row.id = item.id := beq_iff_eq.mp same
      simpa [overwriteItem, isItem] using apart.symm

omit before in
theorem freeMesa_succeeds (cuenta : Cuenta) (now : Nat)
    (versions : ∀ mesa ∈ db.mesas, mesa.version ≠ 0) :
    ∃ result, freeMesa db cuenta now = .ok result := by
  unfold freeMesa
  split
  next => exact ⟨_, rfl⟩
  next mesa found =>
    split
    next =>
      obtain ⟨id, -, read⟩ := Option.bind_eq_some_iff.mp found
      have member := mem_of_find?_eq_some read
      have hit : (db.mesas.any fun row => row.id == mesa.id && row.version == mesa.version) :=
        any_eq_true.mpr ⟨mesa, member, by simp⟩
      simp only [saveMesa, if_neg (versions mesa member), hit, if_true, ok_bind]
      exact ⟨_, rfl⟩
    next => exact ⟨_, rfl⟩

omit before in
theorem freeMesa_versions (mesa : Option Mesa) (versions : ∀ mesa ∈ db.mesas, mesa.version ≠ 0)
    (returned : freeMesa db cuenta now = .ok (mesa, db')) :
    ∀ mesa ∈ db'.mesas, mesa.version ≠ 0 := by
  unfold freeMesa at returned
  split at returned
  next =>
    obtain ⟨-, rfl⟩ := Prod.mk.inj (Except.ok.inj returned)
    exact versions
  next stored found =>
    split at returned
    next =>
      obtain ⟨id, -, read⟩ := Option.bind_eq_some_iff.mp found
      have nonzero := versions stored (mem_of_find?_eq_some read)
      simp only [saveMesa, if_neg nonzero, bind_eq_ok, pure_eq_ok, Prod.mk.injEq] at returned
      obtain ⟨after, saves, -, rfl⟩ := returned
      split at saves
      next =>
        obtain rfl := Except.ok.inj saves
        intro mesa member
        rcases Table.mem_updateWhere.mp member with ⟨-, -, -, rfl⟩ | ⟨kept, -⟩
        · exact Nat.succ_ne_zero _
        · exact versions mesa kept
      next => simp at saves
    next =>
      obtain ⟨-, rfl⟩ := Prod.mk.inj (Except.ok.inj returned)
      exact versions

theorem cancelCuentaSync_accepted {input : CancelCuentaInput} (now : Nat)
    (reason : isBlank input.reason = false)
    (valid : validatePin input.requestedByUserId input.requestedByPin)
    (found : db.getCuentaById input.cuentaId = some cuenta) (printed : cuenta.status = .impresa)
    (current : cuenta.version = input.expectedVersion)
    (checked : checkManagerPin validatePin input cuenta = .ok ()) :
    ∃ result, cancelCuentaSync validatePin db input now = .ok result := by
  obtain ⟨between, saves⟩ := saveCuenta_succeeds before cuenta
    (closedCuenta cuenta .anulada now) found rfl
  obtain ⟨-, mesas⟩ := saveCuenta_resaved before.formed found saves rfl rfl rfl
  obtain ⟨⟨mesa, after⟩, frees⟩ := freeMesa_succeeds (closedCuenta cuenta .anulada now) now
    (mesas ▸ before.mesas)
  rw [current] at saves
  simp only [cancelCuentaSync, reason, valid, found, printed, current, checked, saves, frees,
    ok_bind, Bool.false_eq_true, Bool.not_true, if_false, ne_eq, not_true_eq_false,
    reduceCtorEq]
  exact ⟨_, rfl⟩

theorem cancelCuentaSync_statuses {input : CancelCuentaInput} {mesa : Option Mesa}
    (returned : cancelCuentaSync validatePin db input now = .ok (saved, mesa, db')) :
    isBlank input.reason = false ∧ ∃ cuenta, db.getCuentaById input.cuentaId = some cuenta ∧
      cuenta.version = input.expectedVersion ∧ checkManagerPin validatePin input cuenta = .ok () ∧
      Versioned db' ∧ (∀ id, db'.itemStatus id = db.itemStatus id) ∧
      CancelsOne .anulada cuenta.id cuenta.status db.cuentaStatus db'.cuentaStatus := by
  obtain ⟨reason, cuenta, between, found, -, -, current, checked, saves, frees⟩ :=
    cancelCuentaSync_passed returned
  obtain ⟨resaved, mesas⟩ := saveCuenta_resaved before.formed found saves rfl rfl rfl
  have versions := freeMesa_versions mesa (mesas ▸ before.mesas) frees
  obtain ⟨freed, isAfter⟩ := freeMesa_eq_ok frees
  have after := resaved.with_mesas isAfter
  refine ⟨reason, cuenta, found, current, checked, after.versioned_after before versions,
    ?_, ?_, ?_, ?_⟩
  · intro id
    rw [itemStatus, (after.items_eq before.formed ⟨rfl, rfl⟩).1, ← itemStatus]
  · exact cuentaStatus_of_row (getCuentaById_stored before.formed found)
  · rw [cuentaStatus_of_row after.rows]
    rfl
  · intro id apart
    exact cuentaStatus_of_cuentaRows (after.otherRows id apart)

variable (validatePin)

theorem CancelCall.run_cancelsOnly (call : CancelCall) (now : Nat) :
    Versioned (call.run validatePin db now) ∧ CancelsOnly db (call.run validatePin db now) := by
  have unchanged : Versioned db ∧ CancelsOnly db db :=
    ⟨before, fun _ => .inl rfl, fun _ => .inl rfl⟩
  cases call with
  | item input =>
    rw [CancelCall.run]
    cases returned : cancelItemSync validatePin db input now with
    | error e => exact unchanged
    | ok result =>
      obtain ⟨cuenta, index, item, waste, -, versioned, cuentas, one⟩ :=
        cancelItemSync_statuses before returned
      exact ⟨versioned, one.cancels, fun id => .inl (cuentas id)⟩
  | cuenta input =>
    rw [CancelCall.run]
    cases returned : cancelCuentaSync validatePin db input now with
    | error e => exact unchanged
    | ok result =>
      obtain ⟨-, cuenta, -, -, -, versioned, items, one⟩ :=
        cancelCuentaSync_statuses before returned
      exact ⟨versioned, fun id => .inl (items id), one.cancels⟩

omit before in
theorem cancels_trans {σ : Type} {cancelled : σ} {before between after : Option σ}
    (first : between = before ∨ (before ≠ none ∧ between = some cancelled))
    (rest : after = between ∨ (between ≠ none ∧ after = some cancelled)) :
    after = before ∨ (before ≠ none ∧ after = some cancelled) := by
  rcases rest with rfl | ⟨known, is⟩
  · exact first
  · rcases first with rfl | ⟨was, -⟩
    · exact .inr ⟨known, is⟩
    · exact .inr ⟨was, is⟩

theorem runCancellations_cancelsOnly (calls : List (Nat × CancelCall)) :
    CancelsOnly db (runCancellations validatePin db calls) := by
  induction calls generalizing db with
  | nil => exact ⟨fun _ => .inl rfl, fun _ => .inl rfl⟩
  | cons head calls ih =>
    obtain ⟨now, call⟩ := head
    obtain ⟨versioned, first⟩ := call.run_cancelsOnly validatePin before now
    have rest := ih versioned
    exact ⟨fun id => cancels_trans (first.items id) (rest.items id),
      fun id => cancels_trans (first.cuentas id) (rest.cuentas id)⟩

end Effects

theorem Protects.refl (db : EdgeDb) : Protects db db := by
  constructor
  · intro id status was started is
    exact started.2 (Option.some.inj (was.symm.trans is))
  · intro id was is
    rw [was] at is
    cases is

theorem protects_trans_iff {db between db' : EdgeDb} (first : CancelsOnly db between)
    (second : CancelsOnly between db') :
    Protects db db' ↔ Protects db between ∧ Protects between db' := by
  constructor
  · intro whole
    refine ⟨⟨?_, ?_⟩, ⟨?_, ?_⟩⟩
    · intro id status was started cancelled
      refine whole.items id status was started ?_
      rcases second.items id with same | ⟨-, is⟩
      · rw [same, cancelled]
      · exact is
    · intro id was cancelled
      refine whole.cuentas id was ?_
      rcases second.cuentas id with same | ⟨-, is⟩
      · rw [same, cancelled]
      · exact is
    · intro id status was started
      rcases first.items id with same | ⟨-, is⟩
      · exact whole.items id status (same ▸ was) started
      · exact absurd (Option.some.inj (was.symm.trans is)) started.2
    · intro id was
      rcases first.cuentas id with same | ⟨-, is⟩
      · exact whole.cuentas id (same ▸ was)
      · rw [was] at is
        cases is
  · rintro ⟨early, late⟩
    constructor
    · intro id status was started
      rcases first.items id with same | ⟨-, is⟩
      · exact late.items id status (same.trans was) started
      · exact absurd is (early.items id status was started)
    · intro id was
      rcases first.cuentas id with same | ⟨-, is⟩
      · exact late.cuentas id (same.trans was)
      · exact absurd is (early.cuentas id was)

section Operator

variable (validatePin : String → String → Bool) (user pin : String)
  (rights : UnderPrivileged validatePin user pin)

include rights

theorem CancelCall.protects_iff (db : EdgeDb) (before : Versioned db) (now : Nat)
    (call : CancelCall) (made : call.ByOperator user pin) :
    Protects db (call.run validatePin db now) ↔ call.Restrained db := by
  cases call with
  | item input =>
    have valid : validatePin input.operatorUserId input.operatorPin := by
      rw [made.1, made.2.1, rights.own]
    rw [CancelCall.run]
    constructor
    · intro kept cuenta index item found located started current reason
      by_contra bypass
      obtain ⟨waste, checked⟩ := (checkCancellation_started rights made started reason).mpr bypass
      obtain ⟨⟨saved, cancelled, db'⟩, returned⟩ := cancelItemSync_accepted before now valid
        ⟨reason, found, current, located, checked⟩
      obtain ⟨cuenta', index', item', _, passes, -, -, one⟩ :=
        cancelItemSync_statuses before returned
      obtain rfl := Option.some.inj (found.symm.trans passes.found)
      obtain ⟨-, rfl⟩ := Prod.mk.inj (Except.ok.inj (located.symm.trans passes.located))
      rw [returned] at kept
      exact kept.items item.id item.status one.was started one.is
    · intro restrained
      cases returned : cancelItemSync validatePin db input now with
      | error e => exact Protects.refl db
      | ok result =>
        obtain ⟨cuenta, index, item, waste, passes, -, cuentas, one⟩ :=
          cancelItemSync_statuses before returned
        constructor
        · intro id status stored started gone
          obtain rfl := one.of_cancelled stored gone started.2
          exact (checkCancellation_started rights made started passes.reason).mp
            ⟨waste, passes.checked⟩ (restrained cuenta index item passes.found passes.located
              started passes.current passes.reason)
        · intro id stored gone
          exact absurd (stored.symm.trans ((cuentas id).symm.trans gone)) (by simp)
  | cuenta input =>
    have valid : validatePin input.requestedByUserId input.requestedByPin := by
      rw [made.1, made.2.1, rights.own]
    rw [CancelCall.run]
    constructor
    · intro kept cuenta found printed current reason
      by_contra bypass
      have checked := (checkManagerPin_printed rights made printed).mpr bypass
      obtain ⟨⟨saved, mesa, db'⟩, returned⟩ := cancelCuentaSync_accepted before
        now reason valid found printed current checked
      obtain ⟨-, cuenta', found', -, -, -, -, one⟩ := cancelCuentaSync_statuses before returned
      obtain rfl := Option.some.inj (found.symm.trans found')
      rw [returned] at kept
      exact kept.cuentas cuenta.id (by rw [one.was, printed]) one.is
    · intro restrained
      cases returned : cancelCuentaSync validatePin db input now with
      | error e => exact Protects.refl db
      | ok result =>
        obtain ⟨reason, cuenta, found, current, checked, -, items, one⟩ :=
          cancelCuentaSync_statuses before returned
        constructor
        · intro id status stored started gone
          exact started.2 (Option.some.inj (stored.symm.trans ((items id).symm.trans gone)))
        · intro id stored gone
          have printed := one.of_cancelled stored gone (by simp)
          exact (checkManagerPin_printed rights made printed).mp checked
            (restrained cuenta found printed current reason)

/-- A sequence of the operator's calls cancels nothing that is started or printed exactly when each
of them is restrained in the state it meets. -/
theorem cancellations_protect_iff (db : EdgeDb) (before : Versioned db)
    (calls : List (Nat × CancelCall)) (made : ∀ entry ∈ calls, entry.2.ByOperator user pin) :
    Protects db (runCancellations validatePin db calls) ↔ AllRestrained validatePin db calls := by
  induction calls generalizing db with
  | nil =>
    exact iff_of_true (Protects.refl db) trivial
  | cons head calls ih =>
    obtain ⟨now, call⟩ := head
    obtain ⟨versioned, first⟩ := call.run_cancelsOnly validatePin before now
    have rest := runCancellations_cancelsOnly validatePin versioned calls
    rw [AllRestrained, runCancellations, protects_trans_iff first rest,
      call.protects_iff validatePin user pin rights db before now (made _ mem_cons_self),
      ih _ versioned fun entry member => made entry (mem_cons_of_mem _ member)]

end Operator

/-! ### An operator with one PIN -/

def servedDb : EdgeDb :=
  { empty with
    cuentas := [{ sampleCuentaRow with status := .impresa }]
    items := [newItem "c" (sampleItem "ordered") 0,
      { newItem "c" (sampleItem "cooking") 0 with status := .enCocina }] }

def onlyAna (user pin : String) : Bool := user == "ana" && pin == "1234"

def anaCancelsItem (itemId : String) (supervisorPin kitchenStatus : Option String) : CancelCall :=
  .item
    { cuentaId := "c", itemId := itemId, expectedVersion := 2, reason := "error"
      operatorUserId := "ana", operatorPin := "1234", supervisorPin, kitchenStatus }

def anaCancelsCuenta (managerPin : Option String) : CancelCall :=
  .cuenta
    { cuentaId := "c", expectedVersion := 2, reason := "error", requestedByUserId := "ana"
      requestedByPin := "1234", managerPin }

theorem onlyAna_underPrivileged : UnderPrivileged onlyAna "ana" "1234" :=
  ⟨by decide, by decide, by decide, by decide⟩

theorem servedDb_versioned : Versioned servedDb := by
  refine ⟨⟨fun id => ?_, by decide, fun id none => ?_⟩, fun id row stored => ?_, by decide⟩
  · exact length_filter_le _ servedDb.cuentas
  · have apart : id ≠ "c" := by
      rintro rfl
      exact absurd none (by decide)
    refine ⟨filter_eq_nil_iff.mpr ?_, rfl⟩
    have owners : ∀ item ∈ servedDb.items, item.cuentaId = "c" := by decide
    intro item member
    simpa [owners item member] using apart.symm
  · have member : row ∈ servedDb.cuentas :=
      (mem_filter.mp (stored ▸ mem_singleton_self row : row ∈ servedDb.cuentaRows id)).1
    exact (by decide : ∀ row ∈ servedDb.cuentas, row.version ≠ 0) row member

/-- The item that was only ordered is cancelled, and what is cooking or printed stays. -/
theorem ordered_item_cancelled :
    Protects servedDb
      (runCancellations onlyAna servedDb [(1, anaCancelsItem "ordered" none none)]) ∧
    (runCancellations onlyAna servedDb [(1, anaCancelsItem "ordered" none none)]).itemStatus
      "ordered" = some .cancelado := by
  refine ⟨(cancellations_protect_iff onlyAna "ana" "1234" onlyAna_underPrivileged servedDb
    servedDb_versioned _ ?_).mpr ⟨?_, trivial⟩, by decide +kernel⟩
  · intro entry member
    obtain rfl := mem_singleton.mp member
    exact ⟨rfl, rfl, by simp⟩
  · intro cuenta index item found located started
    have ordered : (servedDb.getCuentaById "c").map
        (fun cuenta => (findItem cuenta "ordered").toOption.map (·.2.status)) =
        some (some .ordenado) := by decide +kernel
    rw [found, Option.map_some, located] at ordered
    have status : item.status = .ordenado := by simpa [Except.toOption] using ordered
    exact absurd (status ▸ started.1) (by decide)

/-- By their word, or by their own PIN, the operator cancels what is cooking and what is printed. -/
theorem operator_cancels_started_and_printed :
    UnderPrivileged onlyAna "ana" "1234" ∧
    servedDb.itemStatus "cooking" = some .enCocina ∧ servedDb.cuentaStatus "c" = some .impresa ∧
    (∀ entry ∈ [anaCancelsItem "cooking" none (some "pendiente"),
      anaCancelsItem "cooking" (some "1234") none, anaCancelsCuenta (some "1234")],
      entry.ByOperator "ana" "1234") ∧
    ((anaCancelsItem "cooking" none (some "pendiente")).run onlyAna servedDb 1).itemStatus "cooking" =
      some .cancelado ∧
    ((anaCancelsItem "cooking" (some "1234") none).run onlyAna servedDb 1).itemStatus "cooking" =
      some .cancelado ∧
    ((anaCancelsCuenta (some "1234")).run onlyAna servedDb 1).cuentaStatus "c" = some .anulada := by
  refine ⟨onlyAna_underPrivileged, by decide +kernel, by decide +kernel, ?_, by decide +kernel,
    by decide +kernel, by decide +kernel⟩
  intro entry member
  simp only [mem_cons, not_mem_nil, or_false] at member
  rcases member with rfl | rfl | rfl <;> exact ⟨rfl, rfl, by simp⟩

end TridentPos.Pos
