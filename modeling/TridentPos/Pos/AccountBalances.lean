import TridentPos.Pos.AccountTotals
import TridentPos.Pos.Splits

/-!
# Payments and totals

Requests on accounts one after the other: opening, serving, cancelling, splitting and paying.
Nothing in the code compares a total that is lowered with what has been paid, so the payments
stay within the totals only as long as no request takes from an account what its payments cover.
-/
namespace TridentPos.Pos

open Core Library Fallible List

/-! ### Runs -/

inductive AccountRequest where
  | dining (request : DiningRequest)
  | split (input : SplitCuentaInput)
  | tender (command : SubmitTenderCommand)

structure AccountOracle where
  validatePin : String → String → Option String → Bool
  stamp : Stamp
  interruption : Option DomainError

/-- The tables after a request. A split that fails keeps the sub-accounts it has saved. -/
def AccountRequest.run (options : PaymentOptions) (oracle : AccountOracle) (db : EdgeDb) :
    AccountRequest → EdgeDb
  | .dining request =>
    stateAfter db
      (request.run (fun user pin => oracle.validatePin user pin none) db oracle.stamp.now)
  | .split input =>
    (splitCuentaSync (fun user pin => oracle.validatePin user pin none) db input oracle.stamp.now).2
  | .tender command =>
    stateAfter db
      (submitTender options oracle.validatePin db command oracle.stamp oracle.interruption)

/-- An added item has a free id and does not cost less than nothing, and a split sub-account is
not served for the first time after a payment. A cancelled item costs no more than what is left
to pay. -/
def DiningRequest.Affordable (db : EdgeDb) : DiningRequest → Prop
  | .opens _ => True
  | .adds cuentaId _ input =>
    ItemIdFree db cuentaId input.id ∧ 0 ≤ input.financials.total ∧
      ∀ row ∈ db.cuentaRows cuentaId, row.parentCuentaId ≠ none → db.itemRows cuentaId = [] →
        db.pagosOf cuentaId = []
  | .cancels input =>
    ∀ row ∈ db.cuentaRows input.cuentaId, row.status ≠ .anulada →
      ∀ item ∈ db.itemRows input.cuentaId, item.id = input.itemId →
        item.total ≤ row.totalAmount - db.paid input.cuentaId

instance (db : EdgeDb) : DecidablePred (DiningRequest.Affordable db)
  | .opens _ => .isTrue trivial
  | .adds .. => inferInstanceAs (Decidable (_ ∧ _ ∧ ∀ _ ∈ _, _ → _ → _))
  | .cancels _ => inferInstanceAs (Decidable (∀ _ ∈ _, _ → ∀ _ ∈ _, _ → _))

def AccountRequest.Affordable (db : EdgeDb) : AccountRequest → Prop
  | .dining request => request.Affordable db
  | .split input => db.pagosOf input.cuentaId = [] ∧ RatiosNonneg input.partitions
  | .tender _ => True

instance (db : EdgeDb) : DecidablePred (AccountRequest.Affordable db)
  | .dining request => inferInstanceAs (Decidable (request.Affordable db))
  | .split input => inferInstanceAs (Decidable (_ ∧ RatiosNonneg input.partitions))
  | .tender _ => .isTrue trivial

def AccountStep (options : PaymentOptions) (db db' : EdgeDb) : Prop :=
  ∃ oracle request, AccountRequest.run options oracle db request = db'

def AffordableStep (options : PaymentOptions) (db db' : EdgeDb) : Prop :=
  ∃ oracle request, request.Affordable db ∧ AccountRequest.run options oracle db request = db'

def EdgeDb.owed (db : EdgeDb) (cuentaId : String) : Int :=
  ((db.cuentaRows cuentaId).map CuentaRow.totalAmount).sum - db.paid cuentaId

/-! ### The invariant -/

/-- The payments are within the total, and the total is within the items and the tips, unless the
account came out of a split and has no items of its own. -/
structure CoveredRow (row : CuentaRow) (items : List CuentaItem) (pagos : List Pago) : Prop where
  tips : row.tipsTotal = totalTips pagos
  paid : totalPaid pagos ≤ row.totalAmount
  backed : row.totalAmount ≤ activeSum CuentaItem.total items + row.tipsTotal ∨
    (row.parentCuentaId ≠ none ∧ items = [])

structure Covered (db : EdgeDb) : Prop where
  wellFormed : db.WellFormed
  sound : ∀ item ∈ db.items, SoundItem item
  rows : ∀ id row, db.cuentaRows id = [row] → row.status ≠ .anulada →
    CoveredRow row (db.itemRows id) (db.pagosOf id)

theorem NoAccounts.covered (db : EdgeDb) (empty : NoAccounts db) : Covered db := by
  refine ⟨empty.booked.wellFormed, by simp [empty.items], ?_⟩
  simp [EdgeDb.cuentaRows, empty.cuentas]

variable {db db' : EdgeDb} {now : Nat}

theorem Covered.of_opened {input : OpenCuentaInput} (covered : Covered db)
    (opened : Opened db db' (newCuenta input now)) : Covered db' := by
  obtain ⟨noItems, noPagos⟩ := covered.wellFormed.owned _ opened.missing
  refine ⟨opened.wellFormed _ _ _ covered.wellFormed, by rw [opened.items]; exact covered.sound, ?_⟩
  have items (id : String) : db'.itemRows id = db.itemRows id := by
    rw [EdgeDb.itemRows, opened.items, EdgeDb.itemRows]
  have pagos (id : String) : db'.pagosOf id = db.pagosOf id := by
    rw [EdgeDb.pagosOf, opened.pagos, EdgeDb.pagosOf]
  simp only [items, pagos]
  refine forall_rows_of_written opened.rows opened.otherRows ?_ fun id row _ => covered.rows id row
  rw [noItems, noPagos]
  exact fun _ => ⟨rfl, le_rfl, .inl le_rfl⟩

/-! ### Items -/

theorem newItem_sound (cuentaId : String) {input : AddItemInput} (now : Nat)
    (nonneg : 0 ≤ input.financials.total) : SoundItem (newItem cuentaId input now) :=
  ⟨rfl, nonneg⟩

theorem SoundItem.of_amounts {item item' : CuentaItem} (sound : SoundItem item)
    (amounts : ∀ column ∈ amountColumns, column item' = column item) : SoundItem item' := by
  have subtotal := amounts CuentaItem.subtotal (by simp [amountColumns])
  have tax := amounts CuentaItem.taxAmountApplied (by simp [amountColumns])
  have discount := amounts CuentaItem.discountAmountApplied (by simp [amountColumns])
  have total := amounts CuentaItem.total (by simp [amountColumns])
  exact ⟨by rw [subtotal, tax, discount, total]; exact sound.total, by rw [total]; exact sound.nonneg⟩

theorem persistItems_sound (rows items : List CuentaItem) (stored : ∀ row ∈ rows, SoundItem row)
    (saved : ∀ item ∈ items, SoundItem item) : ∀ row ∈ persistItems rows items, SoundItem row := by
  induction items generalizing rows with
  | nil => exact stored
  | cons item items ih =>
    refine ih (upsertItem rows item) ?_ fun other member => saved other (mem_cons_of_mem _ member)
    have sound := saved item mem_cons_self
    intro row member
    unfold upsertItem Table.upsert at member
    split at member
    · rcases Table.mem_updateWhere.mp member with ⟨old, -, -, rfl⟩ | ⟨kept, -⟩
      · exact ⟨sound.total, sound.nonneg⟩
      · exact stored row kept
    · rcases mem_append.mp member with kept | new
      · exact stored row kept
      · exact (mem_singleton.mp new).symm ▸ sound

variable {cuenta : Cuenta}

theorem Covered.of_reitemed {items : List CuentaItem} (covered : Covered db)
    (reitemed : Reitemed db db' cuenta items now) (sound : ∀ item ∈ items, SoundItem item)
    (fits : cuenta.status ≠ .anulada →
      db.paid cuenta.id ≤ activeSum CuentaItem.total items + cuenta.tipsTotal) : Covered db' := by
  refine ⟨reitemed.wellFormed covered.wellFormed, ?_, ?_⟩
  · rw [reitemed.saved]
    exact persistItems_sound db.items items covered.sound sound
  · simp only [EdgeDb.pagosOf, reitemed.pagos]
    refine forall_rows_of_written reitemed.rows reitemed.otherRows (fun standing => ?_) ?_
    · have before := covered.rows _ _ reitemed.stored standing
      refine ⟨before.tips, fits standing, .inl ?_⟩
      rw [← reitemed.sums CuentaItem.total (by simp [amountColumns])]
      exact le_rfl
    · intro id row apart
      rw [reitemed.otherItems id apart]
      exact covered.rows id row

section Dining

variable (covered : Covered db)

include covered

theorem Covered.items_sound {cuentaId : String} {cuenta : Cuenta}
    (found : db.getCuentaById cuentaId = some cuenta) : ∀ item ∈ cuenta.items, SoundItem item :=
  fun item member => covered.sound item (getCuentaById_items found item member).1

variable {saved : Cuenta}

theorem Covered.of_add {cuentaId : String} {expectedVersion : Nat} {input : AddItemInput}
    {now : Nat} (affordable : (DiningRequest.adds cuentaId expectedVersion input).Affordable db)
    (returned : addItemToCuentaSync db cuentaId expectedVersion input now = .ok (saved, db')) :
    Covered db' := by
  obtain ⟨free, nonneg, unpaid⟩ := affordable
  obtain ⟨cuenta, found, isOpen, reitemed⟩ := addItemToCuentaSync_reitemed
    covered.wellFormed free returned
  have isId := getCuentaById_id found
  refine covered.of_reitemed reitemed ?_ ?_
  · intro item member
    rcases mem_append.mp member with earlier | new
    · exact covered.items_sound found item earlier
    · exact (mem_singleton.mp new).symm ▸ newItem_sound cuentaId now nonneg
  · intro standing
    have row := covered.rows _ _ reitemed.stored standing
    have counts : counted CuentaItem.total (newItem cuentaId input now) = input.financials.total := by
      simp [counted, newItem]
    rw [activeSum_append, activeSum_read found, counts]
    have paid := row.paid
    rcases row.backed with within | ⟨split, noItems⟩
    · simp only [EdgeDb.paid]
      omega
    · -- a sub-account served for the first time has been paid nothing
      rw [isId] at noItems
      have noPagos := unpaid cuenta.toCuentaRow (by rw [← isId]; simp [reitemed.stored]) split noItems
      have tips := row.tips
      simp only [EdgeDb.paid, isId, noPagos, noItems, tips]
      simp [activeSum, activeItems, totalPaid, totalTips, nonneg]

variable {validatePin : String → String → Bool}

theorem Covered.of_cancel {input : CancelItemInput} {now : Nat} {cancelled : CuentaItem}
    (affordable : (DiningRequest.cancels input).Affordable db)
    (returned : cancelItemSync validatePin db input now = .ok (saved, cancelled, db')) :
    Covered db' := by
  obtain ⟨cuenta, index, item, found, present, isItem, active, isCancelled, amounts, reitemed⟩ :=
    cancelItemSync_reitemed covered.wellFormed returned
  have isId := getCuentaById_id found
  have member := mem_of_getElem? present
  have sound := covered.items_sound found
  refine covered.of_reitemed reitemed ?_ ?_
  · intro other inItems
    rcases mem_or_eq_of_mem_set inItems with earlier | rfl
    · exact sound other earlier
    · exact (sound item member).of_amounts amounts
  · intro standing
    have row := covered.rows _ _ reitemed.stored standing
    obtain ⟨inItems, mine⟩ := getCuentaById_items found item member
    have inRows : item ∈ db.itemRows cuenta.id := mem_filter.mpr ⟨inItems, by simp [mine]⟩
    have left := affordable cuenta.toCuentaRow (by rw [← isId]; simp [reitemed.stored]) standing item
      (isId ▸ inRows) isItem
    rw [← isId] at left
    rw [activeSum_set _ _ _ present, activeSum_read found]
    rcases row.backed with within | ⟨-, noItems⟩
    · simp only [counted, active, isCancelled, if_true, if_false]
      omega
    · rw [noItems] at inRows
      simp at inRows

theorem Covered.of_dining {request : DiningRequest} {now : Nat} (affordable : request.Affordable db)
    (returned : request.run validatePin db now = .ok (saved, db')) : Covered db' := by
  cases request with
  | opens input =>
    simp only [DiningRequest.run, bind_eq_ok, pure_eq_ok, Prod.mk.injEq] at returned
    obtain ⟨⟨cuenta, mesa, after⟩, opens, rfl, rfl⟩ := returned
    obtain ⟨rfl, opened⟩ := openCuentaSync_opened opens
    exact covered.of_opened opened
  | adds cuentaId expectedVersion input =>
    exact covered.of_add affordable returned
  | cancels input =>
    simp only [DiningRequest.run, bind_eq_ok, pure_eq_ok, Prod.mk.injEq] at returned
    obtain ⟨⟨cuenta, item, after⟩, cancels, rfl, rfl⟩ := returned
    exact covered.of_cancel affordable cancels

end Dining

/-! ### Payments -/

variable {options : PaymentOptions}

theorem Covered.of_commit {call : TenderCall} {existing : List Pago}
    {params : AtomicSettlementParams} (covered : Covered db)
    (found : db.getCuentaById call.command.cuentaId = some cuenta)
    (commits : Commits options db db' call cuenta existing params) : Covered db' := by
  obtain ⟨row', rows, -, -, -, totalAmount, parent, tips, -, paid, within, status⟩ := commits.newRow
  have read (item : CuentaItem) (member : item ∈ cuenta.items) :
      item ∈ db.itemRows call.command.cuentaId := by
    obtain ⟨stored, mine⟩ := getCuentaById_items found item member
    exact mem_filter.mpr ⟨stored, by simp [mine, commits.id]⟩
  have items := commits.items covered.wellFormed.items read
  have sameItems (id : String) : db'.itemRows id = db.itemRows id := by
    rw [EdgeDb.itemRows, items, EdgeDb.itemRows]
  have others := commits.other
  refine ⟨commits.wellFormed covered.wellFormed items,
    by rw [items]; exact covered.sound, ?_⟩
  · simp only [sameItems]
    refine forall_rows_of_written rows (fun id apart => (others id apart).1) (fun _ => ?_) ?_
    · have standing' : cuenta.status ≠ .anulada := by
        rcases commits.payable with isOpen | printed
        · simp [isOpen]
        · simp [printed]
      have before := covered.rows _ _ commits.stored standing'
      refine ⟨tips, within, ?_⟩
      rcases before.backed with backed | ⟨split, noItems⟩
      · -- the tips only grow
        left
        have grown : cuenta.tipsTotal ≤ row'.tipsTotal := by
          obtain ⟨stamp, cashGiven, changeDue, isParams⟩ := commits.params_eq
          have nonneg := tipOf_nonneg call.command
          rw [tips, before.tips, commits.pagosOf, isParams]
          simp [totalTips, settlementParams, newPago, nonneg]
        rw [totalAmount]
        exact backed.trans (by omega)
      · exact .inr ⟨by rwa [parent], noItems⟩
    · intro id row apart
      rw [(others id apart).2]
      exact covered.rows id row

/-! ### Splits -/

theorem SplitInto.wellFormed {saved : List Cuenta} (wellFormed : db.WellFormed)
    (into : SplitInto db db' cuenta saved) (original : ∃ row, db'.cuentaRows cuenta.id = [row]) :
    db'.WellFormed := by
  obtain ⟨row, stored⟩ := original
  apply wellFormed.of_saved fun id => id ∈ saved.map (fun sub => sub.id) ∨ id = cuenta.id
  · rintro id (isSub | rfl)
    · obtain ⟨sub, member, rfl⟩ := mem_map.mp isSub
      exact ⟨_, into.subs sub member⟩
    · exact ⟨row, stored⟩
  · rw [into.items]
    exact wellFormed.items
  · intro id apart
    rw [not_or] at apart
    simp [into.others id apart.1 apart.2, EdgeDb.itemRows, EdgeDb.pagosOf, into.items, into.pagos]

theorem planSplit_sub (validatePin : String → String → Bool) (covered : Covered db)
    (input : SplitCuentaInput) (now : Nat) (cuenta : Cuenta) (subs : List Cuenta)
    (unpaid : db.pagosOf input.cuentaId = []) (ratios : RatiosNonneg input.partitions)
    (planned : planSplit validatePin db input now = .ok (cuenta, subs)) :
    ∀ sub ∈ subs, SubAccount cuenta sub := by
  obtain ⟨found, payable, prorated, -⟩ := planSplit_eq_ok _ planned
  have isId := getCuentaById_id found
  have stored := getCuentaById_stored covered.wellFormed found
  have standing : cuenta.status ≠ .anulada := by
    rcases payable with isOpen | printed
    · simp [isOpen]
    · simp [printed]
  have row := covered.rows _ _ stored standing
  rw [isId, unpaid] at row
  exact prorateSplit_sub row.tips row.paid (covered.items_sound found) ratios prorated

variable {validatePin : String → String → Bool} {input : SplitCuentaInput}
  {result : Except DomainError (Cuenta × List Cuenta × Option Mesa)}

theorem Covered.of_split (covered : Covered db) (unpaid : db.pagosOf input.cuentaId = [])
    (ratios : RatiosNonneg input.partitions)
    (returned : splitCuentaSync validatePin db input now = (result, db')) : Covered db' := by
  have subAccounts := planSplit_sub validatePin covered input now
  rcases splitCuentaSync_splitInto validatePin covered.wellFormed input now returned
    with ⟨rfl, -⟩ | ⟨cuenta, saved, rest, planned, into, ends⟩
  · exact covered
  have original := ends.original_row
  have exists_row : ∃ row, db'.cuentaRows cuenta.id = [row] := by
    rcases original with same | ⟨-, stored⟩
    · exact ⟨_, same⟩
    · exact ⟨_, stored⟩
  refine ⟨into.wellFormed covered.wellFormed exists_row,
    by rw [into.items]; exact covered.sound, ?_⟩
  intro id row stored standing
  rw [EdgeDb.itemRows, into.items, EdgeDb.pagosOf, into.pagos, ← EdgeDb.itemRows, ← EdgeDb.pagosOf]
  by_cases isSub : id ∈ saved.map (fun sub => sub.id)
  · obtain ⟨sub, member, rfl⟩ := mem_map.mp isSub
    obtain rfl : sub.toCuentaRow = row := by simpa [into.subs sub member] using stored
    obtain ⟨noItems, noPagos⟩ := covered.wellFormed.owned _ (into.fresh sub member)
    have account := subAccounts cuenta _ unpaid ratios planned sub (mem_append_left _ member)
    rw [noItems, noPagos]
    exact ⟨account.tips, account.total, .inr ⟨by simp [account.parent], rfl⟩⟩
  · by_cases mine : id = cuenta.id
    · subst mine
      rcases original with same | ⟨-, annulled⟩
      · obtain ⟨found, -, -, -⟩ := planSplit_eq_ok _ planned
        obtain rfl : cuenta.toCuentaRow = row := by simpa [same] using stored
        exact covered.rows _ _ (getCuentaById_stored covered.wellFormed found) standing
      · obtain rfl : (closedCuenta cuenta .anulada now).toCuentaRow = row := by
          simpa [annulled] using stored
        exact absurd rfl standing
    · rw [into.others id isSub mine] at stored
      exact covered.rows id row stored standing

/-! ### Every run -/

theorem AffordableStep.covered (covered : Covered db) (step : AffordableStep options db db') :
    Covered db' := by
  obtain ⟨oracle, request, affordable, rfl⟩ := step
  cases request with
  | dining request =>
    simp only [AccountRequest.run]
    cases returned : request.run (fun user pin => oracle.validatePin user pin none) db
        oracle.stamp.now with
    | error e => exact covered
    | ok result => exact covered.of_dining affordable returned
  | split input =>
    exact covered.of_split affordable.1 affordable.2 (Prod.eta _).symm
  | tender command =>
    simp only [AccountRequest.run]
    cases returned : submitTender options oracle.validatePin db command oracle.stamp
        oracle.interruption with
    | error e => exact covered
    | ok result =>
      rcases submitTender_commits
        (covered.wellFormed.cuentas _) returned with same | ⟨cuenta, existing, params, found, commits⟩
      · simp only [stateAfter]
        rwa [same]
      · exact covered.of_commit found commits

theorem Covered.reachable (start : NoAccounts db)
    (run : Relation.ReflTransGen (AffordableStep options) db db') : Covered db' := by
  induction run with
  | refl => exact start.covered
  | tail _ step ih => exact step.covered ih

theorem Covered.split_owed (covered : Covered db) (unpaid : db.pagosOf input.cuentaId = [])
    (returned : splitCuentaSync validatePin db input now = (result, db'))
    (standing : ∃ row ∈ db.cuentaRows input.cuentaId, row.status ≠ .anulada)
    (annulled : ∃ row ∈ db'.cuentaRows input.cuentaId, row.status = .anulada) :
    (input.partitions.map fun plan => db'.owed plan.partitionId).sum = db.owed input.cuentaId := by
  rcases splitCuentaSync_splitInto validatePin covered.wellFormed input now returned
    with ⟨rfl, -⟩ | ⟨cuenta, saved, rest, planned, into, ends⟩
  · -- one row cannot be both
    obtain ⟨row, member, active⟩ := standing
    obtain ⟨row', member', gone⟩ := annulled
    obtain ⟨only, rows⟩ := length_eq_one_iff.mp (le_antisymm (covered.wellFormed.cuentas _)
      (length_pos_of_mem member))
    rw [rows, mem_singleton] at member member'
    rw [member'.trans member.symm] at gone
    exact absurd gone active
  obtain ⟨found, payable, prorated, sum⟩ := planSplit_eq_ok _ planned
  have isId := getCuentaById_id found
  have stored := getCuentaById_stored covered.wellFormed found
  have original := ends.original_row
  rw [isId] at original stored
  rcases original with same | ⟨rfl, -⟩
  · obtain ⟨row', member', gone⟩ := annulled
    obtain rfl : row' = cuenta.toCuentaRow := by simpa [same] using member'
    rcases payable with isOpen | printed
    · simp [isOpen] at gone
    · simp [printed] at gone
  rw [append_nil] at prorated sum
  have ids := prorateSplit_ids prorated
  calc (input.partitions.map fun plan => db'.owed plan.partitionId).sum
      = ((input.partitions.map SplitPartitionPlan.partitionId).map db'.owed).sum := by
        rw [map_map]; rfl
    _ = (saved.map fun sub => db'.owed sub.id).sum := by rw [← ids, map_map]; rfl
    _ = (saved.map fun sub => sub.totalAmount).sum := by
        congr 1
        apply map_congr_left
        intro sub member
        have noPagos : db'.pagosOf sub.id = [] := by
          rw [EdgeDb.pagosOf, into.pagos]
          exact (covered.wellFormed.owned _ (into.fresh sub member)).2
        simp [EdgeDb.owed, into.subs sub member, EdgeDb.paid, noPagos, totalPaid]
    _ = cuenta.totalAmount := sum
    _ = db.owed input.cuentaId := by
        simp [EdgeDb.owed, stored, EdgeDb.paid, unpaid, totalPaid]

/-- As long as no request takes from an account what its payments cover, every account that is
not annulled has been paid at most its total, and a split hands over what the account owes. -/
theorem payments_within_totals (options : PaymentOptions) (db db' : EdgeDb) (start : NoAccounts db)
    (run : Relation.ReflTransGen (AffordableStep options) db db') :
    (∀ id, ∀ row ∈ db'.cuentaRows id, row.status ≠ .anulada → db'.paid id ≤ row.totalAmount) ∧
    ∀ oracle input, (AccountRequest.split input).Affordable db' →
      (∃ row ∈ db'.cuentaRows input.cuentaId, row.status ≠ .anulada) →
      (∃ row ∈ (AccountRequest.run options oracle db' (.split input)).cuentaRows input.cuentaId,
        row.status = .anulada) →
      (input.partitions.map fun plan =>
        (AccountRequest.run options oracle db' (.split input)).owed plan.partitionId).sum =
          db'.owed input.cuentaId := by
  have covered := Covered.reachable start run
  constructor
  · intro id row member standing
    obtain ⟨only, rows⟩ := length_eq_one_iff.mp (le_antisymm (covered.wellFormed.cuentas id)
      (length_pos_of_mem member))
    obtain rfl : row = only := by simpa [rows] using member
    exact (covered.rows id row rows standing).paid
  · intro oracle input affordable standing annulled
    exact covered.split_owed affordable.1 (Prod.eta _).symm standing annulled

/-! ### An account corrected, and one split, after a payment -/

def sampleAccountOracle : AccountOracle :=
  { validatePin := fun _ _ _ => true
    stamp := { now := 1, pagoId := "p1", movementId := "m1" }, interruption := none }

def AccountRequest.next (db : EdgeDb) (request : AccountRequest) : EdgeDb :=
  request.run sampleOptions sampleAccountOracle db

theorem AccountRequest.next_step (db : EdgeDb) (request : AccountRequest) :
    AccountStep sampleOptions db (request.next db) :=
  ⟨sampleAccountOracle, request, rfl⟩

theorem AccountRequest.next_affordable (request : AccountRequest)
    (affordable : request.Affordable db) : AffordableStep sampleOptions db (request.next db) :=
  ⟨sampleAccountOracle, request, affordable, rfl⟩

def openingOf (id : String) : AccountRequest := .dining (.opens (sampleAccount id))

def servingOf (id : String) (version : Nat) (item : String) : AccountRequest :=
  .dining (.adds id version (sampleItem item))

def correctionOf (version : Nat) (item : String) : AccountRequest :=
  .dining (.cancels (sampleMistake item version))

def samplePart : AccountRequest :=
  .tender (sampleTender .efectivo 600000 0 "11111111-1111-4111-8111-111111111111")

def halvesOf (id : String) (version : Nat) : SplitCuentaInput :=
  { cuentaId := id, expectedVersion := version, performedByUserId := "ana", operatorPin := "1234"
    partitions := [⟨id ++ "1", none, some 5000⟩, ⟨id ++ "2", none, some 5000⟩] }

def samplePartPaid : EdgeDb :=
  samplePart.next ((servingOf "c" 1 "i").next ((openingOf "c").next sampleShiftDb))

theorem samplePartPaid_reached :
    Relation.ReflTransGen (AccountStep sampleOptions) sampleShiftDb samplePartPaid :=
  .tail (.tail (.single ((openingOf "c").next_step _)) ((servingOf "c" 1 "i").next_step _))
    (samplePart.next_step _)

/-- The only item is cancelled, or the account is split, after sixty of its hundred were paid. -/
theorem correction_and_split_lose_payments :
    NoAccounts sampleShiftDb ∧
    (Relation.ReflTransGen (AccountStep sampleOptions) sampleShiftDb
        ((correctionOf 3 "i").next samplePartPaid) ∧
      ∃ row ∈ ((correctionOf 3 "i").next samplePartPaid).cuentaRows "c", row.status = .abierta ∧
        row.totalAmount < ((correctionOf 3 "i").next samplePartPaid).paid "c") ∧
    (Relation.ReflTransGen (AccountStep sampleOptions) sampleShiftDb samplePartPaid ∧
      (∃ row ∈ samplePartPaid.cuentaRows "c", row.status = .abierta) ∧
      (∃ row ∈ ((AccountRequest.split (halvesOf "c" 3)).next samplePartPaid).cuentaRows "c",
        row.status = .anulada) ∧
      ((halvesOf "c" 3).partitions.map fun plan =>
          ((AccountRequest.split (halvesOf "c" 3)).next samplePartPaid).owed plan.partitionId).sum ≠
        samplePartPaid.owed "c") :=
  ⟨⟨rfl, rfl, rfl⟩,
    ⟨samplePartPaid_reached.tail ((correctionOf 3 "i").next_step _), by decide +kernel⟩,
    samplePartPaid_reached, by decide +kernel, by decide +kernel, by decide +kernel⟩

/-- Two items, sixty paid, one item cancelled, and a second account with one item. -/
def sampleCorrected : EdgeDb :=
  (correctionOf 4 "j").next
    (samplePart.next ((servingOf "c" 2 "j").next ((servingOf "c" 1 "i").next
      ((openingOf "c").next sampleShiftDb))))

def sampleTwoAccounts : EdgeDb := (servingOf "d" 1 "k").next ((openingOf "d").next sampleCorrected)

theorem sampleTwoAccounts_reached :
    Relation.ReflTransGen (AffordableStep sampleOptions) sampleShiftDb sampleTwoAccounts := by
  refine .head ((openingOf "c").next_affordable trivial) ?_
  refine .head ((servingOf "c" 1 "i").next_affordable (by decide +kernel)) ?_
  refine .head ((servingOf "c" 2 "j").next_affordable (by decide +kernel)) ?_
  refine .head (samplePart.next_affordable trivial) ?_
  refine .head ((correctionOf 4 "j").next_affordable (by decide +kernel)) ?_
  refine .head ((openingOf "d").next_affordable trivial) ?_
  exact .single ((servingOf "d" 1 "k").next_affordable (by decide +kernel))

theorem sample_payments_within_totals :
    (∃ row ∈ sampleTwoAccounts.cuentaRows "c", row.totalAmount = 1000000 ∧
      sampleTwoAccounts.paid "c" = 600000 ∧ sampleTwoAccounts.paid "c" ≤ row.totalAmount) ∧
    ((halvesOf "d" 2).partitions.map fun plan =>
      ((AccountRequest.split (halvesOf "d" 2)).next sampleTwoAccounts).owed plan.partitionId).sum =
        sampleTwoAccounts.owed "d" := by
  obtain ⟨within, hands⟩ := payments_within_totals sampleOptions sampleShiftDb sampleTwoAccounts
    ⟨rfl, rfl, rfl⟩ sampleTwoAccounts_reached
  constructor
  · have stored : ∃ row ∈ sampleTwoAccounts.cuentaRows "c", row.totalAmount = 1000000 ∧
        sampleTwoAccounts.paid "c" = 600000 ∧ row.status ≠ .anulada := by
      decide +kernel
    obtain ⟨row, member, total, paid, standing⟩ := stored
    exact ⟨row, member, total, paid, within "c" row member standing⟩
  · exact hands sampleAccountOracle (halvesOf "d" 2) (by decide +kernel) (by decide +kernel)
      (by decide +kernel)

end TridentPos.Pos
