import TridentPos.Pos.SalonRuns

/-!
# Closed accounts

A paid or annulled account should never change again. Every operation but two checks the status of
the account it saves: cancelling an item does not, and an item or a modifier added to one account
under an id that is stored for another overwrites that row.
-/
namespace TridentPos.Pos

open Core Library SalonRequest EdgeDb

/-! ### Runs that spare closed accounts -/

/-- Items are cancelled on active accounts only, and neither an item nor a modifier is added under an
id that is stored for an account that is not active. -/
def SalonRequest.SparesClosed (db : EdgeDb) : SalonRequest → Prop
  | .adds _ _ input => ∀ item ∈ db.items,
      (item.id = input.id ∨ ∃ stored ∈ db.modificadores.rows, stored.cuentaItemId = item.id ∧
        stored.id ∈ (input.modifiers.getD []).map AddItemModifierInput.id) →
      ∀ row ∈ db.cuentaRows item.cuentaId, row.Active
  | .cancelsItem input => ∀ row ∈ db.cuentaRows input.cuentaId, row.Active
  | _ => True

def SparingStep (options : PaymentOptions) (db db' : EdgeDb) : Prop :=
  ∃ oracle request, request.SparesClosed db ∧ run options oracle db request = db'

structure Untouched (db db' : EdgeDb) (id : String) : Prop where
  rows : db'.cuentaRows id = db.cuentaRows id
  items : db'.itemRows id = db.itemRows id
  modifiers : db'.modifierRows id = db.modifierRows id

theorem Untouched.of_rows {db db' : EdgeDb} {id : String} (rows : db'.cuentaRows id = db.cuentaRows id)
    (items : db'.items = db.items) (modificadores : db'.modificadores = db.modificadores) :
    Untouched db db' id :=
  ⟨rows, by simp only [itemRows, items], by simp only [modifierRows, itemRows, items, modificadores]⟩

theorem Untouched.of_mesas {db db' : EdgeDb} {mesas : List Mesa} (id : String)
    (after : db' = { db with mesas := mesas }) : Untouched db db' id :=
  after ▸ .of_rows rfl rfl rfl

/-! ### One request -/

section Step

variable {db db' : EdgeDb} (formed : db.WellFormed) {id : String} {row : CuentaRow}
  (stored : db.cuentaRows id = [row]) (closed : ¬ row.Active)

include stored closed formed

theorem closed_ne_active {cuenta : Cuenta} (read : db.getCuentaById cuenta.id = some cuenta)
    (active : cuenta.Active) : id ≠ cuenta.id := by
  rintro rfl
  have own := getCuentaById_stored formed read
  rw [stored] at own
  obtain rfl : row = cuenta.toCuentaRow := by simpa using own
  exact closed active

theorem Resaved.untouched (cuenta updated : Cuenta) (resaved : Resaved db db' cuenta updated)
    (active : cuenta.Active) (kept : updated.SameItems cuenta) : Untouched db db' id := by
  have apart := closed_ne_active formed stored closed resaved.read active
  obtain ⟨items, modificadores⟩ := resaved.items_eq formed kept
  exact .of_rows (resaved.otherRows id apart) items modificadores

theorem Resaved.untouched_items {cuenta updated : Cuenta} (resaved : Resaved db db' cuenta updated)
    (active : cuenta.Active)
    (elsewhere : ∀ item ∈ updated.items, ∀ other ∈ db.items, other.id = item.id →
      other.cuentaId ≠ id)
    (modifiers : ∀ item ∈ db.itemRows id, ∀ new ∈ updated.modificadores, new.cuentaItemId ≠ item.id ∧
      ∀ row ∈ db.modificadores.rows, row.id = new.id → row.cuentaItemId ≠ item.id) :
    Untouched db db' id := by
  have apart := closed_ne_active formed stored closed resaved.read active
  have items : db'.itemRows id = db.itemRows id := by
    rw [itemRows, resaved.items]
    apply persistItems_other
    intro item member
    exact ⟨by rw [resaved.owner item member]; exact apart.symm, elsewhere item member⟩
  refine ⟨resaved.otherRows id apart, items, ?_⟩
  rw [modifierRows, items, modifierRows, resaved.modificadores]
  refine List.flatMap_congr fun item member => ?_
  exact Table.filter_upsertAll overwriteModificador (fun _ _ => rfl) (fun _ _ => rfl)
    (modifiers item member)

omit stored closed in
theorem read_items_elsewhere (cuenta : Cuenta) (read : db.getCuentaById cuenta.id = some cuenta)
    (apart : id ≠ cuenta.id) (item : CuentaItem) (member : item ∈ cuenta.items) :
    ∀ other ∈ db.items, other.id = item.id → other.cuentaId ≠ id := by
  obtain ⟨inItems, mine⟩ := getCuentaById_items read item member
  intro other inRows same
  rw [List.inj_on_of_nodup_map formed.items inRows inItems same, mine]
  exact apart.symm

omit stored closed in
theorem read_modifiers_elsewhere (cuenta : Cuenta) (read : db.getCuentaById cuenta.id = some cuenta)
    (apart : id ≠ cuenta.id) : ∀ item ∈ db.itemRows id, ∀ own ∈ cuenta.modificadores,
      own.cuentaItemId ≠ item.id ∧
      ∀ row ∈ db.modificadores.rows, row.id = own.id → row.cuentaItemId ≠ item.id := by
  intro item listed own member
  have ⟨account, _, isCuenta⟩ := Option.map_eq_some_iff.mp read
  have inRows := getCuentaById_modificadores read own member
  rw [← isCuenta] at member
  obtain ⟨mine, isMine, isOwn⟩ := List.mem_flatMap.mp member
  have foreign : own.cuentaItemId ≠ item.id := by
    intro same
    have isItem : item.id = mine.id := by
      rw [← same]
      simpa using (List.mem_filter.mp isOwn).2
    obtain ⟨inItems, isId⟩ := List.mem_filter.mp listed
    refine read_items_elsewhere formed cuenta read apart mine ?_ item inItems isItem
      (by simpa using isId)
    rw [← isCuenta]
    exact isMine
  refine ⟨foreign, fun row stored same => ?_⟩
  rwa [List.inj_on_of_nodup_map db.modificadores.keyed stored inRows same]

theorem SalonMove.untouched (now : Nat) (request : SalonRequest)
    (move : SalonMove now db db' request) (spares : request.SparesClosed db) :
    Untouched db db' id := by
  cases move with
  | idle _ same => exact same ▸ ⟨rfl, rfl, rfl⟩
  | created _ _ after | liberated _ _ _ after | vacated _ _ _ _ _ _ after
  | stranded _ _ _ _ _ _ _ after => exact .of_mesas _ after
  | opened input account =>
    have apart : id ≠ (newCuenta input now).id := by
      rintro rfl
      simp [account.missing] at stored
    exact .of_rows (account.otherRows id apart) account.items account.modificadores
  | added cuentaId _ input cuenta isId isOpen _ resaved =>
    have apart := closed_ne_active formed stored closed resaved.read (.inl isOpen)
    have closedRow : row ∈ db.cuentaRows id := by simp [stored]
    refine resaved.untouched_items formed stored closed (.inl isOpen) ?_ ?_
    · intro item member
      rcases List.mem_append.mp member with own | new
      · exact read_items_elsewhere formed cuenta resaved.read apart item own
      · -- a stored item with the new id belongs to an active account
        rw [List.mem_singleton.mp new]
        rintro other inItems same rfl
        exact closed (spares other inItems (.inl same) row closedRow)
    · intro item listed modificador member
      obtain ⟨inItems, mine⟩ := List.mem_filter.mp listed
      obtain rfl : item.cuentaId = id := by simpa using mine
      rcases List.mem_append.mp member with own | new
      · exact read_modifiers_elsewhere formed cuenta resaved.read apart item listed modificador own
      · obtain ⟨given, isGiven, rfl⟩ := List.mem_map.mp new
        refine ⟨fun same => closed (spares item inItems (.inl same.symm) row closedRow), ?_⟩
        intro other inRows same belongs
        refine closed (spares item inItems (.inr ⟨other, inRows, belongs, ?_⟩) row closedRow)
        exact List.mem_map.mpr ⟨given, isGiven, same.symm⟩
  | cancelled input cuenta index item waste isId present _ resaved =>
    have own := getCuentaById_stored formed resaved.read
    have active : cuenta.Active := spares cuenta.toCuentaRow (by rw [← isId, own]; simp)
    have apart := closed_ne_active formed stored closed resaved.read active
    refine resaved.untouched_items formed stored closed active ?_
      (read_modifiers_elsewhere formed cuenta resaved.read apart)
    intro other member
    rcases List.mem_or_eq_of_mem_set member with kept | rfl
    · exact read_items_elsewhere formed cuenta resaved.read apart other kept
    · exact read_items_elsewhere formed cuenta resaved.read apart item
        (List.mem_of_getElem? present)
  | transferred validatePin input cuenta source target allowed _ _ resaved =>
    exact resaved.untouched formed stored closed _ _ (allowed.active ..) ⟨rfl, rfl⟩
  | split _ _ cuenta saved rest _ planned into _ =>
    obtain ⟨found, active, -, -⟩ := planSplit_eq_ok _ planned
    have isId := getCuentaById_id found
    have apart := closed_ne_active formed stored closed (by rw [isId]; exact found) active
    have notSub : id ∉ saved.map (fun sub => sub.id) := by
      intro isSub
      obtain ⟨sub, member, rfl⟩ := List.mem_map.mp isSub
      simp [into.fresh sub member] at stored
    exact .of_rows (into.others id notSub apart) into.items into.modificadores
  | checked _ cuenta _ _ active _ _ sameItems _ resaved
  | kept _ cuenta _ active _ _ sameItems _ resaved
  | tendered _ cuenta _ _ active _ sameItems _ _ resaved =>
    exact resaved.untouched formed stored closed _ _ active sameItems
  | closed _ cuenta _ active _ resaved =>
    exact resaved.untouched formed stored closed _ _ active ⟨rfl, rfl⟩

end Step

/-! ### Every run -/

/-- An account that is stored as `PAGADA` or `ANULADA` keeps its row, its items and their modifiers as
long as no request cancels an item of a closed account or adds something under an id of such an
account. -/
theorem closed_accounts_untouched (options : PaymentOptions) (db db' : EdgeDb)
    (formed : db.WellFormed) (keyed : db.MesasKeyed) (id : String) (row : CuentaRow)
    (stored : db.cuentaRows id = [row]) (closed : row.status = .pagada ∨ row.status = .anulada)
    (run : Relation.ReflTransGen (SparingStep options) db db') :
    db'.cuentaRows id = [row] ∧ db'.itemRows id = db.itemRows id ∧
      db'.modifierRows id = db.modifierRows id := by
  have inactive : ¬ row.Active := by
    rintro (isOpen | printed) <;> simp_all
  have kept : db'.WellFormed ∧ db'.MesasKeyed ∧ Untouched db db' id := by
    induction run with
    | refl => exact ⟨formed, keyed, rfl, rfl, rfl⟩
    | tail _ step ih =>
      obtain ⟨formed', keyed', untouched⟩ := ih
      obtain ⟨oracle, request, spares, rfl⟩ := step
      have move := request.run_move options oracle _ formed' keyed'
      have next := move.untouched formed' (untouched.rows.trans stored) inactive _ _ spares
      exact ⟨move.wellFormed formed', move.keyed keyed',
        next.rows.trans untouched.rows, next.items.trans untouched.items,
        next.modifiers.trans untouched.modifiers⟩
  exact ⟨kept.2.2.rows.trans stored, kept.2.2.items, kept.2.2.modifiers⟩

/-! ### An item cancelled on a paid account -/

def sampleCheese (itemId modifierId : String) (price : Int) : AddItemInput :=
  { sampleItem itemId with modifiers := some [⟨modifierId, "queso", "Queso", price⟩] }

def samplePaidTable : EdgeDb :=
  (closes "c" 2 .pagada).next ((adds "c" 1 (sampleCheese "i" "x" 50000)).next
    ((createsMesa (sampleMesa "m1")).next empty |> (seatingOf "c" "m1").next))

theorem samplePaidTable_reached :
    Relation.ReflTransGen (SalonStep sampleOptions) empty samplePaidTable :=
  .head (next_step _ _) (.head (next_step _ _) (.head (next_step _ _) (.single (next_step _ _))))

def sampleRetracted : SalonRequest := .cancelsItem (sampleMistake "i" 3)

def sampleNextGuests (modifierId : String) : EdgeDb :=
  (adds "d" 1 (sampleCheese "j" modifierId 0)).next ((seatingOf "d" "m1").next samplePaidTable)

/-- A paid account of a hundred becomes one of nothing, and its cheese one of the next guests'. -/
theorem paid_account_changes :
    Relation.ReflTransGen (SalonStep sampleOptions) empty samplePaidTable ∧
    (∃ row, samplePaidTable.cuentaRows "c" = [row] ∧ row.status = .pagada ∧
      row.totalAmount = 1000000) ∧
    SalonStep sampleOptions samplePaidTable (sampleRetracted.next samplePaidTable) ∧
    (∃ row, (sampleRetracted.next samplePaidTable).cuentaRows "c" = [row] ∧ row.status = .pagada ∧
      row.totalAmount = 0) ∧
    (sampleRetracted.next samplePaidTable).itemRows "c" ≠ samplePaidTable.itemRows "c" ∧
    Relation.ReflTransGen (SalonStep sampleOptions) samplePaidTable (sampleNextGuests "x") ∧
    (samplePaidTable.modifierRows "c").map CuentaItemModificador.modifierPriceApplied = [50000] ∧
    ((sampleNextGuests "x").modifierRows "c").map CuentaItemModificador.modifierPriceApplied = [0] :=
  ⟨samplePaidTable_reached, ⟨_, rfl, by decide +kernel, by decide +kernel⟩, sampleRetracted.next_step _,
    ⟨_, rfl, by decide +kernel, by decide +kernel⟩, by decide +kernel,
    .head (next_step _ _) (.single (next_step _ _)), by decide +kernel, by decide +kernel⟩

theorem paid_account_untouched :
    (sampleNextGuests "y").cuentaRows "c" = samplePaidTable.cuentaRows "c" ∧
    (sampleNextGuests "y").itemRows "c" = samplePaidTable.itemRows "c" ∧
    (sampleNextGuests "y").modifierRows "c" = samplePaidTable.modifierRows "c" := by
  obtain ⟨formed, keyed⟩ := SalonStep.formed ⟨⟨rfl, rfl, rfl⟩, rfl⟩ samplePaidTable_reached
  have run : Relation.ReflTransGen (SparingStep sampleOptions) samplePaidTable
      (sampleNextGuests "y") := by
    refine .head ⟨sampleAccountOracle, seatingOf "d" "m1", trivial, rfl⟩ (.single ?_)
    refine ⟨sampleAccountOracle, .adds "d" 1 (sampleCheese "j" "y" 0), ?_, rfl⟩
    unfold SalonRequest.SparesClosed
    decide +kernel
  exact closed_accounts_untouched sampleOptions samplePaidTable _ formed keyed "c" _ rfl
    (.inl (by decide +kernel)) run

/-! ### The status in every run -/

def EdgeDb.StoredAs (db : EdgeDb) (id : String) (status : CuentaStatus) : Prop :=
  ∃ row, db.cuentaRows id = [row] ∧ row.status = status

section Status

variable {db db' : EdgeDb} (formed : db.WellFormed) {id : String} {status : CuentaStatus}
  (stored : db.StoredAs id status)

include formed stored

theorem Resaved.storedAs {cuenta updated : Cuenta} (resaved : Resaved db db' cuenta updated)
    (same : updated.status = cuenta.status) : db'.StoredAs id status := by
  obtain ⟨row, rows, isStatus⟩ := stored
  by_cases own : id = cuenta.id
  · subst own
    have read := getCuentaById_stored formed resaved.read
    rw [rows] at read
    obtain rfl : row = cuenta.toCuentaRow := by simpa using read
    exact ⟨_, resaved.rows, same.trans isStatus⟩
  · exact ⟨row, (resaved.otherRows id own).trans rows, isStatus⟩

theorem SalonMove.storedAs (closed : status = .pagada ∨ status = .anulada) {now : Nat}
    {request : SalonRequest} (move : SalonMove now db db' request) : db'.StoredAs id status := by
  have ⟨row, rows, isStatus⟩ := stored
  have inactive : ¬ row.Active := by
    rcases closed with rfl | rfl <;> simp [CuentaRow.Active, isStatus]
  by_cases spares : request.SparesClosed db
  · exact ⟨row, (move.untouched formed rows inactive _ _ spares).rows.trans rows, isStatus⟩
  · -- an item is added or cancelled, which leaves the status of the account as it was
    cases move with
    | idle _ same => exact same ▸ stored
    | added _ _ _ _ _ _ _ resaved | cancelled _ _ _ _ _ _ _ _ resaved =>
      exact resaved.storedAs formed stored rfl
    | kept _ _ _ _ sameStatus _ _ _ resaved => exact resaved.storedAs formed stored sameStatus
    | closed _ _ _ active _ resaved =>
      have apart := closed_ne_active formed rows inactive resaved.read active
      exact ⟨row, (resaved.otherRows _ apart).trans rows, isStatus⟩
    | _ => exact absurd trivial spares

end Status

/-- No sequence of requests reopens an account: one that is stored as `PAGADA` or `ANULADA` is
stored with that status ever after, even where its items and totals change. -/
theorem closed_accounts_stay_closed (options : PaymentOptions) (db db' : EdgeDb)
    (formed : db.WellFormed) (keyed : db.MesasKeyed) (id : String) (status : CuentaStatus)
    (closed : status = .pagada ∨ status = .anulada) (stored : db.StoredAs id status)
    (run : Relation.ReflTransGen (SalonStep options) db db') : db'.StoredAs id status := by
  have kept : db'.WellFormed ∧ db'.MesasKeyed ∧ db'.StoredAs id status := by
    induction run with
    | refl => exact ⟨formed, keyed, stored⟩
    | tail _ step ih =>
      obtain ⟨formed', keyed', stored'⟩ := ih
      obtain ⟨oracle, request, rfl⟩ := step
      have move := request.run_move options oracle _ formed' keyed'
      exact ⟨move.wellFormed formed', move.keyed keyed', move.storedAs formed' stored' closed⟩
  exact kept.2.2

theorem retracted_account_stays_paid :
    (sampleRetracted.next samplePaidTable).StoredAs "c" .pagada := by
  obtain ⟨formed, keyed⟩ := SalonStep.formed ⟨⟨rfl, rfl, rfl⟩, rfl⟩ samplePaidTable_reached
  exact closed_accounts_stay_closed sampleOptions _ _ formed keyed "c" _ (.inl rfl)
    ⟨_, rfl, by decide +kernel⟩ (.single (sampleRetracted.next_step _))

end TridentPos.Pos
