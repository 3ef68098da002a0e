import TridentPos.Pos.DiningService

/-!
# Accounts and their items

What adding and cancelling an item do to the tables. The service saves the account with all its
items; saving an item as it is stored changes nothing, so what matters is the one item that is
new or changed. An item whose id is free is added to the stored ones; any other id would
overwrite a row that the account's totals still count, or a row of another account.
-/
namespace TridentPos.Pos

open Core Library List

/-! ### Sums over the items that are not cancelled -/

def counted (column : CuentaItem → Int) (item : CuentaItem) : Int :=
  if item.status = .cancelado then 0 else column item

theorem activeSum_eq_counted (column : CuentaItem → Int) (items : List CuentaItem) :
    activeSum column items = (items.map (counted column)).sum := by
  unfold activeSum activeItems
  induction items with
  | nil => rfl
  | cons item items ih =>
    by_cases cancelled : item.status = .cancelado <;> simpa [counted, cancelled] using ih

variable {items : List CuentaItem} (column : CuentaItem → Int)

theorem activeSum_perm {items' : List CuentaItem}
    (same : items.Perm items') : activeSum column items = activeSum column items' := by
  rw [activeSum_eq_counted, activeSum_eq_counted]
  exact (same.map _).sum_eq

theorem activeSum_append (items : List CuentaItem) (item : CuentaItem) :
    activeSum column (items ++ [item]) = activeSum column items + counted column item := by
  simp [activeSum_eq_counted]

theorem activeSum_set {index : Nat} (item old : CuentaItem) (replaced : items[index]? = some old) :
    activeSum column (items.set index item) =
      activeSum column items - counted column old + counted column item := by
  obtain ⟨bound, isOld⟩ := List.getElem?_eq_some_iff.mp replaced
  rw [activeSum_eq_counted, activeSum_eq_counted, map_set, sum_set']
  simp [bound, isOld]
  omega

def amountColumns : List (CuentaItem → Int) :=
  [CuentaItem.subtotal, CuentaItem.taxAmountApplied, CuentaItem.discountAmountApplied,
    CuentaItem.total]

def SameSums (items items' : List CuentaItem) : Prop :=
  ∀ column ∈ amountColumns, activeSum column items = activeSum column items'

theorem counted_overwriteItem {column : CuentaItem → Int} (member : column ∈ amountColumns)
    (item old : CuentaItem) : counted column (overwriteItem item old) = counted column item := by
  simp only [amountColumns, mem_cons, not_mem_nil, or_false] at member
  rcases member with rfl | rfl | rfl | rfl <;> rfl

/-! ### One row of `cuenta_items` -/

section Update

variable {db db' : EdgeDb} {item old : CuentaItem}
  (unique : (db.items.map CuentaItem.id).Nodup) (member : old ∈ db.items) (same : old.id = item.id)
  (updated : db'.items =
    Table.updateWhere (fun row => row.id == item.id) (overwriteItem item) db.items)

include updated

theorem itemRows_updateItem (id : String) :
    db'.itemRows id =
      Table.updateWhere (fun row => row.id == item.id) (overwriteItem item) (db.itemRows id) := by
  rw [EdgeDb.itemRows, updated]
  exact Table.filter_updateWhere _ _ _ _ fun _ _ => rfl

include unique member same

theorem itemRows_updateItem_other (other : String) (apart : other ≠ old.cuentaId) :
    db'.itemRows other = db.itemRows other := by
  rw [itemRows_updateItem updated]
  apply Table.updateWhere_eq_self
  intro row inRows
  obtain ⟨stored, isOther⟩ := mem_filter.mp inRows
  rw [beq_eq_false_iff_ne]
  intro hit
  have isOld : row = old := inj_on_of_nodup_map unique stored member (hit.trans same.symm)
  exact apart (by rw [← isOld]; exact (beq_iff_eq.mp isOther).symm)

theorem activeSum_updateItem {column : CuentaItem → Int} (amount : column ∈ amountColumns) :
    activeSum column (db'.itemRows old.cuentaId) =
      activeSum column (db.itemRows old.cuentaId) - counted column old + counted column item := by
  have uniqueRows : ((db.itemRows old.cuentaId).map CuentaItem.id).Nodup :=
    unique.sublist (filter_sublist.map _)
  have inRows : old ∈ db.itemRows old.cuentaId := mem_filter.mpr ⟨member, by simp⟩
  have sums := Table.sum_updateWhere_key (overwriteItem item) (counted column) uniqueRows inRows
  rw [counted_overwriteItem amount, same] at sums
  rw [itemRows_updateItem updated, activeSum_eq_counted, activeSum_eq_counted]
  exact sums

end Update

/-! ### Free ids -/

def ItemIdFree (db : EdgeDb) (cuentaId itemId : String) : Prop :=
  ∀ item ∈ db.items, item.id = itemId → item.cuentaId = cuentaId ∧ item.status = .cancelado
deriving Decidable

theorem upsertItem_free (db db' : EdgeDb) (item : CuentaItem)
    (unique : (db.items.map CuentaItem.id).Nodup) (free : ItemIdFree db item.cuentaId item.id)
    (upserted : db'.items = upsertItem db.items item) :
    (db'.items.map CuentaItem.id).Nodup ∧
      (∀ other, other ≠ item.cuentaId → db'.itemRows other = db.itemRows other) ∧
      ∀ column ∈ amountColumns, activeSum column (db'.itemRows item.cuentaId) =
        activeSum column (db.itemRows item.cuentaId) + counted column item := by
  by_cases known : ∃ old ∈ db.items, old.id = item.id
  · obtain ⟨old, member, same⟩ := known
    obtain ⟨mine, cancelled⟩ := free old member same
    rw [upsertItem_known member same] at upserted
    refine ⟨by rwa [upserted, map_id_updateItem], ?_, ?_⟩
    · intro other apart
      exact itemRows_updateItem_other unique member same upserted other (by rwa [mine])
    · intro column amount
      have sums := activeSum_updateItem unique member same upserted amount
      rw [mine] at sums
      simpa [counted, cancelled] using sums
  · have fresh : ∀ row ∈ db.items, row.id ≠ item.id := by
      intro row member clash
      exact known ⟨row, member, clash⟩
    rw [upsertItem_fresh fresh] at upserted
    refine ⟨?_, ?_, ?_⟩
    · rw [upserted, map_append, nodup_append]
      refine ⟨unique, by simp, ?_⟩
      intro id inIds last isLast
      obtain ⟨row, member, rfl⟩ := mem_map.mp inIds
      obtain rfl : last = item.id := by simpa using isLast
      exact fresh row member
    · intro other apart
      simp [EdgeDb.itemRows, upserted, Ne.symm apart]
    · intro column _
      have rows : db'.itemRows item.cuentaId = db.itemRows item.cuentaId ++ [item] := by
        simp [EdgeDb.itemRows, upserted]
      rw [rows, activeSum_append]

/-! ### What the operations do to the tables -/

structure Reitemed (db db' : EdgeDb) (cuenta : Cuenta) (items : List CuentaItem) (now : Nat) :
    Prop where
  stored : db.cuentaRows cuenta.id = [cuenta.toCuentaRow]
  rows : db'.cuentaRows cuenta.id = [(withItems cuenta items now).toCuentaRow]
  otherRows : ∀ other, other ≠ cuenta.id → db'.cuentaRows other = db.cuentaRows other
  otherItems : ∀ other, other ≠ cuenta.id → db'.itemRows other = db.itemRows other
  pagos : db'.pagos = db.pagos
  saved : db'.items = persistItems db.items items
  ids : (db'.items.map CuentaItem.id).Nodup
  sums : SameSums items (db'.itemRows cuenta.id)

structure Opened (db db' : EdgeDb) (cuenta : Cuenta) : Prop where
  missing : db.cuentaRows cuenta.id = []
  rows : db'.cuentaRows cuenta.id = [cuenta.toCuentaRow]
  otherRows : ∀ other, other ≠ cuenta.id → db'.cuentaRows other = db.cuentaRows other
  items : db'.items = db.items
  modificadores : db'.modificadores = db.modificadores
  pagos : db'.pagos = db.pagos

variable {db db' : EdgeDb} {now : Nat} {cuenta saved : Cuenta}

theorem openCuentaSync_opened {input : OpenCuentaInput} {mesa : Option Mesa}
    (returned : openCuentaSync db input now = .ok (cuenta, mesa, db')) :
    cuenta = newCuenta input now ∧ Opened db db' cuenta := by
  obtain ⟨missing, rfl, mesas, rfl⟩ := openCuentaSync_eq_ok returned
  have none := (findCuenta_eq_none db input.id).mp missing
  refine ⟨rfl, none, ?_, ?_, rfl, rfl, rfl⟩
  · rw [EdgeDb.cuentaRows, filter_append]
    exact (congrArg (· ++ _) none).trans (by simp)
  · intro other apart
    simp [EdgeDb.cuentaRows, filter_append, Ne.symm apart]

section Items

variable (wellFormed : db.WellFormed) {cuentaId : String}
  (found : db.getCuentaById cuentaId = some cuenta)

include found

theorem getCuentaById_items (item : CuentaItem) (member : item ∈ cuenta.items) :
    item ∈ db.items ∧ item.cuentaId = cuenta.id := by
  obtain ⟨-, read, isId⟩ := getCuentaById_eq_some found
  have inRows := (itemsOf_perm db cuentaId).mem_iff.mp (read ▸ member)
  obtain ⟨stored, mine⟩ := mem_filter.mp inRows
  exact ⟨stored, by rw [isId]; exact beq_iff_eq.mp mine⟩

theorem activeSum_read (column : CuentaItem → Int) :
    activeSum column cuenta.items = activeSum column (db.itemRows cuenta.id) := by
  obtain ⟨-, read, isId⟩ := getCuentaById_eq_some found
  rw [read, isId]
  exact activeSum_perm _ (itemsOf_perm db cuentaId)

include wellFormed

theorem getCuentaById_stored : db.cuentaRows cuenta.id = [cuenta.toCuentaRow] := by
  obtain ⟨stored, -, isId⟩ := getCuentaById_eq_some found
  exact isId.symm ▸ cuentaRows_of_findCuenta (wellFormed.cuentas cuentaId) stored

theorem swapCuenta_reitemed {updated : Cuenta} {items : List CuentaItem} (now expectedVersion : Nat)
    (row : updated.toCuentaRow = (withItems cuenta items now).toCuentaRow)
    (listed : updated.items = items)
    (swapped : ∃ row ∈ db.cuentas, row.id = cuenta.id ∧ row.version = expectedVersion)
    (ids : ((db.swapCuenta updated expectedVersion).items.map CuentaItem.id).Nodup)
    (others : ∀ other, other ≠ cuenta.id →
      (db.swapCuenta updated expectedVersion).itemRows other = db.itemRows other)
    (sums : SameSums items ((db.swapCuenta updated expectedVersion).itemRows cuenta.id)) :
    Reitemed db (db.swapCuenta updated expectedVersion) cuenta items now := by
  have stored := getCuentaById_stored wellFormed found
  have same : updated.id = cuenta.id := congrArg (·.id) row
  have rows := (swapCuenta_cuentaRows updated expectedVersion _ (same ▸ stored) (same ▸ swapped)).2
  rw [same, row] at rows
  refine ⟨stored, rows, fun other apart => ?_, others, rfl, listed ▸ rfl, ids, sums⟩
  exact swapCuenta_cuentaRows_other _ _ other (same ▸ apart)

end Items

theorem addItemToCuentaSync_reitemed (wellFormed : db.WellFormed) {cuentaId : String}
    {expectedVersion : Nat} {input : AddItemInput} (free : ItemIdFree db cuentaId input.id)
    (returned : addItemToCuentaSync db cuentaId expectedVersion input now = .ok (saved, db')) :
    ∃ cuenta, db.getCuentaById cuentaId = some cuenta ∧ cuenta.status = .abierta ∧
      Reitemed db db' cuenta (cuenta.items ++ [newItem cuentaId input now]) now := by
  obtain ⟨cuenta, found, isOpen, -, rfl, swapped, rfl⟩ := addItemToCuentaSync_eq_ok returned
  have isId := getCuentaById_id found
  refine ⟨cuenta, found, isOpen, ?_⟩
  have upserted := persistItems_append db.items cuenta.items (newItem cuentaId input now)
    wellFormed.items fun item member => (getCuentaById_items found item member).1
  obtain ⟨ids, others, sums⟩ := upsertItem_free db
    (db.swapCuenta (withNewItem cuenta cuentaId input now) expectedVersion)
    (newItem cuentaId input now) wellFormed.items free upserted
  refine swapCuenta_reitemed wellFormed found now _ rfl rfl swapped ids ?_ ?_
  · exact fun other apart => others other (isId ▸ apart)
  · intro column amount
    rw [activeSum_append, activeSum_read found, isId]
    exact (sums column amount).symm

theorem persistItems_replaced (wellFormed : db.WellFormed) {cuentaId : String} {index : Nat}
    (item replaced : CuentaItem) (found : db.getCuentaById cuentaId = some cuenta)
    (present : cuenta.items[index]? = some item) (same : item.id = replaced.id) :
    persistItems db.items (cuenta.items.set index replaced) =
      Table.updateWhere (fun row => row.id == replaced.id) (overwriteItem replaced) db.items := by
  have read := getCuentaById_items found
  have distinct : (cuenta.items.map CuentaItem.id).Nodup := by
    obtain ⟨-, listed, -⟩ := getCuentaById_eq_some found
    rw [listed, ((itemsOf_perm db cuentaId).map _).nodup_iff]
    exact wellFormed.items.sublist (filter_sublist.map _)
  exact persistItems_set replaced item wellFormed.items
    (fun item member => (read item member).1) distinct present same

theorem cancelItemSync_reitemed {validatePin : String → String → Bool} (wellFormed : db.WellFormed)
    {input : CancelItemInput} {cancelled : CuentaItem}
    (returned : cancelItemSync validatePin db input now = .ok (saved, cancelled, db')) :
    ∃ cuenta index item, db.getCuentaById input.cuentaId = some cuenta ∧
      cuenta.items[index]? = some item ∧ item.id = input.itemId ∧ item.status ≠ .cancelado ∧
      cancelled.status = .cancelado ∧
      (∀ column ∈ amountColumns, column cancelled = column item) ∧
      Reitemed db db' cuenta (cuenta.items.set index cancelled) now := by
  obtain ⟨cuenta, index, item, waste, passes, rfl, rfl, saves⟩ := cancelItemSync_passed returned
  have found := passes.found
  obtain ⟨present, isItem, active⟩ := findItem_eq_ok passes.located
  obtain ⟨swapped, rfl⟩ := saveCuenta_read found saves rfl
  refine ⟨cuenta, index, item, found, present, isItem, active, rfl, ?_, ?_⟩
  · intro column amount
    simp only [amountColumns, mem_cons, not_mem_nil, or_false] at amount
    rcases amount with rfl | rfl | rfl | rfl <;> rfl
  obtain ⟨inItems, mine⟩ := getCuentaById_items found item (mem_of_getElem? present)
  have same : item.id = (cancelledItem item input waste now).id := rfl
  have updated := persistItems_replaced wellFormed item _ found present same
  refine swapCuenta_reitemed wellFormed found now _ rfl rfl swapped ?_ ?_ ?_
  · show ((persistItems _ _).map _).Nodup
    exact updated.symm ▸ (map_id_updateItem _ _ _).symm ▸ wellFormed.items
  · intro other apart
    exact itemRows_updateItem_other wellFormed.items inItems same updated other (by rwa [mine])
  · intro column amount
    rw [activeSum_set column _ _ present, activeSum_read found, ← mine]
    exact Eq.symm (activeSum_updateItem wellFormed.items inItems same updated amount)

theorem Opened.wellFormed (db db' : EdgeDb) (cuenta : Cuenta) (wellFormed : db.WellFormed)
    (opened : Opened db db' cuenta) : db'.WellFormed := by
  apply wellFormed.of_saved (· = cuenta.id)
  · rintro id rfl
    exact ⟨_, opened.rows⟩
  · rw [opened.items]
    exact wellFormed.items
  · intro id apart
    simp [opened.otherRows id apart, EdgeDb.itemRows, EdgeDb.pagosOf, opened.items, opened.pagos]

theorem Reitemed.wellFormed (wellFormed : db.WellFormed)
    (reitemed : Reitemed db db' cuenta items now) : db'.WellFormed := by
  apply wellFormed.of_saved (· = cuenta.id)
  · rintro id rfl
    exact ⟨_, reitemed.rows⟩
  · exact reitemed.ids
  · intro id apart
    simp [reitemed.otherRows id apart, reitemed.otherItems id apart, EdgeDb.pagosOf, reitemed.pagos]

end TridentPos.Pos
