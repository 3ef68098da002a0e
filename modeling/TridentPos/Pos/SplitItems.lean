import TridentPos.Pos.AccountBalances

/-!
# The items of sub-accounts

A split by items hands every sub-account its items in memory. In the tables an item keeps the
account it was inserted with, so the sub-accounts read back without items and the annulled
original with all of them.
-/
namespace TridentPos.Pos

open Core Library

/-! ### What a split by items stands for -/

structure ItemLine where
  (id productId : String)
  (quantity unitPriceApplied subtotal taxAmountApplied discountAmountApplied total : Int)

def CuentaItem.line (item : CuentaItem) : ItemLine :=
  { id := item.id, productId := item.productId, quantity := item.quantity
    unitPriceApplied := item.unitPriceApplied, subtotal := item.subtotal
    taxAmountApplied := item.taxAmountApplied, discountAmountApplied := item.discountAmountApplied
    total := item.total }

/-- The stored sub-accounts hold the items of their partitions: each the active items its
partition lists, none of them twice, and together all active items of the account. -/
structure ReadsBack (db : EdgeDb) (original : Cuenta) (partitions : List SplitPartitionPlan) :
    Prop where
  listed : ∀ plan ∈ partitions, ∃ sub, db.getCuentaById plan.partitionId = some sub ∧
    (sub.items.map CuentaItem.line).Perm
      ((partItems (activeItems original.items) plan).map CuentaItem.line)
  disjoint : partitions.Pairwise fun plan other =>
    ∀ item ∈ db.itemsOf plan.partitionId, ∀ item' ∈ db.itemsOf other.partitionId, item.id ≠ item'.id
  covered : ∀ item ∈ activeItems original.items, ∃! id,
    id ∈ partitions.map SplitPartitionPlan.partitionId ∧
      ∃ stored ∈ db.itemsOf id, stored.id = item.id

/-! ### Where the items are -/

variable {db db' : EdgeDb}

theorem itemsOf_eq_of_items (same : db'.items = db.items) (id : String) :
    db'.itemsOf id = db.itemsOf id := by
  simp only [EdgeDb.itemsOf, EdgeDb.itemRows, same]

variable {validatePin : String → String → Bool} {input : SplitCuentaInput}

theorem splitCuentaSync_eq_ok (wellFormed : db.WellFormed) {now : Nat} {original : Cuenta}
    {subs : List Cuenta} {mesa : Option Mesa}
    (returned : splitCuentaSync validatePin db input now = (.ok (original, subs, mesa), db')) :
    ∃ cuenta, db.getCuentaById input.cuentaId = some cuenta ∧ original.items = cuenta.items ∧
      subs.map (fun sub => sub.id) = input.partitions.map SplitPartitionPlan.partitionId ∧
      SplitInto db db' cuenta subs := by
  rcases splitCuentaSync_splitInto validatePin wellFormed input now returned with
    ⟨-, e, failed⟩ | ⟨cuenta, saved, rest, planned, into, ends⟩
  · simp at failed
  · cases ends with
    | finished between mesa all original mesas relinked =>
      obtain rfl := all
      rw [List.append_nil] at planned
      obtain ⟨found, -, prorated, -⟩ := planSplit_eq_ok _ planned
      exact ⟨cuenta, found, rfl, prorateSplit_ids prorated, into⟩

theorem split_items_stay (wellFormed : db.WellFormed) {now : Nat} {original : Cuenta}
    {subs : List Cuenta} {mesa : Option Mesa}
    (returned : splitCuentaSync validatePin db input now = (.ok (original, subs, mesa), db')) :
    (∀ id ∈ input.partitions.map SplitPartitionPlan.partitionId, db'.itemsOf id = []) ∧
      db'.itemsOf input.cuentaId = original.items := by
  obtain ⟨cuenta, found, items, ids, into⟩ := splitCuentaSync_eq_ok wellFormed returned
  obtain ⟨-, read, -⟩ := getCuentaById_eq_some found
  constructor
  · intro id member
    rw [← ids] at member
    obtain ⟨sub, inSubs, rfl⟩ := List.mem_map.mp member
    have none := (wellFormed.owned _ (into.fresh sub inSubs)).1
    rw [itemsOf_eq_of_items into.items, EdgeDb.itemsOf, none]
    rfl
  · rw [itemsOf_eq_of_items into.items, items, read]

/-- Whatever account with active items is split, the sub-accounts do not read back with the items
of their partitions. -/
theorem split_by_items_never_reads_back (validatePin : String → String → Bool) (db db' : EdgeDb)
    (wellFormed : db.WellFormed) (input : SplitCuentaInput) (now : Nat) (original : Cuenta)
    (subs : List Cuenta) (mesa : Option Mesa) (active : activeItems original.items ≠ [])
    (accepted : splitCuentaSync validatePin db input now = (.ok (original, subs, mesa), db')) :
    ¬ ReadsBack db' original input.partitions := by
  intro readsBack
  obtain ⟨item, member⟩ := List.exists_mem_of_ne_nil _ active
  obtain ⟨id, ⟨isPart, stored, inPart, -⟩, -⟩ := readsBack.covered item member
  have empty := (split_items_stay wellFormed accepted).1 id isPart
  rw [empty] at inPart
  simp at inPart

/-! ### A bill of two items -/

def oneItemEach : SplitCuentaInput :=
  { cuentaId := "c", expectedVersion := 3, performedByUserId := "ana", operatorPin := "1234"
    partitions := [⟨"c1", some ["i"], none⟩, ⟨"c2", some ["j"], none⟩] }

def sampleTwoItems : EdgeDb :=
  (servingOf "c" 2 "j").next ((servingOf "c" 1 "i").next ((openingOf "c").next sampleShiftDb))

theorem sampleTwoItems_wellFormed : sampleTwoItems.WellFormed := by
  have reached : Relation.ReflTransGen (AffordableStep sampleOptions) sampleShiftDb
      sampleTwoItems := by
    refine .head ((openingOf "c").next_affordable trivial) ?_
    refine .head ((servingOf "c" 1 "i").next_affordable (by decide +kernel)) ?_
    exact .single ((servingOf "c" 2 "j").next_affordable (by decide +kernel))
  exact (Covered.reachable ⟨rfl, rfl, rfl⟩ reached).wellFormed

def sampleItemSplit : Except DomainError (Cuenta × List Cuenta × Option Mesa) × EdgeDb :=
  splitCuentaSync (fun _ _ => true) sampleTwoItems oneItemEach 1

/-- The split is accepted, and its first sub-account reads back without the item it was given. -/
theorem one_item_each_reads_back_empty : sampleTwoItems.WellFormed ∧
    ∃ original subs mesa, sampleItemSplit.1 = .ok (original, subs, mesa) ∧
      activeItems original.items ≠ [] ∧ ¬ ReadsBack sampleItemSplit.2 original
        oneItemEach.partitions := by
  refine ⟨sampleTwoItems_wellFormed, _, _, _, rfl, by decide +kernel, fun readsBack => ?_⟩
  obtain ⟨sub, read, items⟩ := readsBack.listed ⟨"c1", some ["i"], none⟩ (by decide)
  have empty : (sampleItemSplit.2.getCuentaById "c1").map (fun sub => sub.items) = some [] := by
    decide +kernel
  rw [read, Option.map_some, Option.some.injEq] at empty
  rw [empty] at items
  exact absurd items.length_eq (by decide +kernel)

theorem one_item_each_never_reads_back : ∃ original subs mesa,
    sampleItemSplit.1 = .ok (original, subs, mesa) ∧
      ¬ ReadsBack sampleItemSplit.2 original oneItemEach.partitions := by
  refine ⟨_, _, _, rfl, ?_⟩
  exact split_by_items_never_reads_back (fun _ _ => true) sampleTwoItems _
    sampleTwoItems_wellFormed oneItemEach 1 _ _ _ (by decide +kernel) rfl

end TridentPos.Pos
