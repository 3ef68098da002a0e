import TridentPos.Crm.Numerics
import TridentPos.Mobile.LanClient
import TridentPos.Pos.DiningService
import TridentPos.Pos.Settlement

/-!
# The dining floor of a handheld

`dining-floor-service.ts`: item drafts and the comandas made of them, next to what the edge stores
for the same items. The `numerics.ts` of the handheld reads, adds and multiplies amounts as the
CRM's does.
-/
namespace TridentPos.Mobile

open Core Library Fallible
open Crm (CrmError addScale4 multiplyScale4 toScale4BigInt fromScale4BigInt
  toScale4BigInt_fromScale4BigInt toScale4BigInt_of_decimalValue)

inductive ModifierKind where
  | additive
  | subtractive
  deriving DecidableEq

structure SelectedModifier where
  (id name priceDeltaScale4 : String)
  kind : ModifierKind

structure ItemParams where
  (productId productCode productName unitPriceScale4 quantityScale4 : String)
  selectedModifiers : List SelectedModifier
  cookingNote : Option String

structure ComandaItemDraft extends ItemParams where
  (draftItemId subtotalScale4 : String)

structure DiningTable where
  (id code : String)
  activeAccountId : Option String
  version : Int

structure MobileComandaDraft where
  (tableId tableCode accountId waiterId waiterName : String)
  expectedTableVersion : Int
  items : List ComandaItemDraft
  totalComandaScale4 : String

/-! ### Drafts -/

def sumScale4 (amounts : List String) : Except CrmError String := amounts.foldlM addScale4 "0.0000"

def calculateItemSubtotalScale4 (unitPriceScale4 quantityScale4 modifiersDeltaScale4 : String) :
    Except CrmError String := do
  multiplyScale4 (← addScale4 unitPriceScale4 modifiersDeltaScale4) quantityScale4

def createItemDraft (params : ItemParams) (draftItemId : String) :
    Except CrmError ComandaItemDraft := do
  let additive := params.selectedModifiers.filter fun m => m.kind = .additive
  let modifiersDelta ← sumScale4 (additive.map SelectedModifier.priceDeltaScale4)
  let subtotal ←
    calculateItemSubtotalScale4 params.unitPriceScale4 params.quantityScale4 modifiersDelta
  return { params with draftItemId := draftItemId, subtotalScale4 := subtotal }

def assembleComandaDraft (tables : String → Option DiningTable)
    (tableId waiterId waiterName : String) (items : List ComandaItemDraft) :
    Except CrmError MobileComandaDraft :=
  match tables tableId with
  | none => .error (Crm.plainError ("TABLE_NOT_FOUND: Table " ++ tableId ++ " does not exist."))
  | some table => do
    let total ← sumScale4 (items.map ComandaItemDraft.subtotalScale4)
    return { tableId := table.id, tableCode := table.code
             accountId := (table.activeAccountId.filter (· ≠ "")).getD ("acc-" ++ table.id)
             waiterId := waiterId, waiterName := waiterName
             expectedTableVersion := table.version, items := items, totalComandaScale4 := total }

theorem sumScale4_eq (amounts : List String) :
    sumScale4 amounts =
      (fun values => fromScale4BigInt values.sum) <$> amounts.mapM toScale4BigInt := by
  have loop (start : Int) : amounts.foldlM addScale4 (fromScale4BigInt start) =
      (fun values => fromScale4BigInt (start + values.sum)) <$> amounts.mapM toScale4BigInt := by
    induction amounts generalizing start with
    | nil => simp
    | cons amount rest ih =>
      cases read : toScale4BigInt amount with
      | error e => simp [addScale4, toScale4BigInt_fromScale4BigInt, read]
      | ok value =>
        cases others : rest.mapM toScale4BigInt <;>
          simp [addScale4, toScale4BigInt_fromScale4BigInt, read, ih, others, Int.add_assoc]
  have zero : fromScale4BigInt 0 = "0.0000" := by decide
  simpa [sumScale4, zero] using loop 0

/-! ### What is shown and what is stored -/

/-- An item on both sides: the draft is made from `params`, the edge adds `input` and stores `item`. -/
structure OrderedItem where
  params : ItemParams
  draftItemId : String
  input : Pos.AddItemInput
  item : Pos.CuentaItem

/-- Both sides accept the item, the edge reading the amounts from the same texts. -/
structure OrderedItem.Accepted (ordered : OrderedItem) : Prop where
  price : decimalStringToScaledBigInt ordered.params.unitPriceScale4 =
    .ok ordered.input.unitPriceApplied
  quantity : decimalStringToScaledBigInt ordered.params.quantityScale4 = .ok ordered.input.quantity
  modifiers : ∀ modifier ∈ ordered.params.selectedModifiers,
    (decimalStringToScaledBigInt modifier.priceDeltaScale4).isOk
  stored : ∃ db cuentaId version now cuenta db',
    Pos.addItemToCuentaSync db cuentaId version ordered.input now = .ok (cuenta, db') ∧
      cuenta.items.getLast? = some ordered.item

def ItemParams.delta (params : ItemParams) : Int :=
  ((params.selectedModifiers.filter fun m => m.kind = .additive).map fun m =>
    (decimalValue m.priceDeltaScale4).getD 0).sum

/-- The edge rounds the product of price and quantity half away from zero and leaves the modifiers
out; the handheld cuts the product that has them. What the product leaves above whole units, with
what the modifiers make, must reach the unit that is rounded to and no further. -/
def SameUnit (product extra : Int) : Prop :=
  let rest := product.natAbs % 10000 + if product < 0 then -extra else extra
  if 2 * (product.natAbs % 10000) < 10000 then
    rest < 10000 ∧ (0 ≤ rest ∨ product.natAbs < 10000 ∧ -10000 < rest)
  else 10000 ≤ rest ∧ rest < 20000
deriving Decidable

def OrderedItem.InStep (ordered : OrderedItem) : Prop :=
  SameUnit (ordered.input.unitPriceApplied * ordered.input.quantity)
    (ordered.params.delta * ordered.input.quantity)

theorem tdiv_eq_roundQuotient_iff (product extra : Int) :
    (product + extra).tdiv 10000 = roundQuotient product 10000 ↔ SameUnit product extra := by
  have divisor : ¬ (10000 : Int) < 0 := by decide
  have sign : Int.sign 10000 = 1 := rfl
  by_cases negative : product < 0
  · simp only [SameUnit, roundQuotient, Int.tdiv_eq_ediv, negative, divisor, sign, decide_true,
      decide_false, Bool.true_bne, Bool.not_false, if_true, if_false]
    split_ifs <;> omega
  · simp only [SameUnit, roundQuotient, Int.tdiv_eq_ediv, negative, divisor, sign, decide_false,
      bne_self_eq_false, Bool.false_eq_true, if_false]
    split_ifs <;> omega

theorem decimalValue_of_accepted {text : String} {value : Int}
    (read : decimalStringToScaledBigInt text = .ok value) : decimalValue text = some value := by
  unfold decimalStringToScaledBigInt at read
  split at read
  next => simp at read
  next is => rw [is, Except.ok.inj (refused_eq_ok.mp read).2]

theorem mapM_ok {ε α β : Type} {f : α → Except ε β} {g : α → β} {xs : List α}
    (each : ∀ x ∈ xs, f x = .ok (g x)) : xs.mapM f = .ok (xs.map g) := by
  induction xs with
  | nil => rfl
  | cons x xs ih =>
    obtain ⟨first, rest⟩ := List.forall_mem_cons.mp each
    simp [first, ih rest, pure, Except.pure]

theorem sumScale4_texts (values : List Int) :
    sumScale4 (values.map fromScale4BigInt) = .ok (fromScale4BigInt values.sum) := by
  rw [sumScale4_eq, List.mapM_map, mapM_ok (g := id)]
  · simp
  · simp [toScale4BigInt_fromScale4BigInt]

theorem fromScale4BigInt_inj {a b : Int} : fromScale4BigInt a = fromScale4BigInt b ↔ a = b := by
  refine ⟨fun same => ?_, congrArg _⟩
  have read := congrArg toScale4BigInt same
  simpa [toScale4BigInt_fromScale4BigInt] using read

namespace OrderedItem

def shown (ordered : OrderedItem) : Int :=
  ((ordered.input.unitPriceApplied + ordered.params.delta) * ordered.input.quantity).tdiv 10000

variable {ordered : OrderedItem}

theorem Accepted.createItemDraft (accepted : ordered.Accepted) :
    createItemDraft ordered.params ordered.draftItemId = .ok { ordered.params with
      draftItemId := ordered.draftItemId, subtotalScale4 := fromScale4BigInt ordered.shown } := by
  have delta : sumScale4 ((ordered.params.selectedModifiers.filter fun m => m.kind = .additive).map
      SelectedModifier.priceDeltaScale4) = .ok (fromScale4BigInt ordered.params.delta) := by
    rw [sumScale4_eq, List.mapM_map, mapM_ok (g := fun m => (decimalValue m.priceDeltaScale4).getD 0)]
    · rfl
    · intro modifier listed
      obtain ⟨value, read⟩ := exists_of_isOk (accepted.modifiers _ (List.mem_of_mem_filter listed))
      simp [toScale4BigInt_of_decimalValue (decimalValue_of_accepted read),
        decimalValue_of_accepted read]
  have price := toScale4BigInt_of_decimalValue (decimalValue_of_accepted accepted.price)
  have quantity := toScale4BigInt_of_decimalValue (decimalValue_of_accepted accepted.quantity)
  simp [Mobile.createItemDraft, delta, calculateItemSubtotalScale4, addScale4, multiplyScale4, price,
    quantity, toScale4BigInt_fromScale4BigInt, shown, pure, Except.pure]

theorem Accepted.shown_iff (accepted : ordered.Accepted) :
    ordered.shown = ordered.item.subtotal ↔ ordered.InStep := by
  obtain ⟨db, cuentaId, version, now, cuenta, db', added, last⟩ := accepted.stored
  obtain ⟨before, -, -, -, rfl, -⟩ := Pos.addItemToCuentaSync_eq_ok added
  simp only [Pos.withNewItem, Pos.withItems, List.getLast?_append, List.getLast?_singleton, Option.some_or,
    Option.some.injEq] at last
  rw [InStep, ← tdiv_eq_roundQuotient_iff, ← Int.add_mul, ← last]
  rfl

/-- The subtotals of a comanda are those the edge stores exactly when each item is in step, and
then so is its total. -/
theorem shown_eq_stored_iff (comanda : List OrderedItem)
    (accepted : ∀ ordered ∈ comanda, ordered.Accepted) :
    ∃ drafts, comanda.mapM (fun ordered =>
        Mobile.createItemDraft ordered.params ordered.draftItemId) = .ok drafts ∧
      (drafts.map ComandaItemDraft.subtotalScale4 =
          comanda.map (fun ordered => fromScale4BigInt ordered.item.subtotal) ↔
        ∀ ordered ∈ comanda, ordered.InStep) ∧
      ((∀ ordered ∈ comanda, ordered.InStep) → ∀ tables tableId waiterId waiterName draft,
        assembleComandaDraft tables tableId waiterId waiterName drafts = .ok draft →
        draft.totalComandaScale4 =
          fromScale4BigInt (comanda.map fun ordered => ordered.item.subtotal).sum) := by
  refine ⟨_, mapM_ok fun ordered member => (accepted ordered member).createItemDraft, ?_⟩
  have each : (∀ ordered ∈ comanda, ordered.shown = ordered.item.subtotal) ↔
      ∀ ordered ∈ comanda, ordered.InStep :=
    forall₂_congr fun ordered member => (accepted ordered member).shown_iff
  refine ⟨by simpa [fromScale4BigInt_inj] using each, ?_⟩
  intro inStep tables tableId waiterId waiterName draft assembled
  have total := sumScale4_texts (comanda.map shown)
  rw [List.map_map, List.map_congr_left (each.mpr inStep)] at total
  unfold assembleComandaDraft at assembled
  split at assembled
  next => simp at assembled
  next table found =>
    simp only [bind_eq_ok, pure_eq_ok, List.map_map] at assembled
    obtain ⟨shownTotal, sums, rfl⟩ := assembled
    exact Except.ok.inj (sums.symm.trans total)

def sampleOrdered (price quantity cheese : String) (unitPriceApplied quantity' : Int) :
    OrderedItem :=
  let input : Pos.AddItemInput := ⟨"i", "p", "Taco", unitPriceApplied, quantity', 0, none,
    some [⟨"x", "m", "Queso", (decimalValue cheese).getD 0⟩]⟩
  { params := ⟨"p", "P", "Taco", price, quantity, [⟨"m", "Queso", cheese, .additive⟩], none⟩
    draftItemId := "d", input := input, item := Pos.newItem "c" input 0 }

theorem stored_without_modifiers :
    let ordered := sampleOrdered "10.0000" "1.0000" "5.0000" 100000 10000
    ordered.Accepted ∧ ordered.item.subtotal = 100000 ∧
      (Mobile.createItemDraft ordered.params "d").map ComandaItemDraft.subtotalScale4 =
        .ok "15.0000" := by
  refine ⟨⟨by decide, by decide, by decide, Pos.sampleDb, "c", 2, 0, _, _, rfl, rfl⟩, ?_⟩
  decide

theorem shown_eq_stored_iff_free_cheese :
    let ordered := sampleOrdered "0.3333" "1.0000" "0.0000" 3333 10000
    ∃ drafts, [ordered].mapM (fun ordered =>
        Mobile.createItemDraft ordered.params ordered.draftItemId) = .ok drafts ∧
      drafts.map ComandaItemDraft.subtotalScale4 = [fromScale4BigInt ordered.item.subtotal] ∧
      ∀ draft, assembleComandaDraft (fun id => some ⟨id, "M1", none, 3⟩) "m" "ana" "Ana" drafts =
        .ok draft → draft.totalComandaScale4 = "0.3333" := by
  have inStep : ∀ ordered ∈ [sampleOrdered "0.3333" "1.0000" "0.0000" 3333 10000],
      ordered.InStep := by
    rw [List.forall_mem_singleton, InStep]
    decide
  obtain ⟨drafts, made, shown, total⟩ := shown_eq_stored_iff
    [sampleOrdered "0.3333" "1.0000" "0.0000" 3333 10000] (by
      rw [List.forall_mem_singleton]
      exact ⟨by decide, by decide, by decide, Pos.sampleDb, "c", 2, 0, _, _, rfl, rfl⟩)
  exact ⟨drafts, made, shown.mpr inStep, total inStep _ _ _ _⟩

end OrderedItem

end TridentPos.Mobile
