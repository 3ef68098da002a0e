import TridentPos.Procurement.Receipts

/-!
# Receipts against the ordered quantities

A receipt is checked line by line against what was confirmed before it. So the confirmed
quantity of an item stays within the order as long as the lines of one receipt that name the
same item fit together; the status of the order always follows the confirmed quantities.
-/
namespace TridentPos.Procurement

open Core Library Fallible List

variable (db : ProcurementDb)

def Within : Prop :=
  ∀ item ∈ db.orderItems, db.totalReceived item.organizationId item.id ≤ item.orderedQuantity
deriving Decidable

variable (command : ConfirmPurchaseReceiptCommand)

def ProcurementDb.orderOf : Option PurchaseOrderRow := do
  let organizationId ← Uuid.read command.organizationId
  let purchaseOrderId ← Uuid.read command.purchaseOrderId
  db.orders.find? fun row => row.organizationId == organizationId && row.id == purchaseOrderId

def ProcurementDb.existingReceipt : Option PurchaseReceiptRow := do
  let organizationId ← Uuid.read command.organizationId
  let branchId ← Uuid.read command.branchId
  db.receipts.find? fun row => row.organizationId == organizationId &&
    row.branchId == branchId && row.receiptNumber == trimmed command.receiptNumber

def linesOf (items : List PurchaseOrderItemRow)
    (item : PurchaseOrderItemRow) : List ConfirmReceiptItemInput :=
  command.items.filter fun input => (findItem command items input).toOption == some item

def quantityOf (input : ConfirmReceiptItemInput) : Int :=
  (decimalValue input.receivedQuantity).getD 0

/-- Where several lines of a new receipt name the same item, they fit in what is still open. -/
def FitsTogether : Prop :=
  db.existingReceipt command = none → ∀ order ∈ db.orderOf command,
    ∀ item ∈ db.itemsOf order, 2 ≤ (linesOf command (db.itemsOf order) item).length →
      db.totalReceived order.organizationId item.id +
        ((linesOf command (db.itemsOf order) item).map quantityOf).sum ≤ item.orderedQuantity
deriving Decidable

def StatusFollows (order : PurchaseOrderRow) : Prop :=
  order.status = .received ∨ order.status = .partiallyReceived →
    (order.status = .received ↔ ∀ item ∈ db.itemsOf order,
      item.orderedQuantity ≤ db.totalReceived order.organizationId item.id)
deriving Decidable

def Settled : Prop := ∀ order ∈ db.orders, StatusFollows db order
deriving Decidable

def ReceiptStep (db' : ProcurementDb) : Prop :=
  ∃ surroundings command result, FitsTogether db command ∧
    confirmPurchaseReceipt surroundings db command = .ok (result, db')

/-! ### One line -/

variable {command} {items : List PurchaseOrderItemRow}

theorem findItem_eq_ok {input : ConfirmReceiptItemInput} {item : PurchaseOrderItemRow}
    (found : findItem command items input = .ok item) : item ∈ items := by
  unfold findItem at found
  split at found
  next => simp at found
  next read =>
    simp only [refused_eq_ok, Except.ok.injEq] at found
    obtain ⟨-, rfl⟩ := found
    exact mem_of_find?_eq_some read

structure BookedLine (db : ProcurementDb) (command : ConfirmPurchaseReceiptCommand)
    (organizationId : Uuid) (items : List PurchaseOrderItemRow) (input : ConfirmReceiptItemInput)
    (row : PurchaseReceiptItemRow) (item : PurchaseOrderItemRow) : Prop where
  names : findItem command items input = .ok item
  booked : row.purchaseOrderItemId = item.id
  quantity : row.receivedQuantity = quantityOf input
  within : db.totalReceived organizationId item.id + row.receivedQuantity ≤ item.orderedQuantity

variable {input : ConfirmReceiptItemInput} {result : ConfirmReceiptResult}
  {inputs : List ConfirmReceiptItemInput} {rows : List PurchaseReceiptItemRow}
  {surroundings : ReceiptSurroundings} (item : PurchaseOrderItemRow)

theorem quantityOf_eq {received : Int} (read : scale4 input.receivedQuantity = .ok received) :
    received = quantityOf input := by
  rw [scale4, mapError_eq_ok] at read
  unfold decimalStringToScaledBigInt at read
  split at read
  next => simp at read
  next value isValue =>
    simp only [refused_eq_ok, Except.ok.injEq] at read
    obtain ⟨-, rfl⟩ := read
    simp [quantityOf, isValue]

variable {db db' : ProcurementDb} {organizationId : Uuid}

theorem processLine_eq_ok {policy : Option PriceVariancePolicy} {line : ProcessedLine}
    (processed : processLine policy db command organizationId items input = .ok line) :
    findItem command items input = .ok line.item ∧
      line.payload.receivedQuantity = input.receivedQuantity ∧
      db.totalReceived organizationId line.item.id + quantityOf input ≤
        line.item.orderedQuantity := by
  simp only [processLine, bind_eq_ok, pure_eq_ok] at processed
  obtain ⟨item, found, _, -, _, passed, lineAmount, -, cumulative, -, rfl⟩ := processed
  obtain ⟨received, read, within⟩ := evaluateOverReceipt_eq_ok passed
  rw [quantityOf_eq read] at within
  exact ⟨found, rfl, within⟩

theorem receiptItemRow_eq_ok {id : Uuid} {line : ProcessedLine} {row : PurchaseReceiptItemRow}
    (inserted : receiptItemRow id line = .ok row) :
    row.purchaseOrderItemId = line.item.id ∧
      scale4 line.payload.receivedQuantity = .ok row.receivedQuantity := by
  simp only [receiptItemRow, bind_eq_ok, pure_eq_ok] at inserted
  obtain ⟨received, read, -, -, -, -, rfl⟩ := inserted
  exact ⟨rfl, read⟩

theorem lines_booked (policy : Option PriceVariancePolicy) (db : ProcurementDb)
    (command : ConfirmPurchaseReceiptCommand) (organizationId : Uuid)
    (items : List PurchaseOrderItemRow) (itemId : Nat → Uuid) (lines : List ProcessedLine)
    (rows : List PurchaseReceiptItemRow)
    (processed : command.items.mapM (processLine policy db command organizationId items) = .ok lines)
    (inserted : receiptItemRows itemId lines = .ok rows) :
    List.Forall₂ (fun input row => ∃ item, BookedLine db command organizationId items input row item)
      command.items rows := by
  have first := mapM_eq_ok _ _ _ processed
  have second := mapM_eq_ok _ _ _ inserted
  have unindexed : List.Forall₂ (fun line row => ∃ id, receiptItemRow id line = .ok row) lines rows := by
    rw [← zipIdx_map_fst 0 lines, forall₂_map_left_iff]
    exact second.imp fun indexed row made => ⟨_, made⟩
  clear second processed inserted
  generalize command.items = inputs at first
  induction first generalizing rows with
  | nil =>
    cases unindexed
    exact .nil
  | cons made _ ih =>
    cases unindexed with
    | cons becomes rest =>
      obtain ⟨found, same, within⟩ := processLine_eq_ok made
      obtain ⟨id, becomes⟩ := becomes
      obtain ⟨booked, read⟩ := receiptItemRow_eq_ok becomes
      rw [same] at read
      have quantity := quantityOf_eq read
      exact .cons ⟨_, found, booked, quantity, by rw [quantity]; exact within⟩ (ih _ rest)

/-! ### One receipt -/

theorem quantity_of_rows {item : PurchaseOrderItemRow}
    (unique : ∀ other ∈ items, other.id = item.id → other = item)
    (booked : List.Forall₂
      (fun input row => ∃ item, BookedLine db command organizationId items input row item)
      inputs rows) :
    ((rows.filter fun row => row.purchaseOrderItemId == item.id).map
        PurchaseReceiptItemRow.receivedQuantity).sum =
      ((inputs.filter fun input => (findItem command items input).toOption == some item).map
        quantityOf).sum := by
  induction booked with
  | nil => rfl
  | cons line _ ih =>
    obtain ⟨own, line⟩ := line
    by_cases same : own = item
    · subst same
      simp [line.names, line.booked, line.quantity, Except.toOption, ih]
    · have other : own.id ≠ item.id := fun sameId =>
        same (unique own (findItem_eq_ok line.names) sameId)
      simp [line.names, line.booked, Except.toOption, same, other, ih]

theorem totalReceived_addReceipt (db : ProcurementDb) (receipt : PurchaseReceiptRow)
    (organizationId itemId : Uuid) :
    (db.addReceipt receipt).totalReceived organizationId itemId =
      db.totalReceived organizationId itemId +
        if receipt.organizationId = organizationId ∧ receipt.status = .confirmed then
          receipt.quantityOf itemId
        else 0 := by
  by_cases counts : receipt.organizationId = organizationId ∧ receipt.status = .confirmed
  · simp [ProcurementDb.totalReceived, ProcurementDb.addReceipt, counts]
  · have skipped : (receipt.organizationId == organizationId && receipt.status == .confirmed) =
        false := by
      simpa using counts
    simp [ProcurementDb.totalReceived, ProcurementDb.addReceipt, counts, skipped]

theorem allItemsFullyReceived_eq_ok (db : ProcurementDb) (organizationId : Uuid)
    (items : List PurchaseOrderItemRow) (full : Bool)
    (compared : allItemsFullyReceived db organizationId items = .ok full) :
    full ↔ ∀ item ∈ items, item.orderedQuantity ≤ db.totalReceived organizationId item.id := by
  induction items generalizing full with
  | nil =>
    obtain rfl := pure_eq_ok.mp compared
    simp
  | cons item rest ih =>
    simp only [allItemsFullyReceived, bind_eq_ok, pure_eq_ok] at compared
    obtain ⟨order, comparison, others, recursive, rfl⟩ := compared
    have isOrder := cmpScale4_text comparison
    have notLess : (order != .lt) ↔
        item.orderedQuantity ≤ db.totalReceived organizationId item.id := by
      rw [isOrder, bne_iff_ne, ne_eq, compare_lt_iff_lt]
      omega
    rw [Bool.and_eq_true, notLess, ih others recursive, forall_mem_cons]

structure Receives (db db' : ProcurementDb) (command : ConfirmPurchaseReceiptCommand)
    (order : PurchaseOrderRow) (receipt : PurchaseReceiptRow) (status : PurchaseOrderStatus) :
    Prop where
  organization : receipt.organizationId = order.organizationId
  confirmed : receipt.status = .confirmed
  booked : List.Forall₂ (fun input row => ∃ item, BookedLine db command order.organizationId
    (db.itemsOf order) input row item) command.items receipt.items
  full : status = .received ↔ ∀ item ∈ db.itemsOf order,
    item.orderedQuantity ≤ (db.addReceipt receipt).totalReceived order.organizationId item.id
  partly : status = .received ∨ status = .partiallyReceived
  items : db'.orderItems = db.orderItems
  receipts : db'.receipts = db.receipts ++ [receipt]
  orders : db'.orders = ((db.addReceipt receipt).setStatus order status).orders

variable {order : PurchaseOrderRow}

theorem applyReceipt_eq_ok {branchId : Uuid}
    (applied : applyReceipt surroundings db command order branchId = .ok (result, db')) :
    result.status = .applied ∧
      Receives db db' command order result.receipt result.updatedPurchaseOrderStatus := by
  simp only [applyReceipt, bind_eq_ok] at applied
  obtain ⟨-, -, supplierId, -, warehouseId, -, -, -, lines, processed, total, -, totalAmount, -,
    rows, inserted, full, compared, finish⟩ := applied
  split at finish
  next => exact absurd finish throw_ne_ok
  rw [pure_eq_ok, Prod.mk.injEq] at finish
  obtain ⟨rfl, rfl⟩ := finish
  have isFull := allItemsFullyReceived_eq_ok _ _ _ _ compared
  refine ⟨rfl, rfl, rfl, lines_booked _ _ _ _ _ _ _ _ processed inserted, ?_, ?_, rfl, rfl, rfl⟩
  · rw [← isFull]
    cases full <;> simp [determinePostReceiptPoStatus]
  · cases full <;> simp [determinePostReceiptPoStatus]

theorem readUuid_eq_ok {text : String} {uuid : Uuid} (read : readUuid text = .ok uuid) :
    Uuid.read text = some uuid := by
  unfold readUuid at read
  split at read
  next => simp at read
  next value isValue =>
    obtain rfl := Except.ok.inj read
    exact isValue

theorem acceptDuplicate_status {localeCompare : String → String → Ordering}
    {existing : PurchaseReceiptRow}
    (accepted : acceptDuplicate localeCompare db command order existing = .ok result) :
    result.status = .duplicateAccepted := by
  simp only [acceptDuplicate, guard_eq_ok, bind_eq_ok] at accepted
  obtain ⟨-, -, -, -, branchId, -, accepted⟩ := accepted
  split at accepted
  next =>
    obtain rfl := pure_eq_ok.mp accepted
    rfl
  next => exact absurd accepted throw_ne_ok

theorem confirmPurchaseReceipt_eq_ok
    (returned : confirmPurchaseReceipt surroundings db command = .ok (result, db')) :
    (result.status = .duplicateAccepted ∧ db' = db) ∨
    (result.status = .applied ∧ db.existingReceipt command = none ∧
      ∃ order, db.orderOf command = some order ∧
        Receives db db' command order result.receipt result.updatedPurchaseOrderStatus) := by
  simp only [confirmPurchaseReceipt, guard_eq_ok, bind_eq_ok] at returned
  obtain ⟨-, -, organizationId, organization, purchaseOrderId, purchaseOrder, returned⟩ := returned
  have isOrganization := readUuid_eq_ok organization
  have isPurchaseOrder := readUuid_eq_ok purchaseOrder
  split at returned
  next => exact absurd returned throw_ne_ok
  next order found =>
    rw [bind_eq_ok] at returned
    obtain ⟨branchId, branch, returned⟩ := returned
    have isBranch := readUuid_eq_ok branch
    split at returned
    next existing _ =>
      simp only [bind_eq_ok, pure_eq_ok, Prod.mk.injEq] at returned
      obtain ⟨_, accepted, rfl, rfl⟩ := returned
      exact .inl ⟨acceptDuplicate_status accepted, rfl⟩
    next fresh =>
      obtain ⟨status, receives⟩ := applyReceipt_eq_ok returned
      refine .inr ⟨status, ?_, order, ?_, receives⟩
      · simpa [ProcurementDb.existingReceipt, isOrganization, isBranch] using fresh
      · simpa [ProcurementDb.orderOf, isOrganization, isPurchaseOrder] using found

/-! ### Whole histories -/

theorem line_within
    (booked : List.Forall₂
      (fun input row => ∃ item, BookedLine db command organizationId items input row item)
      inputs rows) (isLine : input ∈ inputs) (names : findItem command items input = .ok item) :
    db.totalReceived organizationId item.id + quantityOf input ≤ item.orderedQuantity := by
  induction booked with
  | nil => simp at isLine
  | cons line _ ih =>
    rcases mem_cons.mp isLine with rfl | isLater
    · obtain ⟨own, line⟩ := line
      obtain rfl : own = item := Except.ok.inj (line.names.symm.trans names)
      rw [← line.quantity]
      exact line.within
    · exact ih isLater

section

variable {receipt : PurchaseReceiptRow} {status : PurchaseOrderStatus}

theorem linesOf_eq_nil {items : List PurchaseOrderItemRow} {item : PurchaseOrderItemRow}
    (outside : item ∉ items) : linesOf command items item = [] := by
  refine filter_eq_nil_iff.mpr fun input _ names => outside ?_
  cases found : findItem command items input with
  | error _ => simp [found, Except.toOption] at names
  | ok own =>
    obtain rfl : own = item := by simpa [found, Except.toOption] using names
    exact findItem_eq_ok found

theorem mem_itemsOf :
    item ∈ db.itemsOf order ↔ item ∈ db.orderItems ∧
      item.organizationId = order.organizationId ∧ item.purchaseOrderId = order.id := by
  simp [ProcurementDb.itemsOf]

variable (receives : Receives db db' command order receipt status)
  (distinct : (db.orderItems.map PurchaseOrderItemRow.id).Nodup)

include receives

theorem Receives.orderOf (isOrder : db.orderOf command = some order) :
    db'.orderOf command = some { order with status := status } := by
  unfold ProcurementDb.orderOf at isOrder ⊢
  cases organization : Uuid.read command.organizationId with
  | none => simp [organization] at isOrder
  | some organizationId =>
    cases purchaseOrder : Uuid.read command.purchaseOrderId with
    | none => simp [organization, purchaseOrder] at isOrder
    | some purchaseOrderId =>
      simp only [organization, purchaseOrder, Option.bind_eq_bind, Option.bind_some] at isOrder ⊢
      have key := find?_some isOrder
      obtain ⟨rfl, rfl⟩ : order.organizationId = organizationId ∧ order.id = purchaseOrderId := by
        simpa using key
      rw [receives.orders]
      refine (Table.find?_updateWhere_self _ _ _ fun row hit => ?_).trans
        (congrArg (Option.map _) isOrder)
      exact hit

theorem Receives.total (organizationId itemId : Uuid) :
    db'.totalReceived organizationId itemId =
      (db.addReceipt receipt).totalReceived organizationId itemId := by
  simp [ProcurementDb.totalReceived, ProcurementDb.addReceipt, receives.receipts]

theorem Receives.totalReceived_other (organizationId itemId : Uuid)
    (other : organizationId ≠ order.organizationId) :
    db'.totalReceived organizationId itemId = db.totalReceived organizationId itemId := by
  rw [receives.total, totalReceived_addReceipt, if_neg, Int.add_zero]
  exact fun counts => other (counts.1.symm.trans receives.organization)

include distinct

theorem Receives.totalReceived {item : PurchaseOrderItemRow} (isItem : item ∈ db.orderItems) :
    db'.totalReceived order.organizationId item.id =
      db.totalReceived order.organizationId item.id +
        ((linesOf command (db.itemsOf order) item).map quantityOf).sum := by
  have unique : ∀ other ∈ db.itemsOf order, other.id = item.id → other = item :=
    fun other isOther sameId => inj_on_of_nodup_map distinct
      (mem_filter.mp isOther).1 isItem sameId
  rw [receives.total, totalReceived_addReceipt, if_pos ⟨receives.organization, receives.confirmed⟩,
    PurchaseReceiptRow.quantityOf, linesOf,
    quantity_of_rows unique receives.booked]

theorem Receives.totalReceived_outside {item : PurchaseOrderItemRow} (isItem : item ∈ db.orderItems)
    (outside : item ∉ db.itemsOf order) :
    db'.totalReceived item.organizationId item.id =
      db.totalReceived item.organizationId item.id := by
  by_cases same : item.organizationId = order.organizationId
  · rw [same, receives.totalReceived distinct isItem, linesOf_eq_nil outside]
    simp
  · exact receives.totalReceived_other _ _ same

theorem Receives.within_iff (within : Within db) (fresh : db.existingReceipt command = none)
    (isOrder : db.orderOf command = some order) : Within db' ↔ FitsTogether db command := by
  constructor
  · intro within' _ own isOwn item isItem _
    obtain rfl : order = own := Option.some.inj (isOrder.symm.trans isOwn)
    obtain ⟨stored, organization, -⟩ := (mem_itemsOf item).mp isItem
    rw [← receives.totalReceived distinct stored, ← organization]
    exact within' item (by rw [receives.items]; exact stored)
  · intro fits item isItem
    rw [receives.items] at isItem
    by_cases inside : item ∈ db.itemsOf order
    · have organization := ((mem_itemsOf item).mp inside).2.1
      have before := within item isItem
      have several := fits fresh order isOrder item inside
      rw [organization] at before ⊢
      rw [receives.totalReceived distinct isItem]
      match lines : linesOf command (db.itemsOf order) item with
      | [] => simpa using before
      | [input] =>
        have isLine : input ∈ linesOf command (db.itemsOf order) item := by simp [lines]
        obtain ⟨isInput, names⟩ := mem_filter.mp isLine
        have checked := line_within item receives.booked isInput (by
            cases found : findItem command (db.itemsOf order) input with
            | error _ => simp [found, Except.toOption] at names
            | ok own => simpa [found, Except.toOption] using names)
        simpa using checked
      | _ :: _ :: rest =>
        rw [lines] at several
        exact several (by simp)
    · rw [receives.totalReceived_outside distinct isItem inside]
      exact within item isItem

theorem Receives.settled (settled : Settled db) : Settled db' := by
  intro row isRow
  have itemsOf (other : PurchaseOrderRow) : db'.itemsOf other = db.itemsOf other := by
    rw [ProcurementDb.itemsOf, receives.items, ProcurementDb.itemsOf]
  rw [receives.orders] at isRow
  rcases Table.mem_updateWhere.mp isRow with ⟨old, -, hit, rfl⟩ | ⟨isOld, missed⟩
  · intro _
    obtain ⟨organization, id⟩ : old.organizationId = order.organizationId ∧ old.id = order.id := by
      simpa using hit
    have sameItems : db'.itemsOf { old with status := status } = db.itemsOf order := by
      rw [itemsOf]
      simp [ProcurementDb.itemsOf, organization, id]
    rw [sameItems]
    simp only [receives.total, organization]
    exact receives.full
  · intro hasReceipts
    rw [settled row isOld hasReceipts, itemsOf]
    refine forall₂_congr fun item isItem => ?_
    obtain ⟨stored, organization, purchaseOrder⟩ := (mem_itemsOf item).mp isItem
    have outside : item ∉ db.itemsOf order := fun inside => by
      obtain ⟨-, sameOrganization, sameOrder⟩ := (mem_itemsOf item).mp inside
      simp [← organization, ← purchaseOrder, sameOrganization, sameOrder] at missed
    rw [← organization, receives.totalReceived_outside distinct stored outside]

end

theorem ReceiptStep.keeps (step : ReceiptStep db db')
    (distinct : (db.orderItems.map PurchaseOrderItemRow.id).Nodup) (within : Within db)
    (settled : Settled db) :
    (db'.orderItems.map PurchaseOrderItemRow.id).Nodup ∧ Within db' ∧ Settled db' := by
  obtain ⟨surroundings, command, result, fits, returned⟩ := step
  rcases confirmPurchaseReceipt_eq_ok returned with
    ⟨-, rfl⟩ | ⟨-, fresh, order, isOrder, receives⟩
  · exact ⟨distinct, within, settled⟩
  · exact ⟨by rw [receives.items]; exact distinct,
      (receives.within_iff distinct within fresh isOrder).mpr fits,
      receives.settled distinct settled⟩

/-- While the lines of every receipt fit together, no item is received beyond its order, and
every receipt leaves its order with the status its confirmed quantities call for. A receipt whose
lines do not fit together is accepted as well, and then the bound is broken. -/
theorem receipts_stay_within_order (db₀ db : ProcurementDb)
    (distinct : (db₀.orderItems.map PurchaseOrderItemRow.id).Nodup) (within : Within db₀)
    (settled : Settled db₀) (run : Relation.ReflTransGen ReceiptStep db₀ db) :
    Within db ∧ Settled db ∧
      ∀ surroundings command result db',
        confirmPurchaseReceipt surroundings db command = .ok (result, db') →
          result.status = .applied →
            (Within db' ↔ FitsTogether db command) ∧ Settled db' ∧
              ∃ order, db'.orderOf command = some order ∧
                (order.status = .received ∨ order.status = .partiallyReceived) := by
  have invariant : (db.orderItems.map PurchaseOrderItemRow.id).Nodup ∧ Within db ∧ Settled db := by
    induction run with
    | refl => exact ⟨distinct, within, settled⟩
    | tail _ step ih => exact step.keeps ih.1 ih.2.1 ih.2.2
  obtain ⟨distinct, within, settled⟩ := invariant
  refine ⟨within, settled, fun surroundings command result db' returned applied => ?_⟩
  rcases confirmPurchaseReceipt_eq_ok returned with
    ⟨duplicate, -⟩ | ⟨-, fresh, order, isOrder, receives⟩
  · simp [applied] at duplicate
  · exact ⟨receives.within_iff distinct within fresh isOrder, receives.settled distinct settled,
      _, receives.orderOf isOrder, receives.partly⟩

/-! ### An order of ten units -/

def sampleDb : ProcurementDb :=
  { orders := [⟨1, 2, 3, 4, .sent⟩], orderItems := [⟨5, 2, 1, 6, 100000, 20000⟩], receipts := []
    warehouses := [⟨7, 2, 3⟩], outbox := [] }

def sampleReceipt (receiptNumber : String) (quantities : List String) :
    ConfirmPurchaseReceiptCommand :=
  { organizationId := Uuid.write 2, branchId := Uuid.write 3, purchaseOrderId := Uuid.write 1
    supplierId := Uuid.write 4, warehouseId := Uuid.write 7, receiptNumber := receiptNumber
    invoiceReference := none, receivedAt := none, paymentTerms := none
    items := quantities.map fun quantity => ⟨Uuid.write 5, Uuid.write 6, quantity, "2.0000"⟩
    supervisorAuthorizationToken := none }

def sampleSurroundings (receiptId : Uuid) : ReceiptSurroundings :=
  { priceVariancePolicy := none, localeCompare := compare, receiptId := receiptId
    itemId := fun index => receiptId + 1 + BitVec.ofNat 128 index
    receivedAt := fun given => given.getD "2026-09-05T10:00:00.000Z"
    interruption := none }

def afterReceipt (db : ProcurementDb) (receiptId : Uuid) (command : ConfirmPurchaseReceiptCommand) :
    ProcurementDb :=
  stateAfter db (confirmPurchaseReceipt (sampleSurroundings receiptId) db command)

/-- Two lines of ten units each pass against the order of ten units. -/
theorem repeated_item_exceeds_order :
    (sampleDb.orderItems.map PurchaseOrderItemRow.id).Nodup ∧ Within sampleDb ∧ Settled sampleDb ∧
      ∃ result db', confirmPurchaseReceipt (sampleSurroundings 10) sampleDb
          (sampleReceipt "R-1" ["10.0000", "10.0000"]) = .ok (result, db') ∧
        ¬ Within db' := by
  have run : Within sampleDb ∧ Settled sampleDb ∧
      (confirmPurchaseReceipt (sampleSurroundings 10) sampleDb
        (sampleReceipt "R-1" ["10.0000", "10.0000"])).isOk ∧
      ¬ Within (afterReceipt sampleDb 10 (sampleReceipt "R-1" ["10.0000", "10.0000"])) := by
    decide +kernel
  obtain ⟨within, settled, accepted, exceeded⟩ := run
  obtain ⟨result, returned⟩ := eq_ok_stateAfter sampleDb _ accepted
  exact ⟨by decide, within, settled, result, _, returned, exceeded⟩

def samplePartly : ProcurementDb := afterReceipt sampleDb 10 (sampleReceipt "R-1" ["4.0000"])

/-- Four units, and then two lines of three units each that complete the order. -/
theorem sample_receipts_within_order :
    Within samplePartly ∧ Settled samplePartly ∧
      ∃ result db', confirmPurchaseReceipt (sampleSurroundings 20) samplePartly
          (sampleReceipt "R-2" ["3.0000", "3.0000"]) = .ok (result, db') ∧
        Within db' ∧ Settled db' ∧
        ∃ order, db'.orderOf (sampleReceipt "R-2" ["3.0000", "3.0000"]) = some order ∧
          (order.status = .received ∨ order.status = .partiallyReceived) := by
  have run : Within sampleDb ∧ Settled sampleDb ∧
      FitsTogether sampleDb (sampleReceipt "R-1" ["4.0000"]) ∧
      (confirmPurchaseReceipt (sampleSurroundings 10) sampleDb
        (sampleReceipt "R-1" ["4.0000"])).isOk ∧
      FitsTogether samplePartly (sampleReceipt "R-2" ["3.0000", "3.0000"]) ∧
      (confirmPurchaseReceipt (sampleSurroundings 20) samplePartly
        (sampleReceipt "R-2" ["3.0000", "3.0000"])).isOk ∧
      (((confirmPurchaseReceipt (sampleSurroundings 20) samplePartly
        (sampleReceipt "R-2" ["3.0000", "3.0000"])).map fun pair => pair.1.status).toOption =
          some .applied) := by
    decide +kernel
  obtain ⟨within, settled, fits, accepted, fitsNext, acceptedNext, applied⟩ := run
  obtain ⟨first, returned⟩ := eq_ok_stateAfter sampleDb _ accepted
  obtain ⟨second, returnedNext⟩ := eq_ok_stateAfter samplePartly _ acceptedNext
  have isApplied : second.status = .applied := by
    rw [returnedNext] at applied
    exact Option.some.inj applied
  obtain ⟨within', settled', next⟩ := receipts_stay_within_order sampleDb samplePartly (by decide)
    within settled (.single ⟨_, _, first, fits, returned⟩)
  obtain ⟨bound, settledNext, order⟩ := next _ _ _ _ returnedNext isApplied
  exact ⟨within', settled', second, _, returnedNext, bound.mpr fitsNext, settledNext, order⟩

end TridentPos.Procurement
