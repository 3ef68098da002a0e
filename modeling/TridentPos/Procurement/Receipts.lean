import TridentPos.Procurement.Receiving
import TridentPos.Inventory.Domain
import TridentPos.Library.Table
import TridentPos.Library.Uuid
import Mathlib.Algebra.Order.BigOperators.Group.List

/-!
# Purchase receipts

`confirmPurchaseReceipt`, one transaction under the lock of its purchase order. Every line is
checked against what earlier receipts have confirmed for its item. The lines of one receipt are
inserted after all of them were checked, so they do not see each other.
-/
namespace TridentPos.Procurement

open Core Library

/-! ### Tables -/

structure PurchaseOrderRow where
  (id organizationId branchId supplierId : Uuid)
  status : PurchaseOrderStatus

structure PurchaseOrderItemRow where
  (id organizationId purchaseOrderId ingredientId : Uuid)
  (orderedQuantity unitCost : Int)
deriving DecidableEq

inductive PurchaseReceiptStatus where
  | confirmed
  | cancelled
deriving DecidableEq

structure PurchaseReceiptItemRow where
  (id purchaseOrderItemId ingredientId : Uuid)
  (receivedQuantity acceptedUnitCost lineAmount : Int)

/-- A row of `purchase_receipts` with its rows of `purchase_receipt_items`. -/
structure PurchaseReceiptRow where
  (id organizationId branchId purchaseOrderId supplierId warehouseId : Uuid)
  receiptNumber : String
  invoiceReference : Option String
  totalAmount : Int
  status : PurchaseReceiptStatus
  receivedAt : String
  items : List PurchaseReceiptItemRow

structure WarehouseRow where
  (id organizationId branchId : Uuid)

structure RecepcionCompraItem where
  (ingredientId purchaseOrderItemId orderedQuantity previouslyReceivedQuantity : String)
  (receivedQuantity cumulativeReceivedQuantity remainingQuantity acceptedUnitCost : String)
  lineAmount : String

structure RecepcionCompraRegistrada where
  (recepcionId organizationId branchId supplierId purchaseOrderId warehouseId : String)
  receiptNumber : String
  invoiceReference : Option String
  receivedAt : String
  paymentTerms : Option String
  totalAmount : String
  items : List RecepcionCompraItem

/-- A `RecepcionCompraRegistrada` row of `cloud_integration_outbox`. -/
structure ReceiptEventRow where
  (organizationId branchId aggregateId : Uuid)
  payload : RecepcionCompraRegistrada

structure ProcurementDb where
  orders : List PurchaseOrderRow
  orderItems : List PurchaseOrderItemRow
  receipts : List PurchaseReceiptRow
  warehouses : List WarehouseRow
  outbox : List ReceiptEventRow

def PurchaseReceiptRow.quantityOf (receipt : PurchaseReceiptRow) (itemId : Uuid) : Int :=
  ((receipt.items.filter fun item => item.purchaseOrderItemId == itemId).map
    PurchaseReceiptItemRow.receivedQuantity).sum

variable (db : ProcurementDb) (localeCompare : String → String → Ordering)

def ProcurementDb.totalReceived (organizationId itemId : Uuid) : Int :=
  ((db.receipts.filter fun receipt => receipt.organizationId == organizationId &&
    receipt.status == .confirmed).map fun receipt => receipt.quantityOf itemId).sum

/-! ### Commands -/

structure ConfirmReceiptItemInput where
  (purchaseOrderItemId ingredientId receivedQuantity acceptedUnitCost : String)

structure ConfirmPurchaseReceiptCommand where
  (organizationId branchId purchaseOrderId supplierId warehouseId receiptNumber : String)
  (invoiceReference receivedAt paymentTerms : Option String)
  items : List ConfirmReceiptItemInput
  supervisorAuthorizationToken : Option String

inductive ConfirmReceiptStatus where
  | applied
  | duplicateAccepted
deriving DecidableEq

structure ConfirmReceiptResult where
  status : ConfirmReceiptStatus
  receipt : PurchaseReceiptRow
  eventPayload : RecepcionCompraRegistrada
  updatedPurchaseOrderStatus : PurchaseOrderStatus

/-- What a call is given besides its command: the policy, the collation of `localeCompare`, the
ids and times the database makes, and what interrupts the transaction, if anything. -/
structure ReceiptSurroundings where
  priceVariancePolicy : Option PriceVariancePolicy
  localeCompare : String → String → Ordering
  receiptId : Uuid
  itemId : Nat → Uuid
  receivedAt : Option String → String
  interruption : Option ProcurementError

def readUuid (text : String) : Except ProcurementError Uuid :=
  match Uuid.read text with
  | none => .error ⟨.error, "invalid input syntax for type uuid: \"" ++ text ++ "\""⟩
  | some uuid => .ok uuid

/-! ### A receipt that exists -/

def conflictError (message : String) : ProcurementError :=
  ⟨.receiptIdempotencyConflict, "RECEIPT_IDEMPOTENCY_CONFLICT: " ++ message⟩

def lineLe (a b : ConfirmReceiptItemInput) : Bool :=
  ((localeCompare a.purchaseOrderItemId b.purchaseOrderItemId).then
    (localeCompare a.ingredientId b.ingredientId)).isLE

def PurchaseReceiptItemRow.input (row : PurchaseReceiptItemRow) : ConfirmReceiptItemInput :=
  { purchaseOrderItemId := row.purchaseOrderItemId.write, ingredientId := row.ingredientId.write
    receivedQuantity := scaledBigIntToDecimalString row.receivedQuantity
    acceptedUnitCost := scaledBigIntToDecimalString row.acceptedUnitCost }

def parseDecimal12x4 (text : String) : Except ProcurementError Int :=
  (Inventory.parseDecimal12x4 text).mapError fun error => ⟨.rangeError, error.message⟩

/-- One line against the stored one; the amounts are parsed only as far as `||` gets. -/
def sameLine (existing incoming : ConfirmReceiptItemInput) : Except ProcurementError Bool := do
  if existing.purchaseOrderItemId ≠ incoming.purchaseOrderItemId ∨
      existing.ingredientId ≠ incoming.ingredientId then return false
  else if (← parseDecimal12x4 existing.receivedQuantity) ≠
      (← parseDecimal12x4 incoming.receivedQuantity) then return false
  else
    return (← parseDecimal12x4 existing.acceptedUnitCost) ==
      (← parseDecimal12x4 incoming.acceptedUnitCost)

def compareLines (receiptNumber : String) :
    List (ConfirmReceiptItemInput × ConfirmReceiptItemInput) → Except ProcurementError Unit
  | [] => return ()
  | (existing, incoming) :: rest => do
    if !(← sameLine existing incoming) then
      throw (conflictError ("Receipt number '" ++ receiptNumber ++
        "' already exists with conflicting line details for item '" ++
        incoming.purchaseOrderItemId ++ "'"))
    compareLines receiptNumber rest

def acceptDuplicate (db : ProcurementDb)
    (command : ConfirmPurchaseReceiptCommand) (order : PurchaseOrderRow)
    (existing : PurchaseReceiptRow) : Except ProcurementError ConfirmReceiptResult := do
  if existing.purchaseOrderId.write ≠ command.purchaseOrderId ∨
      existing.supplierId.write ≠ command.supplierId ∨
      existing.warehouseId.write ≠ command.warehouseId then
    throw (conflictError ("Receipt number '" ++ command.receiptNumber ++
      "' already exists with conflicting stable identity (purchaseOrderId, supplierId, or " ++
      "warehouseId mismatch)"))
  if existing.items.length ≠ command.items.length then
    throw (conflictError ("Receipt number '" ++ command.receiptNumber ++
      "' already exists with conflicting number of items (existing: " ++
      toString existing.items.length ++ ", incoming: " ++ toString command.items.length ++ ")"))
  let sortedExisting := (existing.items.map PurchaseReceiptItemRow.input).mergeSort
    (lineLe localeCompare)
  let sortedIncoming := command.items.mergeSort (lineLe localeCompare)
  compareLines command.receiptNumber (sortedExisting.zip sortedIncoming)
  let branchId ← readUuid command.branchId
  match db.outbox.filter fun row => row.organizationId == existing.organizationId &&
      row.branchId == branchId && row.aggregateId == existing.id with
  | [event] => return ⟨.duplicateAccepted, existing, event.payload, order.status⟩
  | events => throw ⟨.receiptOutboxIntegrity, "RECEIPT_OUTBOX_INTEGRITY_ERROR: " ++
      "Expected exactly one canonical RecepcionCompraRegistrada event for receipt '" ++
      existing.id.write ++ "', found " ++ toString events.length⟩

/-! ### A new receipt -/

variable (command : ConfirmPurchaseReceiptCommand)

def checkOrder (order : PurchaseOrderRow) : Except ProcurementError Unit :=
  if order.status = .cancelled then
    .error ⟨.purchaseOrderCancelled, "Purchase order '" ++ command.purchaseOrderId ++
      "' is cancelled and cannot accept modifications or receipts"⟩
  else if order.status = .received then
    .error (invalidPurchaseOrderError "Purchase order is already fully received")
  else if order.status = .draft then
    .error (invalidPurchaseOrderError ("Cannot receive against DRAFT purchase order; order must " ++
      "be in SENT or PARTIAL status"))
  else if order.supplierId.write ≠ command.supplierId then
    .error (invalidPurchaseOrderError "Supplier does not match purchase order supplier")
  else if order.branchId.write ≠ command.branchId then
    .error (invalidPurchaseOrderError "Branch does not match purchase order branch")
  else .ok ()

def checkWarehouse (organizationId branchId warehouseId : Uuid) : Except ProcurementError Unit :=
  if db.warehouses.any fun row => row.organizationId == organizationId && row.id == warehouseId &&
      row.branchId == branchId then .ok ()
  else .error (invalidReceiptItemError ("Warehouse '" ++ command.warehouseId ++
    "' does not belong to organization and branch"))

structure ProcessedLine where
  item : PurchaseOrderItemRow
  payload : RecepcionCompraItem

def findItem (items : List PurchaseOrderItemRow)
    (input : ConfirmReceiptItemInput) : Except ProcurementError PurchaseOrderItemRow :=
  match items.find? fun item => item.id.write == input.purchaseOrderItemId with
  | none => .error (invalidReceiptItemError ("Purchase order item '" ++ input.purchaseOrderItemId ++
      "' does not belong to purchase order '" ++ command.purchaseOrderId ++ "'"))
  | some item =>
    if item.ingredientId.write ≠ input.ingredientId then
      .error (invalidReceiptItemError ("Ingredient '" ++ input.ingredientId ++
        "' does not match purchase order item ingredient '" ++ item.ingredientId.write ++ "'"))
    else .ok item

/-- The body of the line loop. The tables are those before the receipt. -/
def processLine (policy : Option PriceVariancePolicy) (db : ProcurementDb)
    (command : ConfirmPurchaseReceiptCommand) (organizationId : Uuid)
    (items : List PurchaseOrderItemRow) (input : ConfirmReceiptItemInput) :
    Except ProcurementError ProcessedLine := do
  let item ← findItem command items input
  let ordered := scaledBigIntToDecimalString item.orderedQuantity
  let previous := scaledBigIntToDecimalString (db.totalReceived organizationId item.id)
  evaluatePriceVariance
    { organizationId := command.organizationId, branchId := command.branchId
      supplierId := command.supplierId, ingredientId := input.ingredientId
      orderedUnitCost := scaledBigIntToDecimalString item.unitCost
      receivedUnitCost := input.acceptedUnitCost
      supervisorAuthorizationToken := command.supervisorAuthorizationToken } policy
  evaluateOverReceipt input.ingredientId ordered previous input.receivedQuantity
  let lineAmount ← calculateReceiptItemLineAmount input.receivedQuantity input.acceptedUnitCost
  let cumulative ← deriveCumulativeReceivingQuantities ordered previous input.receivedQuantity
  return {
    item := item
    payload :=
      { ingredientId := input.ingredientId, purchaseOrderItemId := input.purchaseOrderItemId
        orderedQuantity := ordered, previouslyReceivedQuantity := previous
        receivedQuantity := input.receivedQuantity
        cumulativeReceivedQuantity := cumulative.cumulativeReceivedQuantity
        remainingQuantity := cumulative.remainingQuantity
        acceptedUnitCost := input.acceptedUnitCost, lineAmount := lineAmount } }

/-- `INSERT INTO purchase_receipt_items`; the columns read the texts. -/
def receiptItemRow (id : Uuid) (line : ProcessedLine) :
    Except ProcurementError PurchaseReceiptItemRow := do
  let receivedQuantity ← scale4 line.payload.receivedQuantity
  let acceptedUnitCost ← scale4 line.payload.acceptedUnitCost
  let lineAmount ← scale4 line.payload.lineAmount
  return ⟨id, line.item.id, line.item.ingredientId, receivedQuantity, acceptedUnitCost, lineAmount⟩

def receiptItemRows (itemId : Nat → Uuid) (lines : List ProcessedLine) :
    Except ProcurementError (List PurchaseReceiptItemRow) :=
  lines.zipIdx.mapM fun (line, index) => receiptItemRow (itemId index) line

/-- The items that are not fully received make the order partial; every sum is compared. -/
def allItemsFullyReceived (db : ProcurementDb) (organizationId : Uuid) :
    List PurchaseOrderItemRow → Except ProcurementError Bool
  | [] => return true
  | item :: rest => do
    let order ← cmpScale4 (scaledBigIntToDecimalString (db.totalReceived organizationId item.id))
      (scaledBigIntToDecimalString item.orderedQuantity)
    let others ← allItemsFullyReceived db organizationId rest
    return order != .lt && others

def ProcurementDb.addReceipt (receipt : PurchaseReceiptRow) : ProcurementDb :=
  { db with receipts := db.receipts ++ [receipt] }

def ProcurementDb.setStatus (order : PurchaseOrderRow)
    (status : PurchaseOrderStatus) : ProcurementDb :=
  { db with
    orders := Table.updateWhere
      (fun row => row.organizationId == order.organizationId && row.id == order.id)
      (fun row => { row with status := status }) db.orders }

def receiptPayload (receipt : PurchaseReceiptRow)
    (lines : List ProcessedLine) : RecepcionCompraRegistrada :=
  { recepcionId := receipt.id.write, organizationId := receipt.organizationId.write
    branchId := receipt.branchId.write, supplierId := receipt.supplierId.write
    purchaseOrderId := receipt.purchaseOrderId.write, warehouseId := receipt.warehouseId.write
    receiptNumber := receipt.receiptNumber, invoiceReference := receipt.invoiceReference
    receivedAt := receipt.receivedAt, paymentTerms := command.paymentTerms
    totalAmount := scaledBigIntToDecimalString receipt.totalAmount
    items := lines.map ProcessedLine.payload }

def ProcurementDb.itemsOf (order : PurchaseOrderRow) : List PurchaseOrderItemRow :=
  db.orderItems.filter fun item => item.organizationId == order.organizationId &&
    item.purchaseOrderId == order.id

def applyReceipt (surroundings : ReceiptSurroundings) (db : ProcurementDb)
    (command : ConfirmPurchaseReceiptCommand) (order : PurchaseOrderRow) (branchId : Uuid) :
    Except ProcurementError (ConfirmReceiptResult × ProcurementDb) := do
  checkOrder command order
  let supplierId ← readUuid command.supplierId
  let warehouseId ← readUuid command.warehouseId
  checkWarehouse db command order.organizationId branchId warehouseId
  let items := db.itemsOf order
  let lines ← command.items.mapM
    (processLine surroundings.priceVariancePolicy db command order.organizationId items)
  let total ← calculateReceiptTotalAmount (lines.map fun line => line.payload.lineAmount)
  let totalAmount ← scale4 total
  let rows ← receiptItemRows surroundings.itemId lines
  let receipt : PurchaseReceiptRow :=
    { id := surroundings.receiptId, organizationId := order.organizationId, branchId := branchId
      purchaseOrderId := order.id, supplierId := supplierId, warehouseId := warehouseId
      receiptNumber := trimmed command.receiptNumber
      invoiceReference := command.invoiceReference.map trimmed, totalAmount := totalAmount
      status := .confirmed, receivedAt := surroundings.receivedAt command.receivedAt
      items := rows }
  let received := db.addReceipt receipt
  let full ← allItemsFullyReceived received order.organizationId items
  let status := determinePostReceiptPoStatus full
  let payload := receiptPayload command receipt lines
  let updated := received.setStatus order status
  match surroundings.interruption with
  | some error => throw error
  | none => return (⟨.applied, receipt, payload, status⟩,
      { updated with
        outbox := db.outbox ++ [⟨order.organizationId, branchId, receipt.id, payload⟩] })

def confirmPurchaseReceipt (surroundings : ReceiptSurroundings) (db : ProcurementDb)
    (command : ConfirmPurchaseReceiptCommand) :
    Except ProcurementError (ConfirmReceiptResult × ProcurementDb) := do
  if isBlank command.receiptNumber then
    throw (invalidReceiptItemError "Receipt number cannot be empty")
  if command.items.isEmpty then
    throw (invalidReceiptItemError "Receipt must contain at least one item")
  let organizationId ← readUuid command.organizationId
  let purchaseOrderId ← readUuid command.purchaseOrderId
  match db.orders.find? fun row => row.organizationId == organizationId &&
      row.id == purchaseOrderId with
  | none => throw (invalidPurchaseOrderError ("Purchase order '" ++ command.purchaseOrderId ++
      "' not found"))
  | some order =>
    let branchId ← readUuid command.branchId
    match db.receipts.find? fun row => row.organizationId == organizationId &&
        row.branchId == branchId && row.receiptNumber == trimmed command.receiptNumber with
    | some existing =>
      let result ← acceptDuplicate surroundings.localeCompare db command order existing
      return (result, db)
    | none => applyReceipt surroundings db command order branchId

end TridentPos.Procurement
