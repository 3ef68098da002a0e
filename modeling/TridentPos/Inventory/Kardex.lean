import TridentPos.Inventory.Depletion
import TridentPos.Library.LockedStore
import TridentPos.Library.Uuid
import Mathlib.Algebra.BigOperators.Group.List.Basic
import Mathlib.Algebra.Ring.Int.Defs

/-!
# Kardex transactions

`registerWaste`, `onKdsOrderProduced` and `replayQuarantinedDepletion`, each one transaction.
`InventoryProgram.act` is what a transaction does with its next statement. The ids of a request
are texts: the columns read them as UUIDs, the advisory locks hash them as they are spelled.
-/
namespace TridentPos.Inventory

open Core Library LockedStore Fallible

/-! ### Ids -/

structure StockIds where
  (organizationId branchId warehouseId ingredientId : String)
deriving DecidableEq

/-- The ids of an aggregate as the columns hold them. -/
structure StockKey where
  (organizationId branchId warehouseId ingredientId : Uuid)
deriving DecidableEq

def uuidError (text : String) : InventoryError :=
  ⟨.error, "invalid input syntax for type uuid: \"" ++ text ++ "\""⟩

def readUuid (text : String) : Except InventoryError Uuid :=
  match Uuid.read text with
  | none => .error (uuidError text)
  | some uuid => .ok uuid

def StockIds.key (ids : StockIds) : Except InventoryError StockKey := do
  let organizationId ← readUuid ids.organizationId
  let branchId ← readUuid ids.branchId
  let warehouseId ← readUuid ids.warehouseId
  let ingredientId ← readUuid ids.ingredientId
  return ⟨organizationId, branchId, warehouseId, ingredientId⟩

def StockIds.lockKey (ids : StockIds) : String :=
  ids.organizationId ++ ":" ++ ids.branchId ++ ":" ++ ids.warehouseId ++ ":" ++ ids.ingredientId

def sourceEventLockKey (organizationId branchId sourceOrderId : String) : String :=
  "KDS_SOURCE_EVENT:" ++ organizationId ++ ":" ++ branchId ++ ":" ++ sourceOrderId

def RegisterWasteCommand.ids (command : RegisterWasteCommand) : StockIds :=
  ⟨command.organizationId, command.branchId, command.warehouseId, command.ingredientId⟩

def KdsOrderProducedEvent.ids (event : KdsOrderProducedEvent) (ingredientId : String) : StockIds :=
  ⟨event.organizacionId, event.sucursalId, event.centroConsumoId, ingredientId⟩

/-! ### Tables -/

inductive StockMovementType where
  | compra
  | consumoKds
  | merma
  | ajusteFisico
  | transferencia
deriving DecidableEq

structure StockLedgerRow where
  id : Uuid
  key : StockKey
  movementType : StockMovementType
  referenceEventId : String
  (quantityDelta unitCost totalCost balanceAfter : Int)
  movementSequenceNumber : Nat
deriving DecidableEq

structure WasteRow where
  id : Uuid
  key : StockKey
  stockLedgerId : Uuid
  (commandId reasonCode photoAttachmentUrl : String)
  (notes actorId : Option String)
deriving DecidableEq

inductive QuarantineStatus where
  | pending
  | replayed
  | rejected
deriving DecidableEq

structure QuarantineRow where
  (id organizationId branchId : Uuid)
  sourceEventId : String
  payload : KdsOrderProducedEvent
  reason : String
  status : QuarantineStatus
  replayedAt : Option Nat

structure NegativeStockSignal where
  ids : StockIds
  balanceAfter : String
deriving DecidableEq

/-- An `InventarioDescontadoPorReceta` event of `cloud_integration_outbox`. -/
structure DepletionEventRow where
  (id organizationId branchId : Uuid)
  aggregateId : String
  movements : List StockLedgerRow
  negativeStockAlerts : List NegativeStockSignal

structure InventoryDb where
  ledger : List StockLedgerRow
  waste : List WasteRow
  quarantine : List QuarantineRow
  outbox : List DepletionEventRow

def InventoryDb.empty : InventoryDb := ⟨[], [], [], []⟩

def InventoryDb.ledgerOf (db : InventoryDb) (key : StockKey) : List StockLedgerRow :=
  db.ledger.filter fun row => row.key == key

def balanceOf (rows : List StockLedgerRow) : Int := (rows.map StockLedgerRow.quantityDelta).sum

def nextSequence (rows : List StockLedgerRow) : Nat :=
  (rows.map StockLedgerRow.movementSequenceNumber).foldl max 0 + 1

/-- The unique constraints and the check of the ledger and of the waste records. -/
def InventoryDb.Consistent (db : InventoryDb) : Prop :=
  (db.ledger.map fun row => row.id).Nodup ∧
  (db.ledger.map fun row => (row.key, row.movementSequenceNumber)).Nodup ∧
  (db.ledger.map fun row => (row.key, row.movementType, row.referenceEventId)).Nodup ∧
  (∀ row ∈ db.ledger, row.quantityDelta ≠ 0) ∧
  (db.waste.map fun row => (row.key.organizationId, row.commandId)).Nodup ∧
  (db.waste.map fun row => (row.key.organizationId, row.stockLedgerId)).Nodup
deriving Decidable

inductive InventoryWrite where
  | ledger (row : StockLedgerRow)
  | waste (row : WasteRow)
  | quarantine (row : QuarantineRow)
  | replayed (organizationId id : Uuid) (now : Nat)
  | outbox (row : DepletionEventRow)

def QuarantineRow.sameSource (row other : QuarantineRow) : Bool :=
  row.organizationId == other.organizationId && row.branchId == other.branchId &&
    row.sourceEventId == other.sourceEventId

def InventoryDb.apply (db : InventoryDb) : InventoryWrite → InventoryDb
  | .ledger row => { db with ledger := db.ledger ++ [row] }
  | .waste row => { db with waste := db.waste ++ [row] }
  | .quarantine row =>
    if db.quarantine.any row.sameSource then
      { db with quarantine := db.quarantine.map fun stored =>
          if row.sameSource stored then
            { stored with payload := row.payload, reason := row.reason, status := .pending }
          else stored }
    else { db with quarantine := db.quarantine ++ [row] }
  | .replayed organizationId id now =>
    { db with quarantine := db.quarantine.map fun stored =>
        if stored.organizationId == organizationId && stored.id == id then
          { stored with status := .replayed, replayedAt := some (stored.replayedAt.getD now) }
        else stored }
  | .outbox row => { db with outbox := db.outbox ++ [row] }

/-! ### Results -/

inductive InventoryResult where
  | waste (movement : StockLedgerRow) (record : WasteRow) (alert : Option NegativeStockSignal)
  | applied (ordenId : String) (movements : List StockLedgerRow)
      (alerts : List NegativeStockSignal) (outboxEventId : Uuid)
  | duplicateAccepted (ordenId : String) (movements : List StockLedgerRow)
      (alerts : List NegativeStockSignal) (outboxEventId : Uuid)
  | quarantined (ordenId : String) (quarantineId : Uuid) (reason : String)
deriving DecidableEq

def StockKey.texts (key : StockKey) : StockIds :=
  ⟨key.organizationId.write, key.branchId.write, key.warehouseId.write, key.ingredientId.write⟩

def negativeStock (ids : StockIds) (row : StockLedgerRow) : Option NegativeStockSignal :=
  if row.balanceAfter < 0 then some ⟨ids, scaledBigIntToDecimalString row.balanceAfter⟩ else none

/-! ### Programs -/

inductive InventoryTask where
  | waste (command : RegisterWasteCommand)
  | kds (event : KdsOrderProducedEvent) (resolver : Option ModifierRecipeResolver)
  | replay (organizationId quarantineId : String) (resolver : ModifierRecipeResolver)

def InventoryTask.resolver : InventoryTask → Option ModifierRecipeResolver
  | .waste _ => none
  | .kds _ resolver => resolver
  | .replay _ _ resolver => some resolver

structure Depletion where
  event : KdsOrderProducedEvent
  remaining : List IngredientQuantity
  movements : List StockLedgerRow
  alerts : List NegativeStockSignal

structure StockMovement where
  ids : StockIds
  movementType : StockMovementType
  referenceEventId : String
  quantity : Int

structure PricedMovement extends StockMovement where
  (quantityDelta unitCost totalCost : Int)

inductive Purpose where
  | waste (command : RegisterWasteCommand)
  | depletion (depletion : Depletion)

/-- The next statement of a transaction, with what it has read so far. -/
inductive InventoryStage where
  | start
  | sourceLock (record : QuarantineRow)
  | rowLock (record : QuarantineRow)
  | checkOrder (event : KdsOrderProducedEvent)
  | resolve (event : KdsOrderProducedEvent)
  | ingredients (depletion : Depletion)
  | lock (movement : StockMovement) (depletion : Depletion)
  | checkWaste (command : RegisterWasteCommand)
  | cost (movement : StockMovement) (purpose : Purpose)
  | balance (movement : PricedMovement) (purpose : Purpose)
  | sequence (movement : PricedMovement) (priorBalance : Int) (purpose : Purpose)
  | insert (ids : StockIds) (row : StockLedgerRow) (purpose : Purpose)
  | record (row : StockLedgerRow) (command : RegisterWasteCommand)
  | enqueue (depletion : Depletion)
  | markReplayed (result : InventoryResult)
  | commit (result : InventoryResult)
  | done (result : Except InventoryError InventoryResult)

structure InventoryProgram where
  task : InventoryTask
  stage : InventoryStage

def registerWaste (command : RegisterWasteCommand) : Except InventoryError InventoryProgram := do
  validateWasteCommand command
  return ⟨.waste command, .start⟩

def onKdsOrderProduced (event : KdsOrderProducedEvent)
    (customResolver : Option ModifierRecipeResolver) : InventoryProgram :=
  ⟨.kds event customResolver, .start⟩

def replayQuarantinedDepletion (organizationId quarantineId : String)
    (resolver : ModifierRecipeResolver) : InventoryProgram :=
  ⟨.replay organizationId quarantineId resolver, .start⟩

inductive InventoryLock where
  | advisory (hash : Int)
  | quarantineRow (id : Uuid)
deriving DecidableEq

/-- What the surroundings decide in one step: the ids and the clock of the database, the cost and
the recipes it finds, and what interrupts the transaction, if anything. -/
structure InventoryOracle where
  id : Uuid
  now : Nat
  cost : Option String
  recipes : RecipeBook
  interruption : Option InventoryError

section Statements

-- PostgreSQL's hash of a text, whatever it is
variable (hashtext : String → Int)

def aggregateLock (ids : StockIds) : InventoryLock := .advisory (hashtext ids.lockKey)

def sourceEventLock (organizationId branchId sourceOrderId : String) : InventoryLock :=
  .advisory (hashtext (sourceEventLockKey organizationId branchId sourceOrderId))

variable (db : InventoryDb) (program : InventoryProgram)

def InventoryProgram.wants : Option InventoryLock :=
  match program.stage, program.task with
  | .start, .waste command => some (aggregateLock hashtext command.ids)
  | .start, .kds event _ =>
    some (sourceEventLock hashtext event.organizacionId event.sucursalId event.ordenId)
  | .sourceLock record, .replay organizationId _ _ =>
    some (sourceEventLock hashtext organizationId record.branchId.write record.sourceEventId)
  | .rowLock record, _ => some (.quarantineRow record.id)
  | .lock movement _, _ => some (aggregateLock hashtext movement.ids)
  | _, _ => none

/-! ### Statements -/

def quarantineNotFoundError (organizationId quarantineId : String) : InventoryError :=
  ⟨.error, "Quarantine record '" ++ quarantineId ++ "' not found for organization '" ++
    organizationId ++ "'"⟩

def findQuarantine (organizationId quarantineId : String) :
    Except InventoryError QuarantineRow := do
  let organization ← readUuid organizationId
  let id ← readUuid quarantineId
  match db.quarantine.find? fun row => row.organizationId == organization && row.id == id with
  | none => throw (quarantineNotFoundError organizationId quarantineId)
  | some record => return record

def revalidate (organizationId quarantineId : String) (pre locked : QuarantineRow) :
    Except InventoryError KdsOrderProducedEvent :=
  if locked.organizationId.write ≠ organizationId ∨ locked.branchId ≠ pre.branchId ∨
      locked.sourceEventId ≠ pre.sourceEventId then
    .error ⟨.error, "Integrity error: Locked quarantine record '" ++ quarantineId ++
      "' identity mismatch (pre-read: org=" ++ organizationId ++ ", branch=" ++ pre.branchId.write ++
      ", source=" ++ pre.sourceEventId ++ "; locked: org=" ++ locked.organizationId.write ++
      ", branch=" ++ locked.branchId.write ++ ", source=" ++ locked.sourceEventId ++ ")"⟩
  else .ok locked.payload

def findOrder (event : KdsOrderProducedEvent) : Except InventoryError (Option InventoryResult) := do
  let organization ← readUuid event.organizacionId
  let branch ← readUuid event.sucursalId
  let warehouse ← readUuid event.centroConsumoId
  let existing := (db.ledger.filter fun row =>
    row.key.organizationId == organization && row.key.branchId == branch &&
      row.key.warehouseId == warehouse && row.movementType == .consumoKds &&
      row.referenceEventId == event.ordenId).insertionSort fun a b =>
        a.movementSequenceNumber ≤ b.movementSequenceNumber
  if existing.isEmpty then return none
  else
    match db.outbox.find? fun row => row.organizationId == organization &&
        row.branchId == branch && row.aggregateId == event.ordenId with
    | none => throw ⟨.error, "Integrity error: KDS order '" ++ event.ordenId ++
        "' has applied stock movements in tenant '" ++ event.organizacionId ++
        "' but missing required 'InventarioDescontadoPorReceta' outbox event"⟩
    | some queued => return some (.duplicateAccepted event.ordenId existing
        (existing.filterMap fun row => negativeStock row.key.texts row) queued.id)

def findWaste (command : RegisterWasteCommand) :
    Except InventoryError (Option InventoryResult) := do
  let organization ← readUuid command.organizationId
  match db.waste.find? fun row => row.key.organizationId == organization &&
      row.commandId == command.commandId with
  | none => return none
  | some record =>
    match db.ledger.find? fun row => row.key.organizationId == organization &&
        row.id == record.stockLedgerId with
    | none => throw ⟨.typeError, "Cannot read properties of undefined (reading 'balance_after')"⟩
    | some row => return some (.waste row record (negativeStock row.key.texts row))

def wasteMovement (command : RegisterWasteCommand) : Except InventoryError StockMovement := do
  let quantity ← parseDecimal12x4 command.quantity
  return ⟨command.ids, .merma, command.commandId, quantity⟩

def depletionMovement (event : KdsOrderProducedEvent) (item : IngredientQuantity) : StockMovement :=
  ⟨event.ids item.ingredientId, .consumoKds, event.ordenId, item.grossScaled⟩

def priceMovement (movement : StockMovement) (found : Option String) :
    Except InventoryError PricedMovement :=
  match found with
  | none => .error ⟨.error, "Ingredient '" ++ movement.ids.ingredientId ++
      "' not found in organization '" ++ movement.ids.organizationId ++ "'"⟩
  | some text => do
    let unitCost ← parseDecimal12x4 text
    let quantityDelta ← negateScale4 movement.quantity
    return { movement with
      quantityDelta := quantityDelta, unitCost := unitCost
      totalCost := multiplyScale4 movement.quantity unitCost }

theorem priceMovement_eq_ok {movement : StockMovement} {found : Option String}
    {priced : PricedMovement} (accepted : priceMovement movement found = .ok priced) :
    priced.toStockMovement = movement ∧ priced.quantityDelta = -movement.quantity := by
  unfold priceMovement at accepted
  split at accepted
  next => simp at accepted
  next =>
    simp only [negateScale4, bind_eq_ok, pure_eq_ok] at accepted
    obtain ⟨unitCost, -, delta, negated, rfl⟩ := accepted
    exact ⟨rfl, checkRange_eq_ok negated⟩

/-- `getDerivedPriorBalanceWithClient`: the sum arrives as a text. -/
def getDerivedPriorBalance (ids : StockIds) : Except InventoryError Int := do
  let key ← ids.key
  parseDecimal12x4 (scaledBigIntToDecimalString (balanceOf (db.ledgerOf key)))

/-- The row to insert, with the next sequence number; every amount must fit its column. -/
def ledgerRow (id : Uuid) (movement : PricedMovement) (priorBalance : Int) :
    Except InventoryError StockLedgerRow := do
  let key ← movement.ids.key
  let balanceAfter ← addScale4 priorBalance movement.quantityDelta
  let _ ← formatDecimal12x4 balanceAfter
  let _ ← formatDecimal12x4 movement.quantityDelta
  let _ ← formatDecimal12x4 movement.unitCost
  let _ ← formatDecimal12x4 movement.totalCost
  return {
    id := id, key := key, movementType := movement.movementType
    referenceEventId := movement.referenceEventId, quantityDelta := movement.quantityDelta
    unitCost := movement.unitCost, totalCost := movement.totalCost, balanceAfter := balanceAfter
    movementSequenceNumber := nextSequence (db.ledgerOf key) }

def wasteRecord (id : Uuid) (row : StockLedgerRow) (command : RegisterWasteCommand) : WasteRow :=
  { id := id, key := row.key, stockLedgerId := row.id, commandId := command.commandId
    reasonCode := trimmed command.reasonCode
    photoAttachmentUrl := trimmed command.photoAttachmentUrl, notes := command.notes
    actorId := command.actorId }

def quarantineReason : String := "MODIFIER_RECIPE_RESOLUTION_PENDING"

def quarantineRow (id : Uuid) (event : KdsOrderProducedEvent) :
    Except InventoryError QuarantineRow := do
  let organization ← readUuid event.organizacionId
  let branch ← readUuid event.sucursalId
  let row : QuarantineRow :=
    ⟨id, organization, branch, event.ordenId, event, quarantineReason, .pending, none⟩
  return { row with id := (db.quarantine.find? row.sameSource).elim id QuarantineRow.id }

def depletionEvent (id : Uuid) (depletion : Depletion) :
    Except InventoryError DepletionEventRow := do
  let organization ← readUuid depletion.event.organizacionId
  let branch ← readUuid depletion.event.sucursalId
  return ⟨id, organization, branch, depletion.event.ordenId, depletion.movements, depletion.alerts⟩

/-! ### Steps -/

def InventoryProgram.goTo (stage : InventoryStage) : InventoryProgram :=
  { program with stage := stage }

def InventoryProgram.afterDepletion (result : InventoryResult) : InventoryProgram :=
  match program.task, result with
  | .replay .., .applied .. => program.goTo (.markReplayed result)
  | .replay .., .duplicateAccepted .. => program.goTo (.markReplayed result)
  | _, _ => program.goTo (.commit result)

def Purpose.next (purpose : Purpose) (ids : StockIds) (row : StockLedgerRow) : InventoryStage :=
  match purpose with
  | .waste command => .record row command
  | .depletion loop => .ingredients { loop with
      movements := loop.movements ++ [row]
      alerts := loop.alerts ++ (negativeStock ids row).toList }

abbrev InventoryEffect := Effect InventoryWrite InventoryLock InventoryProgram

def InventoryProgram.statement (oracle : InventoryOracle) (db : InventoryDb)
    (program : InventoryProgram) : Except InventoryError InventoryEffect :=
  match program.stage with
  | .start =>
    match program.task with
    | .waste command =>
      return .acquires (aggregateLock hashtext command.ids) (program.goTo (.checkWaste command))
    | .kds event _ =>
      return .acquires (sourceEventLock hashtext event.organizacionId event.sucursalId event.ordenId)
        (program.goTo (.checkOrder event))
    | .replay organizationId quarantineId _ => do
      let record ← findQuarantine db organizationId quarantineId
      return .reads (program.goTo (.sourceLock record))
  | .sourceLock record =>
    match program.task with
    | .replay organizationId _ _ =>
      return .acquires
        (sourceEventLock hashtext organizationId record.branchId.write record.sourceEventId)
        (program.goTo (.rowLock record))
    | _ => return .reads program
  | .rowLock record =>
    match program.task with
    | .replay organizationId quarantineId _ => do
      let locked ← findQuarantine db organizationId quarantineId
      let event ← revalidate organizationId quarantineId record locked
      return .acquires (.quarantineRow record.id) (program.goTo (.checkOrder event))
    | _ => return .reads program
  | .checkOrder event => do
    match ← findOrder db event with
    | some result => return .reads (program.afterDepletion result)
    | none => return .reads (program.goTo (.resolve event))
  | .resolve event => do
    match ← resolveDepletion oracle.recipes program.task.resolver event with
    | .quarantined =>
      let row ← quarantineRow db oracle.id event
      return .writes (.quarantine row)
        (program.afterDepletion (.quarantined event.ordenId row.id quarantineReason))
    | .ingredients aggregated =>
      return .reads (program.goTo (.ingredients ⟨event, aggregated, [], []⟩))
  | .ingredients depletion =>
    match depletion.remaining with
    | [] => return .reads (program.goTo (.enqueue depletion))
    | item :: rest =>
      if item.grossScaled = 0 then
        return .reads (program.goTo (.ingredients { depletion with remaining := rest }))
      else
        return .reads (program.goTo
          (.lock (depletionMovement depletion.event item) { depletion with remaining := rest }))
  | .lock movement depletion =>
    return .acquires (aggregateLock hashtext movement.ids)
      (program.goTo (.cost movement (.depletion depletion)))
  | .checkWaste command => do
    match ← findWaste db command with
    | some result => return .reads (program.goTo (.commit result))
    | none =>
      let movement ← wasteMovement command
      return .reads (program.goTo (.cost movement (.waste command)))
  | .cost movement purpose => do
    let priced ← priceMovement movement oracle.cost
    return .reads (program.goTo (.balance priced purpose))
  | .balance movement purpose => do
    let priorBalance ← getDerivedPriorBalance db movement.ids
    return .reads (program.goTo (.sequence movement priorBalance purpose))
  | .sequence movement priorBalance purpose => do
    let row ← ledgerRow db oracle.id movement priorBalance
    return .reads (program.goTo (.insert movement.ids row purpose))
  | .insert ids row purpose =>
    return .writes (.ledger row) (program.goTo (purpose.next ids row))
  | .record row command =>
    let record := wasteRecord oracle.id row command
    return .writes (.waste record)
      (program.goTo (.commit (.waste row record (negativeStock command.ids row))))
  | .enqueue depletion => do
    let event ← depletionEvent oracle.id depletion
    return .writes (.outbox event) (program.afterDepletion
      (.applied depletion.event.ordenId depletion.movements depletion.alerts event.id))
  | .markReplayed result =>
    match program.task with
    | .replay organizationId quarantineId _ => do
      let organization ← readUuid organizationId
      let id ← readUuid quarantineId
      return .writes (.replayed organization id oracle.now) (program.goTo (.commit result))
    | _ => return .reads program
  | .commit result => return .commits (program.goTo (.done (.ok result)))
  | .done _ => return .reads program

def InventoryProgram.act (oracle : InventoryOracle) (db : InventoryDb)
    (program : InventoryProgram) : InventoryEffect :=
  match program.stage, oracle.interruption with
  | .done _, _ => .reads program
  | _, some error => .aborts (program.goTo (.done (.error error)))
  | _, none =>
    match program.statement hashtext oracle db with
    | .error error => .aborts (program.goTo (.done (.error error)))
    | .ok effect => effect

def InventoryActs (effect : InventoryEffect) : Prop :=
  ∃ oracle, program.act hashtext oracle db = effect

abbrev InventorySession := Session InventoryWrite InventoryLock InventoryProgram

abbrev InventoryMove : InventoryDb → InventorySession → InventoryDb → InventorySession → Prop :=
  Move InventoryDb.apply InventoryDb.Consistent (InventoryActs hashtext)

end Statements

end TridentPos.Inventory
