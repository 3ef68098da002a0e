import TridentPos.Library.Fallible
import TridentPos.Core.Text
import TridentPos.Pos.Types
import Mathlib.Algebra.BigOperators.Group.List.Basic
import Mathlib.Tactic.Linarith

/-!
# Dining policies

`policies.ts`: which items may be cancelled, and how a bill is split into sub-accounts, by items
or by ratio. The last partition takes the residual of the truncated shares.
-/
namespace TridentPos.Pos

open Core Library

/-! ### Cancellation -/

structure CancellationContext where
  kitchenStatus : String
  hasSupervisorAuthorization : Bool
  reason : String

structure CancellationResult where
  allowed : Bool
  reason : Option String
  requiresWasteRecord : Bool

def unstartedStatuses : List String := ["SIN_INICIAR", "PENDIENTE", "RECIBIDO", "ORDENADO"]

def inProgressStatuses : List String :=
  ["EN_PREPARACION", "EN_COCINA", "PREPARADO", "LISTO", "ENTREGADO"]

/-- `KdsStateBasedCancellationPolicy.canCancelItem`; it looks at the context only. -/
def canCancelItem (context : CancellationContext) : CancellationResult :=
  let status := toUpperCase context.kitchenStatus
  if isBlank context.reason then
    ⟨false, some "Cancellation reason is mandatory", false⟩
  else if status ∈ unstartedStatuses then ⟨true, none, false⟩
  else if status ∈ inProgressStatuses then
    if !context.hasSupervisorAuthorization then
      ⟨false, some ("Cancellation of in-preparation/ready/delivered item requires " ++
        "supervisor authorization"), false⟩
    else ⟨true, none, true⟩
  else if !context.hasSupervisorAuthorization then
    ⟨false, some ("Cancellation disallowed for kitchen status '" ++ status ++
      "' without supervisor authorization"), false⟩
  else ⟨true, none, true⟩

/-! ### Transfers -/

structure TransferValidationContext where
  operatorUserId : String
  targetWaiterUserId : Option String
  targetWaiterPinProvided : Bool
  reason : Option String

structure TransferValidationResult where
  allowed : Bool
  reason : Option String

/-- `ReceivingWaiterPinTransferValidationRule.validateTransfer`. A transfer to the same table is
allowed when it names another waiter; a waiter that is not named equals none. -/
def validateTransfer (sourceMesa targetMesa : Mesa) (cuenta : Cuenta)
    (context : TransferValidationContext) : TransferValidationResult :=
  if cuenta.status ≠ .abierta ∧ cuenta.status ≠ .impresa then
    ⟨false, some ("Cannot transfer cuenta in status '" ++ cuenta.status.text ++ "'")⟩
  else if sourceMesa.id = targetMesa.id ∧ context.targetWaiterUserId.isSome ∧
      context.targetWaiterUserId = cuenta.currentWaiterUserId then
    ⟨false, some "Source and target table/waiter are identical"⟩
  else if sourceMesa.id ≠ targetMesa.id ∧ targetMesa.status ≠ .disponible then
    ⟨false, some ("Target table '" ++ targetMesa.tableNumber ++
      "' is not available (current status: " ++ targetMesa.status.text ++ ")")⟩
  else if !context.targetWaiterPinProvided then
    ⟨false, some "Transfer requires target waiter PIN confirmation"⟩
  else ⟨true, none⟩

/-! ### Splitting a bill -/

structure SplitPartitionPlan where
  partitionId : String
  itemIds : Option (List String)
  ratioScale4 : Option Int
deriving DecidableEq

structure SplitShare where
  (subtotal taxTotal discountsTotal tipsTotal totalAmount : Int)

def SplitShare.zero : SplitShare := ⟨0, 0, 0, 0, 0⟩

def SplitShare.add (a b : SplitShare) : SplitShare :=
  ⟨a.subtotal + b.subtotal, a.taxTotal + b.taxTotal, a.discountsTotal + b.discountsTotal,
    a.tipsTotal + b.tipsTotal, a.totalAmount + b.totalAmount⟩

def shareOf (cuenta : Cuenta) : SplitShare :=
  ⟨cuenta.subtotal, cuenta.taxTotal, cuenta.discountsTotal, cuenta.tipsTotal, cuenta.totalAmount⟩

def SplitShare.residual (whole running : SplitShare) : SplitShare :=
  ⟨whole.subtotal - running.subtotal, whole.taxTotal - running.taxTotal,
    whole.discountsTotal - running.discountsTotal, whole.tipsTotal - running.tipsTotal,
    whole.totalAmount - running.totalAmount⟩

def SplitShare.prorated (whole : SplitShare) (ratio totalRatio : Int) : SplitShare :=
  ⟨(whole.subtotal * ratio).tdiv totalRatio, (whole.taxTotal * ratio).tdiv totalRatio,
    (whole.discountsTotal * ratio).tdiv totalRatio, (whole.tipsTotal * ratio).tdiv totalRatio,
    (whole.totalAmount * ratio).tdiv totalRatio⟩

variable (original : Cuenta) (partitions : List SplitPartitionPlan)

def subCuenta (partitionId : String) (index : Nat) (share : SplitShare)
    (items : List CuentaItem) (now : Nat) : Cuenta :=
  { id := partitionId, folioNumber := none, epochId := original.epochId, mesaId := original.mesaId
    accountType := original.accountType, status := .abierta, subtotal := share.subtotal
    taxTotal := share.taxTotal, discountsTotal := share.discountsTotal, tipsTotal := share.tipsTotal
    totalAmount := share.totalAmount, openedByUserId := original.openedByUserId
    currentWaiterUserId := original.currentWaiterUserId, guestCount := 1, openedAt := now
    printedAt := none, closedAt := none, parentCuentaId := some original.id
    splitSequence := some (index + 1), version := 1, updatedAt := now, items := items
    modificadores := modifiersOf original.modificadores items }

def ratioOf (plan : SplitPartitionPlan) : Int := plan.ratioScale4.getD 10000

def ratioLoop (original : Cuenta) (totalRatio : Int) (now : Nat) :
    List SplitPartitionPlan → Nat → SplitShare → List Cuenta
  | [], _, _ => []
  | [plan], index, running =>
    [subCuenta original plan.partitionId index ((shareOf original).residual running) [] now]
  | plan :: next :: rest, index, running =>
    let share := (shareOf original).prorated (ratioOf plan) totalRatio
    subCuenta original plan.partitionId index share [] now ::
      ratioLoop original totalRatio now (next :: rest) (index + 1) (running.add share)

def splitByRatio (now : Nat) : Except DomainError (List Cuenta) :=
  let totalRatio := (partitions.map ratioOf).sum
  if totalRatio ≤ 0 then
    .error ⟨"Total split ratio must be greater than zero", "INVALID_SPLIT_RATIO", 400⟩
  else .ok (ratioLoop original totalRatio now partitions 0 SplitShare.zero)

/-- The set of the item ids the partitions name, each at most once. -/
def assignItems : List String → List String → Except DomainError (List String)
  | [], assigned => .ok assigned
  | id :: ids, assigned =>
    if id ∈ assigned then
      .error ⟨"Item '" ++ id ++ "' assigned to multiple partitions", "DUPLICATE_SPLIT_ITEM", 400⟩
    else assignItems ids (assigned ++ [id])

def activeItems (items : List CuentaItem) : List CuentaItem :=
  items.filter fun item => item.status != .cancelado

def partItems (active : List CuentaItem) (plan : SplitPartitionPlan) : List CuentaItem :=
  (plan.itemIds.getD []).filterMap fun id => active.reverse.find? fun item => item.id == id

def itemsShare (items : List CuentaItem) (tips : Int) : SplitShare :=
  let subtotal := (items.map CuentaItem.subtotal).sum
  let tax := (items.map CuentaItem.taxAmountApplied).sum
  let discounts := (items.map CuentaItem.discountAmountApplied).sum
  ⟨subtotal, tax, discounts, tips, subtotal - discounts + tax + tips⟩

def proratedTips (totalSubtotal partSubtotal runningTips : Int) (isLast : Bool) : Int :=
  if totalSubtotal > 0 then
    if isLast then original.tipsTotal - runningTips
    else (original.tipsTotal * partSubtotal).tdiv totalSubtotal
  else 0

def itemsLoop (original : Cuenta) (active : List CuentaItem) (totalSubtotal : Int) (now : Nat) :
    List SplitPartitionPlan → Nat → Int → List Cuenta
  | [], _, _ => []
  | plan :: rest, index, runningTips =>
    let items := partItems active plan
    let tips := proratedTips original totalSubtotal (items.map CuentaItem.subtotal).sum runningTips
      rest.isEmpty
    subCuenta original plan.partitionId index (itemsShare items tips) items now ::
      itemsLoop original active totalSubtotal now rest (index + 1) (runningTips + tips)

def splitByItems (now : Nat) : Except DomainError (List Cuenta) := do
  let active := activeItems original.items
  let assigned ← assignItems (partitions.flatMap fun plan => plan.itemIds.getD []) []
  if assigned.length ≠ active.length then
    throw ⟨"All active items must be assigned to exactly one partition for item-based split",
      "INCOMPLETE_ITEM_SPLIT", 400⟩
  else
    return itemsLoop original active (active.map CuentaItem.subtotal).sum now partitions 0 0

def prorateSplit (now : Nat) : Except DomainError (List Cuenta) :=
  if partitions.length < 2 then
    .error ⟨"Split requires at least 2 partitions", "INVALID_SPLIT_PARTITIONS", 400⟩
  else if partitions.any fun plan => !(plan.itemIds.getD []).isEmpty then
    splitByItems original partitions now
  else splitByRatio original partitions now

end TridentPos.Pos
