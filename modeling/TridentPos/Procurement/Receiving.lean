import TridentPos.Core.Money
import TridentPos.Core.Text
import TridentPos.Library.Fallible
import Mathlib.Algebra.Order.Ring.Int

/-!
# Receiving goods

`numerics.ts`, `receiving.ts` and `price-variance-policy.ts` of the procurement package. Amounts
stay decimal texts; every operation reads its arguments and writes its result.
-/
namespace TridentPos.Procurement

open Core Library Fallible

inductive ProcurementErrorKind where
  | error
  | rangeError
  | invalidPurchaseOrder
  | purchaseOrderCancelled
  | overReceiptNotAuthorized
  | priceVariancePolicyRequired
  | priceVarianceSupervisorAuthorizationRequired
  | priceVarianceRejected
  | invalidReceiptItem
  | receiptIdempotencyConflict
  | receiptOutboxIntegrity
deriving DecidableEq

structure ProcurementError where
  kind : ProcurementErrorKind
  message : String

def invalidReceiptItemError (message : String) : ProcurementError :=
  ⟨.invalidReceiptItem, "Invalid receipt item: " ++ message⟩

def invalidPurchaseOrderError (message : String) : ProcurementError :=
  ⟨.invalidPurchaseOrder, "Invalid purchase order: " ++ message⟩

/-! ### Numerics -/

def zeroScale4 : String := "0.0000"

def scale4 (text : String) : Except ProcurementError Int :=
  (decimalStringToScaledBigInt text).mapError fun message => ⟨.error, message⟩

def addScale4 (a b : String) : Except ProcurementError String := do
  let scaledA ← scale4 a
  let scaledB ← scale4 b
  return scaledBigIntToDecimalString (scaledA + scaledB)

def subScale4 (a b : String) : Except ProcurementError String := do
  let scaledA ← scale4 a
  let scaledB ← scale4 b
  return scaledBigIntToDecimalString (scaledA - scaledB)

def mulScale4 (quantity unitPrice : String) : Except ProcurementError String := do
  let quantity ← scale4 quantity
  let price ← scale4 unitPrice
  return scaledBigIntToDecimalString (calculateLineSubtotal price quantity)

def cmpScale4 (a b : String) : Except ProcurementError Ordering := do
  let scaledA ← scale4 a
  let scaledB ← scale4 b
  return compare scaledA scaledB

/-! ### Receiving -/

def calculateReceiptItemLineAmount (receivedQuantity acceptedUnitCost : String) :
    Except ProcurementError String := do
  if (← cmpScale4 receivedQuantity zeroScale4) ≠ .gt then
    throw (invalidReceiptItemError
      ("Received quantity must be strictly positive (> 0.0000), received " ++ receivedQuantity))
  if (← cmpScale4 acceptedUnitCost zeroScale4) = .lt then
    throw (invalidReceiptItemError
      ("Accepted unit cost must be non-negative (>= 0.0000), received " ++ acceptedUnitCost))
  mulScale4 receivedQuantity acceptedUnitCost

def calculateReceiptTotalAmount (lineAmounts : List String) : Except ProcurementError String :=
  lineAmounts.foldlM addScale4 zeroScale4

def evaluateOverReceipt (ingredientId orderedQuantity previouslyReceivedQuantity
    currentReceivedQuantity : String) : Except ProcurementError Unit := do
  let totalAttempted ← addScale4 previouslyReceivedQuantity currentReceivedQuantity
  if (← cmpScale4 totalAttempted orderedQuantity) = .gt then
    throw ⟨.overReceiptNotAuthorized, "OVER_RECEIPT_NOT_AUTHORIZED: Ingredient '" ++ ingredientId ++
      "' ordered " ++ orderedQuantity ++ ", previously received " ++ previouslyReceivedQuantity ++
      ", attempted receipt " ++ currentReceivedQuantity ++ " (total " ++ totalAttempted ++
      " exceeds ordered)"⟩

structure CumulativeQuantity where
  (cumulativeReceivedQuantity remainingQuantity : String)
  isFullyReceived : Bool

def deriveCumulativeReceivingQuantities (orderedQuantity previouslyReceivedQuantity
    currentReceivedQuantity : String) : Except ProcurementError CumulativeQuantity := do
  let cumulative ← addScale4 previouslyReceivedQuantity currentReceivedQuantity
  let remaining ← subScale4 orderedQuantity cumulative
  let order ← cmpScale4 cumulative orderedQuantity
  return ⟨cumulative, remaining, order != .lt⟩

inductive PurchaseOrderStatus where
  | draft
  | sent
  | partiallyReceived
  | received
  | cancelled
deriving DecidableEq

def determinePostReceiptPoStatus (allItemsFullyReceived : Bool) : PurchaseOrderStatus :=
  if allItemsFullyReceived then .received else .partiallyReceived

/-! ### Price variance -/

inductive PriceVarianceDisposition where
  | noAuthorizationRequired
  | supervisorAuthorizationRequired
  | rejected
deriving DecidableEq

structure PriceVarianceContext where
  (organizationId branchId supplierId ingredientId orderedUnitCost receivedUnitCost : String)
  supervisorAuthorizationToken : Option String

abbrev PriceVariancePolicy := PriceVarianceContext → PriceVarianceDisposition

def varianceText (context : PriceVarianceContext) : String :=
  "ingredient '" ++ context.ingredientId ++ "' (ordered: " ++ context.orderedUnitCost ++
    ", received: " ++ context.receivedUnitCost ++ ")"

def evaluatePriceVariance (context : PriceVarianceContext) (policy : Option PriceVariancePolicy) :
    Except ProcurementError Unit := do
  if (← cmpScale4 context.orderedUnitCost context.receivedUnitCost) = .eq then return ()
  else
    match policy with
    | none => throw ⟨.priceVariancePolicyRequired,
        "PRICE_VARIANCE_POLICY_REQUIRED: Unit cost mismatch for " ++ varianceText context ++
        " and no price variance policy was supplied"⟩
    | some policy =>
      match policy context with
      | .rejected => throw ⟨.priceVarianceRejected,
          "PRICE_VARIANCE_REJECTED: Price variance policy rejected unit cost " ++
          context.receivedUnitCost ++ " (ordered: " ++ context.orderedUnitCost ++
          ") for ingredient '" ++ context.ingredientId ++ "'"⟩
      | .supervisorAuthorizationRequired =>
        if (context.supervisorAuthorizationToken.map isBlank).getD true then
          throw ⟨.priceVarianceSupervisorAuthorizationRequired,
            "SUPERVISOR_AUTHORIZATION_REQUIRED: Unit cost variance for " ++ varianceText context ++
            " requires supervisor authorization token"⟩
      | .noAuthorizationRequired => return ()

/-! ### Reading texts back -/

theorem scale4_text {scaled value : Int}
    (parsed : scale4 (scaledBigIntToDecimalString scaled) = .ok value) : value = scaled := by
  rw [scale4, mapError_eq_ok] at parsed
  exact decimalStringToScaledBigInt_text parsed

theorem cmpScale4_text {a b : Int} {order : Ordering}
    (compared : cmpScale4 (scaledBigIntToDecimalString a) (scaledBigIntToDecimalString b) =
      .ok order) : order = compare a b := by
  simp only [cmpScale4, bind_eq_ok, pure_eq_ok] at compared
  obtain ⟨scaledA, readA, scaledB, readB, rfl⟩ := compared
  rw [scale4_text readA, scale4_text readB]

theorem evaluateOverReceipt_eq_ok {ingredientId current : String} {ordered previous : Int}
    (passed : evaluateOverReceipt ingredientId (scaledBigIntToDecimalString ordered)
      (scaledBigIntToDecimalString previous) current = .ok ()) :
    ∃ received, scale4 current = .ok received ∧ previous + received ≤ ordered := by
  simp only [evaluateOverReceipt, addScale4, bind_eq_ok, pure_eq_ok] at passed
  obtain ⟨total, ⟨before, readBefore, received, readReceived, rfl⟩, order, compared, passed⟩ :=
    passed
  refine ⟨received, readReceived, ?_⟩
  rw [scale4_text readBefore] at compared
  have isOrder := cmpScale4_text compared
  obtain ⟨within, passed⟩ := refused_eq_ok.mp passed
  rw [isOrder, compare_gt_iff_gt] at within
  omega

end TridentPos.Procurement
