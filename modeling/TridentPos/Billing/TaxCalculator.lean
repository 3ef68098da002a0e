import TridentPos.Core.Money
import TridentPos.Library.Fallible
import Mathlib.Algebra.Order.BigOperators.Group.List
import Mathlib.Algebra.Order.Ring.Abs
import Mathlib.Data.List.Induction
import Mathlib.Tactic.Ring

/-!
# Taxes of an invoice

`numerics.ts` and `tax-calculator.ts`. With an inclusive scheme the net amount is backed out of the
price and the tax is what remains, while every line of the breakdown is rounded on its own.
-/
namespace TridentPos.Billing

open Core Library Fallible List

/-! ### Scale-4 arithmetic on texts -/

def assertValidBillingScale4 (val : String) : Except String Unit :=
  (decimalStringToScaledBigInt val).map fun _ => ()

/-- Both texts are read, and the result is written. -/
def billingScale4 (operation : Int → Int → Int) (a b : String) : Except String String := do
  let bigA ← decimalStringToScaledBigInt a
  let bigB ← decimalStringToScaledBigInt b
  return scaledBigIntToDecimalString (operation bigA bigB)

def addBillingScale4 : String → String → Except String String := billingScale4 fun a b => a + b

def subBillingScale4 : String → String → Except String String := billingScale4 fun a b => a - b

def mulBillingScale4 : String → String → Except String String :=
  billingScale4 fun amount rate => roundQuotient (amount * rate) scaleFactor

def divBillingScale4 (amount divisor : String) : Except String String := do
  let bigAmount ← decimalStringToScaledBigInt amount
  let bigDivisor ← decimalStringToScaledBigInt divisor
  if bigDivisor = 0 then throw "Division by zero in billing scale-4 arithmetic"
  return scaledBigIntToDecimalString (roundQuotient (bigAmount * scaleFactor) bigDivisor)

/-! ### The calculator -/

inductive TaxType where
  | iva | ieps | isr | retencionIva | retencionIsr | propinaLegal | localTax
deriving DecidableEq

structure TaxScheme where
  (code name rate : String)
  taxType : TaxType
  isInclusive : Bool

structure TaxPart where
  (code name rate : String)
  taxType : TaxType
  amount : String
deriving DecidableEq

structure ItemTaxCalculation where
  (subtotal taxAmount totalAmount : String)
  taxBreakdown : List TaxPart
deriving DecidableEq

def taxPart (base : String) (scheme : TaxScheme) : Except String TaxPart := do
  let amount ← mulBillingScale4 base scheme.rate
  return ⟨scheme.code, scheme.name, scheme.rate, scheme.taxType, amount⟩

def sumRates : String → List TaxScheme → Except String String
  | totalRate, [] => return totalRate
  | totalRate, scheme :: rest => do
    assertValidBillingScale4 scheme.rate
    sumRates (← addBillingScale4 totalRate scheme.rate) rest

/-- The loop of the exclusive mode: the running tax and the breakdown. -/
def addTaxes (base : String) : String → List TaxScheme → Except String (String × List TaxPart)
  | totalTax, [] => return (totalTax, [])
  | totalTax, scheme :: rest => do
    assertValidBillingScale4 scheme.rate
    let part ← taxPart base scheme
    let (total, parts) ← addTaxes base (← addBillingScale4 totalTax part.amount) rest
    return (total, part :: parts)

def calculateItemTaxes (unitPrice quantity : String) (taxSchemes : List TaxScheme) :
    Except String ItemTaxCalculation := do
  assertValidBillingScale4 unitPrice
  assertValidBillingScale4 quantity
  let rawLineAmount ← mulBillingScale4 unitPrice quantity
  if taxSchemes.isEmpty then return ⟨rawLineAmount, "0.0000", rawLineAmount, []⟩
  else if taxSchemes.any TaxScheme.isInclusive then
    let totalRate ← sumRates "0.0000" taxSchemes
    let divisor ← addBillingScale4 "1.0000" totalRate
    let subtotal ← divBillingScale4 rawLineAmount divisor
    let totalTax ← subBillingScale4 rawLineAmount subtotal
    let breakdown ← taxSchemes.mapM (taxPart subtotal)
    return ⟨subtotal, totalTax, rawLineAmount, breakdown⟩
  else
    let (totalTax, breakdown) ← addTaxes rawLineAmount "0.0000" taxSchemes
    let totalAmount ← addBillingScale4 rawLineAmount totalTax
    return ⟨rawLineAmount, totalTax, totalAmount, breakdown⟩

structure TaxedItem where
  (unitPrice quantity : String)
  taxSchemes : List TaxScheme

structure InvoiceTaxes where
  (subtotal taxAmount totalAmount : String)

def TaxedItem.taxes (item : TaxedItem) : Except String ItemTaxCalculation :=
  calculateItemTaxes item.unitPrice item.quantity item.taxSchemes

def addItem (totals : InvoiceTaxes) (item : TaxedItem) : Except String InvoiceTaxes := do
  let line ← item.taxes
  let subtotal ← addBillingScale4 totals.subtotal line.subtotal
  let taxAmount ← addBillingScale4 totals.taxAmount line.taxAmount
  let totalAmount ← addBillingScale4 totals.totalAmount line.totalAmount
  return ⟨subtotal, taxAmount, totalAmount⟩

def amountOf (text : String) : Int := (decimalValue text).getD 0

def Fits (amount : Int) : Prop := minScale4 ≤ amount ∧ amount ≤ maxScale4

variable {schemes : List TaxScheme}

/-- What `a` is above the nearest multiple of `b`, of two such the one further from zero. -/
def remainder (a b : Int) : Int :=
  if 2 * |a.tmod b| < b then a.tmod b else a.tmod b - a.sign * b

section Remainders

variable (product : Int) (rates : List Int)

variable {product rates} (nonneg : 0 ≤ rates.sum)
include nonneg

end Remainders

/-! ### The amounts of an item -/

def TaxedItem.product (item : TaxedItem) : Int := amountOf item.unitPrice * amountOf item.quantity

def TaxedItem.amount (field : ItemTaxCalculation → String) (item : TaxedItem) : Int :=
  match item.taxes with
  | .ok line => amountOf (field line)
  | .error _ => 0

variable (items : List TaxedItem)

variable {items}

end TridentPos.Billing
