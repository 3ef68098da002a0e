import TridentPos.Core.Money
import TridentPos.Core.Text
import TridentPos.Library.Fallible
import TridentPos.Library.Utf16
import Mathlib.Data.String.Basic

/-!
# Inventory domain

`numerics.ts` and `kardex-domain.ts`: quantities and costs are integers at scale 4 within the
range of `DECIMAL(12,4)`, a waste command is checked before its transaction begins, and the
ingredients of an order are added up and sorted by their ids.
-/
namespace TridentPos.Inventory

open Core Library

inductive InventoryErrorKind where
  | rangeError
  | typeError
  | error
  | recipeNotFound
  | cycleDetected
  | invalidRecipeItem
  | zeroDivisor
  | invalidWasteCommand
  | invalidQuantityDelta
deriving DecidableEq

structure InventoryError where
  kind : InventoryErrorKind
  message : String
deriving DecidableEq

/-! ### Numerics -/

def rangeError (message : String) : InventoryError := ⟨.rangeError, message⟩

def inRange (scaled : Int) : Bool := minScale4 ≤ scaled && scaled ≤ maxScale4

def parseDecimal12x4 (input : String) : Except InventoryError Int :=
  (decimalStringToScaledBigInt (trimmed input)).mapError rangeError

def formatDecimal12x4 (scaled : Int) : Except InventoryError String :=
  if inRange scaled then .ok (scaledBigIntToDecimalString scaled)
  else .error (rangeError ("Scaled value " ++ toString scaled ++ " exceeds DECIMAL(12,4) range [" ++
    toString minScale4 ++ ", " ++ toString maxScale4 ++ "]"))

def multiplyScale4 (a b : Int) : Int := roundQuotient (a * b) scaleFactor

def divideScale4 (a b : Int) : Except InventoryError Int :=
  if b = 0 then .error (rangeError "Division by zero in divideScale4")
  else .ok (roundQuotient (a * scaleFactor) b)

theorem divideScale4_eq_ok {a b value : Int} (divided : divideScale4 a b = .ok value) :
    value = roundQuotient (a * scaleFactor) b := by
  unfold divideScale4 at divided
  split at divided
  next => simp at divided
  next => exact (Except.ok.inj divided).symm

def checkRange (result : Int) : Except InventoryError Int :=
  if inRange result then .ok result
  else .error (rangeError ("Result " ++ toString result ++ " exceeds DECIMAL(12,4) range"))

def addScale4 (a b : Int) : Except InventoryError Int := checkRange (a + b)

def negateScale4 (a : Int) : Except InventoryError Int := checkRange (-a)

theorem checkRange_eq_ok {result value : Int} (checked : checkRange result = .ok value) :
    value = result := by
  unfold checkRange at checked
  split at checked
  next => exact (Except.ok.inj checked).symm
  next => simp at checked

theorem trimmed_scaledBigIntToDecimalString (scaled : Int) :
    trimmed (scaledBigIntToDecimalString scaled) = scaledBigIntToDecimalString scaled := by
  have digit : ∀ n, ∀ c ∈ Nat.toDigits 10 n, isTrimmed c = false := by
    intro n c member
    have isDigit := Nat.isDigit_of_mem_toDigits (by omega) (by omega) member
    simp only [Char.isDigit, Bool.and_eq_true, decide_eq_true_eq] at isDigit
    have low : 48 ≤ c.toNat := isDigit.1
    have high : c.toNat ≤ 57 := isDigit.2
    simp only [isTrimmed, Bool.or_eq_false_iff, Bool.and_eq_false_iff, decide_eq_false_iff_not,
      beq_eq_false_iff_ne]
    omega
  apply trimmed_eq_self
  intro c member
  simp only [scaledBigIntToDecimalString, unsignedDecimal, padStart, String.toList_ofList,
    List.mem_append, List.mem_cons, List.mem_replicate] at member
  rcases member with sign | whole | rfl | ⟨-, rfl⟩ | fraction
  · split at sign
    · obtain rfl : c = '-' := by simpa using sign
      decide
    · simp at sign
  · exact digit _ c whole
  · decide
  · decide
  · exact digit _ c fraction

theorem parseDecimal12x4_text (scaled value : Int)
    (parsed : parseDecimal12x4 (scaledBigIntToDecimalString scaled) = .ok value) :
    value = scaled := by
  rw [parseDecimal12x4, trimmed_scaledBigIntToDecimalString, Fallible.mapError_eq_ok] at parsed
  exact decimalStringToScaledBigInt_text parsed

/-! ### Waste commands -/

structure RegisterWasteCommand where
  (organizationId branchId warehouseId ingredientId quantity reasonCode : String)
  (photoAttachmentUrl commandId : String)
  (notes actorId : Option String)

def requireText (text message : String) : Except InventoryError Unit :=
  if isBlank text then .error ⟨.invalidWasteCommand, message⟩ else .ok ()

def validateWasteCommand (command : RegisterWasteCommand) : Except InventoryError Unit := do
  requireText command.commandId "commandId is mandatory and cannot be blank"
  requireText command.organizationId "organizationId is mandatory"
  requireText command.branchId "branchId is mandatory"
  requireText command.warehouseId "warehouseId is mandatory"
  requireText command.ingredientId "ingredientId is mandatory"
  requireText command.reasonCode "reasonCode is mandatory and cannot be blank"
  requireText command.photoAttachmentUrl "photoAttachmentUrl is mandatory and cannot be blank"
  let quantity ← parseDecimal12x4 command.quantity
  if quantity ≤ 0 then
    throw ⟨.invalidQuantityDelta, "Waste quantity must be strictly positive (scale-4), got '" ++
      command.quantity ++ "'"⟩

/-! ### Ingredients of an order -/

structure IngredientQuantity where
  ingredientId : String
  grossScaled : Int
deriving DecidableEq

def addQuantity (map : List IngredientQuantity) (item : IngredientQuantity) :
    Except InventoryError (List IngredientQuantity) := do
  let current := (map.find? fun entry => entry.ingredientId == item.ingredientId).elim 0
    IngredientQuantity.grossScaled
  let total ← addScale4 current item.grossScaled
  return map.filter (fun entry => entry.ingredientId != item.ingredientId) ++
    [⟨item.ingredientId, total⟩]

def aggregateIngredientQuantities (items : List IngredientQuantity) :
    Except InventoryError (List IngredientQuantity) := do
  let map ← items.foldlM addQuantity []
  return map.insertionSort fun a b => Utf16.Le a.ingredientId b.ingredientId

end TridentPos.Inventory
