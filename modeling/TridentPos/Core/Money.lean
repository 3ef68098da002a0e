import Mathlib.Data.List.TakeDrop

/-!
# Scale-4 money

`money.ts`: amounts are integers at scale 4, rounded half away from zero, and travel as
texts with exactly four decimals. `bigint` is `Int`.
-/
namespace TridentPos.Core

open List

def scaleFactor : Int := 10000

def minScale4 : Int := -999999999999

def maxScale4 : Int := 999999999999

/-! ### Rounding -/

/-- The quotient of `roundDiv` for a divisor other than zero. -/
def roundQuotient (a b : Int) : Int :=
  let sign : Int := if decide (a < 0) != decide (b < 0) then -1 else 1
  let absA : Int := if a < 0 then -a else a
  let absB : Int := if b < 0 then -b else b
  sign * ((absA + absB / 2) / absB)

def roundDiv (a b : Int) : Except String Int :=
  if b = 0 then .error "Division by zero" else .ok (roundQuotient a b)

def calculateLineSubtotal (unitPrice quantity : Int) : Int :=
  roundQuotient (unitPrice * quantity) scaleFactor

def calculateNetSubtotal (lineSubtotal discountAmount : Int) : Int := lineSubtotal - discountAmount

def calculateTaxAmount (netSubtotal taxRate : Int) : Int :=
  roundQuotient (netSubtotal * taxRate) scaleFactor

def calculateLineTotal (netSubtotal taxAmount : Int) : Int := netSubtotal + taxAmount

theorem roundQuotient_nonneg {a b : Int} (dividend : 0 ≤ a) (divisor : 0 < b) :
    0 ≤ roundQuotient a b := by
  have notA : ¬ a < 0 := by omega
  have notB : ¬ b < 0 := by omega
  simp only [roundQuotient, notA, notB, decide_false, bne_self_eq_false, Bool.false_eq_true,
    if_false, Int.one_mul]
  exact Int.ediv_nonneg (by omega) (by omega)

theorem roundQuotient_mono {a a' b : Int} (dividend : 0 ≤ a) (larger : a ≤ a') (divisor : 0 < b) :
    roundQuotient a b ≤ roundQuotient a' b := by
  have notA : ¬ a < 0 := by omega
  have notA' : ¬ a' < 0 := by omega
  have notB : ¬ b < 0 := by omega
  simp only [roundQuotient, notA, notA', notB, decide_false, bne_self_eq_false, Bool.false_eq_true,
    if_false, Int.one_mul]
  exact Int.ediv_le_ediv divisor (by omega)

/-- `fraction.toString().padStart(4, '0')`, over the characters of the text. -/
def padStart (width : Nat) (digits : List Char) : List Char :=
  List.replicate (width - digits.length) '0' ++ digits

def unsignedDecimal (abs : Nat) : List Char :=
  Nat.toDigits 10 (abs / 10000) ++ '.' :: padStart 4 (Nat.toDigits 10 (abs % 10000))

def scaledBigIntToDecimalString (scaled : Int) : String :=
  String.ofList ((if scaled < 0 then ['-'] else []) ++ unsignedDecimal scaled.natAbs)

/-- A text without sign that matches `\d+\.\d{4}`, and its value at scale 4. -/
def unsignedDecimalValue (chars : List Char) : Option Nat :=
  match chars.span (· != '.') with
  | (whole, '.' :: fraction) =>
    if !whole.isEmpty && whole.all Char.isDigit && fraction.length == 4 &&
        fraction.all Char.isDigit then
      some (Nat.ofDigitChars 10 whole 0 * 10000 + Nat.ofDigitChars 10 fraction 0)
    else none
  | _ => none

/-- A text that matches `^-?\d+\.\d{4}$`, and its value at scale 4. -/
def decimalValue (str : String) : Option Int :=
  match str.toList with
  | '-' :: chars => (unsignedDecimalValue chars).map fun value : Nat => -(value : Int)
  | chars => (unsignedDecimalValue chars).map fun value : Nat => (value : Int)

def decimalStringToScaledBigInt (str : String) : Except String Int :=
  match decimalValue str with
  | none => .error ("Invalid canonical decimal string format '" ++ str ++
      "'. Expected exact format: ^-?\\d+\\.\\d\x7b4\x7d$")
  | some result =>
    if result < minScale4 ∨ result > maxScale4 then
      .error ("Value '" ++ str ++ "' (" ++ toString result ++
        "n) exceeds canonical scale-4 range [-999999999999n, 999999999999n]")
    else .ok result

theorem ofDigitChars_padStart (width : Nat) (digits : List Char) :
    Nat.ofDigitChars 10 (padStart width digits) 0 = Nat.ofDigitChars 10 digits 0 := by
  simp [padStart, Nat.ofDigitChars_append, Nat.ofDigitChars_replicate_zero]

theorem toDigits_isDigit (n : Nat) : (Nat.toDigits 10 n).all Char.isDigit := by
  rw [all_eq_true]
  intro c member
  exact Nat.isDigit_of_mem_toDigits (by omega) (by omega) member

theorem padStart_isDigit (n : Nat) : (padStart 4 (Nat.toDigits 10 n)).all Char.isDigit := by
  simp [padStart, toDigits_isDigit, Char.isDigit]

theorem length_padStart {n : Nat} (small : n < 10000) :
    (padStart 4 (Nat.toDigits 10 n)).length = 4 := by
  have short : (Nat.toDigits 10 n).length ≤ 4 :=
    (Nat.length_toDigits_le_iff (by omega) (by omega)).mpr (by omega)
  simp only [padStart, length_append, length_replicate]
  omega

theorem unsignedDecimalValue_unsignedDecimal (abs : Nat) :
    unsignedDecimalValue (unsignedDecimal abs) = some abs := by
  have noDot : ∀ c ∈ Nat.toDigits 10 (abs / 10000), (c != '.') := by
    intro c member
    have digit := Nat.isDigit_of_mem_toDigits (by omega) (by omega) member
    by_contra dot
    have same : c = '.' := by simpa using dot
    subst same
    simp [Char.isDigit] at digit
  have front : (unsignedDecimal abs).span (· != '.') =
      (Nat.toDigits 10 (abs / 10000), '.' :: padStart 4 (Nat.toDigits 10 (abs % 10000))) := by
    rw [span_eq_takeWhile_dropWhile, unsignedDecimal,
      takeWhile_append_of_pos noDot, dropWhile_append_of_pos noDot]
    simp
  have width := length_padStart (show abs % 10000 < 10000 by omega)
  have wholeDigits : (Nat.toDigits 10 (abs / 10000)).isEmpty = false := by
    simp [Nat.toDigits_ne_nil]
  simp only [unsignedDecimalValue, front, width, padStart_isDigit, wholeDigits, toDigits_isDigit,
    ofDigitChars_padStart, Nat.ofDigitChars_ten_toDigits, Bool.not_false, Bool.and_self, beq_self_eq_true,
    if_true]
  congr 1
  omega

theorem decimalValue_scaledBigIntToDecimalString (scaled : Int) :
    decimalValue (scaledBigIntToDecimalString scaled) = some scaled := by
  unfold decimalValue scaledBigIntToDecimalString
  rw [String.toList_ofList]
  by_cases negative : scaled < 0
  · simp only [negative, if_true, singleton_append,
      unsignedDecimalValue_unsignedDecimal, Option.map_some]
    congr 1
    omega
  · -- the text starts with a digit, so it is read without a sign
    have noSign : ∀ chars, unsignedDecimal scaled.natAbs ≠ '-' :: chars := by
      intro chars same
      have first : (unsignedDecimal scaled.natAbs).head? = some '-' := by rw [same]; rfl
      have nonempty := Nat.toDigits_ne_nil (b := 10) (n := scaled.natAbs / 10000)
      obtain ⟨c, rest, digits⟩ := exists_cons_of_ne_nil nonempty
      have digit : c.isDigit := Nat.isDigit_of_mem_toDigits (b := 10)
        (n := scaled.natAbs / 10000) (by omega) (by omega) (by rw [digits]; exact mem_cons_self)
      simp only [unsignedDecimal, digits, cons_append, head?_cons,
        Option.some.injEq] at first
      subst first
      simp [Char.isDigit] at digit
    simp only [negative, if_false, nil_append, unsignedDecimalValue_unsignedDecimal,
      Option.map_some, Option.some.injEq]
    omega

example : scaledBigIntToDecimalString (-1234567) = "-123.4567" := by decide

theorem decimalStringToScaledBigInt_text {scaled value : Int}
    (parsed : decimalStringToScaledBigInt (scaledBigIntToDecimalString scaled) = .ok value) :
    value = scaled := by
  simp only [decimalStringToScaledBigInt, decimalValue_scaledBigIntToDecimalString] at parsed
  split at parsed
  next => simp at parsed
  next => exact (Except.ok.inj parsed).symm

end TridentPos.Core
