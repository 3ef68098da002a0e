import TridentPos.Core.Money
import TridentPos.Core.Text
import TridentPos.Library.Fallible
import Mathlib.Data.List.TakeWhile

/-!
# Scale-4 numerics of the CRM

`numerics.ts` of the CRM: amounts are read leniently from their texts and written with four
decimals. `bigint` is `Int`, and its division truncates.
-/
namespace TridentPos.Crm

open Core Library Fallible List

structure CrmError where
  (name message : String)
  deriving DecidableEq

def plainError (message : String) : CrmError := ⟨"Error", message⟩

/-! ### Reading -/

def digitValue (c : Char) : Nat :=
  if c.isDigit then c.toNat - '0'.toNat
  else if 'a' ≤ c.toLower ∧ c.toLower ≤ 'f' then c.toLower.toNat - 'a'.toNat + 10
  else 16

def readDigits (radix : Nat) (digits : List Char) : Option Int :=
  if digits.isEmpty ∨ digits.any fun c => radix ≤ digitValue c then none
  else some (digits.foldl (fun sofar c => radix * sofar + digitValue c) 0 : Nat)

/-- The value of a text without blanks around it, decimal or with the prefix of its radix. -/
def bigIntValue : List Char → Option Int
  | [] => some 0
  | '0' :: 'x' :: digits => readDigits 16 digits
  | '0' :: 'X' :: digits => readDigits 16 digits
  | '0' :: 'o' :: digits => readDigits 8 digits
  | '0' :: 'O' :: digits => readDigits 8 digits
  | '0' :: 'b' :: digits => readDigits 2 digits
  | '0' :: 'B' :: digits => readDigits 2 digits
  | '-' :: digits => (readDigits 10 digits).map (- ·)
  | '+' :: digits => readDigits 10 digits
  | digits => readDigits 10 digits

def bigInt (text : List Char) : Except CrmError Int :=
  match bigIntValue (trimmed (String.ofList text)).toList with
  | some value => .ok value
  | none => .error ⟨"SyntaxError", "Cannot convert " ++ String.ofList text ++ " to a BigInt"⟩

/-- What `toScale4BigInt` makes of a text without its sign. -/
def unsignedScale4 (clean : List Char) : Except CrmError Int := do
  -- the first two parts of `clean.split('.')`
  let part0 := clean.takeWhile (· != '.')
  let part1 := ((clean.dropWhile (· != '.')).drop 1).takeWhile (· != '.')
  let wholePart := if part0.isEmpty then ['0'] else part0
  let fracPart := (part1 ++ List.replicate (4 - part1.length) '0').take 4
  let wholeBig ← bigInt wholePart
  let fracBig ← bigInt fracPart
  return wholeBig * 10000 + fracBig

def toScale4BigInt (val : String) : Except CrmError Int :=
  match (trimmed val).toList with
  | '-' :: clean => (- ·) <$> unsignedScale4 clean
  | clean => unsignedScale4 clean

def fromScale4BigInt (units : Int) : String := scaledBigIntToDecimalString units

/-! ### Arithmetic -/

def addScale4 (a b : String) : Except CrmError String := do
  return fromScale4BigInt ((← toScale4BigInt a) + (← toScale4BigInt b))

def compareScale4 (a b : String) : Except CrmError Int := do
  return ((← toScale4BigInt a) - (← toScale4BigInt b)).sign

def isPositiveScale4 (a : String) : Except CrmError Bool := do
  return 0 < (← toScale4BigInt a)

def multiplyScale4 (amount factor : String) : Except CrmError String := do
  let aBig ← toScale4BigInt amount
  let fBig ← toScale4BigInt factor
  return fromScale4BigInt ((aBig * fBig).tdiv 10000)

def divideScale4 (amount divisor : String) : Except CrmError String := do
  let aBig ← toScale4BigInt amount
  let dBig ← toScale4BigInt divisor
  if dBig = 0 then throw (plainError "Division by zero in Scale-4 fixed point")
  return fromScale4BigInt ((aBig * 10000).tdiv dBig)

/-! ### Texts with four decimals -/

theorem toNat_of_isDigit {c : Char} (digit : c.isDigit) : 48 ≤ c.toNat ∧ c.toNat ≤ 57 := by
  simpa [Char.isDigit, UInt32.le_iff_toNat_le] using digit

theorem isTrimmed_of_isDigit {c : Char} (digit : c.isDigit) : isTrimmed c = false := by
  have range := toNat_of_isDigit digit
  simp [isTrimmed]
  omega

theorem readDigits_of_isDigit {digits : List Char} (written : digits ≠ [])
    (all : ∀ c ∈ digits, c.isDigit) :
    readDigits 10 digits = some (Nat.ofDigitChars 10 digits 0 : Int) := by
  have each : ∀ c ∈ digits, digitValue c = c.toNat - '0'.toNat := fun c member => by
    simp [digitValue, all c member]
  have small : ¬(digits.isEmpty ∨ digits.any fun c => 10 ≤ digitValue c) := by
    simp only [List.isEmpty_iff, written, List.any_eq_true, decide_eq_true_eq, false_or]
    rintro ⟨c, member, large⟩
    have range := toNat_of_isDigit (all c member)
    rw [each c member] at large
    simp at large
    omega
  rw [readDigits, if_neg small, Nat.ofDigitChars,
    foldl_ext _ _ 0 fun sofar c member => by rw [each c member]]

theorem bigInt_of_isDigit {digits : List Char} (written : digits ≠ [])
    (all : ∀ c ∈ digits, c.isDigit) :
    bigInt digits = .ok (Nat.ofDigitChars 10 digits 0 : Int) := by
  have kept : trimmed (String.ofList digits) = String.ofList digits :=
    trimmed_eq_self _ fun c member => isTrimmed_of_isDigit (all c (by simpa using member))
  have value : bigIntValue digits = some (Nat.ofDigitChars 10 digits 0 : Int) := by
    -- no sign and no prefix of a radix stands before digits
    rw [← readDigits_of_isDigit written all]
    unfold bigIntValue
    split <;> simp_all [Char.isDigit]
  simp [bigInt, kept, value]

theorem unsignedDecimalValue_eq_some {chars : List Char} {value : Nat}
    (read : unsignedDecimalValue chars = some value) :
    ∃ whole fraction : List Char, chars = whole ++ '.' :: fraction ∧ whole ≠ [] ∧
      (∀ c ∈ whole, c.isDigit) ∧ (∀ c ∈ fraction, c.isDigit) ∧
      fraction.length = 4 ∧
      value = Nat.ofDigitChars 10 whole 0 * 10000 + Nat.ofDigitChars 10 fraction 0 := by
  unfold unsignedDecimalValue at read
  split at read
  next whole fraction cut =>
    split at read
    next digits =>
      simp only [Bool.and_eq_true, Bool.not_eq_true', isEmpty_eq_false_iff, all_eq_true,
        beq_iff_eq] at digits
      rw [span_eq_takeWhile_dropWhile, Prod.mk.injEq] at cut
      have joined := takeWhile_append_dropWhile (p := (· != '.')) (l := chars)
      rw [cut.1, cut.2] at joined
      exact ⟨whole, fraction, joined.symm, digits.1.1.1, digits.1.1.2, digits.2, digits.1.2,
        (Option.some.inj read).symm⟩
    next => simp at read
  next => simp at read

theorem unsignedScale4_of_decimalValue {chars : List Char} {value : Nat}
    (read : unsignedDecimalValue chars = some value) : unsignedScale4 chars = .ok value := by
  obtain ⟨whole, fraction, rfl, written, digits, decimals, width, rfl⟩ :=
    unsignedDecimalValue_eq_some read
  have noDot : ∀ c : Char, c.isDigit → (c != '.') := by
    rintro c digit
    by_contra dot
    simp_all [Char.isDigit]
  have before : (whole ++ '.' :: fraction).takeWhile (· != '.') = whole := by
    rw [takeWhile_append_of_pos fun c member => noDot c (digits c member)]
    simp
  have after : (whole ++ '.' :: fraction).dropWhile (· != '.') = '.' :: fraction := by
    rw [dropWhile_append_of_pos fun c member => noDot c (digits c member)]
    simp
  have rest : fraction.takeWhile (· != '.') = fraction :=
    takeWhile_eq_self_iff.mpr fun c member => noDot c (decimals c member)
  have exact : fraction.take 4 = fraction := by rw [← width, take_length]
  have nonempty : fraction ≠ [] := by
    rintro rfl
    simp at width
  simp [unsignedScale4, before, after, rest, width, exact, written,
    bigInt_of_isDigit written digits, bigInt_of_isDigit nonempty decimals]

theorem isTrimmed_of_unsigned {chars : List Char} {value : Nat}
    (read : unsignedDecimalValue chars = some value) : ∀ c ∈ chars, isTrimmed c = false := by
  obtain ⟨whole, fraction, rfl, -, digits, decimals, -⟩ := unsignedDecimalValue_eq_some read
  intro c member
  rcases mem_append.mp member with first | second
  · exact isTrimmed_of_isDigit (digits c first)
  · rcases mem_cons.mp second with rfl | second
    · decide
    · exact isTrimmed_of_isDigit (decimals c second)

theorem toScale4BigInt_of_decimalValue {text : String} {value : Int}
    (read : decimalValue text = some value) : toScale4BigInt text = .ok value := by
  unfold decimalValue at read
  split at read <;> obtain ⟨magnitude, unsigned, rfl⟩ := Option.map_eq_some_iff.mp read
  next chars signed =>
    have kept : trimmed text = text := by
      apply trimmed_eq_self
      rw [signed]
      exact forall_mem_cons.mpr ⟨by decide, isTrimmed_of_unsigned unsigned⟩
    simp only [toScale4BigInt, kept, signed, unsignedScale4_of_decimalValue unsigned]
    rfl
  next noSign =>
    have kept := trimmed_eq_self text (isTrimmed_of_unsigned unsigned)
    unfold toScale4BigInt
    rw [kept]
    split
    next clean signed => exact absurd signed (noSign clean)
    next => exact unsignedScale4_of_decimalValue unsigned

theorem toScale4BigInt_fromScale4BigInt (units : Int) :
    toScale4BigInt (fromScale4BigInt units) = .ok units :=
  toScale4BigInt_of_decimalValue (decimalValue_scaledBigIntToDecimalString units)

end TridentPos.Crm
