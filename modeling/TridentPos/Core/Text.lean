import Mathlib.Data.List.Basic

/-!
# Trimmed texts and texts in one case

`trim`, `toUpperCase` and `toLowerCase` of `String.prototype`. The characters outside ASCII whose
other case is in ASCII are all listed here; any other one is left as it is, and the texts the
packages compare with are ASCII.
-/
namespace TridentPos.Core

/-- The characters `String.prototype.trim` removes. -/
def isTrimmed (c : Char) : Bool :=
  let n := c.toNat
  (9 ≤ n && n ≤ 13) || n == 32 || n == 160 || n == 0x1680 || (0x2000 ≤ n && n ≤ 0x200a) ||
    n == 0x2028 || n == 0x2029 || n == 0x202f || n == 0x205f || n == 0x3000 || n == 0xfeff

def isBlank (text : String) : Bool := text.toList.all isTrimmed

def trimmed (text : String) : String :=
  String.ofList ((text.toList.dropWhile isTrimmed).reverse.dropWhile isTrimmed).reverse

def upperCase : Char → List Char
  | '\u00df' => ['S', 'S']
  | '\u0131' => ['I']
  | '\u017f' => ['S']
  | '\ufb00' => ['F', 'F']
  | '\ufb01' => ['F', 'I']
  | '\ufb02' => ['F', 'L']
  | '\ufb03' => ['F', 'F', 'I']
  | '\ufb04' => ['F', 'F', 'L']
  | '\ufb05' | '\ufb06' => ['S', 'T']
  | c => [c.toUpper]

def toUpperCase (text : String) : String := String.ofList (text.toList.flatMap upperCase)

def lowerCase : Char → Char
  | '\u212a' => 'k'
  | c => c.toLower

def toLowerCase (text : String) : String := String.ofList (text.toList.map lowerCase)

theorem dropWhile_eq_self {chars : List Char} (kept : ∀ c ∈ chars, isTrimmed c = false) :
    chars.dropWhile isTrimmed = chars := by
  cases chars with
  | nil => rfl
  | cons c rest => simp [kept c List.mem_cons_self]

theorem trimmed_eq_self (text : String) (kept : ∀ c ∈ text.toList, isTrimmed c = false) :
    trimmed text = text := by
  have reversed : ∀ c ∈ text.toList.reverse, isTrimmed c = false := by simpa using kept
  rw [trimmed, dropWhile_eq_self kept, dropWhile_eq_self reversed]
  simp

end TridentPos.Core
