import Mathlib.Data.List.Basic
import Mathlib.Tactic.IntervalCases

/-!
# JSON text of string arrays

`JSON.stringify` on strings and on arrays of strings, over the characters of the
text. The escape of a character can be read back from the front of any text, so a
quoted string is delimited by its own closing quote and the array text determines
its elements.
-/
namespace TridentPos.Library.JsonText

open List

def hexDigit (n : Nat) : Char :=
  if n < 10 then Char.ofNat (48 + n) else Char.ofNat (87 + n)

def hexValue (c : Char) : Nat :=
  if c.toNat < 58 then c.toNat - 48 else c.toNat - 87

/-- `QuoteJSONString`: the two-character escapes first, then `\u00xx` for the
remaining control characters, and every other character as itself. -/
def escapeChar (c : Char) : List Char :=
  if c = '"' then ['\\', '"']
  else if c = '\\' then ['\\', '\\']
  else if c.toNat = 8 then ['\\', 'b']
  else if c.toNat = 9 then ['\\', 't']
  else if c.toNat = 10 then ['\\', 'n']
  else if c.toNat = 12 then ['\\', 'f']
  else if c.toNat = 13 then ['\\', 'r']
  else if c.toNat < 32 then ['\\', 'u', '0', '0', hexDigit (c.toNat / 16), hexDigit (c.toNat % 16)]
  else [c]

def quoteChars (cs : List Char) : List Char := '"' :: (cs.flatMap escapeChar ++ ['"'])

def arrayTail : List String → List Char
  | [] => [']']
  | [s] => quoteChars s.toList ++ [']']
  | s :: rest => quoteChars s.toList ++ ',' :: arrayTail rest

/-- `JSON.stringify(xs)` for an array of strings. -/
def stringifyArray (xs : List String) : String := String.ofList ('[' :: arrayTail xs)

/-- Reads one escaped character back from the front of a text. -/
def unescape : List Char → Option (Char × List Char)
  | '\\' :: '"' :: rest => some ('"', rest)
  | '\\' :: '\\' :: rest => some ('\\', rest)
  | '\\' :: 'b' :: rest => some (Char.ofNat 8, rest)
  | '\\' :: 't' :: rest => some (Char.ofNat 9, rest)
  | '\\' :: 'n' :: rest => some (Char.ofNat 10, rest)
  | '\\' :: 'f' :: rest => some (Char.ofNat 12, rest)
  | '\\' :: 'r' :: rest => some (Char.ofNat 13, rest)
  | '\\' :: 'u' :: '0' :: '0' :: high :: low :: rest =>
    some (Char.ofNat (16 * hexValue high + hexValue low), rest)
  | '\\' :: _ => none
  | c :: rest => some (c, rest)
  | [] => none

private theorem hexValue_hexDigit (n : Nat) (small : n < 16) : hexValue (hexDigit n) = n := by
  interval_cases n <;> decide

private theorem unescape_plain (c : Char) (rest : List Char) (plain : c ≠ '\\') :
    unescape (c :: rest) = some (c, rest) := by
  unfold unescape
  split <;> simp_all

theorem unescape_escapeChar (c : Char) (rest : List Char) :
    unescape (escapeChar c ++ rest) = some (c, rest) := by
  have code (n : Nat) (same : c.toNat = n) : Char.ofNat n = c := by
    rw [← same]; exact Char.ofNat_toNat c
  unfold escapeChar
  split
  next quote => simp [unescape, quote]
  split
  next backslash => simp [unescape, backslash]
  next notBackslash =>
    split
    next same => simpa [unescape] using code 8 same
    split
    next same => simpa [unescape] using code 9 same
    split
    next same => simpa [unescape] using code 10 same
    split
    next same => simpa [unescape] using code 12 same
    split
    next same => simpa [unescape] using code 13 same
    split
    next control =>
      -- the two hexadecimal digits of a control code spell the code itself
      have high : hexValue (hexDigit (c.toNat / 16)) = c.toNat / 16 :=
        hexValue_hexDigit _ (by omega)
      have low : hexValue (hexDigit (c.toNat % 16)) = c.toNat % 16 := hexValue_hexDigit _ (by omega)
      have value : 16 * (c.toNat / 16) + c.toNat % 16 = c.toNat := by omega
      simp [unescape, high, low, value, code c.toNat rfl]
    next => exact unescape_plain c rest notBackslash

theorem escapeChar_ne_quote (c : Char) (xs ys : List Char) : escapeChar c ++ xs ≠ '"' :: ys := by
  intro same
  have read := unescape_escapeChar c xs
  rw [same, unescape_plain '"' ys (by decide)] at read
  simp only [Option.some.injEq, Prod.mk.injEq] at read
  obtain ⟨rfl, rfl⟩ := read
  simp [escapeChar] at same

theorem quoteChars_append_inj (cs ds xs ys : List Char)
    (same : quoteChars cs ++ xs = quoteChars ds ++ ys) : cs = ds ∧ xs = ys := by
  simp only [quoteChars, cons_append, List.cons.injEq, true_and, append_assoc,
    nil_append] at same
  induction cs generalizing ds with
  | nil =>
    cases ds with
    | nil => simpa using same
    | cons d ds =>
      simp only [flatMap_nil, nil_append, flatMap_cons, append_assoc] at same
      exact absurd same.symm (escapeChar_ne_quote d _ _)
  | cons c cs ih =>
    cases ds with
    | nil =>
      simp only [flatMap_nil, nil_append, flatMap_cons, append_assoc] at same
      exact absurd same (escapeChar_ne_quote c _ _)
    | cons d ds =>
      simp only [flatMap_cons, append_assoc] at same
      have left := unescape_escapeChar c (cs.flatMap escapeChar ++ '"' :: xs)
      rw [same, unescape_escapeChar] at left
      simp only [Option.some.injEq, Prod.mk.injEq] at left
      obtain ⟨heads, tails⟩ := left
      obtain ⟨rest, ends⟩ := ih ds tails.symm
      exact ⟨by rw [heads, rest], ends⟩

theorem arrayTail_inj (xs ys : List String) (lengths : xs.length = ys.length)
    (same : arrayTail xs = arrayTail ys) : xs = ys := by
  induction xs generalizing ys with
  | nil => exact (eq_nil_of_length_eq_zero lengths.symm).symm
  | cons x xs ih =>
    cases ys with
    | nil => simp at lengths
    | cons y ys =>
      have tails : xs.length = ys.length := by simpa using lengths
      cases xs with
      | nil =>
        have empty : ys = [] := eq_nil_of_length_eq_zero tails.symm
        subst empty
        have heads := (quoteChars_append_inj x.toList y.toList [']'] [']'] same).1
        rw [String.toList_inj.mp heads]
      | cons x' xs =>
        cases ys with
        | nil => simp at tails
        | cons y' ys =>
          obtain ⟨heads, rest⟩ := quoteChars_append_inj x.toList y.toList _ _ same
          rw [String.toList_inj.mp heads, ih (y' :: ys) tails (List.cons.inj rest).2]

theorem stringifyArray_inj (xs ys : List String) (lengths : xs.length = ys.length)
    (same : stringifyArray xs = stringifyArray ys) : xs = ys := by
  apply arrayTail_inj xs ys lengths
  have chars := congrArg String.toList same
  simpa [stringifyArray] using chars

example : stringifyArray ["a\"b", "c\n"] = "[\"a\\\"b\",\"c\\n\"]" := by decide

end TridentPos.Library.JsonText
