import Mathlib.Init

/-!
# UUIDs as PostgreSQL reads and writes them

A `uuid` column takes 32 hexadecimal digits of either case, with an optional hyphen after each
group of four and optional braces around them, and returns one canonical text.
-/
namespace TridentPos.Library

abbrev Uuid := BitVec 128

namespace Uuid

def hexDigit (c : Char) : Option Nat :=
  if '0' ≤ c ∧ c ≤ '9' then some (c.toNat - '0'.toNat)
  else if 'a' ≤ c ∧ c ≤ 'f' then some (c.toNat - 'a'.toNat + 10)
  else if 'A' ≤ c ∧ c ≤ 'F' then some (c.toNat - 'A'.toNat + 10)
  else none

def skipHyphen : List Char → List Char
  | '-' :: rest => rest
  | rest => rest

def readBytes (value : Nat) : Nat → List Char → Option (Nat × List Char)
  | 0, rest => some (value, rest)
  | n + 1, high :: low :: rest =>
    match hexDigit high, hexDigit low with
    | some high, some low =>
      -- a hyphen may follow every second byte but the last
      let rest := if n % 2 = 0 ∧ 0 < n then skipHyphen rest else rest
      readBytes (value * 256 + high * 16 + low) n rest
    | _, _ => none
  | _ + 1, _ => none

def read (text : String) : Option Uuid :=
  match text.toList with
  | '{' :: chars =>
    match readBytes 0 16 chars with
    | some (value, ['}']) => some (BitVec.ofNat 128 value)
    | _ => none
  | chars =>
    match readBytes 0 16 chars with
    | some (value, []) => some (BitVec.ofNat 128 value)
    | _ => none

def writeDigits : Nat → Nat → List Char
  | 0, _ => []
  | n + 1, value => writeDigits n (value / 16) ++ [Nat.digitChar (value % 16)]

def write (uuid : Uuid) : String :=
  let digits := writeDigits 32 uuid.toNat
  String.ofList (digits.take 8 ++ '-' :: (digits.drop 8).take 4 ++ '-' :: (digits.drop 12).take 4 ++
    '-' :: (digits.drop 16).take 4 ++ '-' :: digits.drop 20)

example : (read "A0EEBC99-9C0B-4EF8-BB6D-6BB9BD380A11").map write =
    some "a0eebc99-9c0b-4ef8-bb6d-6bb9bd380a11" := by decide +kernel

example : read "A0EEBC99-9C0B-4EF8-BB6D-6BB9BD380A11" =
    read "\x7ba0eebc999c0b4ef8bb6d6bb9bd380a11\x7d" := by decide +kernel

end Uuid

end TridentPos.Library
