import TridentPos.Core.SyncContracts
import Mathlib.Data.Nat.Digits.Defs

/-!
# Folio contracts

The vocabulary of `folio-contracts.ts`: folio types, lease statuses, block sizes, and epochs,
which are numbers in the text form `ep_<n>`.
-/
namespace TridentPos.Core

inductive FolioType where
  | ticket
  | corteX
  | corteZ
  | factura
deriving DecidableEq

inductive CloudFolioLeaseStatus where
  | allocated
  | active
  | exhausted
  | revoked
  | abandonedContingencyRange
  | reconciled
deriving DecidableEq

def CloudFolioLeaseStatus.text : CloudFolioLeaseStatus → String
  | .allocated => "ALLOCATED"
  | .active => "ACTIVE"
  | .exhausted => "EXHAUSTED"
  | .revoked => "REVOKED"
  | .abandonedContingencyRange => "ABANDONED_CONTINGENCY_RANGE"
  | .reconciled => "RECONCILED"

inductive LocalFolioLeaseStatus where
  | active
  | exhausted
  | revoked
deriving DecidableEq

def FolioType.text : FolioType → String
  | .ticket => "TICKET"
  | .corteX => "CORTE_X"
  | .corteZ => "CORTE_Z"
  | .factura => "FACTURA"

def defaultBlockSize : Nat := 500

def minBlockSize : Nat := 10

def maxBlockSize : Nat := 5000

def greenfieldInitialRangeStart : Nat := 1

/-! ### Epochs -/

/-- The digits `^ep_([1-9]\d*)$` captures. -/
def epochDigits (epochId : String) : Option (List Char) :=
  match epochId.toList with
  | 'e' :: 'p' :: '_' :: first :: rest =>
    if first.isDigit && first != '0' && rest.all Char.isDigit then some (first :: rest) else none
  | _ => none

def isValidEpochId (epochId : String) : Bool := (epochDigits epochId).isSome

def parseEpochNumber (epochId : String) : Except String Nat :=
  match epochDigits epochId with
  | none => .error ("Malformed epochId '" ++ epochId ++
      "'. Must match format 'ep_<positive_integer>' (e.g. 'ep_1').")
  | some digits =>
    let num := Nat.ofDigitChars 10 digits 0
    if num > maxSafeInteger ∨ num = 0 then
      .error ("Invalid epoch number parsed from '" ++ epochId ++ "'. Must be a positive integer.")
    else .ok num

def epochText (generationNumber : Nat) : String :=
  String.ofList ('e' :: 'p' :: '_' :: Nat.toDigits 10 generationNumber)

def formatEpochId (generationNumber : Nat) : Except String String :=
  if generationNumber > maxSafeInteger ∨ generationNumber = 0 then
    .error ("Cannot format invalid epoch generation number: " ++ toString generationNumber ++
      ". Must be a positive integer.")
  else .ok (epochText generationNumber)

/-- Negative, zero or positive as the first epoch is older, the same or newer. -/
def compareEpochs (a b : String) : Except String Int := do
  let numA ← parseEpochNumber a
  let numB ← parseEpochNumber b
  return (numA : Int) - numB

theorem toDigits_head {n : Nat} (positive : 0 < n) :
    ∃ first rest, Nat.toDigits 10 n = first :: rest ∧ first ≠ '0' := by
  induction n using Nat.strong_induction_on with
  | _ n ih =>
    by_cases small : n < 10
    · refine ⟨Nat.digitChar n, [], Nat.toDigits_of_lt_base small, ?_⟩
      interval_cases n <;> decide
    · obtain ⟨first, rest, digits, nonzero⟩ := ih (n / 10) (by omega) (by omega)
      refine ⟨first, rest ++ [Nat.digitChar (n % 10)], ?_, nonzero⟩
      rw [Nat.toDigits_of_base_le (by omega) (by omega), digits, List.cons_append]

theorem epochDigits_epochText {n : Nat} (positive : 0 < n) :
    epochDigits (epochText n) = some (Nat.toDigits 10 n) := by
  obtain ⟨first, rest, digits, nonzero⟩ := toDigits_head positive
  have allDigits (c : Char) (member : c ∈ first :: rest) : c.isDigit :=
    Nat.isDigit_of_mem_toDigits (b := 10) (n := n) (by omega) (by omega) (digits ▸ member)
  have firstDigit := allDigits first List.mem_cons_self
  have restDigits : rest.all Char.isDigit :=
    List.all_eq_true.mpr fun c member => allDigits c (List.mem_cons_of_mem _ member)
  simp [epochDigits, epochText, digits, firstDigit, restDigits, nonzero]

theorem parseEpochNumber_formatEpochId (n : Nat) (epochId : String)
    (formatted : formatEpochId n = .ok epochId) : parseEpochNumber epochId = .ok n := by
  unfold formatEpochId at formatted
  split at formatted
  next => simp at formatted
  next valid =>
    obtain rfl := Except.ok.inj formatted
    have positive : 0 < n := by omega
    simp only [parseEpochNumber, epochDigits_epochText positive, Nat.ofDigitChars_ten_toDigits,
      if_neg valid]

theorem compareEpochs_of_parse {a b : String} {numA numB : Nat}
    (parsedA : parseEpochNumber a = .ok numA) (parsedB : parseEpochNumber b = .ok numB) :
    compareEpochs a b = .ok ((numA : Int) - numB) := by
  simp only [compareEpochs, parsedA, parsedB]
  rfl

example : compareEpochs "ep_10" "ep_2" = .ok 8 := by decide

end TridentPos.Core
