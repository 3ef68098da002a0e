import TridentPos.Core.Money
import TridentPos.Core.FolioContracts
import Mathlib.Algebra.Order.Field.Basic
import Mathlib.Tactic.FieldSimp

/-!
# Exactness of scale-4 money

`roundDiv` against the exact quotient, and the texts of amounts against the rational numbers
they denote.
-/
namespace TridentPos.Core

open List

/-! ### Rounding -/

/-- `q` is an integer nearest to `x`, and of two such the one further from zero. -/
structure NearestAway (x : ℚ) (q : Int) : Prop where
  near : |x - q| ≤ 1 / 2
  tie : |x - q| = 1 / 2 → |x| < |(q : ℚ)|

theorem roundQuotient_mul (a b : Int) : roundQuotient a b * b =
    (if a < 0 then -1 else 1) * (|b| * ((|a| + |b| / 2) / |b|)) := by
  by_cases negative : a < 0 <;> by_cases below : b < 0 <;>
    simp [roundQuotient, negative, below, abs_of_neg, abs_of_nonneg, not_lt.mp, mul_comm]

section Divisor

variable (a : Int) {b : Int} (divisor : b ≠ 0)

include divisor

theorem roundQuotient_neg : roundQuotient (-a) b = -roundQuotient a b := by
  apply mul_right_cancel₀ divisor
  have nonzero := abs_pos.mpr divisor
  have half : |b| / 2 / |b| = 0 := Int.ediv_eq_zero_of_lt (by omega) (by omega)
  rw [neg_mul, roundQuotient_mul, roundQuotient_mul, abs_neg]
  rcases lt_trichotomy a 0 with negative | rfl | positive
  · simp [negative, negative.not_gt]
  · simp [half]
  · simp [positive, positive.not_gt]

theorem roundQuotient_away : |2 * (roundQuotient a b * b - a)| ≤ |b| ∧
    (|2 * (roundQuotient a b * b - a)| = |b| → |a| < |roundQuotient a b * b|) := by
  have nonzero := abs_pos.mpr divisor
  have split := Int.mul_ediv_add_emod (|a| + |b| / 2) |b|
  have small := Int.emod_nonneg (|a| + |b| / 2) nonzero.ne'
  have below := Int.emod_lt_of_pos (|a| + |b| / 2) nonzero
  rw [roundQuotient_mul]
  -- with the signs gone, the product and the remainder are all that counts
  generalize |b| * ((|a| + |b| / 2) / |b|) = product at *
  generalize (|a| + |b| / 2) % |b| = remainder at *
  split <;> grind

theorem roundQuotient_nearest : NearestAway (a / b) (roundQuotient a b) := by
  obtain ⟨near, tie⟩ := roundQuotient_away a divisor
  have nonzero : (0 : ℚ) < |(b : ℚ)| := by simpa using divisor
  -- the bounds of the integers, divided by twice the divisor
  have distance : |(a / b : ℚ) - roundQuotient a b| =
      ((|2 * (roundQuotient a b * b - a)| : Int) : ℚ) / (2 * |(b : ℚ)|) := by
    have same : (a / b : ℚ) - roundQuotient a b =
        -((2 * (roundQuotient a b * b - a) : Int) : ℚ) / (2 * b) := by
      push_cast
      field_simp
      rw [neg_sub]
    rw [same, abs_div, abs_neg, abs_mul 2 (b : ℚ), abs_two, Int.cast_abs]
  constructor
  · rw [distance, div_le_iff₀ (by positivity)]
    have cast : ((|2 * (roundQuotient a b * b - a)| : Int) : ℚ) ≤ |(b : ℚ)| := by
      exact_mod_cast near
    linarith
  · intro half
    rw [distance, div_eq_iff (by positivity)] at half
    have cast : ((|2 * (roundQuotient a b * b - a)| : Int) : ℚ) = |(b : ℚ)| := by linarith
    rw [abs_div, div_lt_iff₀ nonzero, ← abs_mul]
    exact_mod_cast tie (by exact_mod_cast cast)

end Divisor

/-! ### Decimal texts -/

structure Numeral where
  negative : Bool
  whole : List Char
  fraction : List Char
  wholeDigits : whole.all Char.isDigit
  fractionDigits : fraction.all Char.isDigit

namespace Numeral

def text (d : Numeral) : String :=
  String.ofList ((if d.negative then ['-'] else []) ++ (d.whole ++ '.' :: d.fraction))

def value (d : Numeral) : ℚ :=
  (if d.negative then -1 else 1) *
    (Nat.ofDigitChars 10 d.whole 0 + Nat.ofDigitChars 10 d.fraction 0 / 10 ^ d.fraction.length)

structure Canonical (d : Numeral) : Prop where
  fourDecimals : d.fraction.length = 4
  wholePart : d.whole ≠ []
  leading : d.whole.head? = some '0' → d.whole = ['0']
  sign : d.negative → d.value < 0

theorem value_eq {d : Numeral} (abs : Nat) (four : d.fraction.length = 4)
    (digits : abs = Nat.ofDigitChars 10 d.whole 0 * 10000 + Nat.ofDigitChars 10 d.fraction 0) :
    d.value = (if d.negative then -abs else abs : Int) / 10000 := by
  rw [value, four, digits]
  split <;> push_cast <;> ring

end Numeral

theorem unsignedDecimalValue_eq_some {chars : List Char} {abs : Nat}
    (parsed : unsignedDecimalValue chars = some abs) (negative : Bool) :
    ∃ d : Numeral, d.negative = negative ∧ chars = d.whole ++ '.' :: d.fraction ∧
      d.value = (if negative then -abs else abs : Int) / 10000 := by
  unfold unsignedDecimalValue at parsed
  split at parsed
  next whole fraction front =>
    -- the text is cut at its first dot
    rw [span_eq_takeWhile_dropWhile, Prod.mk.injEq] at front
    split at parsed
    next valid =>
      simp only [Bool.and_eq_true, beq_iff_eq] at valid
      obtain ⟨⟨⟨_, wholeDigits⟩, four⟩, fractionDigits⟩ := valid
      have parts : chars = whole ++ '.' :: fraction := by
        rw [← front.1, ← front.2, takeWhile_append_dropWhile]
      exact ⟨⟨negative, whole, fraction, wholeDigits, fractionDigits⟩, rfl, parts,
        Numeral.value_eq abs four (Option.some.inj parsed).symm⟩
    next => simp at parsed
  next => simp at parsed

theorem decimalValue_eq_some {str : String} {scaled : Int}
    (parsed : decimalValue str = some scaled) :
    ∃ d : Numeral, d.text = str ∧ d.value = scaled / 10000 := by
  unfold decimalValue at parsed
  split at parsed
  next chars signed =>
    obtain ⟨abs, unsigned, rfl⟩ := Option.map_eq_some_iff.mp parsed
    obtain ⟨d, negative, rfl, value⟩ := unsignedDecimalValue_eq_some unsigned true
    refine ⟨d, ?_, value⟩
    rw [Numeral.text, if_pos negative, singleton_append, ← signed, String.ofList_toList]
  next chars _ =>
    obtain ⟨abs, unsigned, rfl⟩ := Option.map_eq_some_iff.mp parsed
    obtain ⟨d, positive, text, value⟩ := unsignedDecimalValue_eq_some unsigned false
    refine ⟨d, ?_, value⟩
    simp [Numeral.text, positive, ← text]

theorem toDigits_leading {n : Nat} (zero : (Nat.toDigits 10 n).head? = some '0') :
    Nat.toDigits 10 n = ['0'] := by
  rcases Nat.eq_zero_or_pos n with rfl | positive
  · rfl
  · obtain ⟨first, rest, digits, nonzero⟩ := toDigits_head positive
    rw [digits, head?_cons, Option.some.injEq] at zero
    exact absurd zero nonzero

theorem scaledBigIntToDecimalString_canonical (scaled : Int) :
    ∃ d : Numeral, d.text = scaledBigIntToDecimalString scaled ∧ d.Canonical ∧
      d.value = scaled / 10000 := by
  let d : Numeral := ⟨decide (scaled < 0), _, _, toDigits_isDigit (scaled.natAbs / 10000),
    padStart_isDigit (scaled.natAbs % 10000)⟩
  have four : d.fraction.length = 4 := length_padStart (by omega)
  have value : d.value = scaled / 10000 := by
    rw [Numeral.value_eq scaled.natAbs four]
    · congr 2
      simp only [d, decide_eq_true_eq]
      omega
    · simp only [d, ofDigitChars_padStart, Nat.ofDigitChars_ten_toDigits]
      omega
  have text : d.text = scaledBigIntToDecimalString scaled := by
    simp [d, Numeral.text, scaledBigIntToDecimalString, unsignedDecimal]
  refine ⟨d, text, ⟨four, Nat.toDigits_ne_nil, toDigits_leading, ?_⟩, value⟩
  intro negative
  have below : (scaled : ℚ) < 0 := by exact_mod_cast of_decide_eq_true negative
  rw [value]
  linarith

/-- Division rounds to the nearest integer, ties away from zero. An amount is read back from
its text exactly when it is in the range of `DECIMAL(12,4)`, and an accepted text is rewritten
as the canonical numeral of the same number. -/
theorem money_exact :
    (∀ a b : Int, b ≠ 0 → ∃ q, roundDiv a b = .ok q ∧ NearestAway (a / b) q ∧
      roundDiv (-a) b = .ok (-q)) ∧
    (∀ scaled, decimalStringToScaledBigInt (scaledBigIntToDecimalString scaled) =
      if minScale4 ≤ scaled ∧ scaled ≤ maxScale4 then .ok scaled
      else .error ("Value '" ++ scaledBigIntToDecimalString scaled ++ "' (" ++ toString scaled ++
        "n) exceeds canonical scale-4 range [-999999999999n, 999999999999n]")) ∧
    ∀ str scaled, decimalStringToScaledBigInt str = .ok scaled →
      ∃ read written : Numeral, read.text = str ∧
        written.text = scaledBigIntToDecimalString scaled ∧ written.Canonical ∧
        written.value = read.value := by
  refine ⟨?_, ?_, ?_⟩
  · intro a b divisor
    refine ⟨roundQuotient a b, if_neg divisor, roundQuotient_nearest a divisor, ?_⟩
    rw [roundDiv, if_neg divisor, roundQuotient_neg a divisor]
  · intro scaled
    -- the digits are always read back; only the range is checked after that
    rw [decimalStringToScaledBigInt, decimalValue_scaledBigIntToDecimalString]
    by_cases within : minScale4 ≤ scaled ∧ scaled ≤ maxScale4
    · rw [if_pos within]
      exact if_neg (by omega)
    · rw [if_neg within]
      exact if_pos (by omega)
  · intro str scaled parsed
    unfold decimalStringToScaledBigInt at parsed
    split at parsed
    next => simp at parsed
    next result accepted =>
      split at parsed
      next => simp at parsed
      next =>
        obtain rfl := Except.ok.inj parsed
        obtain ⟨read, readText, readValue⟩ := decimalValue_eq_some accepted
        obtain ⟨written, text, canonical, value⟩ := scaledBigIntToDecimalString_canonical result
        exact ⟨read, written, readText, text, canonical, value.trans readValue.symm⟩

theorem money_exact_negative_zero :
    roundDiv (-5) 2 = .ok (-3) ∧ ∃ read written : Numeral, read.text = "-0.0000" ∧
      written.text = "0.0000" ∧ written.Canonical ∧ written.value = read.value := by
  obtain ⟨q, rounded, _, negated⟩ := money_exact.1 5 2 (by decide)
  obtain rfl := Except.ok.inj rounded
  exact ⟨negated, money_exact.2.2 "-0.0000" 0 (by decide)⟩

/-- The text of an amount of thirteen digits is not read back. -/
theorem thirteen_digits_refused :
    decimalStringToScaledBigInt (scaledBigIntToDecimalString 1000000000000) =
      .error "Value '100000000.0000' (1000000000000n) exceeds canonical scale-4 range [-999999999999n, 999999999999n]" := by
  decide +kernel

end TridentPos.Core
