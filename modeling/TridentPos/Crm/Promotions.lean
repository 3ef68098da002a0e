import TridentPos.Crm.Numerics
import TridentPos.Library.Utf16
import Mathlib.Tactic.Ring

/-!
# Points earned and promotions

`calculatePointsEarned` and `evaluatePromotion` of `loyalty-engine.ts`.
-/
namespace TridentPos.Crm

open Core Library Fallible

inductive LoyaltyTier where
  | bronze | silver | gold | platinum
  deriving DecidableEq

def tierMultiplier : LoyaltyTier → String
  | .bronze => "1.0000"
  | .silver => "1.2500"
  | .gold => "1.5000"
  | .platinum => "2.0000"

def calculatePointsEarned (ticketNetTotal : String) (tier : LoyaltyTier)
    (ruleMultiplier : String := "1.0000") (pointsRate : String := "0.1000") :
    Except CrmError String := do
  if !(← isPositiveScale4 ticketNetTotal) then return "0.0000"
  let effectiveMultiplier ← multiplyScale4 (tierMultiplier tier) ruleMultiplier
  let basePoints ← multiplyScale4 ticketNetTotal pointsRate
  multiplyScale4 basePoints effectiveMultiplier

inductive PromotionType where
  | percentage | fixedAmount | twoForOne | birthday | pointsMultiplier
  deriving DecidableEq

/-- The fields `evaluatePromotion` reads. -/
structure Promotion where
  promoType : PromotionType
  (discountValue startDate endDate : String)
  isActive : Bool

/-- A date as `toISOString` and `getMonth` give it. -/
structure CheckDate where
  iso : String
  month : Nat

structure PromotionResult where
  applicable : Bool
  discountAmount : String
  reason : Option String := none

section Promotion

variable (promotion : Promotion) (customerBirthday : Option String) (checkDate : CheckDate)

/-- Why a promotion does not apply: the early returns of `evaluatePromotion`. -/
def refusal : Option String :=
  let checkIso := (Utf16.encode checkDate.iso).take 10
  let birthday := customerBirthday.getD ""
  if !promotion.isActive then some "Promoción inactiva"
  else if checkIso < (Utf16.encode promotion.startDate).take 10 ∨
      (Utf16.encode promotion.endDate).take 10 < checkIso then
    some "Fuera de vigencia"
  else if promotion.promoType ≠ .birthday then none
  else if birthday = "" then some "Cliente sin fecha de cumpleaños registrada"
  else if ((Utf16.encode birthday).drop 5).take 2 ≠
      (padStart 2 (Nat.toDigits 10 (checkDate.month + 1))).flatMap Utf16.units then
    some "No coincide el mes de cumpleaños"
  else none

def percentageOf (ticketTotal : String) : Except CrmError PromotionResult := do
  let rate ← divideScale4 promotion.discountValue "100.0000"
  return { applicable := true, discountAmount := ← multiplyScale4 ticketTotal rate }

def evaluatePromotion (ticketTotal : String) : Except CrmError PromotionResult := do
  if let some reason := refusal promotion customerBirthday checkDate then
    return { applicable := false, discountAmount := "0.0000", reason := some reason }
  match promotion.promoType with
  | .percentage => percentageOf promotion ticketTotal
  | .fixedAmount =>
    let discount := if 0 < (← compareScale4 ticketTotal promotion.discountValue) then
      promotion.discountValue else ticketTotal
    return { applicable := true, discountAmount := discount }
  | .birthday =>
    if (← compareScale4 promotion.discountValue "100.0000") ≤ 0 then
      percentageOf promotion ticketTotal
    else return { applicable := true, discountAmount := promotion.discountValue }
  | _ => return { applicable := true, discountAmount := "0.0000" }

end Promotion

/-! ### Points earned -/

theorem multiplyScale4_eq {amount factor : String} {a f : Nat}
    (readAmount : toScale4BigInt amount = .ok a) (readFactor : toScale4BigInt factor = .ok f) :
    multiplyScale4 amount factor = .ok (fromScale4BigInt (a * f / 10000 : Nat)) := by
  simp only [multiplyScale4, readAmount, readFactor, ok_bind]
  rfl

def pointsUnits (amount rate tier rule : Nat) : Nat :=
  amount * rate / 10000 * (tier * rule / 10000) / 10000

/-- Splitting an amount never earns more, and cutting never earns more than the exact product. -/
theorem pointsUnits_add_le (a b rate tier rule : Nat) :
    pointsUnits a rate tier rule + pointsUnits b rate tier rule ≤ pointsUnits (a + b) rate tier rule := by
  have base : a * rate / 10000 + b * rate / 10000 ≤ (a + b) * rate / 10000 := by
    rw [Nat.add_mul]
    exact Nat.div_add_div_le_add_div
  calc pointsUnits a rate tier rule + pointsUnits b rate tier rule
      ≤ (a * rate / 10000 * (tier * rule / 10000) + b * rate / 10000 * (tier * rule / 10000)) / 10000 :=
        Nat.div_add_div_le_add_div
    _ = (a * rate / 10000 + b * rate / 10000) * (tier * rule / 10000) / 10000 := by rw [Nat.add_mul]
    _ ≤ pointsUnits (a + b) rate tier rule := Nat.div_le_div_right (Nat.mul_le_mul_right _ base)

theorem pointsUnits_mono {a b : Nat} (le : a ≤ b) (rate tier rule : Nat) :
    pointsUnits a rate tier rule ≤ pointsUnits b rate tier rule := by
  obtain ⟨rest, rfl⟩ := Nat.exists_eq_add_of_le le
  have split := pointsUnits_add_le a rest rate tier rule
  omega

theorem pointsUnits_le (amount rate tier rule : Nat) :
    pointsUnits amount rate tier rule * 10000 ^ 3 ≤ amount * rate * (tier * rule) := by
  calc pointsUnits amount rate tier rule * 10000 ^ 3
      = pointsUnits amount rate tier rule * 10000 * (10000 * 10000) := by ring
    _ ≤ amount * rate / 10000 * (tier * rule / 10000) * (10000 * 10000) :=
        Nat.mul_le_mul_right _ (Nat.div_mul_le_self _ _)
    _ = amount * rate / 10000 * 10000 * (tier * rule / 10000 * 10000) := by ring
    _ ≤ amount * rate * (tier * rule) :=
        Nat.mul_le_mul (Nat.div_mul_le_self _ _) (Nat.div_mul_le_self _ _)

theorem calculatePointsEarned_eq {ticket rule rate : String} {tier : LoyaltyTier}
    {amount ruleUnits rateUnits tierUnits : Nat} (positive : 0 < amount)
    (readTicket : toScale4BigInt ticket = .ok amount)
    (readRule : toScale4BigInt rule = .ok ruleUnits) (readRate : toScale4BigInt rate = .ok rateUnits)
    (readTier : toScale4BigInt (tierMultiplier tier) = .ok tierUnits) :
    calculatePointsEarned ticket tier rule rate =
      .ok (fromScale4BigInt (pointsUnits amount rateUnits tierUnits ruleUnits)) := by
  have isPositive : isPositiveScale4 ticket = .ok true := by
    simp [isPositiveScale4, readTicket, positive]
  simp only [calculatePointsEarned, isPositive, ok_bind, multiplyScale4_eq readTier readRule,
    multiplyScale4_eq readTicket readRate,
    multiplyScale4_eq (toScale4BigInt_fromScale4BigInt _) (toScale4BigInt_fromScale4BigInt _)]
  rfl

theorem exists_tierUnits (tier : LoyaltyTier) :
    ∃ units : Nat, toScale4BigInt (tierMultiplier tier) = .ok units := by
  cases tier with
  | bronze => exact ⟨10000, toScale4BigInt_of_decimalValue (by decide)⟩
  | silver => exact ⟨12500, toScale4BigInt_of_decimalValue (by decide)⟩
  | gold => exact ⟨15000, toScale4BigInt_of_decimalValue (by decide)⟩
  | platinum => exact ⟨20000, toScale4BigInt_of_decimalValue (by decide)⟩

/-- Splitting a ticket never earns more points, a larger ticket never fewer, and no ticket more
than the exact product. -/
theorem points_of_split_ticket (tier : LoyaltyTier) {rule rate ticket other whole : String}
    {ruleUnits rateUnits a b : Nat} (readRule : toScale4BigInt rule = .ok ruleUnits)
    (readRate : toScale4BigInt rate = .ok rateUnits) (positive : 0 < a) (positiveOther : 0 < b)
    (readTicket : toScale4BigInt ticket = .ok a) (readOther : toScale4BigInt other = .ok b)
    (readWhole : toScale4BigInt whole = .ok (a + b : Nat)) :
    ∃ tierUnits earned earnedOther earnedWhole : Nat,
      toScale4BigInt (tierMultiplier tier) = .ok tierUnits ∧
      calculatePointsEarned ticket tier rule rate = .ok (fromScale4BigInt earned) ∧
      calculatePointsEarned other tier rule rate = .ok (fromScale4BigInt earnedOther) ∧
      calculatePointsEarned whole tier rule rate = .ok (fromScale4BigInt earnedWhole) ∧
      earned + earnedOther ≤ earnedWhole ∧ (a ≤ b → earned ≤ earnedOther) ∧
      earned * 10000 ^ 3 ≤ a * rateUnits * (tierUnits * ruleUnits) := by
  obtain ⟨tierUnits, readTier⟩ := exists_tierUnits tier
  exact ⟨tierUnits, _, _, _, readTier,
    calculatePointsEarned_eq positive readTicket readRule readRate readTier,
    calculatePointsEarned_eq positiveOther readOther readRule readRate readTier,
    calculatePointsEarned_eq (by omega) readWhole readRule readRate readTier,
    pointsUnits_add_le .., fun le => pointsUnits_mono le .., pointsUnits_le ..⟩

theorem points_of_split_ticket_gold : ∃ earned earnedOther earnedWhole : Nat,
    calculatePointsEarned "0.0999" .gold "1.0000" "0.1000" = .ok (fromScale4BigInt earned) ∧
      calculatePointsEarned "0.1998" .gold "1.0000" "0.1000" = .ok (fromScale4BigInt earnedWhole) ∧
      earned + earnedOther ≤ earnedWhole := by
  have rule : toScale4BigInt "1.0000" = .ok (10000 : Nat) := toScale4BigInt_of_decimalValue (by decide)
  have rate : toScale4BigInt "0.1000" = .ok (1000 : Nat) := toScale4BigInt_of_decimalValue (by decide)
  have part : toScale4BigInt "0.0999" = .ok (999 : Nat) := toScale4BigInt_of_decimalValue (by decide)
  have whole : toScale4BigInt "0.1998" = .ok (999 + 999 : Nat) :=
    toScale4BigInt_of_decimalValue (by decide)
  obtain ⟨-, earned, other, all, -, first, -, both, split, -⟩ :=
    points_of_split_ticket .gold rule rate (by decide) (by decide) part part whole
  exact ⟨earned, other, all, first, both, split⟩

/-! ### Discounts -/

theorem toScale4BigInt_zero : toScale4BigInt "0.0000" = .ok 0 :=
  toScale4BigInt_of_decimalValue (by decide)

theorem toScale4BigInt_hundred : toScale4BigInt "100.0000" = .ok 1000000 :=
  toScale4BigInt_of_decimalValue (by decide)

theorem share_le_iff (rate total : Nat) :
    total * rate / 10000 ≤ total ↔ rate ≤ 10000 ∨ total * (rate - 10000) < 10000 := by
  rcases Nat.le_total rate 10000 with le | ge
  · have bounded := Nat.mul_le_mul_left total le
    omega
  · obtain ⟨excess, rfl⟩ := Nat.exists_eq_add_of_le ge
    rw [Nat.add_sub_cancel_left, Nat.mul_add]
    rcases Nat.eq_zero_or_pos excess with rfl | pos <;> omega

/-- Where a discount of at most the ticket comes from: a rate of at most one whole, or a ticket
too small for what the rate exceeds it by; for a birthday, a value that is a percentage or at
most the ticket. -/
def WithinTicket (promoType : PromotionType) (discount total : Nat) : Prop :=
  match promoType with
  | .percentage => discount / 100 ≤ 10000 ∨ total * (discount / 100 - 10000) < 10000
  | .birthday => discount ≤ 1000000 ∨ discount ≤ total
  | _ => True

def discountUnits (promoType : PromotionType) (discount total : Nat) : Nat :=
  match promoType with
  | .percentage => total * (discount / 100) / 10000
  | .fixedAmount => min discount total
  | .birthday =>
    if discount ≤ 1000000 then total * (discount / 100) / 10000 else discount
  | _ => 0

theorem discountUnits_le_iff (promoType : PromotionType) (discount total : Nat) :
    discountUnits promoType discount total ≤ total ↔ WithinTicket promoType discount total := by
  have share := share_le_iff (discount / 100) total
  cases promoType with
  | percentage => exact share
  | fixedAmount | twoForOne | pointsMultiplier => simp [discountUnits, WithinTicket]
  | birthday =>
    simp only [discountUnits, WithinTicket]
    split <;> omega

section Discounts

variable {promotion : Promotion} {ticketTotal : String} {discount total : Nat}
  (readDiscount : toScale4BigInt promotion.discountValue = .ok discount)
  (readTotal : toScale4BigInt ticketTotal = .ok total)

include readDiscount readTotal

theorem percentageOf_eq : percentageOf promotion ticketTotal =
    .ok ⟨true, fromScale4BigInt (total * (discount / 100) / 10000 : Nat), none⟩ := by
  have rate : divideScale4 promotion.discountValue "100.0000" =
      .ok (fromScale4BigInt (discount / 100 : Nat)) := by
    have cut : ((discount : Int) * 10000).tdiv 1000000 = (discount / 100 : Nat) := by
      rw [Int.tdiv_eq_ediv_of_nonneg (by omega)]
      omega
    simp [divideScale4, readDiscount, toScale4BigInt_hundred, cut]
  simp only [percentageOf, rate, ok_bind, multiplyScale4_eq readTotal (toScale4BigInt_fromScale4BigInt _)]
  rfl

theorem evaluatePromotion_eq (customerBirthday : Option String) (checkDate : CheckDate)
    (applies : refusal promotion customerBirthday checkDate = none) :
    ∃ discountAmount,
      evaluatePromotion promotion customerBirthday checkDate ticketTotal =
        .ok ⟨true, discountAmount, none⟩ ∧
      toScale4BigInt discountAmount =
        .ok (discountUnits promotion.promoType discount total : Nat) := by
  have share := percentageOf_eq readDiscount readTotal
  have written := fun units => toScale4BigInt_fromScale4BigInt units
  simp only [evaluatePromotion, applies]
  cases promotion.promoType with
  | percentage => exact ⟨_, share, written _⟩
  | fixedAmount =>
    have fixed : compareScale4 ticketTotal promotion.discountValue =
        .ok ((total : Int) - discount).sign := by simp [compareScale4, readDiscount, readTotal]
    simp only [fixed, ok_bind, Int.sign_pos_iff, discountUnits]
    by_cases less : discount < total
    · rw [if_pos (by omega), Nat.min_eq_left less.le]
      exact ⟨promotion.discountValue, rfl, readDiscount⟩
    · rw [if_neg (by omega), Nat.min_eq_right (Nat.le_of_not_lt less)]
      exact ⟨ticketTotal, rfl, readTotal⟩
  | birthday =>
    have whole : compareScale4 promotion.discountValue "100.0000" =
        .ok ((discount : Int) - 1000000).sign := by
      simp [compareScale4, readDiscount, toScale4BigInt_hundred]
    simp only [whole, ok_bind, Int.sign_nonpos_iff, discountUnits]
    by_cases percentage : discount ≤ 1000000
    · rw [if_pos (by omega), if_pos percentage]
      exact ⟨_, share, written _⟩
    · rw [if_neg (by omega), if_neg percentage]
      exact ⟨promotion.discountValue, rfl, readDiscount⟩
  | twoForOne | pointsMultiplier => exact ⟨_, rfl, toScale4BigInt_zero⟩

/-- A discount is at most the ticket exactly when the promotion is refused or within it. -/
theorem discount_le_ticket_iff (customerBirthday : Option String) (checkDate : CheckDate) :
    ∃ result amount, evaluatePromotion promotion customerBirthday checkDate ticketTotal = .ok result ∧
      toScale4BigInt result.discountAmount = .ok amount ∧
      (0 ≤ amount ∧ amount ≤ total ∧ (result.applicable = false → amount = 0) ↔
        (refusal promotion customerBirthday checkDate = none →
          WithinTicket promotion.promoType discount total)) := by
  cases refused : refusal promotion customerBirthday checkDate with
  | some reason =>
    exact ⟨⟨false, "0.0000", some reason⟩, 0, by simp only [evaluatePromotion, refused]; rfl,
      toScale4BigInt_zero, by simp⟩
  | none =>
    obtain ⟨amount, computed, read⟩ :=
      evaluatePromotion_eq readDiscount readTotal customerBirthday checkDate refused
    refine ⟨_, _, computed, read, ?_⟩
    have within := discountUnits_le_iff promotion.promoType discount total
    simp [within]

end Discounts

theorem discount_le_ticket_iff_fifteen : ∃ result amount,
    evaluatePromotion ⟨.percentage, "15.0000", "2026-01-01", "2026-12-31", true⟩ none
      ⟨"2026-06-15T12:00:00.000Z", 5⟩ "80.0000" = .ok result ∧
      toScale4BigInt result.discountAmount = .ok amount ∧ 0 ≤ amount ∧ amount ≤ 800000 := by
  let promotion : Promotion := ⟨.percentage, "15.0000", "2026-01-01", "2026-12-31", true⟩
  have value : toScale4BigInt promotion.discountValue = .ok (150000 : Nat) :=
    toScale4BigInt_of_decimalValue (by decide)
  have ticket : toScale4BigInt "80.0000" = .ok (800000 : Nat) :=
    toScale4BigInt_of_decimalValue (by decide)
  obtain ⟨result, amount, computed, read, within⟩ :=
    discount_le_ticket_iff value ticket none ⟨"2026-06-15T12:00:00.000Z", 5⟩
  obtain ⟨nonneg, le, -⟩ := within.mpr fun _ => by simp [promotion, WithinTicket]
  exact ⟨result, amount, computed, read, nonneg, le⟩

/-- A percentage above one hundred takes off more than the ticket. -/
theorem discount_above_ticket :
    (evaluatePromotion ⟨.percentage, "150.0000", "2026-01-01", "2026-12-31", true⟩ none
      ⟨"2026-06-15T12:00:00.000Z", 5⟩ "80.0000").map PromotionResult.discountAmount =
        .ok "120.0000" := by
  decide +kernel

end TridentPos.Crm
