import Mathlib.Algebra.Order.BigOperators.Group.List
import Mathlib.Data.Rat.Floor

/-!
# Proration

An amount divided by weights: every part but the last is its proportional share truncated
towards zero, the last part takes the residual. The weights need not add up to the total they are
taken of.
-/
namespace TridentPos.Library.Proration

def exact (whole weight total : Int) : ℚ := (whole * weight : Int) / (total : Int)

/-- What the truncated shares of the earlier weights leave for the last part, times the total. -/
def due (whole total : Int) (earlier : List Int) : Int :=
  whole * (total - earlier.sum) + (earlier.map fun weight => (whole * weight).tmod total).sum

theorem tdiv_eq_floor {whole weight total : Int} (nonneg : 0 ≤ whole * weight)
    (positive : 0 < total) : (whole * weight).tdiv total = ⌊exact whole weight total⌋ := by
  rw [Int.tdiv_eq_ediv_of_nonneg nonneg, eq_comm, Int.floor_eq_iff, exact]
  have positive' : (0 : ℚ) < total := by exact_mod_cast positive
  constructor
  · rw [le_div_iff₀ positive']
    exact_mod_cast Int.ediv_mul_le _ positive.ne'
  · rw [div_lt_iff₀ positive']
    exact_mod_cast Int.lt_ediv_add_one_mul_self _ positive

theorem tdiv_nonneg_iff (a total : Int) (positive : 0 < total) : 0 ≤ a.tdiv total ↔ -total < a := by
  constructor
  · intro nonneg
    have split := Int.mul_tdiv_add_tmod a total
    have cut := Int.lt_tmod_of_pos a positive
    have product : 0 ≤ total * a.tdiv total := mul_nonneg positive.le nonneg
    omega
  · intro above
    rcases lt_or_ge a 0 with negative | nonneg
    · have zero : (-a).tdiv total = 0 := Int.tdiv_eq_zero_of_lt (by omega) (by omega)
      rw [Int.neg_tdiv] at zero
      omega
    · exact Int.tdiv_nonneg nonneg positive.le

theorem tdiv_balance_iff {sum a b c d total : Int} (positive : 0 < total)
    (dividends : sum = a - b + c + d) :
    sum.tdiv total = a.tdiv total - b.tdiv total + c.tdiv total + d.tdiv total ↔
      sum.tmod total = a.tmod total - b.tmod total + c.tmod total + d.tmod total := by
  have splitSum := Int.mul_tdiv_add_tmod sum total
  have splitA := Int.mul_tdiv_add_tmod a total
  have splitB := Int.mul_tdiv_add_tmod b total
  have splitC := Int.mul_tdiv_add_tmod c total
  have splitD := Int.mul_tdiv_add_tmod d total
  constructor
  · intro quotients
    rw [quotients] at splitSum
    linarith
  · intro remainders
    apply mul_left_cancel₀ positive.ne'
    rw [remainders] at splitSum
    linarith

theorem mul_residual (whole total : Int) (earlier : List Int) :
    total * (whole - (earlier.map fun weight => (whole * weight).tdiv total).sum) =
      due whole total earlier := by
  induction earlier with
  | nil =>
    simp only [due, List.map_nil, List.sum_nil]
    ring
  | cons weight rest ih =>
    have split := Int.mul_tdiv_add_tmod (whole * weight) total
    simp only [due, List.map_cons, List.sum_cons] at ih ⊢
    linarith

theorem residual_nonneg_iff (whole total : Int) (earlier : List Int) (positive : 0 < total) :
    0 ≤ whole - (earlier.map fun weight => (whole * weight).tdiv total).sum ↔
      0 ≤ due whole total earlier := by
  rw [← mul_residual]
  exact (mul_nonneg_iff_of_pos_left positive).symm

/-- With weights that are not negative a part of the whole is cut off, less than one unit for
each earlier weight. -/
theorem due_bounds {whole total : Int} {earlier : List Int} (nonneg : 0 ≤ whole)
    (weights : ∀ weight ∈ earlier, 0 ≤ weight) (positive : 0 < total) :
    whole * (total - earlier.sum) ≤ due whole total earlier ∧
      due whole total earlier ≤ whole * (total - earlier.sum) + earlier.length * (total - 1) := by
  have cut (weight : Int) (member : weight ∈ earlier) :
      0 ≤ (whole * weight).tmod total ∧ (whole * weight).tmod total ≤ total - 1 := by
    have product : 0 ≤ whole * weight := mul_nonneg nonneg (weights weight member)
    have small := Int.tmod_lt_of_pos (whole * weight) positive
    exact ⟨Int.tmod_nonneg total product, by omega⟩
  constructor
  · have pieces : 0 ≤ (earlier.map fun weight => (whole * weight).tmod total).sum := by
      apply List.sum_nonneg
      intro piece listed
      obtain ⟨weight, member, rfl⟩ := List.mem_map.mp listed
      exact (cut weight member).1
    simp only [due]
    omega
  · have pieces : (earlier.map fun weight => (whole * weight).tmod total).sum ≤
        earlier.length * (total - 1) := by
      have bounded := List.sum_le_card_nsmul
        (earlier.map fun weight => (whole * weight).tmod total) (total - 1) (by
          intro piece listed
          obtain ⟨weight, member, rfl⟩ := List.mem_map.mp listed
          exact (cut weight member).2)
      simpa using bounded
    simp only [due]
    omega

theorem residual_bounds {whole total last : Int} {earlier : List Int} (nonneg : 0 ≤ whole)
    (weights : ∀ weight ∈ earlier, 0 ≤ weight) (positive : 0 < total)
    (complete : earlier.sum + last = total) (some : earlier ≠ []) :
    exact whole last total ≤
        ((whole - (earlier.map fun weight => (whole * weight).tdiv total).sum : Int) : ℚ) ∧
      ((whole - (earlier.map fun weight => (whole * weight).tdiv total).sum : Int) : ℚ) -
        exact whole last total < earlier.length := by
  have positive' : (0 : ℚ) < total := by exact_mod_cast positive
  have rest : total - earlier.sum = last := by omega
  have product := mul_residual whole total earlier
  obtain ⟨low, high⟩ := due_bounds nonneg weights positive
  rw [rest] at low high
  have count : 1 ≤ (earlier.length : Int) := by
    have := List.length_pos_of_ne_nil some
    omega
  constructor
  · rw [exact, div_le_iff₀ positive']
    have bound : whole * last ≤
        (whole - (earlier.map fun weight => (whole * weight).tdiv total).sum) * total := by
      linarith [mul_comm total
        (whole - (earlier.map fun weight => (whole * weight).tdiv total).sum)]
    exact_mod_cast bound
  · rw [exact, sub_lt_iff_lt_add, ← sub_lt_iff_lt_add', lt_div_iff₀ positive']
    have bound : ((whole - (earlier.map fun weight => (whole * weight).tdiv total).sum) -
        earlier.length) * total < whole * last := by
      nlinarith
    exact_mod_cast bound

end TridentPos.Library.Proration
