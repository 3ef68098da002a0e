import Mathlib.Data.List.Basic

/-!
# Consecutive ranges

Elements of a list stand for ranges of numbers, each from `lo` to `hi`. The list tiles the
numbers from one bound up to another if each range starts where the one before it ends.
-/
namespace TridentPos.Library

variable {α : Type}

/-- The ranges follow each other from `start` on; the first number after them is `stop`. -/
def Tiles (lo hi : α → Nat) : Nat → List α → Nat → Prop
  | start, [], stop => start = stop
  | start, x :: xs, stop => lo x = start ∧ lo x ≤ hi x ∧ Tiles lo hi (hi x + 1) xs stop

namespace Tiles

variable {lo hi : α → Nat}

theorem append_iff {start stop : Nat} {xs ys : List α} :
    Tiles lo hi start (xs ++ ys) stop ↔
      ∃ middle, Tiles lo hi start xs middle ∧ Tiles lo hi middle ys stop := by
  induction xs generalizing start with
  | nil => simp [Tiles]
  | cons x xs ih =>
    simp only [List.cons_append, Tiles, ih]
    constructor
    · rintro ⟨begins, valid, middle, left, right⟩
      exact ⟨middle, ⟨begins, valid, left⟩, right⟩
    · rintro ⟨middle, ⟨begins, valid, left⟩, right⟩
      exact ⟨begins, valid, middle, left, right⟩

theorem snoc {start stop : Nat} {xs : List α} {x : α} (tiles : Tiles lo hi start xs stop)
    (begins : lo x = stop) (valid : lo x ≤ hi x) : Tiles lo hi start (xs ++ [x]) (hi x + 1) :=
  append_iff.mpr ⟨stop, tiles, begins, valid, rfl⟩

theorem map (f : α → α) (start stop : Nat) (xs : List α) (lows : ∀ x, lo (f x) = lo x)
    (highs : ∀ x, hi (f x) = hi x) (tiles : Tiles lo hi start xs stop) :
    Tiles lo hi start (xs.map f) stop := by
  induction xs generalizing start with
  | nil => exact tiles
  | cons x xs ih =>
    obtain ⟨begins, valid, rest⟩ := tiles
    refine ⟨(lows x).trans begins, ?_, ?_⟩
    · rw [lows, highs]
      exact valid
    · rw [highs]
      exact ih _ rest

theorem start_le (start stop : Nat) (xs : List α) (tiles : Tiles lo hi start xs stop) :
    start ≤ stop := by
  induction xs generalizing start with
  | nil => exact Nat.le_of_eq tiles
  | cons x xs ih =>
    obtain ⟨begins, valid, rest⟩ := tiles
    have := ih _ rest
    omega

theorem bounds (start stop : Nat) (xs : List α) (tiles : Tiles lo hi start xs stop) (x : α)
    (member : x ∈ xs) : start ≤ lo x ∧ lo x ≤ hi x ∧ hi x < stop := by
  induction xs generalizing start with
  | nil => simp at member
  | cons y ys ih =>
    obtain ⟨begins, valid, rest⟩ := tiles
    have above := start_le _ _ _ rest
    rcases List.mem_cons.mp member with rfl | later
    · omega
    · have := ih _ rest later
      omega

theorem ordered (start stop : Nat) (xs : List α) (tiles : Tiles lo hi start xs stop) :
    xs.Pairwise fun x y => hi x < lo y := by
  induction xs generalizing start with
  | nil => exact .nil
  | cons x xs ih =>
    obtain ⟨-, -, rest⟩ := tiles
    refine .cons ?_ (ih _ rest)
    intro y member
    have := bounds _ _ _ rest y member
    omega

theorem covers (start stop : Nat) (xs : List α) (tiles : Tiles lo hi start xs stop) (n : Nat) :
    (∃ x ∈ xs, lo x ≤ n ∧ n ≤ hi x) ↔ start ≤ n ∧ n < stop := by
  constructor
  · rintro ⟨x, member, above, below⟩
    have := bounds _ _ _ tiles x member
    omega
  · induction xs generalizing start with
    | nil =>
      have empty : start = stop := tiles
      omega
    | cons x xs ih =>
      obtain ⟨begins, -, rest⟩ := tiles
      rintro ⟨above, below⟩
      by_cases inside : n ≤ hi x
      · exact ⟨x, List.mem_cons_self, by omega, inside⟩
      · obtain ⟨y, member, range⟩ := ih _ rest ⟨by omega, below⟩
        exact ⟨y, List.mem_cons_of_mem _ member, range⟩

end Tiles

end TridentPos.Library
