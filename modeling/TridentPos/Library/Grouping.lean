import TridentPos.Library.Table
import Mathlib.Data.List.Induction

/-!
# Grouping a list by a key

A loop that keeps one row for each key it has met and updates the row of the key of every element.
The rows are those of the partition of the list: the row of a key is made of the elements with that
key, in their order, and sums over the rows are sums over the list.
-/
namespace TridentPos.Library

open List

variable {α β κ : Type} [DecidableEq κ]

structure Grouping (α β κ : Type) where
  key : α → κ
  rowKey : β → κ
  empty : κ → β
  record : α → β → β
  rowKey_empty : ∀ k, rowKey (empty k) = k
  rowKey_record : ∀ x row, rowKey (record x row) = rowKey row

namespace Grouping

def add (g : Grouping α β κ) (rows : List β) (x : α) : List β :=
  Table.upsert (fun row => g.rowKey row == g.key x) (g.record x) (g.record x (g.empty (g.key x)))
    rows

def group (g : Grouping α β κ) (xs : List α) : List β := xs.foldl g.add []

def rowOf (g : Grouping α β κ) (k : κ) (xs : List α) : β :=
  (xs.filter fun x => g.key x == k).foldl (fun row x => g.record x row) (g.empty k)

variable (g : Grouping α β κ)

@[simp] theorem rowOf_nil (k : κ) : g.rowOf k [] = g.empty k := rfl

theorem group_concat (xs : List α) (x : α) : g.group (xs ++ [x]) = g.add (g.group xs) x := by
  simp [group, foldl_append]

theorem rowOf_concat_self (xs : List α) (x : α) :
    g.rowOf (g.key x) (xs ++ [x]) = g.record x (g.rowOf (g.key x) xs) := by
  simp [rowOf, filter_append, foldl_append]

theorem rowOf_concat_other {k : κ} (xs : List α) {x : α} (apart : g.key x ≠ k) :
    g.rowOf k (xs ++ [x]) = g.rowOf k xs := by
  simp [rowOf, filter_append, apart]

theorem rowOf_absent {k : κ} {xs : List α} (absent : ∀ x ∈ xs, g.key x ≠ k) :
    g.rowOf k xs = g.empty k := by
  have none : (xs.filter fun x => g.key x == k) = [] := by
    simpa [filter_eq_nil_iff] using absent
  rw [rowOf, none, foldl_nil]

@[simp] theorem rowKey_rowOf (k : κ) (xs : List α) : g.rowKey (g.rowOf k xs) = k := by
  have loop (ys : List α) (row : β) :
      g.rowKey (ys.foldl (fun row x => g.record x row) row) = g.rowKey row := by
    induction ys generalizing row with
    | nil => rfl
    | cons y ys ih => rw [foldl_cons, ih, g.rowKey_record]
  rw [rowOf, loop, g.rowKey_empty]

theorem mem_group (xs : List α) (row : β) :
    row ∈ g.group xs ↔ ∃ x ∈ xs, row = g.rowOf (g.key x) xs := by
  induction xs using List.reverseRecOn generalizing row with
  | nil => simp [group]
  | append_singleton xs x ih =>
    rw [group_concat, add, Table.upsert]
    split
    next present =>
      -- the key has occurred: its row is updated, the others stay
      obtain ⟨stored, member, hit⟩ := any_eq_true.mp present
      obtain ⟨first, isFirst, rfl⟩ := (ih stored).mp member
      have sameKey : g.key first = g.key x := by simpa using hit
      rw [Table.mem_updateWhere]
      constructor
      · rintro (⟨old, listed, hits, rfl⟩ | ⟨listed, misses⟩)
        · obtain ⟨y, _, rfl⟩ := (ih old).mp listed
          have same : g.key y = g.key x := by simpa using hits
          exact ⟨x, by simp, by rw [rowOf_concat_self, same]⟩
        · obtain ⟨y, isIn, rfl⟩ := (ih row).mp listed
          have apart : g.key x ≠ g.key y := by
            intro same
            simp [same] at misses
          exact ⟨y, mem_append_left _ isIn, by rw [rowOf_concat_other g xs apart]⟩
      · rintro ⟨y, isIn, rfl⟩
        by_cases same : g.key x = g.key y
        · left
          refine ⟨g.rowOf (g.key first) xs, member, hit, ?_⟩
          rw [← same, rowOf_concat_self, sameKey]
        · right
          have earlier : y ∈ xs := by
            rcases mem_append.mp isIn with earlier | last
            · exact earlier
            · exact absurd (by rw [mem_singleton.mp last]) same
          rw [rowOf_concat_other g xs same]
          exact ⟨(ih _).mpr ⟨y, earlier, rfl⟩, by simpa using fun eq => same eq.symm⟩
    next missing =>
      -- the key is new: a row of this element alone is added
      have apart : ∀ y ∈ xs, g.key y ≠ g.key x := by
        intro y isIn same
        refine missing (any_eq_true.mpr ⟨g.rowOf (g.key y) xs, (ih _).mpr ⟨y, isIn, rfl⟩, ?_⟩)
        simp [same]
      have isNew : g.record x (g.empty (g.key x)) = g.rowOf (g.key x) (xs ++ [x]) := by
        rw [rowOf_concat_self, rowOf_absent g apart]
      rw [mem_append, mem_singleton, isNew]
      constructor
      · rintro (listed | rfl)
        · obtain ⟨y, isIn, rfl⟩ := (ih row).mp listed
          exact ⟨y, mem_append_left _ isIn,
            (rowOf_concat_other g xs (Ne.symm (apart y isIn))).symm⟩
        · exact ⟨x, by simp, rfl⟩
      · rintro ⟨y, isIn, rfl⟩
        rcases mem_append.mp isIn with earlier | last
        · left
          rw [rowOf_concat_other g xs (Ne.symm (apart y earlier))]
          exact (ih _).mpr ⟨y, earlier, rfl⟩
        · right
          rw [mem_singleton.mp last]

theorem nodup_group (xs : List α) : ((g.group xs).map g.rowKey).Nodup := by
  induction xs using List.reverseRecOn with
  | nil => exact .nil
  | append_singleton xs x ih =>
    rw [group_concat, add, Table.upsert]
    split
    next =>
      rw [Table.map_updateWhere _ _ _ _ (g.rowKey_record x)]
      exact ih
    next missing =>
      rw [map_append]
      refine Table.nodup_append_singleton ih ?_
      rw [g.rowKey_record, g.rowKey_empty]
      intro taken
      obtain ⟨row, member, same⟩ := mem_map.mp taken
      exact missing (any_eq_true.mpr ⟨row, member, by simp [same]⟩)

theorem sum_group (weight : β → Int) (part : α → Int) (xs : List α)
    (none : ∀ k, weight (g.empty k) = 0)
    (adds : ∀ x row, weight (g.record x row) = weight row + part x) :
    ((g.group xs).map weight).sum = (xs.map part).sum := by
  induction xs using List.reverseRecOn with
  | nil => rfl
  | append_singleton xs x ih =>
    rw [group_concat, add, Table.upsert]
    split
    next present =>
      obtain ⟨stored, member, hit⟩ := any_eq_true.mp present
      have same : g.rowKey stored = g.key x := by simpa using hit
      rw [← same, Table.sum_updateWhere_key (g.record x) weight (g.nodup_group xs) member, adds]
      simp only [map_append, sum_append, map_cons, map_nil, sum_cons,
        sum_nil]
      omega
    next =>
      simp only [map_append, sum_append, map_cons, map_nil, sum_cons,
        sum_nil, adds, none]
      omega

end Grouping

end TridentPos.Library
