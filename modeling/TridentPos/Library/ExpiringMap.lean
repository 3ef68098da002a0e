import Mathlib.Algebra.Order.Group.Defs
import Mathlib.Data.List.Basic

/-!
# Maps whose entries expire

Entries carry the time they were written at, and a purge drops those older than a retention.
Keys are compared by a test that need not be reflexive.
-/
namespace TridentPos.Library.ExpiringMap

variable {κ τ : Type} [LinearOrder τ] [AddCommGroup τ] [IsOrderedAddMonoid τ]

def purge (retention now : τ) (entries : List (κ × τ)) : List (κ × τ) :=
  entries.filter fun entry => !decide (entry.2 < now - retention)

def set (same : κ → κ → Bool) (key : κ) (time : τ) (entries : List (κ × τ)) : List (κ × τ) :=
  entries.filter (fun entry => !same entry.1 key) ++ [(key, time)]

def has (same : κ → κ → Bool) (key : κ) (entries : List (κ × τ)) : Bool :=
  entries.any fun entry => same entry.1 key

theorem mem_purge (retention now : τ) (entries : List (κ × τ)) (entry : κ × τ) :
    entry ∈ purge retention now entries ↔ entry ∈ entries ∧ now ≤ entry.2 + retention := by
  simp [purge, List.mem_filter]

theorem purge_purge (retention : τ) {earlier later : τ} (le : earlier ≤ later)
    (entries : List (κ × τ)) :
    purge retention later (purge retention earlier entries) = purge retention later entries := by
  rw [purge, purge, List.filter_filter]
  refine List.filter_congr fun entry _ => ?_
  have kept : ¬entry.2 < later - retention → ¬entry.2 < earlier - retention := fun recent old =>
    recent (old.trans_le (sub_le_sub_right le retention))
  by_cases old : entry.2 < later - retention <;> simp_all

omit [LinearOrder τ] [AddCommGroup τ] [IsOrderedAddMonoid τ] in
theorem mem_set_self (same : κ → κ → Bool) (key : κ) (time : τ) (entries : List (κ × τ)) :
    (key, time) ∈ set same key time entries := by
  simp [set]

variable {same : κ → κ → Bool} {entries : List (κ × τ)}

omit [LinearOrder τ] [AddCommGroup τ] [IsOrderedAddMonoid τ] in
theorem mem_set_of_absent {key : κ} (time : τ) {entry : κ × τ}
    (absent : has same key entries = false) (member : entry ∈ entries) :
    entry ∈ set same key time entries := by
  have apart : same entry.1 key = false := by
    rw [has, List.any_eq_false] at absent
    simpa using absent entry member
  simp [set, member, apart]

omit [LinearOrder τ] [AddCommGroup τ] [IsOrderedAddMonoid τ] in
theorem has_of_mem {key : κ} {time : τ} (member : (key, time) ∈ entries)
    (reflexive : same key key) : has same key entries :=
  List.any_eq_true.mpr ⟨(key, time), member, reflexive⟩

end TridentPos.Library.ExpiringMap
