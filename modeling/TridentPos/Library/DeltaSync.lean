import Mathlib.Data.List.Nodup
import Mathlib.Data.List.Perm.Basic

/-!
# Synchronization by deltas

A source replaces a list of records by newer ones and stamps every record that changes with the
version of the change; a deletion stays as a record. A replica has the rows of one version. The
records stamped after that version, or after any earlier one, are all it needs to have the rows of
a newer version.
-/
namespace TridentPos.Library

open List

/-- How records are read. A record of a deletion stands for no row. -/
structure DeltaSync (ρ κ β : Type) where
  key : ρ → κ
  stamp : ρ → Nat
  row : ρ → Option β

namespace DeltaSync

variable {ρ κ β : Type} (sync : DeltaSync ρ κ β)

/-- `new` has come out of `old` by changes stamped after `version`. -/
structure Revises (version : Nat) (old new : List ρ) : Prop where
  unchanged : ∀ r ∈ new, sync.stamp r ≤ version → r ∈ old
  kept : ∀ r ∈ old, ∃ r' ∈ new, sync.key r' = sync.key r

theorem Revises.refl (version : Nat) (records : List ρ) : sync.Revises version records records :=
  ⟨fun _ member _ => member, fun r member => ⟨r, member, rfl⟩⟩

variable {old new records : List ρ}

theorem Revises.release {version later : Nat} {middle : List ρ}
    (revises : sync.Revises version old middle) (after : version < later)
    (kept : ∀ r ∈ middle, ∃ r' ∈ new, sync.key r' = sync.key r)
    (stamped : ∀ r ∈ new, r ∈ middle ∨ sync.stamp r = later) : sync.Revises version old new := by
  refine ⟨fun r member early => ?_, fun r member => ?_⟩
  · rcases stamped r member with before | changed
    · exact revises.unchanged r before early
    · omega
  · obtain ⟨r', isMiddle, same⟩ := revises.kept r member
    obtain ⟨r'', isNew, same'⟩ := kept r' isMiddle
    exact ⟨r'', isNew, same'.trans same⟩

def since (version : Nat) (records : List ρ) : List ρ :=
  records.filter fun r => version < sync.stamp r

variable [DecidableEq κ]

def view (records : List ρ) (k : κ) : Option β :=
  (records.find? fun r => decide (sync.key r = k)).bind sync.row

def put (table : κ → Option β) (r : ρ) : κ → Option β :=
  Function.update table (sync.key r) (sync.row r)

theorem view_of_mem (distinct : (records.map sync.key).Nodup) {r : ρ} (member : r ∈ records) :
    sync.view records (sync.key r) = sync.row r := by
  induction records with
  | nil => simp at member
  | cons first records ih =>
    simp only [map_cons, nodup_cons] at distinct
    rcases mem_cons.mp member with rfl | later
    · simp [view]
    · have differs : sync.key first ≠ sync.key r := fun same =>
        distinct.1 (mem_map.mpr ⟨r, later, same.symm⟩)
      have rest := ih distinct.2 later
      rw [view] at rest
      simp [view, differs, rest]

theorem view_of_absent {k : κ} (absent : ∀ r ∈ records, sync.key r ≠ k) :
    sync.view records k = none := by
  have none : (records.find? fun r => decide (sync.key r = k)) = none := by
    simpa [find?_eq_none] using absent
  rw [view, none, Option.bind_none]

theorem foldl_put_of_absent (records : List ρ) (table : κ → Option β) {k : κ}
    (absent : ∀ r ∈ records, sync.key r ≠ k) : records.foldl sync.put table k = table k := by
  induction records generalizing table with
  | nil => rfl
  | cons first records ih =>
    rw [foldl_cons, ih _ fun r member => absent r (mem_cons_of_mem _ member)]
    exact Function.update_of_ne (absent first mem_cons_self).symm _ _

theorem foldl_put_of_mem (distinct : (records.map sync.key).Nodup) (table : κ → Option β) {r : ρ}
    (member : r ∈ records) : records.foldl sync.put table (sync.key r) = sync.row r := by
  induction records generalizing table with
  | nil => simp at member
  | cons first records ih =>
    simp only [map_cons, nodup_cons] at distinct
    rw [foldl_cons]
    rcases mem_cons.mp member with rfl | later
    · rw [foldl_put_of_absent sync records _ fun other isOther same =>
        distinct.1 (mem_map.mpr ⟨other, isOther, same⟩)]
      exact Function.update_self _ _ _
    · exact ih distinct.2 _ later

/-- A replica of the version `current` that enters what was stamped after some version up to
`current` has the newer rows. -/
theorem foldl_put_since {version current : Nat} (revises : sync.Revises current old new)
    (early : version ≤ current) (distinctOld : (old.map sync.key).Nodup)
    (distinctNew : (new.map sync.key).Nodup) :
    (sync.since version new).foldl sync.put (sync.view old) = sync.view new := by
  have distinctSent : ((sync.since version new).map sync.key).Nodup :=
    distinctNew.sublist (filter_sublist.map _)
  funext k
  by_cases present : ∃ r ∈ new, sync.key r = k
  · obtain ⟨r, member, rfl⟩ := present
    rw [sync.view_of_mem distinctNew member]
    by_cases sent : version < sync.stamp r
    · exact sync.foldl_put_of_mem distinctSent _ (mem_filter.mpr ⟨member, by simpa using sent⟩)
    · -- the record is as old as the replica
      have unsent : ∀ other ∈ sync.since version new, sync.key other ≠ sync.key r := by
        intro other isSent same
        obtain ⟨isNew, stamped⟩ := mem_filter.mp isSent
        obtain rfl := inj_on_of_nodup_map distinctNew isNew member same
        simp [sent] at stamped
      rw [sync.foldl_put_of_absent _ _ unsent]
      exact sync.view_of_mem distinctOld (revises.unchanged r member (by omega))
  · have absent : ∀ r ∈ new, sync.key r ≠ k := fun r member same => present ⟨r, member, same⟩
    have absentOld : ∀ r ∈ old, sync.key r ≠ k := by
      rintro r member rfl
      obtain ⟨r', isNew, same⟩ := revises.kept r member
      exact absent r' isNew same
    have unsent : ∀ r ∈ sync.since version new, sync.key r ≠ k := fun r isSent =>
      absent r (mem_of_mem_filter isSent)
    rw [sync.foldl_put_of_absent _ _ unsent, sync.view_of_absent absentOld,
      sync.view_of_absent absent]

theorem perm_of_view_eq {rowKey : β → κ} {rows : List β}
    (keyed : ∀ r b, sync.row r = some b → rowKey b = sync.key r)
    (distinctRows : (rows.map rowKey).Nodup) (distinct : (records.map sync.key).Nodup)
    (reads : ∀ k, (rows.find? fun b => decide (rowKey b = k)) = sync.view records k) :
    rows.Perm (records.filterMap sync.row) := by
  have distinctView : (records.filterMap sync.row).Nodup := by
    refine pairwise_filterMap.mpr ((pairwise_map.mp distinct).imp ?_)
    rintro r r' differs b isRow b' isRow' rfl
    exact differs ((keyed r b isRow).symm.trans (keyed r' b isRow'))
  refine (perm_ext_iff_of_nodup (.of_map _ distinctRows) distinctView).mpr fun b => ?_
  constructor <;> intro member
  · -- no other row has its key
    have found : (rows.find? fun other => decide (rowKey other = rowKey b)) = some b := by
      have hit : (rows.find? fun other => decide (rowKey other = rowKey b)).isSome :=
        find?_isSome.mpr ⟨b, member, by simp⟩
      obtain ⟨other, search⟩ := Option.isSome_iff_exists.mp hit
      have same : rowKey other = rowKey b := by simpa using find?_some search
      rw [search, inj_on_of_nodup_map distinctRows (mem_of_find?_eq_some search) member
        same]
    rw [reads, view, Option.bind_eq_some_iff] at found
    obtain ⟨r, search, isRow⟩ := found
    exact mem_filterMap.mpr ⟨r, mem_of_find?_eq_some search, isRow⟩
  · obtain ⟨r, isRecord, isRow⟩ := mem_filterMap.mp member
    have found := reads (sync.key r)
    rw [sync.view_of_mem distinct isRecord, isRow] at found
    exact mem_of_find?_eq_some found

end DeltaSync

end TridentPos.Library
