import Mathlib.Algebra.BigOperators.Group.List.Basic
import Mathlib.Data.List.Nodup
import Mathlib.Algebra.Ring.Int.Defs

/-!
# Tables as lists of rows

`UPDATE ... WHERE`, `INSERT ... ON CONFLICT DO UPDATE` and a single-row `SELECT` over a
table kept as the list of its rows in insertion order.
-/
namespace TridentPos.Library.Table

open List

variable {α β : Type} (p : α → Bool) (f : α → α) (rows : List α)

def updateWhere : List α :=
  rows.map fun row => if p row then f row else row

/-- `INSERT new ON CONFLICT (the columns p tests) DO UPDATE SET f`. -/
def upsert (new : α) (rows : List α) : List α :=
  if rows.any p then updateWhere p f rows else rows ++ [new]

def upsertAll {κ : Type} [DecidableEq κ] (key : α → κ) (overwrite : α → α → α)
    (rows news : List α) : List α :=
  news.foldl (fun rows new => upsert (fun row => key row == key new) (overwrite new) new rows) rows

def freshId (ids : List Nat) : Nat := ids.foldr max 0 + 1

@[simp] theorem updateWhere_nil : updateWhere p f [] = [] := rfl

@[simp] theorem updateWhere_cons (row : α) (rows : List α) :
    updateWhere p f (row :: rows) = (if p row then f row else row) :: updateWhere p f rows := rfl

@[simp] theorem length_updateWhere : (updateWhere p f rows).length = rows.length := by
  simp [updateWhere]

theorem mem_updateWhere {p : α → Bool} {f : α → α} {rows : List α} {row : α} :
    row ∈ updateWhere p f rows ↔
      (∃ old ∈ rows, p old ∧ f old = row) ∨ (row ∈ rows ∧ p row = false) := by
  simp only [updateWhere, mem_map]
  constructor
  · rintro ⟨old, member, rfl⟩
    cases hit : p old with
    | true => exact .inl ⟨old, member, hit, by simp⟩
    | false => exact .inr ⟨by simpa using member, by simpa using hit⟩
  · rintro (⟨old, member, hit, rfl⟩ | ⟨member, miss⟩)
    · exact ⟨old, member, by simp [hit]⟩
    · exact ⟨row, member, by simp [miss]⟩

theorem map_updateWhere (column : α → β) (rows : List α)
    (kept : ∀ row, column (f row) = column row) :
    (updateWhere p f rows).map column = rows.map column := by
  induction rows with
  | nil => rfl
  | cons row rows ih =>
    cases hit : p row <;> simp [hit, ih, kept]

theorem map_updateWhere_view {p : α → Bool} (view : α → β) (q : β → Bool) (g : β → β)
    (rows : List α) (selects : ∀ row, p row = q (view row)) (changes : ∀ row, view (f row) = g (view row)) :
    (updateWhere p f rows).map view = updateWhere q g (rows.map view) := by
  induction rows with
  | nil => rfl
  | cons row rows ih =>
    cases hit : q (view row) <;> simp [selects, hit, ih, changes]

theorem updateWhere_eq_self (missed : ∀ row ∈ rows, p row = false) :
    updateWhere p f rows = rows := by
  induction rows with
  | nil => rfl
  | cons row rows ih =>
    have first := missed row mem_cons_self
    simp [first, ih fun other member => missed other (mem_cons_of_mem _ member)]

theorem sum_updateWhere_key {κ : Type} [DecidableEq κ] {key : α → κ} (weight : α → Int)
    {rows : List α} {row : α} (unique : (rows.map key).Nodup) (member : row ∈ rows) :
    ((updateWhere (fun other => key other == key row) f rows).map weight).sum =
      (rows.map weight).sum - weight row + weight (f row) := by
  induction rows with
  | nil => simp at member
  | cons first rest ih =>
    rw [map_cons, nodup_cons] at unique
    rcases mem_cons.mp member with rfl | later
    · have others : updateWhere (fun other => key other == key row) f rest = rest := by
        apply updateWhere_eq_self
        intro other inRest
        rw [beq_eq_false_iff_ne]
        exact fun same => unique.1 (same ▸ mem_map_of_mem inRest)
      simp only [updateWhere_cons, others, beq_self_eq_true, if_true, map_cons, sum_cons]
      omega
    · have apart : (key first == key row) = false := by
        rw [beq_eq_false_iff_ne]
        exact fun same => unique.1 (same ▸ mem_map_of_mem later)
      simp only [updateWhere_cons, apart, map_cons, sum_cons, Bool.false_eq_true, if_false,
        ih unique.2 later]
      omega

theorem filter_updateWhere (q : α → Bool) (f : α → α) (rows : List α)
    (kept : ∀ row, p row → q (f row) = q row) :
    (updateWhere p f rows).filter q = updateWhere p f (rows.filter q) := by
  induction rows with
  | nil => rfl
  | cons row rows ih =>
    cases hit : p row with
    | true => cases chosen : q row <;> simp [hit, chosen, ih, kept row hit]
    | false => cases chosen : q row <;> simp [hit, chosen, ih]

theorem find?_updateWhere_self (stable : ∀ row, p row → p (f row)) :
    (updateWhere p f rows).find? p = (rows.find? p).map f := by
  induction rows with
  | nil => rfl
  | cons row rows ih =>
    cases hit : p row with
    | true => simp [hit, stable row hit]
    | false => simp [hit, ih]

theorem find?_updateWhere_other (q : α → Bool) (f : α → α) (rows : List α)
    (apart : ∀ row, p row → q row = false) (stable : ∀ row, p row → q (f row) = false) :
    (updateWhere p f rows).find? q = rows.find? q := by
  induction rows with
  | nil => rfl
  | cons row rows ih =>
    cases hit : p row with
    | true => simp [hit, apart row hit, stable row hit, ih]
    | false => cases found : q row <;> simp [hit, found, ih]

theorem find?_upsert_self (new : α) (rows : List α)
    (stable : ∀ row, p row → p (f row)) (fits : p new) :
    (upsert p f new rows).find? p = some (((rows.find? p).map f).getD new) := by
  unfold upsert
  split
  next present =>
    rw [find?_updateWhere_self p f rows stable]
    obtain ⟨row, member, hit⟩ := any_eq_true.mp present
    obtain ⟨found, search⟩ := Option.isSome_iff_exists.mp (find?_isSome.mpr ⟨row, member, hit⟩)
    simp [search]
  next absent =>
    have none : rows.find? p = none := by
      simpa [find?_eq_none] using absent
    simp [find?_append, none, fits]

theorem find?_upsert_other (q : α → Bool) (f : α → α) (new : α) (rows : List α)
    (apart : ∀ row, p row → q row = false)
    (stable : ∀ row, p row → q (f row) = false) (other : q new = false) :
    (upsert p f new rows).find? q = rows.find? q := by
  unfold upsert
  split
  · exact find?_updateWhere_other p q f rows apart stable
  · simp [find?_append, other]

theorem lt_freshId {ids : List Nat} {id : Nat} (member : id ∈ ids) : id < freshId ids := by
  induction ids with
  | nil => simp at member
  | cons first rest ih =>
    simp only [freshId, foldr_cons] at ih ⊢
    rcases mem_cons.mp member with rfl | later
    · omega
    · have := ih later
      omega

theorem freshId_notMem (ids : List Nat) : freshId ids ∉ ids :=
  fun member => Nat.lt_irrefl _ (lt_freshId member)

theorem nodup_append_singleton {keys : List α} {key : α} (distinct : keys.Nodup)
    (fresh : key ∉ keys) : (keys ++ [key]).Nodup := by
  simpa using List.Nodup.concat fresh distinct

section Keyed

variable {κ : Type} [DecidableEq κ] {key : α → κ} (overwrite : α → α → α) {rows : List α}

theorem upsert_stored (idle : ∀ row, overwrite row row = row) (unique : (rows.map key).Nodup)
    {new : α} (member : new ∈ rows) :
    upsert (fun row => key row == key new) (overwrite new) new rows = rows := by
  rw [upsert, if_pos (any_eq_true.mpr ⟨new, member, by simp⟩), updateWhere]
  conv_rhs => rw [← map_id rows]
  apply map_congr_left
  intro row inRows
  split
  next same =>
    rw [inj_on_of_nodup_map unique inRows member (by simpa using same), idle]
    rfl
  next => rfl

theorem upsertAll_stored (idle : ∀ row, overwrite row row = row) {news : List α}
    (unique : (rows.map key).Nodup) (stored : ∀ new ∈ news, new ∈ rows) :
    upsertAll key overwrite rows news = rows := by
  induction news with
  | nil => rfl
  | cons new news ih =>
    rw [upsertAll, foldl_cons, upsert_stored overwrite idle unique (stored new mem_cons_self)]
    exact ih fun other member => stored other (mem_cons_of_mem _ member)

theorem nodup_upsertAll (keeps : ∀ new old, key (overwrite new old) = key old) (news : List α)
    (unique : (rows.map key).Nodup) : ((upsertAll key overwrite rows news).map key).Nodup := by
  induction news generalizing rows with
  | nil => exact unique
  | cons new news ih =>
    rw [upsertAll, foldl_cons]
    apply ih
    unfold upsert
    split
    next => rwa [map_updateWhere _ _ _ _ (keeps new)]
    next absent =>
      rw [map_append]
      apply nodup_append_singleton unique
      simpa using absent

theorem filter_upsertAll [DecidableEq β] {owner : α → β} {id : β}
    (keepsKey : ∀ new old, key (overwrite new old) = key old)
    (keepsOwner : ∀ new old, owner (overwrite new old) = owner old) {news : List α}
    (apart : ∀ new ∈ news, owner new ≠ id ∧ ∀ row ∈ rows, key row = key new → owner row ≠ id) :
    (upsertAll key overwrite rows news).filter (fun row => owner row == id) =
      rows.filter fun row => owner row == id := by
  induction news generalizing rows with
  | nil => rfl
  | cons new news ih =>
    obtain ⟨⟨foreign, elsewhere⟩, rest⟩ := forall_mem_cons.mp apart
    rw [upsertAll, foldl_cons]
    refine (ih fun other member => ⟨(rest other member).1, fun row inRows same => ?_⟩).trans ?_
    · unfold upsert at inRows
      split at inRows
      next =>
        rcases mem_updateWhere.mp inRows with ⟨old, stored, -, rfl⟩ | ⟨stored, -⟩
        · rw [keepsOwner]
          exact (rest other member).2 old stored ((keepsKey new old).symm.trans same)
        · exact (rest other member).2 row stored same
      next =>
        rcases mem_append.mp inRows with stored | isNew
        · exact (rest other member).2 row stored same
        · rwa [mem_singleton.mp isNew]
    · unfold upsert
      split
      next =>
        rw [filter_updateWhere _ _ _ _ fun row _ => by rw [keepsOwner]]
        apply updateWhere_eq_self
        intro row member
        obtain ⟨stored, mine⟩ := mem_filter.mp member
        by_contra hit
        exact elsewhere row stored (by simpa using hit) (by simpa using mine)
      next => simp [foreign]

end Keyed

theorem countP_updateWhere_lt {p q : α → Bool} {f : α → α} {rows : List α} {row : α}
    (member : row ∈ rows) (hit : p row) (selected : q row)
    (removes : ∀ row, q (f row) = false) :
    (updateWhere p f rows).countP q < rows.countP q := by
  have shrinks (xs : List α) : (updateWhere p f xs).countP q ≤ xs.countP q := by
    induction xs with
    | nil => simp
    | cons x xs ih =>
      cases hx : p x <;> cases qx : q x <;> simp [hx, qx, removes] <;> omega
  induction rows with
  | nil => simp at member
  | cons first rest ih =>
    rcases mem_cons.mp member with rfl | later
    · have := shrinks rest
      simp [hit, selected, removes]
      omega
    · have := ih later
      cases hx : p first <;> cases qx : q first <;> simp [hx, qx, removes] <;> omega

end TridentPos.Library.Table
