import Mathlib.Data.List.Lex
import Mathlib.Data.Char
import Mathlib.Data.List.Sort

/-!
# The order of texts by UTF-16 code units

JavaScript compares texts by their UTF-16 code units. A character outside the basic plane is written
with two surrogates, which come before the last characters of the plane.
-/
namespace TridentPos.Library.Utf16

open List

def units (c : Char) : List Nat :=
  if c.toNat < 0x10000 then [c.toNat]
  else [0xD800 + (c.toNat - 0x10000) / 0x400, 0xDC00 + (c.toNat - 0x10000) % 0x400]

def encode (text : String) : List Nat := text.toList.flatMap units

/-- `a <= b` of JavaScript. -/
def Le (a b : String) : Prop := encode a ≤ encode b

instance : DecidableRel Le := fun a b => inferInstanceAs (Decidable (encode a ≤ encode b))

theorem toNat_range (c : Char) : c.toNat < 0xD800 ∨ 0xDFFF < c.toNat ∧ c.toNat < 0x110000 := c.valid

theorem flatMap_units_inj (cs ds : List Char) (same : cs.flatMap units = ds.flatMap units) :
    cs = ds := by
  induction cs generalizing ds with
  | nil =>
    cases ds with
    | nil => rfl
    | cons d ds =>
      simp only [flatMap_nil, flatMap_cons, units] at same
      split at same <;> simp at same
  | cons c cs ih =>
    cases ds with
    | nil =>
      simp only [flatMap_nil, flatMap_cons, units] at same
      split at same <;> simp at same
    | cons d ds =>
      have first := toNat_range c
      have second := toNat_range d
      have both : c.toNat = d.toNat ∧ cs.flatMap units = ds.flatMap units := by
        simp only [flatMap_cons] at same
        rw [units, units] at same
        -- a surrogate is no character of the basic plane
        split at same <;> split at same <;>
          simp only [cons_append, nil_append, List.cons.injEq] at same
        · exact same
        · omega
        · omega
        · exact ⟨by omega, same.2.2⟩
      rw [Char.toNat_inj.mp both.1, ih ds both.2]

theorem encode_injective {a b : String} (same : encode a = encode b) : a = b :=
  String.toList_inj.mp (flatMap_units_inj _ _ same)

theorem Le.total (a b : String) : Le a b ∨ Le b a := le_total (encode a) (encode b)

theorem Le.trans (a b c : String) (first : Le a b) (second : Le b c) : Le a c :=
  le_trans first second

theorem Le.antisymm {a b : String} (first : Le a b) (second : Le b a) : a = b :=
  encode_injective (le_antisymm first second)

section Sorting

variable {α : Type} (key : α → String)

theorem pairwise_insertionSort (rows : List α) :
    (rows.insertionSort fun a b => Le (key a) (key b)).Pairwise fun a b => Le (key a) (key b) := by
  have total : Std.Total fun a b : α => Le (key a) (key b) := ⟨fun a b => Le.total (key a) (key b)⟩
  have transitive : IsTrans α fun a b => Le (key a) (key b) :=
    ⟨fun a b c => Le.trans (key a) (key b) (key c)⟩
  exact List.pairwise_insertionSort _ rows

theorem insertionSort_eq {rows rows' : List α} (distinct : (rows.map key).Nodup)
    (same : rows.Perm rows') :
    rows.insertionSort (fun a b => Le (key a) (key b)) =
      rows'.insertionSort (fun a b => Le (key a) (key b)) := by
  refine List.Perm.eq_of_pairwise ?_ (pairwise_insertionSort key rows)
    (pairwise_insertionSort key rows')
    ((perm_insertionSort _ _).trans (same.trans (perm_insertionSort _ _).symm))
  intro a b memberA memberB before after
  exact inj_on_of_nodup_map distinct ((mem_insertionSort _).mp memberA)
    (same.mem_iff.mpr ((mem_insertionSort _).mp memberB))
    (Le.antisymm before after)

end Sorting

end TridentPos.Library.Utf16
