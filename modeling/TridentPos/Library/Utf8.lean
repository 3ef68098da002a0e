import Mathlib.Data.List.Basic

/-!
# UTF-8 with replacement

Decoding bytes that need not be UTF-8: a sequence that breaks off is read as one replacement
character, and decoding goes on at the byte that broke it. Encoding is that of the standard
library.
-/
namespace TridentPos.Library.Utf8

def replacement : Char := Char.ofNat 0xFFFD

/-- The bytes a first byte calls for: how many, the bounds of the next one, and its own bits. -/
def leading (b : Nat) : Option (Nat × Nat × Nat × Nat) :=
  if 0xC2 ≤ b ∧ b ≤ 0xDF then some (1, 0x80, 0xBF, b - 0xC0)
  else if b = 0xE0 then some (2, 0xA0, 0xBF, 0)
  else if b = 0xED then some (2, 0x80, 0x9F, 0xD)
  else if 0xE1 ≤ b ∧ b ≤ 0xEF then some (2, 0x80, 0xBF, b - 0xE0)
  else if b = 0xF0 then some (3, 0x90, 0xBF, 0)
  else if 0xF1 ≤ b ∧ b ≤ 0xF3 then some (3, 0x80, 0xBF, b - 0xF0)
  else if b = 0xF4 then some (3, 0x80, 0x8F, 4)
  else none

/-- The rest of a character: as many bytes as are owed, the next one within its bounds. -/
def continuation : Nat → Nat → Nat → Nat → List UInt8 → Char × List UInt8
  | 0, _, _, bits, bytes => (Char.ofNat bits, bytes)
  | _ + 1, _, _, _, [] => (replacement, [])
  | owed + 1, lower, upper, bits, b :: bytes =>
    if lower ≤ b.toNat ∧ b.toNat ≤ upper then
      continuation owed 0x80 0xBF (bits * 64 + (b.toNat - 0x80)) bytes
    else (replacement, b :: bytes)

theorem continuation_length (owed lower upper bits : Nat) (bytes : List UInt8) :
    (continuation owed lower upper bits bytes).2.length ≤ bytes.length := by
  induction owed generalizing lower upper bits bytes with
  | zero => exact Nat.le_refl _
  | succ owed ih =>
    cases bytes with
    | nil => exact Nat.le_refl _
    | cons b bytes =>
      simp only [continuation]
      split
      next => exact Nat.le_trans (ih _ _ _ bytes) (Nat.le_succ _)
      next => exact Nat.le_refl _

def decode : List UInt8 → List Char
  | [] => []
  | b :: bytes =>
    if b.toNat < 0x80 then Char.ofNat b.toNat :: decode bytes
    else
      match leading b.toNat with
      | none => replacement :: decode bytes
      | some (owed, lower, upper, bits) =>
        let next := continuation owed lower upper bits bytes
        next.1 :: decode next.2
termination_by bytes => bytes.length
decreasing_by
  · simp
  · simp
  · exact Nat.lt_succ_of_le (continuation_length ..)

def encode (chars : List Char) : List UInt8 := chars.flatMap String.utf8EncodeChar

def WellFormed (bytes : List UInt8) : Prop := ∃ chars, encode chars = bytes

/-! ### Decoding what was encoded -/

theorem toNat_ofNat (n : Nat) (small : n < 256) : (UInt8.ofNat n).toNat = n := by
  rw [UInt8.toNat_ofNat']
  exact Nat.mod_eq_of_lt small

theorem continuation_succ {owed lower upper bits low : Nat} {bytes : List UInt8} (small : low < 64)
    (above : lower ≤ low + 128) (below : low + 128 ≤ upper) :
    continuation (owed + 1) lower upper bits (UInt8.ofNat (low + 128) :: bytes) =
      continuation owed 0x80 0xBF (bits * 64 + low) bytes := by
  have byte := toNat_ofNat (low + 128) (by omega)
  simp only [continuation, byte, if_pos (And.intro above below), Nat.add_sub_cancel]

theorem decode_leading {b owed lower upper bits : Nat} (bytes : List UInt8) (small : b < 256)
    (multi : 0x80 ≤ b) (leads : leading b = some (owed, lower, upper, bits)) :
    decode (UInt8.ofNat b :: bytes) =
      (continuation owed lower upper bits bytes).1 ::
        decode (continuation owed lower upper bits bytes).2 := by
  rw [decode, toNat_ofNat b small, if_neg (by omega), leads]

/-- The first of three bytes bounds the second: no shorter form and no surrogate. -/
theorem leading_three {v : Nat} (long : 2047 < v) (short : v ≤ 65535)
    (valid : v < 0xD800 ∨ 0xDFFF < v) :
    ∃ lower upper, leading (v / 4096 % 16 + 224) = some (2, lower, upper, v / 4096) ∧
      lower ≤ v / 64 % 64 + 128 ∧ v / 64 % 64 + 128 ≤ upper := by
  rw [leading, if_neg (by omega)]
  split
  next first => exact ⟨_, _, by rw [show v / 4096 = 0 by omega], by omega, by omega⟩
  split
  next surrogates => exact ⟨_, _, by rw [show v / 4096 = 0xD by omega], by omega, by omega⟩
  next =>
    rw [if_pos (by omega), show v / 4096 % 16 + 224 - 0xE0 = v / 4096 by omega]
    exact ⟨_, _, rfl, by omega, by omega⟩

/-- The first of four bytes bounds the second: no shorter form and nothing past U+10FFFF. -/
theorem leading_four (v : Nat) (long : 65535 < v) (valid : v < 0x110000) :
    ∃ lower upper, leading (v / 262144 % 8 + 240) = some (3, lower, upper, v / 262144) ∧
      lower ≤ v / 4096 % 64 + 128 ∧ v / 4096 % 64 + 128 ≤ upper := by
  rw [leading, if_neg (by omega), if_neg (by omega), if_neg (by omega), if_neg (by omega)]
  split
  next first => exact ⟨_, _, by rw [show v / 262144 = 0 by omega], by omega, by omega⟩
  split
  next middle =>
    rw [show v / 262144 % 8 + 240 - 0xF0 = v / 262144 by omega]
    exact ⟨_, _, rfl, by omega, by omega⟩
  next =>
    rw [if_pos (by omega), show v / 262144 = 4 by omega]
    exact ⟨_, _, rfl, by omega, by omega⟩

theorem decode_encodeChar (c : Char) (bytes : List UInt8) :
    decode (String.utf8EncodeChar c ++ bytes) = c :: decode bytes := by
  have value : Char.ofNat c.val.toNat = c := Char.ofNat_toNat c
  have valid : c.val.toNat < 0xD800 ∨ (0xDFFF < c.val.toNat ∧ c.val.toNat < 0x110000) := c.valid
  unfold String.utf8EncodeChar
  generalize c.val.toNat = v at value valid
  simp only
  split
  next one =>
    rw [List.singleton_append, decode, toNat_ofNat v (by omega), if_pos (by omega), value]
  split
  next two =>
    have leads : leading (v / 64 % 32 + 192) = some (1, 0x80, 0xBF, v / 64) := by
      rw [leading, if_pos (by omega), show v / 64 % 32 + 192 - 0xC0 = v / 64 by omega]
    rw [List.cons_append, decode_leading _ (by omega) (by omega) leads,
      List.singleton_append, continuation_succ (by omega) (by omega) (by omega),
      show v / 64 * 64 + v % 64 = v by omega, continuation, value]
  split
  next three =>
    obtain ⟨lower, upper, leads, above, below⟩ := leading_three (by omega) three (by omega)
    rw [List.cons_append, decode_leading _ (by omega) (by omega) leads,
      List.cons_append, continuation_succ (by omega) above below,
      List.singleton_append, continuation_succ (by omega) (by omega) (by omega),
      show (v / 4096 * 64 + v / 64 % 64) * 64 + v % 64 = v by omega, continuation, value]
  obtain ⟨lower, upper, leads, above, below⟩ := leading_four v (by omega) (by omega)
  rw [List.cons_append, decode_leading _ (by omega) (by omega) leads,
    List.cons_append, continuation_succ (by omega) above below,
    List.cons_append, continuation_succ (by omega) (by omega) (by omega),
    List.singleton_append, continuation_succ (by omega) (by omega) (by omega),
    show ((v / 262144 * 64 + v / 4096 % 64) * 64 + v / 64 % 64) * 64 + v % 64 = v by omega,
    continuation, value]

theorem decode_encode (chars : List Char) : decode (encode chars) = chars := by
  induction chars with
  | nil => rw [encode, List.flatMap_nil, decode]
  | cons c chars ih =>
    rw [encode, List.flatMap_cons, decode_encodeChar]
    exact congrArg (c :: ·) ih

theorem encode_decode_iff (bytes : List UInt8) :
    encode (decode bytes) = bytes ↔ WellFormed bytes := by
  constructor
  · intro same
    exact ⟨decode bytes, same⟩
  · rintro ⟨chars, rfl⟩
    rw [decode_encode]

end TridentPos.Library.Utf8
