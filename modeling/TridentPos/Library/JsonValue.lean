import TridentPos.Library.JsonText

/-!
# JSON values

The compact text of a JSON value, member by member in the order the value lists them. A text is
delimited by its own brackets and quotes, and a number by what may follow it, so the text determines
the value. The type of numbers and their texts are parameters.
-/
namespace TridentPos.Library

inductive Json (ν : Type) where
  | null
  | bool (value : Bool)
  | number (value : ν)
  | string (text : String)
  | array (items : List (Json ν))
  | object (members : List (String × Json ν))

namespace Json

open JsonText List

variable {ν : Type}

/-! ### The text -/

section Text

variable (format : ν → List Char)

mutual

def chars : Json ν → List Char
  | .null => ['n', 'u', 'l', 'l']
  | .bool true => ['t', 'r', 'u', 'e']
  | .bool false => ['f', 'a', 'l', 's', 'e']
  | .number value => format value
  | .string text => quoteChars text.toList
  | .array items => '[' :: itemChars items
  | .object members => '{' :: memberChars members

def itemChars : List (Json ν) → List Char
  | [] => [']']
  | item :: rest => chars item ++ laterItems rest

def laterItems : List (Json ν) → List Char
  | [] => [']']
  | item :: rest => ',' :: (chars item ++ laterItems rest)

def memberChars : List (String × Json ν) → List Char
  | [] => ['}']
  | (key, value) :: rest => quoteChars key.toList ++ ':' :: (chars value ++ laterMembers rest)

def laterMembers : List (String × Json ν) → List Char
  | [] => ['}']
  | (key, value) :: rest =>
    ',' :: (quoteChars key.toList ++ ':' :: (chars value ++ laterMembers rest))

end

def stringify (value : Json ν) : String := String.ofList (chars format value)

end Text

/-! ### The text determines the value -/

def isNumberChar (c : Char) : Bool :=
  c.isDigit || c == '-' || c == '+' || c == '.' || c == 'e' || c == 'E'

/-- What number texts need: they can be told apart, and from everything around them. -/
structure NumberTexts (format : ν → List Char) : Prop where
  injective : ∀ a b, format a = format b → a = b
  notEmpty : ∀ a, format a ≠ []
  numberChars : ∀ a, ∀ c ∈ format a, isNumberChar c

def Ends (rest : List Char) : Prop := ∀ c ∈ rest.head?, isNumberChar c = false

section Injective

variable {format : ν → List Char} (texts : NumberTexts format)

include texts

theorem number_head {a : ν} {rest more : List Char} {c : Char}
    (same : format a ++ rest = c :: more) :
    isNumberChar c := by
  obtain ⟨d, later, isText⟩ := exists_cons_of_ne_nil (texts.notEmpty a)
  rw [isText, cons_append, List.cons.injEq] at same
  exact same.1 ▸ texts.numberChars a d (isText ▸ mem_cons_self)

theorem takeWhile_number (a : ν) {rest : List Char} (ends : Ends rest) :
    (format a ++ rest).takeWhile isNumberChar = format a := by
  rw [takeWhile_append_of_pos (texts.numberChars a)]
  cases rest with
  | nil => simp
  | cons c rest => simp [ends c rfl]

theorem number_inj {a b : ν} {rest more : List Char} (ends : Ends rest) (ends' : Ends more)
    (same : format a ++ rest = format b ++ more) : a = b ∧ rest = more := by
  have taken := congrArg (List.takeWhile isNumberChar) same
  rw [takeWhile_number texts a ends, takeWhile_number texts b ends'] at taken
  obtain rfl := texts.injective a b taken
  exact ⟨rfl, append_cancel_left same⟩

theorem number_ne (a : ν) (rest more : List Char) (b : Json ν)
    (other : ∀ value, b ≠ .number value) : format a ++ rest ≠ chars format b ++ more := by
  intro same
  have leads (c : Char) (later : List Char) (isText : chars format b = c :: later)
      (notNumber : isNumberChar c = false) : False := by
    rw [isText] at same
    rw [number_head texts same] at notNumber
    exact Bool.noConfusion notNumber
  cases b with
  | null | string text | array items | object members => exact leads _ _ rfl (by decide)
  | bool value => cases value <;> exact leads _ _ rfl (by decide)
  | number value => exact other value rfl

omit texts in
theorem ends_cons {c : Char} (rest : List Char) (notNumber : isNumberChar c = false) :
    Ends (c :: rest) := by
  intro d isHead
  obtain rfl : c = d := by simpa using isHead
  exact notNumber

omit texts in
theorem ends_laterItems (items : List (Json ν)) (rest : List Char) :
    Ends (laterItems format items ++ rest) := by
  cases items <;> exact ends_cons _ (by decide)

omit texts in
theorem ends_laterMembers (members : List (String × Json ν)) (rest : List Char) :
    Ends (laterMembers format members ++ rest) := by
  rcases members with _ | ⟨⟨key, value⟩, members⟩ <;> exact ends_cons _ (by decide)

theorem chars_ne_close (a : Json ν) (rest more : List Char) {c : Char}
    (closes : c = ']' ∨ c = '}') :
    chars format a ++ rest ≠ c :: more := by
  intro same
  cases a with
  | number value =>
    have number := number_head texts same
    rcases closes with rfl | rfl <;> exact absurd number (by decide)
  | bool value => cases value <;> rcases closes with rfl | rfl <;> simp [chars] at same
  | _ => rcases closes with rfl | rfl <;> simp [chars, quoteChars] at same

theorem laterItems_of_itemChars (a b : List (Json ν)) (rest more : List Char)
    (same : itemChars format a ++ rest = itemChars format b ++ more) :
    laterItems format a ++ rest = laterItems format b ++ more := by
  cases a <;> cases b <;> simp only [itemChars, append_assoc] at same
  case nil.cons => exact absurd same.symm (chars_ne_close texts _ _ _ (.inl rfl))
  case cons.nil => exact absurd same (chars_ne_close texts _ _ _ (.inl rfl))
  all_goals simpa [laterItems] using same

omit texts in
theorem laterMembers_of_memberChars (a b : List (String × Json ν)) (rest more : List Char)
    (same : memberChars format a ++ rest = memberChars format b ++ more) :
    laterMembers format a ++ rest = laterMembers format b ++ more := by
  rcases a with _ | ⟨⟨key, value⟩, a⟩ <;> rcases b with _ | ⟨⟨key', value'⟩, b⟩
  case nil.nil => exact same
  case cons.cons => exact congrArg (',' :: ·) same
  all_goals simp [memberChars, quoteChars] at same

set_option linter.unusedSectionVars false

mutual

theorem chars_append_inj : (a b : Json ν) → (rest more : List Char) → Ends rest → Ends more →
    chars format a ++ rest = chars format b ++ more → a = b ∧ rest = more
  | .number value, b, rest, more, ends, ends', same => by
    by_cases numeric : ∃ other, b = .number other
    · obtain ⟨other, rfl⟩ := numeric
      obtain ⟨rfl, others⟩ := number_inj texts ends ends' same
      exact ⟨rfl, others⟩
    · exact absurd same (number_ne texts value rest more b fun other isNumber =>
        numeric ⟨other, isNumber⟩)
  | .null, b, rest, more, _, _, same => by
    cases b with
    | number value => exact absurd same.symm (number_ne texts value more rest .null (by simp))
    | null => simpa [chars] using same
    | bool value => cases value <;> simp [chars] at same
    | _ => simp [chars, quoteChars] at same
  | .bool value, b, rest, more, _, _, same => by
    cases b with
    | number other => exact absurd same.symm (number_ne texts other more rest (.bool value) (by simp))
    | bool other => cases value <;> cases other <;> simp_all [chars]
    | _ => cases value <;> simp [chars, quoteChars] at same
  | .string text, b, rest, more, _, _, same => by
    cases b with
    | number value => exact absurd same.symm (number_ne texts value more rest (.string text) (by simp))
    | string other =>
      obtain ⟨texts, rests⟩ := quoteChars_append_inj text.toList other.toList rest more same
      exact ⟨by rw [String.toList_inj.mp texts], rests⟩
    | bool value => cases value <;> simp [chars, quoteChars] at same
    | _ => simp [chars, quoteChars] at same
  | .array items, .array others, rest, more, _, _, same => by
    have inside : itemChars format items ++ rest = itemChars format others ++ more := by
      simpa [chars] using same
    obtain ⟨rfl, rests⟩ := laterItems_inj items others rest more
      (laterItems_of_itemChars texts items others rest more inside)
    exact ⟨rfl, rests⟩
  | .object members, .object others, rest, more, _, _, same => by
    have inside : memberChars format members ++ rest = memberChars format others ++ more := by
      simpa [chars] using same
    obtain ⟨rfl, rests⟩ := laterMembers_inj members others rest more
      (laterMembers_of_memberChars members others rest more inside)
    exact ⟨rfl, rests⟩
  | .array items, .null, rest, more, _, _, same
  | .array items, .bool true, rest, more, _, _, same
  | .array items, .bool false, rest, more, _, _, same
  | .array items, .string _, rest, more, _, _, same
  | .array items, .object _, rest, more, _, _, same
  | .object items, .null, rest, more, _, _, same
  | .object items, .bool true, rest, more, _, _, same
  | .object items, .bool false, rest, more, _, _, same
  | .object items, .string _, rest, more, _, _, same
  | .object items, .array _, rest, more, _, _, same => by
    simp [chars, quoteChars] at same
  | .array items, .number value, rest, more, _, _, same =>
    absurd same.symm (number_ne texts value more rest (.array items) (by simp))
  | .object members, .number value, rest, more, _, _, same =>
    absurd same.symm (number_ne texts value more rest (.object members) (by simp))

theorem laterItems_inj : (a b : List (Json ν)) → (rest more : List Char) →
    laterItems format a ++ rest = laterItems format b ++ more → a = b ∧ rest = more
  | [], [], rest, more, same => by simpa [laterItems] using same
  | [], _ :: _, rest, more, same => by simp [laterItems] at same
  | _ :: _, [], rest, more, same => by simp [laterItems] at same
  | item :: items, other :: others, rest, more, same => by
    simp only [laterItems, cons_append, List.cons.injEq, true_and, append_assoc] at same
    obtain ⟨rfl, later⟩ := chars_append_inj item other _ _ (ends_laterItems items rest)
      (ends_laterItems others more) same
    obtain ⟨rfl, rests⟩ := laterItems_inj items others rest more later
    exact ⟨rfl, rests⟩

theorem laterMembers_inj : (a b : List (String × Json ν)) → (rest more : List Char) →
    laterMembers format a ++ rest = laterMembers format b ++ more → a = b ∧ rest = more
  | [], [], rest, more, same => by simpa [laterMembers] using same
  | [], (_, _) :: _, rest, more, same => by simp [laterMembers] at same
  | (_, _) :: _, [], rest, more, same => by simp [laterMembers] at same
  | (key, value) :: members, (key', value') :: others, rest, more, same => by
    simp only [laterMembers, append_assoc, cons_append, List.cons.injEq, true_and] at same
    obtain ⟨keys, colon⟩ := quoteChars_append_inj key.toList key'.toList _ _ same
    simp only [List.cons.injEq, true_and] at colon
    obtain ⟨rfl, later⟩ := chars_append_inj value value' _ _ (ends_laterMembers members rest)
      (ends_laterMembers others more) colon
    obtain ⟨rfl, rests⟩ := laterMembers_inj members others rest more later
    exact ⟨by rw [String.toList_inj.mp keys], rests⟩

end

theorem stringify_inj (a b : Json ν) (same : stringify format a = stringify format b) : a = b := by
  have chars : chars format a ++ [] = chars format b ++ [] := by
    simpa [stringify] using congrArg String.toList same
  exact (chars_append_inj texts a b [] [] (by simp [Ends]) (by simp [Ends]) chars).1

end Injective

end Json

end TridentPos.Library
