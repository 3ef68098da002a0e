import Mathlib.Data.List.Basic

/-!
# Reading the attributes of an XML text

A document written tag by tag, and an automaton that reads its start tags back from the characters.
The automaton resolves the predefined entities, normalises the values as XML readers do and keeps the
path of open elements, so an attribute is found by where it stands. Names and attribute texts carry
what the reading needs of them.
-/
namespace TridentPos.Library.XmlText

/-! ### Entities -/

def isMarkup (c : Char) : Bool := c == '&' || c == '<' || c == '>' || c == '"' || c == '\''

def escapeChar (c : Char) : List Char :=
  if c = '&' then ['&', 'a', 'm', 'p', ';']
  else if c = '<' then ['&', 'l', 't', ';']
  else if c = '>' then ['&', 'g', 't', ';']
  else if c = '"' then ['&', 'q', 'u', 'o', 't', ';']
  else if c = '\'' then ['&', 'a', 'p', 'o', 's', ';']
  else [c]

def unescape : List Char → List Char
  | '&' :: 'a' :: 'm' :: 'p' :: ';' :: rest => '&' :: unescape rest
  | '&' :: 'l' :: 't' :: ';' :: rest => '<' :: unescape rest
  | '&' :: 'g' :: 't' :: ';' :: rest => '>' :: unescape rest
  | '&' :: 'q' :: 'u' :: 'o' :: 't' :: ';' :: rest => '"' :: unescape rest
  | '&' :: 'a' :: 'p' :: 'o' :: 's' :: ';' :: rest => '\'' :: unescape rest
  | c :: rest => c :: unescape rest
  | [] => []

theorem unescape_cons (c : Char) (rest : List Char) (other : c ≠ '&') :
    unescape (c :: rest) = c :: unescape rest := by
  rw [unescape]
  all_goals simp [other]

theorem unescape_escapeChar (c : Char) (rest : List Char) :
    unescape (escapeChar c ++ rest) = c :: unescape rest := by
  unfold escapeChar
  split
  next ampersand => simp [ampersand, unescape]
  next notAmpersand =>
    split
    next less => simp [less, unescape]
    split
    next greater => simp [greater, unescape]
    split
    next quote => simp [quote, unescape]
    split
    next apostrophe => simp [apostrophe, unescape]
    next => exact unescape_cons c rest notAmpersand

theorem unescape_escape (chars : List Char) : unescape (chars.flatMap escapeChar) = chars := by
  induction chars with
  | nil => rfl
  | cons c rest ih => rw [List.flatMap_cons, unescape_escapeChar, ih]

theorem unescape_plain (chars : List Char) (plain : ∀ c ∈ chars, isMarkup c = false) :
    unescape chars = chars := by
  induction chars with
  | nil => rfl
  | cons c rest ih =>
    have other : c ≠ '&' := by
      rintro rfl
      simpa [isMarkup] using plain '&' List.mem_cons_self
    rw [unescape_cons c rest other, ih fun d member => plain d (List.mem_cons_of_mem _ member)]

/-! ### White space in attributes -/

def isBreak (c : Char) : Bool := c == '\t' || c == '\n' || c == '\r'

def isXmlChar (c : Char) : Bool :=
  isBreak c || 0x20 ≤ c.toNat && c.toNat != 0xFFFE && c.toNat != 0xFFFF

theorem isBreak_eq_false {p : Char → Bool} {c : Char} (holds : p c)
    (excluded : ['\t', '\n', '\r'].all (fun c => !p c)) : isBreak c = false := by
  by_contra broken
  have listed : c ∈ ['\t', '\n', '\r'] := by
    simp [isBreak] at broken
    grind
  simpa [holds] using List.all_eq_true.mp excluded c listed

/-- Every break is read as a blank, and the two characters that end a line as one. -/
def normalize : List Char → List Char
  | '\r' :: '\n' :: rest => ' ' :: normalize rest
  | c :: rest => (if isBreak c then ' ' else c) :: normalize rest
  | [] => []

theorem isBreak_of_mem_normalize (chars : List Char) :
    ∀ c ∈ normalize chars, isBreak c = false := by
  fun_induction normalize chars with
  | case1 rest ih => simpa [isBreak] using ih
  | case2 c rest _ ih =>
    have blank : isBreak (if isBreak c then ' ' else c) = false := by
      split
      next => decide
      next kept => simpa using kept
    simpa [blank] using ih
  | case3 => simp

theorem normalize_of_unbroken (chars : List Char) (unbroken : ∀ c ∈ chars, isBreak c = false) :
    normalize chars = chars := by
  fun_induction normalize chars with
  | case1 rest ih => simp [isBreak] at unbroken
  | case2 c rest _ ih =>
    obtain ⟨kept, later⟩ := List.forall_mem_cons.mp unbroken
    simp [kept, ih later]
  | case3 => rfl

def normalized (text : String) : String := String.ofList (normalize text.toList)

theorem normalized_eq_self_iff {text : String} :
    normalized text = text ↔ ∀ c ∈ text.toList, isBreak c = false := by
  constructor
  · intro same c member
    rw [← same, normalized, String.toList_ofList] at member
    exact isBreak_of_mem_normalize _ c member
  · intro unbroken
    rw [normalized, normalize_of_unbroken _ unbroken, String.ofList_toList]

/-! ### Names and attribute texts -/

def isQuotable (c : Char) : Bool := c != '"' && c != '<'

def isNameChar (c : Char) : Bool :=
  !isMarkup c && c != ' ' && c != '\n' && c != '/' && c != '=' && c != '?'

/-- Characters checked one after the other; deciding the statement itself would run over all
characters there are. -/
theorem forall_of_all {p : Char → Prop} [DecidablePred p] {chars : List Char}
    (checked : chars.all (fun c => decide (p c))) : ∀ c ∈ chars, p c := by
  intro c member
  exact of_decide_eq_true (List.all_eq_true.mp checked c member)

structure Name where
  text : String
  notEmpty : text.toList ≠ [] := by decide +kernel
  nameChars : ∀ c ∈ text.toList, isNameChar c := by
    exact forall_of_all (by decide +kernel)

structure AttributeText where
  raw : String
  quotable : ∀ c ∈ raw.toList, isQuotable c := by
    exact forall_of_all (by decide +kernel)

structure CharacterData where
  text : String
  unmarked : ∀ c ∈ text.toList, isMarkup c = false := by
    exact forall_of_all (by decide +kernel)

def isPlain (c : Char) : Bool := !isMarkup c && !isBreak c

/-- A text that stands in an attribute as it is, such as a number, a date or base 64. -/
structure PlainText where
  text : String
  plain : ∀ c ∈ text.toList, isPlain c := by
    exact forall_of_all (by decide +kernel)

structure InstructionText where
  text : String
  inside : ∀ c ∈ text.toList, c ≠ '>' := by
    exact forall_of_all (by decide +kernel)

-- no predefined entity stands for a break, so the values may be normalised after resolving them
def AttributeText.value (quoted : AttributeText) : String :=
  String.ofList (normalize (unescape quoted.raw.toList))

def PlainText.quoted (plain : PlainText) : AttributeText where
  raw := plain.text
  quotable c member := by
    have none := plain.plain c member
    simp [isPlain, isMarkup] at none
    simp [isQuotable, none]

theorem PlainText.normalized_text (plain : PlainText) : normalized plain.text = plain.text := by
  refine normalized_eq_self_iff.mpr fun c member => ?_
  have kept := plain.plain c member
  simp only [isPlain, Bool.and_eq_true, Bool.not_eq_true'] at kept
  exact kept.2

@[simp] theorem PlainText.quoted_value (plain : PlainText) :
    plain.quoted.value = normalized plain.text := by
  have unmarked : ∀ c ∈ plain.text.toList, isMarkup c = false := by
    intro c member
    have kept := plain.plain c member
    simp only [isPlain, Bool.and_eq_true, Bool.not_eq_true'] at kept
    exact kept.1
  rw [AttributeText.value, PlainText.quoted, unescape_plain _ unmarked, normalized]

theorem isQuotable_escapeChar {c d : Char} (member : d ∈ escapeChar c) : isQuotable d := by
  have literal (chars : List Char) (all : ∀ d ∈ chars, isQuotable d) (member : d ∈ chars) :=
    all d member
  unfold escapeChar at member
  split at member
  next => exact literal _ (forall_of_all (by decide)) member
  split at member
  next => exact literal _ (forall_of_all (by decide)) member
  split at member
  next => exact literal _ (forall_of_all (by decide)) member
  split at member
  next => exact literal _ (forall_of_all (by decide)) member
  split at member
  next => exact literal _ (forall_of_all (by decide)) member
  next _ less _ quote _ =>
    obtain rfl : d = c := by simpa using member
    simp [isQuotable, quote, less]

/-! ### Documents -/

abbrev Attributes := List (Name × AttributeText)

inductive Piece where
  | declaration (content : InstructionText)
  | text (content : CharacterData)
  | start (name : Name) (attributes : Attributes)
  | empty (name : Name) (attributes : Attributes)
  | close (name : Name)

def attributeChars (pair : Name × AttributeText) : List Char :=
  ' ' :: (pair.1.text.toList ++ '=' :: '"' :: (pair.2.raw.toList ++ ['"']))

def Piece.chars : Piece → List Char
  | .declaration content => '<' :: '?' :: (content.text.toList ++ ['>'])
  | .text content => content.text.toList
  | .start name attributes =>
    '<' :: (name.text.toList ++ (attributes.flatMap attributeChars ++ ['>']))
  | .empty name attributes =>
    '<' :: (name.text.toList ++ (attributes.flatMap attributeChars ++ ['/', '>']))
  | .close name => '<' :: '/' :: (name.text.toList ++ ['>'])

def write (pieces : List Piece) : String := String.ofList (pieces.flatMap Piece.chars)

/-! ### The reader -/

structure StartTag where
  path : List String
  attributes : List (String × String)

inductive Mode where
  | text
  | opened
  | instruction
  | closing (name : List Char)
  | name (name : List Char)
  | inside (name : List Char) (attributes : List (String × String))
  | key (name : List Char) (attributes : List (String × String)) (key : List Char)
  | assigned (name : List Char) (attributes : List (String × String)) (key : List Char)
  | value (name : List Char) (attributes : List (String × String)) (key raw : List Char)
  | slash (name : List Char) (attributes : List (String × String))
deriving DecidableEq

structure Reader where
  mode : Mode
  path : List String
  tags : List StartTag

def Reader.goTo (reader : Reader) (mode : Mode) : Reader := { reader with mode := mode }

def Reader.descend (reader : Reader) (name : List Char) (attributes : List (String × String)) :
    Reader :=
  let path := reader.path ++ [String.ofList name]
  ⟨.text, path, reader.tags ++ [⟨path, attributes⟩]⟩

def Reader.pass (reader : Reader) (name : List Char) (attributes : List (String × String)) :
    Reader :=
  ⟨.text, reader.path, reader.tags ++ [⟨reader.path ++ [String.ofList name], attributes⟩]⟩

def Reader.step (reader : Reader) (c : Char) : Option Reader :=
  match reader.mode with
  | .text => some (if c = '<' then reader.goTo .opened else reader)
  | .opened =>
    if c = '?' then some (reader.goTo .instruction)
    else if c = '/' then some (reader.goTo (.closing []))
    else if isNameChar c then some (reader.goTo (.name [c]))
    else none
  | .instruction => some (if c = '>' then reader.goTo .text else reader)
  | .closing name =>
    if c = '>' then
      if reader.path.getLast? = some (String.ofList name) then
        some ⟨.text, reader.path.dropLast, reader.tags⟩
      else none
    else some (reader.goTo (.closing (name ++ [c])))
  | .name name =>
    if c = ' ' ∨ c = '\n' then some (reader.goTo (.inside name []))
    else if c = '>' then some (reader.descend name [])
    else if c = '/' then some (reader.goTo (.slash name []))
    else some (reader.goTo (.name (name ++ [c])))
  | .inside name attributes =>
    if c = ' ' ∨ c = '\n' then some reader
    else if c = '>' then some (reader.descend name attributes)
    else if c = '/' then some (reader.goTo (.slash name attributes))
    else some (reader.goTo (.key name attributes [c]))
  | .key name attributes key =>
    if c = '=' then some (reader.goTo (.assigned name attributes key))
    else some (reader.goTo (.key name attributes (key ++ [c])))
  | .assigned name attributes key =>
    if c = '"' then some (reader.goTo (.value name attributes key [])) else none
  | .value name attributes key raw =>
    if c = '"' then
      some (reader.goTo (.inside name
        (attributes ++ [(String.ofList key, String.ofList (normalize (unescape raw)))])))
    else if c = '<' then none
    else some (reader.goTo (.value name attributes key (raw ++ [c])))
  | .slash name attributes => if c = '>' then some (reader.pass name attributes) else none

open Reader List

def startTags (text : String) : Option (List StartTag) := do
  let reader ← text.toList.foldlM step ⟨.text, [], []⟩
  if reader.mode = .text ∧ reader.path = [] then some reader.tags else none

/-! ### What is written is read -/

structure Outline where
  path : List String
  tags : List StartTag

def Outline.reader (outline : Outline) : Reader := ⟨.text, outline.path, outline.tags⟩

def attributeValues (attributes : Attributes) : List (String × String) :=
  attributes.map fun pair => (pair.1.text, pair.2.value)

def Piece.read (outline : Outline) : Piece → Option Outline
  | .declaration _ => some outline
  | .text _ => some outline
  | .start name attributes =>
    let path := outline.path ++ [name.text]
    some ⟨path, outline.tags ++ [⟨path, attributeValues attributes⟩]⟩
  | .empty name attributes =>
    some ⟨outline.path, outline.tags ++ [⟨outline.path ++ [name.text], attributeValues attributes⟩]⟩
  | .close name =>
    if outline.path.getLast? = some name.text then some ⟨outline.path.dropLast, outline.tags⟩
    else none

open Outline

section Reading

variable (path : List String) (tags : List StartTag)

theorem collect (mode : List Char → Mode) (kept : Char → Prop) (collects : ∀ acc c, kept c →
      step ⟨mode acc, path, tags⟩ c = some ⟨mode (acc ++ [c]), path, tags⟩)
    (chars acc : List Char) (all : ∀ c ∈ chars, kept c) :
    chars.foldlM step ⟨mode acc, path, tags⟩ = some ⟨mode (acc ++ chars), path, tags⟩ := by
  induction chars generalizing acc with
  | nil => simp
  | cons c rest ih =>
    rw [foldlM_cons, collects acc c (all c mem_cons_self)]
    simpa using ih (acc ++ [c]) fun d member => all d (mem_cons_of_mem _ member)

theorem skip (reader : Reader) {kept : Char → Prop}
    (skips : ∀ c, kept c → step reader c = some reader)
    {chars : List Char} (all : ∀ c ∈ chars, kept c) :
    chars.foldlM step reader = some reader := by
  induction chars with
  | nil => rfl
  | cons c rest ih =>
    rw [foldlM_cons, skips c (all c mem_cons_self)]
    exact ih fun d member => all d (mem_cons_of_mem _ member)

theorem isNameChar_iff (c : Char) : isNameChar c ↔
    isMarkup c = false ∧ c ≠ ' ' ∧ c ≠ '\n' ∧ c ≠ '/' ∧ c ≠ '=' ∧ c ≠ '?' := by
  simp [isNameChar]
  tauto

theorem isMarkup_iff (c : Char) : isMarkup c = false ↔
    c ≠ '&' ∧ c ≠ '<' ∧ c ≠ '>' ∧ c ≠ '"' ∧ c ≠ '\'' := by
  simp [isMarkup]
  tauto

theorem read_name (name : Name) :
    ('<' :: name.text.toList).foldlM Reader.step ⟨.text, path, tags⟩ =
      some ⟨.name name.text.toList, path, tags⟩ := by
  obtain ⟨text, notEmpty, nameChars⟩ := name
  obtain ⟨c, rest, isText⟩ := exists_cons_of_ne_nil notEmpty
  rw [isText] at nameChars ⊢
  have first := nameChars c mem_cons_self
  obtain ⟨-, -, -, notSlash, -, notQuestion⟩ := (isNameChar_iff c).mp first
  have opens : ['<', c].foldlM Reader.step ⟨.text, path, tags⟩ = some ⟨.name [c], path, tags⟩ := by
    simp [Reader.step, Reader.goTo, notSlash, notQuestion, first]
  have later := collect path tags .name (fun d => isNameChar d) (by
    intro acc d kept
    obtain ⟨plain, notBlank, notBreak, notSlash, -, -⟩ := (isNameChar_iff d).mp kept
    obtain ⟨-, -, notEnd, -, -⟩ := (isMarkup_iff d).mp plain
    simp [Reader.step, Reader.goTo, notBlank, notBreak, notSlash, notEnd]) rest [c]
    fun d member => nameChars d (mem_cons_of_mem _ member)
  have both : '<' :: c :: rest = ['<', c] ++ rest := rfl
  rw [both, foldlM_append, opens]
  exact later

theorem read_key (name : List Char) (before : List (String × String)) (key : Name) :
    key.text.toList.foldlM Reader.step ⟨.inside name before, path, tags⟩ =
      some ⟨.key name before key.text.toList, path, tags⟩ := by
  obtain ⟨text, notEmpty, nameChars⟩ := key
  obtain ⟨c, rest, isText⟩ := exists_cons_of_ne_nil notEmpty
  rw [isText] at nameChars ⊢
  obtain ⟨plain, notBlank, notBreak, notSlash, -, -⟩ :=
    (isNameChar_iff c).mp (nameChars c mem_cons_self)
  obtain ⟨-, -, notEnd, -, -⟩ := (isMarkup_iff c).mp plain
  have begins : Reader.step ⟨.inside name before, path, tags⟩ c =
      some ⟨.key name before [c], path, tags⟩ := by
    simp [Reader.step, Reader.goTo, notBlank, notBreak, notSlash, notEnd]
  rw [foldlM_cons, begins]
  exact collect path tags (.key name before) (fun d => isNameChar d) (by
    intro acc d kept
    obtain ⟨-, -, -, -, notEquals, -⟩ := (isNameChar_iff d).mp kept
    simp [Reader.step, Reader.goTo, notEquals]) rest [c]
    fun d member => nameChars d (mem_cons_of_mem _ member)

theorem read_value (name : List Char) (before : List (String × String)) (key : List Char)
    (quoted : AttributeText) :
    quoted.raw.toList.foldlM Reader.step ⟨.value name before key [], path, tags⟩ =
      some ⟨.value name before key quoted.raw.toList, path, tags⟩ := by
  refine collect path tags (.value name before key) (fun c => isQuotable c) ?_ _ []
    quoted.quotable
  intro acc c kept
  simp only [isQuotable, Bool.and_eq_true, bne_iff_ne] at kept
  simp [Reader.step, Reader.goTo, kept.1, kept.2]

theorem read_attribute (name : List Char) (before : List (String × String)) (mode : Mode)
    (between : mode = .inside name before ∨ mode = .name name ∧ before = [])
    (pair : Name × AttributeText) :
    (attributeChars pair).foldlM Reader.step ⟨mode, path, tags⟩ =
      some ⟨.inside name (before ++ [(pair.1.text, pair.2.value)]), path, tags⟩ := by
  have blank : Reader.step ⟨mode, path, tags⟩ ' ' = some ⟨.inside name before, path, tags⟩ := by
    rcases between with rfl | ⟨rfl, rfl⟩
    · simp [Reader.step]
    · simp [Reader.step, Reader.goTo]
  have equals : Reader.step ⟨.key name before pair.1.text.toList, path, tags⟩ '=' =
      some ⟨.assigned name before pair.1.text.toList, path, tags⟩ := by
    simp [Reader.step, Reader.goTo]
  have quote : Reader.step ⟨.assigned name before pair.1.text.toList, path, tags⟩ '"' =
      some ⟨.value name before pair.1.text.toList [], path, tags⟩ := by
    simp [step, goTo]
  rw [attributeChars, foldlM_cons, blank, Option.bind_eq_bind, Option.bind_some,
    foldlM_append, read_key, Option.bind_eq_bind, Option.bind_some, foldlM_cons, equals,
    Option.bind_eq_bind, Option.bind_some, foldlM_cons, quote, Option.bind_eq_bind,
    Option.bind_some, foldlM_append, read_value]
  simp [step, goTo, AttributeText.value]

theorem read_attributes (name : List Char) (before : List (String × String)) (mode : Mode)
    (between : mode = .inside name before ∨ mode = .name name ∧ before = [])
    (attributes : Attributes) :
    ∃ mode', (mode' = .inside name (before ++ attributeValues attributes) ∨
        mode' = .name name ∧ before ++ attributeValues attributes = []) ∧
      (attributes.flatMap attributeChars).foldlM step ⟨mode, path, tags⟩ =
        some ⟨mode', path, tags⟩ := by
  induction attributes generalizing before mode with
  | nil => exact ⟨mode, by simpa [attributeValues] using between, rfl⟩
  | cons pair rest ih =>
    obtain ⟨mode', between', read⟩ := ih (before ++ [(pair.1.text, pair.2.value)]) _ (.inl rfl)
    refine ⟨mode', by simpa [attributeValues] using between', ?_⟩
    rw [flatMap_cons, foldlM_append, read_attribute path tags name before mode between pair]
    exact read

theorem read_tag (name : Name) (attributes : Attributes) :
    ∃ mode, (mode = .inside name.text.toList (attributeValues attributes) ∨
        mode = .name name.text.toList ∧ attributeValues attributes = []) ∧
      ('<' :: (name.text.toList ++ attributes.flatMap attributeChars)).foldlM step
        ⟨.text, path, tags⟩ = some ⟨mode, path, tags⟩ := by
  obtain ⟨mode, between, read⟩ := read_attributes path tags name.text.toList [] _ (.inr ⟨rfl, rfl⟩)
    attributes
  refine ⟨mode, by simpa using between, ?_⟩
  rw [← cons_append, foldlM_append, read_name]
  exact read

theorem read_piece (outline : Outline) (piece : Piece) :
    piece.chars.foldlM step outline.reader = (piece.read outline).map reader := by
  cases piece with
  | declaration content =>
    have skipped := skip ⟨.instruction, outline.path, outline.tags⟩ (by
      intro c kept
      simp [step, kept]) content.inside
    simp [Piece.chars, Piece.read, reader, step, goTo, skipped]
  | text content =>
    exact skip outline.reader (by
      intro c kept
      obtain ⟨-, notOpen, -, -, -⟩ := (isMarkup_iff c).mp kept
      simp [step, reader, notOpen]) content.unmarked
  | start name attributes =>
    obtain ⟨mode, between, read⟩ := read_tag outline.path outline.tags name attributes
    rw [Piece.chars, ← append_assoc, ← cons_append, foldlM_append, reader, read]
    rcases between with rfl | ⟨rfl, none⟩
    · simp [Piece.read, step, descend, reader]
    · simp [Piece.read, step, descend, reader, none]
  | empty name attributes =>
    obtain ⟨mode, between, read⟩ := read_tag outline.path outline.tags name attributes
    rw [Piece.chars, ← append_assoc, ← cons_append, foldlM_append, reader, read]
    rcases between with rfl | ⟨rfl, none⟩
    · simp [Piece.read, step, goTo, Reader.pass, reader]
    · simp [Piece.read, step, goTo, Reader.pass, reader, none]
  | close name =>
    have collected := collect outline.path outline.tags .closing (fun c => isNameChar c) (by
      intro acc c kept
      obtain ⟨plain, -⟩ := (isNameChar_iff c).mp kept
      obtain ⟨-, -, notEnd, -, -⟩ := (isMarkup_iff c).mp plain
      simp [step, goTo, notEnd]) name.text.toList [] name.nameChars
    simp only [Piece.chars, reader, foldlM_cons, step, goTo, Piece.read,
      foldlM_append, collected, Option.bind_eq_bind, Option.bind_some, if_true,
      Char.reduceEq, if_false]
    split <;> simp_all [reader]

end Reading

theorem read_pieces (outline : Outline) (pieces : List Piece) :
    (pieces.flatMap Piece.chars).foldlM step outline.reader =
      (pieces.foldlM Piece.read outline).map reader := by
  induction pieces generalizing outline with
  | nil => rfl
  | cons piece rest ih =>
    rw [flatMap_cons, foldlM_append, read_piece, foldlM_cons]
    cases piece.read outline with
    | none => rfl
    | some next => exact ih next

theorem startTags_write {pieces : List Piece} {tags : List StartTag}
    (closed : pieces.foldlM Piece.read ⟨[], []⟩ = some ⟨[], tags⟩) :
    startTags (write pieces) = some tags := by
  have read := read_pieces ⟨[], []⟩ pieces
  rw [closed, reader] at read
  simp [startTags, write, read, reader]

end TridentPos.Library.XmlText
