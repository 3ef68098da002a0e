import TridentPos.Billing.XmlValidator
import Mathlib.Data.List.Infix
import Mathlib.Data.List.Lex
import Mathlib.Data.Char

/-!
# What the stamp may change

An accepted document has the stamp once, in a `Complemento` of its root. Apart from what the canonical
form leaves out, the document without its stamp is the one that was sent.
-/
namespace TridentPos.Billing

open Core Library XmlTree Fallible List

/-! ### The tree of the events -/

section Building

variable (root : Option (Tag × List Node)) (rootCount : Nat) (outer : List Frame) (tag : Tag)

def within (children : List Node) : ParserState := ⟨root, ⟨tag, children⟩ :: outer, rootCount, none⟩

variable {content : String}

theorem handleEvent_content {event : Event} (children : List Node)
    (piece : event.content = some content) :
    handleEvent (within root rootCount outer tag children) event =
      within root rootCount outer tag (addText children content) := by
  cases event with
  | text text | cdata text =>
    obtain rfl : text = content := by simpa [Event.content] using piece
    rfl
  | _ => simp [Event.content] at piece

theorem addText_join (children : List Node) (before content : String) :
    addText (children ++ [.text before]) content = children ++ [.text (before ++ content)] := by
  simp [addText]

theorem addText_new {children : List Node} (content : String)
    (apart : ∀ node ∈ children.getLast?, node.isText = false) :
    addText children content = children ++ [.text content] := by
  unfold addText
  split
  next before last => simp [last, Node.isText] at apart
  next => rfl

theorem fold_joined {events : List Event} (pieces : Chunks content events) (children : List Node)
    (before : String) :
    events.foldl handleEvent (within root rootCount outer tag (children ++ [.text before])) =
      within root rootCount outer tag (children ++ [.text (before ++ content)]) := by
  induction pieces generalizing before with
  | last event content piece =>
    rw [foldl_cons, handleEvent_content _ _ _ _ _ piece, addText_join]
    rfl
  | cons event content later events piece _ ih =>
    rw [foldl_cons, handleEvent_content _ _ _ _ _ piece, addText_join, ih, String.append_assoc]

theorem fold_chunks {events : List Event} (pieces : Chunks content events) {children : List Node}
    (apart : ∀ node ∈ children.getLast?, node.isText = false) :
    events.foldl handleEvent (within root rootCount outer tag children) =
      within root rootCount outer tag (children ++ [.text content]) := by
  cases pieces with
  | last event content piece =>
    rw [foldl_cons, handleEvent_content _ _ _ _ _ piece, addText_new _ apart]
    rfl
  | cons event content later events piece rest =>
    rw [foldl_cons, handleEvent_content _ _ _ _ _ piece, addText_new _ apart]
    exact fold_joined root rootCount outer tag rest children content

end Building

theorem fold_reported {nodes : List Node} {events : List Event} (reported : Reported nodes events)
    (root : Option (Tag × List Node)) (rootCount : Nat) (outer : List Frame) (tag : Tag)
    (children : List Node) (apart : ∀ last ∈ children.getLast?, ∀ first ∈ nodes.head?,
      last.isText = false ∨ first.isText = false) :
    events.foldl handleEvent (within root rootCount outer tag children) =
      within root rootCount outer tag (children ++ nodes) := by
  induction reported generalizing outer tag children with
  | nil => simp
  | text content chunks events rest pieces apartRest _ ih =>
    have notText : ∀ node ∈ children.getLast?, node.isText = false := by
      intro node isLast
      rcases apart node isLast (.text content) rfl with holds | impossible
      · exact holds
      · simp [Node.isText] at impossible
    rw [foldl_append, fold_chunks _ _ _ _ pieces notText,
      ih outer tag (children ++ [Node.text content])]
    · simp
    · intro last _ first isFirst
      exact .inr (apartRest first isFirst)
  | element inner children' rest innerEvents events _ _ ihInside ihLater =>
    have opened : handleEvent (within root rootCount outer tag children) (.opentag inner) =
        within root rootCount (⟨tag, children⟩ :: outer) inner [] := rfl
    have closed : handleEvent (within root rootCount (⟨tag, children⟩ :: outer) inner children')
        .closetag = within root rootCount outer tag (children ++ [.element inner children']) := rfl
    rw [foldl_cons, foldl_append, opened, ihInside (⟨tag, children⟩ :: outer) inner []
      (by simp), nil_append, foldl_cons, closed, ihLater outer tag]
    · simp
    · intro last isLast
      obtain rfl : .element inner children' = last := by simpa using isLast
      exact fun _ _ => .inl rfl

theorem fold_outside (events : List Event) (blank : ∀ event ∈ events, event.content.isSome)
    (state : ParserState) (outside : state.stack = []) : events.foldl handleEvent state = state := by
  induction events with
  | nil => rfl
  | cons event rest ih =>
    have ignored : handleEvent state event = state := by
      have content := blank event mem_cons_self
      unfold handleEvent
      cases state.parseError with
      | some _ => rfl
      | none =>
        cases event with
        | text _ | cdata _ => simp [handleText, outside]
        | _ => simp [Event.content] at content
    rw [foldl_cons, ignored]
    exact ih fun other member => blank other (mem_cons_of_mem _ member)

structure Reads (sax : String → List Event) (text : String) (root : Tag × List Node) : Prop where
  notEmpty : text ≠ ""
  reported : ReportedDocument root.1 root.2 (sax text)
  keyed : ∀ node ∈ elements [.element root.1 root.2], (node.1.attributes.map Attribute.name).Nodup

variable {sax : String → List Event}

theorem parseXmlStructure_of_reads {text : String} {root : Tag × List Node}
    (reads : Reads sax text root) :
    parseXmlStructure sax text = (checkText text).map fun _ => root := by
  obtain ⟨before, inner, after, inside, blank, isEvents⟩ := reads.reported
  have final : (sax text).foldl handleEvent .start = ⟨some root, [], 1, none⟩ := by
    have opened : handleEvent .start (.opentag root.1) = within none 1 [] root.1 [] := rfl
    have closed : handleEvent (within none 1 [] root.1 root.2) .closetag =
        ⟨some root, [], 1, none⟩ := rfl
    rw [isEvents, foldl_append,
      fold_outside before (fun e member => blank e (mem_append_left _ member)) .start rfl,
      foldl_cons, opened, foldl_append,
      fold_reported inside none 1 [] root.1 [] (by simp), nil_append,
      foldl_cons, closed,
      fold_outside after (fun e member => blank e (mem_append_right _ member)) _ rfl]
  rw [parseXmlStructure, final]
  cases checkText text with
  | error e | ok _ => rfl

theorem parseXmlStructure_eq_ok {text : String} {root parsed : Tag × List Node}
    (reads : Reads sax text root) (parses : parseXmlStructure sax text = .ok parsed) :
    parsed = root := by
  rw [parseXmlStructure_of_reads reads] at parses
  cases checked : checkText text with
  | error e => simp [checked, Except.map] at parses
  | ok _ => simpa [checked, Except.map] using parses.symm

/-! ### The document without its stamp -/

def isTimbreNode : Node → Bool
  | .text _ => false
  | .element tag _ => isTimbre tag

/-- The children of the root without the stamp, and without the `Complemento` that held nothing
else. -/
def eraseTimbre : List Node → List Node
  | [] => []
  | .text content :: rest => .text content :: eraseTimbre rest
  | .element tag children :: rest =>
    if isComplemento tag && children.any isTimbreNode then
      if children.length = 1 then eraseTimbre rest
      else .element tag (children.filter fun node => !isTimbreNode node) :: eraseTimbre rest
    else .element tag children :: eraseTimbre rest

/-- Anything like a stamp, in any letter case and namespace. -/
def isStampNamed (node : Tag × List Node) : Bool :=
  lowered node.1.localName == lowered "TimbreFiscalDigital"

/-- Nothing but the stamp, and the `Complemento` that held it alone, is left out of the comparison. Where
the original has a `Complemento`, the one with the stamp is compared and has to hold more; where it has
none, every `Complemento` without elements is left out. -/
def StampAlone (originalHadComplement : Bool) (stamped : List Node) : Prop :=
  if originalHadComplement then (eraseTimbre stamped).length = stamped.length
  else ∀ node ∈ elements (eraseTimbre stamped), isComplemento node.1 →
    noOtherElement node.2 = false
deriving Decidable

def isHidden (attr : Attribute) : Bool :=
  !attr.declares && "xmlns".toList.isPrefixOf attr.name.toList

/-- What the comparison of two elements does not look at: the namespaces of the attributes, and the
attributes that are taken for declarations. -/
structure ResolveAlike (a b : Tag) : Prop where
  namespaces : ∀ attr ∈ a.attributes, ∀ other ∈ b.attributes, attr.declares = false →
    attr.name = other.name → attr.uri = other.uri
  hidden : ∀ attr : Attribute, isHidden attr → (attr ∈ a.attributes ↔ attr ∈ b.attributes)

theorem isStampNamed_of_isTimbre {tag : Tag} (children : List Node) (timbre : isTimbre tag) :
    isStampNamed (tag, children) := by
  simp only [isTimbre, Bool.and_eq_true, beq_iff_eq] at timbre
  simp [isStampNamed, timbre.1]

section Canonical

variable (precedes : String → String → Bool)

structure AlikeTag (a b : Tag) : Prop where
  name : a.localName = b.localName
  uri : a.uri = b.uri
  attributes : (sortedAttributes precedes a.attributes).map canonicalAttribute =
    (sortedAttributes precedes b.attributes).map canonicalAttribute

mutual

def comparedItem (hadComplement : Bool) : Node → List Node
  | .text content => [.text content]
  | .element tag children =>
    if isTimbre tag then []
    else if isComplemento tag && !hadComplement && noOtherElement children then []
    else [.element tag (compared hadComplement children)]

def compared (hadComplement : Bool) : List Node → List Node
  | [] => []
  | node :: rest => comparedItem hadComplement node ++ compared hadComplement rest

end

@[simp] theorem compared_append (hadComplement : Bool) (nodes more : List Node) :
    compared hadComplement (nodes ++ more) =
      compared hadComplement nodes ++ compared hadComplement more := by
  induction nodes with
  | nil => rfl
  | cons node rest ih => simp [compared, ih]

@[simp] theorem canonicalizeChildren_append (isStamped hadComplement : Bool)
    (nodes more : List Node) :
    canonicalizeChildren precedes isStamped hadComplement (nodes ++ more) =
      canonicalizeChildren precedes isStamped hadComplement nodes ++
        canonicalizeChildren precedes isStamped hadComplement more := by
  induction nodes with
  | nil => rfl
  | cons node rest ih => simp [canonicalizeChildren, ih]

mutual

theorem canonicalizeItem_compared (hadComplement : Bool) : (node : Node) →
    canonicalizeItem precedes true hadComplement node =
      canonicalizeChildren precedes false hadComplement (comparedItem hadComplement node)
  | .text _ => rfl
  | .element tag children => by
    simp only [canonicalizeItem, comparedItem, Bool.true_and,
      canonicalizeChildren_compared hadComplement children]
    split_ifs <;> simp [canonicalizeChildren, canonicalizeItem]

theorem canonicalizeChildren_compared (hadComplement : Bool) : (nodes : List Node) →
    canonicalizeChildren precedes true hadComplement nodes =
      canonicalizeChildren precedes false hadComplement (compared hadComplement nodes)
  | [] => rfl
  | node :: rest => by
    rw [canonicalizeChildren, compared, canonicalizeChildren_append,
      canonicalizeItem_compared hadComplement node, canonicalizeChildren_compared hadComplement rest]

end

mutual

theorem length_comparedItem (hadComplement : Bool) : (node : Node) →
    (elements (comparedItem hadComplement node)).length ≤ node.elements.length
  | .text _ => by simp [comparedItem, elements, Node.elements]
  | .element tag children => by
    have inside := length_compared hadComplement children
    simp only [comparedItem]
    split_ifs <;> simp [elements, Node.elements, inside]

theorem length_compared (hadComplement : Bool) : (nodes : List Node) →
    (elements (compared hadComplement nodes)).length ≤ (elements nodes).length
  | [] => le_rfl
  | node :: rest => by
    have first := length_comparedItem hadComplement node
    have later := length_compared hadComplement rest
    simp only [compared, elements, elements_append, length_append]
    omega

end

def Untouched (hadComplement : Bool) (nodes : List Node) : Prop :=
  ∀ node ∈ elements nodes, isTimbre node.1 = false ∧
    (hadComplement = false → isComplemento node.1 → noOtherElement node.2 = false)

mutual

theorem comparedItem_untouched (hadComplement : Bool) : (node : Node) →
    Untouched hadComplement [node] → comparedItem hadComplement node = [node]
  | .text _, _ => rfl
  | .element tag children, untouched => by
    have inside := compared_untouched hadComplement children fun node member =>
      untouched node (by simp [elements, Node.elements, member])
    obtain ⟨notTimbre, kept⟩ := untouched (tag, children) (by simp [elements, Node.elements])
    have notDropped : (isComplemento tag && !hadComplement && noOtherElement children) = false := by
      cases hadComplement <;> cases complemento : isComplemento tag <;> simp_all
    simp only [comparedItem, notTimbre, notDropped, inside, Bool.false_eq_true, if_false]

theorem compared_untouched (hadComplement : Bool) : (nodes : List Node) →
    Untouched hadComplement nodes → compared hadComplement nodes = nodes
  | [], _ => rfl
  | node :: rest, untouched => by
    have first := comparedItem_untouched hadComplement node fun other member =>
      untouched other (by simp_all [elements])
    have later := compared_untouched hadComplement rest fun other member =>
      untouched other (by simp_all [elements])
    rw [compared, first, later]
    rfl

end

mutual

theorem untouched_of_length_item (hadComplement : Bool) : (node : Node) →
    (elements (comparedItem hadComplement node)).length = node.elements.length →
    Untouched hadComplement [node]
  | .text _, _ => by simp [Untouched, elements, Node.elements]
  | .element tag children, same => by
    simp only [comparedItem] at same
    split_ifs at same with timbre dropped
    · simp [elements, Node.elements] at same
    · simp [elements, Node.elements] at same
    · have inside := untouched_of_length hadComplement children
        (by simpa [elements, Node.elements] using same)
      intro node member
      simp only [elements, Node.elements, append_nil, mem_cons] at member
      rcases member with rfl | deeper
      · exact ⟨by simpa using timbre, fun absent complemento => by simpa [absent, complemento] using dropped⟩
      · exact inside node deeper

theorem untouched_of_length (hadComplement : Bool) : (nodes : List Node) →
    (elements (compared hadComplement nodes)).length = (elements nodes).length →
    Untouched hadComplement nodes
  | [], _ => by simp [Untouched, elements]
  | node :: rest, same => by
    have first := length_comparedItem hadComplement node
    have later := length_compared hadComplement rest
    simp only [compared, elements, elements_append, length_append] at same
    have own := untouched_of_length_item hadComplement node (by omega)
    have others := untouched_of_length hadComplement rest (by omega)
    intro other member
    rw [elements, mem_append] at member
    rcases member with inFirst | inRest
    · exact own other (by simpa [elements] using inFirst)
    · exact others other inRest

end

end Canonical

/-! ### The place of the stamp -/

/-- The children of a root with the stamp, in a `Complemento` between the others. -/
structure StampPlace where
  before : List Node
  complemento : Tag
  left : List Node
  timbre : Tag
  (inside right after : List Node)
  isComplemento : isComplemento complemento
  isTimbre : isTimbre timbre
  alone : ∀ node ∈ elements (before ++ left ++ right ++ after), isStampNamed node = false

def StampPlace.content (place : StampPlace) : List Node :=
  place.left ++ .element place.timbre place.inside :: place.right

def StampPlace.whole (place : StampPlace) : List Node :=
  place.before ++ .element place.complemento place.content :: place.after

theorem exists_place {stamped : List Node} {timbre : Tag × List Node}
    (single : (elements stamped).filter isStampNamed = [timbre])
    (genuine : isTimbre timbre.1) (placed : stamped.any complementHoldsTimbre) :
    ∃ place : StampPlace, place.whole = stamped := by
  obtain ⟨outer, isOuter, holds⟩ := any_eq_true.mp placed
  cases outer with
  | text content => simp [complementHoldsTimbre] at holds
  | element complemento children =>
    simp only [complementHoldsTimbre, Bool.and_eq_true] at holds
    obtain ⟨node, isNode, named⟩ := any_eq_true.mp holds.2
    cases node with
    | text content => simp at named
    | element tag inside =>
      obtain ⟨before, after, rfl⟩ := append_of_mem isOuter
      obtain ⟨left, right, rfl⟩ := append_of_mem isNode
      have stampNamed : isStampNamed (tag, inside) := named
      -- the filter finds the stamp here, so it finds nothing elsewhere
      have counted := congrArg List.length single
      simp only [elements_append, elements, Node.elements, filter_append, filter_cons,
        stampNamed, if_true, length_append, length_cons,
        length_nil] at counted
      have elsewhere : ((elements before).filter isStampNamed).length +
          ((elements left).filter isStampNamed).length +
          ((elements right).filter isStampNamed).length +
          ((elements after).filter isStampNamed).length = 0 := by
        split at counted <;> simp only [length_cons, length_append] at counted
        · omega
        · omega
      have none (nodes : List Node) (zero : ((elements nodes).filter isStampNamed).length = 0) :
          ∀ node ∈ elements nodes, isStampNamed node = false := by
        intro node member
        have empty := filter_eq_nil_iff.mp (length_eq_zero_iff.mp zero) node member
        simpa using empty
      have found : (tag, inside) ∈ [timbre] := by
        rw [← single, mem_filter]
        exact ⟨by simp [elements, Node.elements], stampNamed⟩
      obtain rfl := mem_singleton.mp found
      refine ⟨⟨before, complemento, left, tag, inside, right, after, holds.1, genuine, ?_⟩, rfl⟩
      intro node member
      simp only [elements_append, mem_append] at member
      rcases member with ((inBefore | inLeft) | inRight) | inAfter
      · exact none before (by omega) node inBefore
      · exact none left (by omega) node inLeft
      · exact none right (by omega) node inRight
      · exact none after (by omega) node inAfter

variable {nodes : List Node}

theorem isTimbre_of_unnamed (alone : ∀ node ∈ elements nodes, isStampNamed node = false) :
    ∀ node ∈ elements nodes, isTimbre node.1 = false := by
  intro node member
  cases timbre : isTimbre node.1 with
  | false => rfl
  | true =>
    have named := isStampNamed_of_isTimbre node.2 timbre
    exact absurd named (by simp [alone node member])

theorem any_isTimbreNode_of_unnamed (nodes : List Node)
    (alone : ∀ node ∈ elements nodes, isStampNamed node = false) : nodes.any isTimbreNode = false := by
  rw [any_eq_false]
  intro node member
  cases node with
  | text content => simp [isTimbreNode]
  | element tag children =>
    simp [isTimbreNode, isTimbre_of_unnamed alone _ (mem_elements member)]

theorem eraseTimbre_append (nodes more : List Node) :
    eraseTimbre (nodes ++ more) = eraseTimbre nodes ++ eraseTimbre more := by
  induction nodes with
  | nil => rfl
  | cons node rest ih =>
    cases node with
    | text content => simp [eraseTimbre, ih]
    | element tag children =>
      simp only [cons_append, eraseTimbre, ih]
      split
      next =>
        split <;> rfl
      next => rfl

theorem eraseTimbre_unnamed (alone : ∀ node ∈ elements nodes, isStampNamed node = false) :
    eraseTimbre nodes = nodes := by
  induction nodes with
  | nil => rfl
  | cons node rest ih =>
    have later := ih fun other member => alone other (by simp [elements, member])
    cases node with
    | text content => rw [eraseTimbre, later]
    | element tag children =>
      have none := any_isTimbreNode_of_unnamed children fun other member =>
        alone other (by simp [elements, Node.elements, member])
      simp [eraseTimbre, none, later]

namespace StampPlace

variable (place : StampPlace)

theorem notTimbre : Billing.isTimbre place.complemento = false := by
  have named := place.isComplemento
  simp only [Billing.isComplemento, Bool.and_eq_true, beq_iff_eq] at named
  simp [Billing.isTimbre, named.1]

theorem before_unnamed : ∀ node ∈ elements place.before, isStampNamed node = false :=
  fun node member => place.alone node (by simp [member])

theorem content_unnamed :
    ∀ node ∈ elements (place.left ++ place.right), isStampNamed node = false := by
  intro node member
  rw [elements_append, mem_append] at member
  exact place.alone node (by rcases member with inLeft | inRight <;> simp [*])

theorem after_unnamed : ∀ node ∈ elements place.after, isStampNamed node = false :=
  fun node member => place.alone node (by simp [member])

def rest : List Node :=
  if place.left ++ place.right = [] then []
  else [.element place.complemento (place.left ++ place.right)]

theorem length_content : place.content.length = 1 ↔ place.left ++ place.right = [] := by
  rw [← length_eq_zero_iff, content, length_append, length_cons, length_append]
  omega

theorem filter_content :
    place.content.filter (fun node => !isTimbreNode node) = place.left ++ place.right := by
  have none := any_isTimbreNode_of_unnamed _ place.content_unnamed
  have all : (place.left ++ place.right).filter (fun node => !isTimbreNode node) =
      place.left ++ place.right := by
    rw [filter_eq_self]
    intro node member
    simpa using any_eq_false.mp none node member
  rw [content]
  simpa [filter_cons, isTimbreNode, place.isTimbre] using all

theorem eraseTimbre_whole :
    eraseTimbre place.whole = place.before ++ place.rest ++ place.after := by
  have held : place.content.any isTimbreNode := by
    simp [content, isTimbreNode, place.isTimbre]
  rw [whole, eraseTimbre_append, eraseTimbre_unnamed place.before_unnamed, eraseTimbre,
    eraseTimbre_unnamed place.after_unnamed, place.isComplemento, held, place.filter_content, rest,
    append_assoc]
  simp only [Bool.and_self, if_true, place.length_content]
  split <;> rfl

theorem isTimbre_erased :
    ∀ node ∈ elements (eraseTimbre place.whole), Billing.isTimbre node.1 = false := by
  intro node member
  simp only [place.eraseTimbre_whole, elements_append, mem_append] at member
  rcases member with (inBefore | inRest) | inAfter
  · exact isTimbre_of_unnamed place.before_unnamed node inBefore
  · rw [rest] at inRest
    split at inRest
    next => simp [elements] at inRest
    next =>
      simp only [elements, Node.elements, append_nil, mem_cons] at inRest
      rcases inRest with rfl | inside
      · exact place.notTimbre
      · exact isTimbre_of_unnamed place.content_unnamed node inside
  · exact isTimbre_of_unnamed place.after_unnamed node inAfter

theorem noOtherElement_content :
    noOtherElement place.content = noOtherElement (place.left ++ place.right) := by
  simp [noOtherElement, content, place.isTimbre]

theorem compared_content (hadComplement : Bool) : compared hadComplement place.content =
    compared hadComplement (place.left ++ place.right) := by
  simp [content, compared, comparedItem, place.isTimbre]

/-- Without a `Complemento` in the original, the comparison of the stamped document looks at what it
would look at without the stamp. -/
theorem compared_whole_absent :
    compared false place.whole = compared false (eraseTimbre place.whole) := by
  have item : comparedItem false (.element place.complemento place.content) =
      compared false place.rest := by
    simp only [comparedItem, place.notTimbre, place.isComplemento, place.noOtherElement_content,
      place.compared_content, rest]
    by_cases empty : place.left ++ place.right = []
    · simp [empty, noOtherElement, compared]
    · simp [empty, compared, comparedItem, place.notTimbre, place.isComplemento]
  rw [place.eraseTimbre_whole, whole, compared_append, compared, item]
  simp

theorem compared_whole_present : compared true place.whole =
    place.before ++ .element place.complemento (place.left ++ place.right) :: place.after := by
  have untouched (nodes : List Node) (unnamed : ∀ node ∈ elements nodes, isStampNamed node = false) :
      compared true nodes = nodes :=
    compared_untouched true nodes fun node member =>
      ⟨isTimbre_of_unnamed unnamed node member, fun absent => by simp at absent⟩
  rw [whole, compared_append, untouched _ place.before_unnamed, compared, comparedItem,
    place.notTimbre, place.compared_content, untouched _ place.content_unnamed,
    untouched _ place.after_unnamed]
  simp

theorem stampAlone_iff (hadComplement : Bool) : StampAlone hadComplement place.whole ↔
    (elements (compared hadComplement place.whole)).length =
      (elements (eraseTimbre place.whole)).length := by
  cases hadComplement with
  | true =>
    rw [StampAlone, if_pos rfl, place.compared_whole_present, place.eraseTimbre_whole, rest, whole]
    split <;> simp [elements, Node.elements]
    next empty => simp [append_eq_nil_iff.mp empty, elements]
  | false =>
    rw [StampAlone, if_neg Bool.false_ne_true, place.compared_whole_absent]
    constructor
    · intro kept
      rw [compared_untouched]
      intro node member
      exact ⟨place.isTimbre_erased node member, fun _ => kept node member⟩
    · intro same node member
      exact (untouched_of_length false _ same node member).2 rfl

theorem compared_of_stampAlone {hadComplement : Bool} (alone : StampAlone hadComplement place.whole) :
    compared hadComplement place.whole = eraseTimbre place.whole := by
  cases hadComplement with
  | true =>
    rw [StampAlone, if_pos rfl, place.eraseTimbre_whole, rest, whole] at alone
    rw [place.compared_whole_present, place.eraseTimbre_whole, rest]
    split at alone
    next => simp at alone
    next more => simp [more]
  | false =>
    rw [place.compared_whole_absent]
    have same := (place.stampAlone_iff false).mp alone
    rw [place.compared_whole_absent] at same
    exact compared_untouched false _ (untouched_of_length false _ same)

end StampPlace

/-! ### Equal canonical forms -/

section Same

variable (precedes : String → String → Bool)

theorem canonicalAttribute_inj (a b : List Attribute)
    (same : a.map canonicalAttribute = b.map canonicalAttribute) :
    a.map (fun attr => (attr.name, attr.value)) = b.map (fun attr => (attr.name, attr.value)) := by
  induction a generalizing b with
  | nil => simpa using same
  | cons attr rest ih =>
    cases b with
    | nil => simp at same
    | cons other others =>
      simp only [map_cons, List.cons.injEq, canonicalAttribute, Json.array.injEq,
        Json.string.injEq, and_true] at same ⊢
      exact ⟨by rw [same.1.1, same.1.2], ih others same.2⟩

theorem match_of_canonical (hadComplement : Bool) : (a b : List Node) →
    canonicalizeChildren precedes false hadComplement a =
      canonicalizeChildren precedes false hadComplement b → Match (AlikeTag precedes) a b
  | [], [], _ => .nil
  | [], .text _ :: _, same => by simp [canonicalizeChildren, canonicalizeItem] at same
  | [], .element _ _ :: _, same => by simp [canonicalizeChildren, canonicalizeItem] at same
  | .text _ :: _, [], same => by simp [canonicalizeChildren, canonicalizeItem] at same
  | .element _ _ :: _, [], same => by simp [canonicalizeChildren, canonicalizeItem] at same
  | .text _ :: _, .element _ _ :: _, same => by
    simp [canonicalizeChildren, canonicalizeItem, canonicalElement] at same
  | .element _ _ :: _, .text _ :: _, same => by
    simp [canonicalizeChildren, canonicalizeItem, canonicalElement] at same
  | .text content :: rest, .text other :: others, same => by
    simp only [canonicalizeChildren, canonicalizeItem, cons_append, nil_append, List.cons.injEq,
      Json.array.injEq, Json.string.injEq, and_true, true_and] at same
    obtain ⟨rfl, later⟩ := same
    exact .text content rest others (match_of_canonical hadComplement rest others later)
  | .element tag children :: rest, .element other children' :: others, same => by
    simp only [canonicalizeChildren, canonicalizeItem, Bool.false_and, Bool.false_eq_true, if_false,
      cons_append, nil_append, List.cons.injEq, canonicalElement, Json.array.injEq,
      Json.string.injEq, and_true] at same
    obtain ⟨⟨name, uri, attributes, inside⟩, later⟩ := same
    exact .element tag other children children' rest others ⟨name, uri, attributes⟩
      (match_of_canonical hadComplement children children' inside)
      (match_of_canonical hadComplement rest others later)

variable {precedes} {a b : Tag}

theorem AlikeTag.symm (alike : AlikeTag precedes a b) : AlikeTag precedes b a :=
  ⟨alike.name.symm, alike.uri.symm, alike.attributes.symm⟩

theorem AlikeTag.mem (alike : AlikeTag precedes a b)
    (namespaces : ∀ attr ∈ a.attributes, ∀ other ∈ b.attributes, attr.declares = false →
      attr.name = other.name → attr.uri = other.uri) {attr : Attribute}
    (plain : attr.declares = false) (shown : isHidden attr = false) (member : attr ∈ a.attributes) :
    attr ∈ b.attributes := by
  simp only [isHidden, plain, Bool.not_false, Bool.true_and] at shown
  have sorted : attr ∈ sortedAttributes precedes a.attributes := by
    rw [sortedAttributes, mem_insertionSort, mem_filter]
    exact ⟨member, by rw [shown]; rfl⟩
  have paired : (attr.name, attr.value) ∈
      (sortedAttributes precedes b.attributes).map (fun attr => (attr.name, attr.value)) := by
    rw [← canonicalAttribute_inj _ _ alike.attributes]
    exact mem_map_of_mem sorted
  obtain ⟨other, isOther, equal⟩ := mem_map.mp paired
  obtain ⟨sameName, sameValue⟩ := Prod.mk.injEq .. ▸ equal
  rw [sortedAttributes, mem_insertionSort, mem_filter] at isOther
  have sameUri := namespaces attr member other isOther.1 plain sameName.symm
  have identical : other = attr := by
    cases other
    cases attr
    simp_all
  exact identical ▸ isOther.1

theorem AlikeTag.same_iff (alike : AlikeTag precedes a b)
    (keyed : (b.attributes.map Attribute.name).Nodup) : SameTag a b ↔ ResolveAlike a b := by
  constructor
  · intro same
    constructor
    · intro attr member other isOther plain sameName
      have stored := (same.attributes attr plain).mp member
      rw [inj_on_of_nodup_map keyed stored isOther sameName]
    · intro attr hidden
      simp only [isHidden, Bool.and_eq_true, Bool.not_eq_true'] at hidden
      exact same.attributes attr hidden.1
  · intro resolve
    refine ⟨alike.name, alike.uri, fun attr plain => ?_⟩
    cases hidden : isHidden attr with
    | true => exact resolve.hidden attr hidden
    | false =>
      exact ⟨alike.mem resolve.namespaces plain hidden, alike.symm.mem
        (fun other isOther attr member plain same => by
          have declares : attr.declares = false := by
            rw [Attribute.declares, ← same]
            exact plain
          exact (resolve.namespaces attr member other isOther declares same.symm).symm) plain hidden⟩

theorem ResolveAlike.refl (keyed : (a.attributes.map Attribute.name).Nodup) : ResolveAlike a a :=
  ⟨fun _ member _ other _ same => congrArg _ (inj_on_of_nodup_map keyed member other same),
    fun _ _ => Iff.rfl⟩

end Same

/-! ### An accepted stamp -/

theorem emptyNumbers : Json.NumberTexts Empty.elim where
  injective a := a.elim
  notEmpty a := a.elim
  numberChars a := a.elim

variable {stampedXml text : String} {precedes : String → String → Bool}

theorem validate_eq_ok {dateParses : String → Bool} {options : ValidationOptions}
    {data : TimbreFiscalDigitalData}
    (accepted : validateAndExtractTimbreFiscalDigital sax precedes dateParses stampedXml options =
      .ok data) :
    ∃ root timbre, parseXmlStructure sax stampedXml = .ok root ∧
      root.1.localName = "Comprobante" ∧
      findNodesByName root "TimbreFiscalDigital" = [timbre] ∧ isTimbre timbre.1 ∧
      root.2.any complementHoldsTimbre ∧
      compareWithOriginal sax precedes root options.expectedOriginalXml = .ok () := by
  simp only [validateAndExtractTimbreFiscalDigital, validateRoot, guard_eq_ok,
    bind_eq_ok] at accepted
  obtain ⟨-, root, parsed, comprobante, -, accepted⟩ := accepted
  split at accepted
  next => exact absurd accepted throw_ne_ok
  next => exact absurd accepted throw_ne_ok
  next timbre found =>
    simp only [guard_eq_ok, bind_eq_ok] at accepted
    obtain ⟨genuine, _, compared, -⟩ := accepted
    simp only [not_or, not_not, Bool.not_eq_false] at comprobante genuine
    exact ⟨root, timbre, parsed, comprobante.1, found, genuine.2, genuine.1, compared⟩

theorem compareWithOriginal_eq_ok {root : Tag × List Node} (notEmpty : text ≠ "")
    (compared : compareWithOriginal sax precedes root (some text) = .ok ()) :
    ∃ original, parseXmlStructure sax text = .ok original ∧
      canonicalizeNode precedes true (hasComplement original.2) root =
        canonicalizeNode precedes false (hasComplement original.2) original := by
  have given : (some text).filter (fun text => text != "") = some text := by simp [notEmpty]
  simp only [compareWithOriginal, given, bind_eq_ok] at compared
  obtain ⟨original, parsed, compared⟩ := compared
  refine ⟨original, parsed, ?_⟩
  simp only [compareTrees, refused_eq_ok] at compared
  obtain ⟨same, compared⟩ := compared
  exact Json.stringify_inj emptyNumbers _ _ (not_not.mp same)

/-- An accepted document, without its stamp, is the document that was sent, just where nothing but the
stamp is left out of the comparison and what it compares resolves alike in both. -/
theorem accepted_stamp_is_only_change (sax : String → List Event)
    (precedes : String → String → Bool) (dateParses : String → Bool)
    (stampedXml originalXml : String) (options : ValidationOptions) (data : TimbreFiscalDigitalData)
    (stamped original : Tag × List Node)
    (readsStamped : Reads sax stampedXml stamped) (readsOriginal : Reads sax originalXml original)
    (expected : options.expectedOriginalXml = some originalXml)
    (accepted : validateAndExtractTimbreFiscalDigital sax precedes dateParses stampedXml options =
      .ok data) :
    (findNodesByName stamped "TimbreFiscalDigital").length = 1 ∧
      (Same [.element stamped.1 (eraseTimbre stamped.2)] [.element original.1 original.2] ↔
        StampAlone (hasComplement original.2) stamped.2 ∧
        ∀ pair ∈ (elements [.element stamped.1 (eraseTimbre stamped.2)]).zip
          (elements [.element original.1 original.2]), ResolveAlike pair.1.1 pair.2.1) := by
  obtain ⟨root, timbre, parsed, comprobante, found, genuine, placed, looked⟩ :=
    validate_eq_ok accepted
  obtain rfl := parseXmlStructure_eq_ok readsStamped parsed
  rw [expected] at looked
  obtain ⟨sent, parsedSent, same⟩ := compareWithOriginal_eq_ok readsOriginal.notEmpty looked
  obtain rfl := parseXmlStructure_eq_ok readsOriginal parsedSent
  refine ⟨by rw [found]; rfl, ?_⟩
  have single : (elements root.2).filter isStampNamed = [timbre] := by
    have notRoot : isStampNamed root = false := by
      rw [isStampNamed, comprobante]
      decide
    rw [findNodesByName, filter_cons, if_neg] at found
    · exact found
    · simpa [isStampNamed] using notRoot
  obtain ⟨place, isPlace⟩ := exists_place single genuine placed
  have alike : Match (AlikeTag precedes)
      [.element root.1 (compared (hasComplement sent.2) root.2)] [.element sent.1 sent.2] := by
    apply match_of_canonical precedes (hasComplement sent.2)
    simp only [canonicalizeChildren, canonicalizeItem, Bool.false_and, Bool.false_eq_true, if_false,
      append_nil, ← canonicalizeChildren_compared]
    exact congrArg (· :: []) same
  have alone : StampAlone (hasComplement sent.2) root.2 →
      ((∀ pair ∈ (elements [.element root.1 (eraseTimbre root.2)]).zip
        (elements [.element sent.1 sent.2]), ResolveAlike pair.1.1 pair.2.1) ↔
      Same [.element root.1 (eraseTimbre root.2)] [.element sent.1 sent.2]) := by
    intro alone
    rw [← isPlace] at alone alike ⊢
    rw [place.compared_of_stampAlone alone] at alike
    rw [Same, ← alike.zip_iff]
    have each := alike.zip_iff.mpr alike
    refine forall₂_congr fun pair member => ?_
    exact ((each pair member).same_iff (readsOriginal.keyed _ (of_mem_zip member).2)).symm
  constructor
  · intro isSame
    have counted := alike.length_elements.trans isSame.length_elements.symm
    have stampAlone : StampAlone (hasComplement sent.2) root.2 := by
      rw [← isPlace, place.stampAlone_iff, isPlace]
      simpa [elements, Node.elements] using counted
    exact ⟨stampAlone, (alone stampAlone).mpr isSame⟩
  · exact fun conditions => (alone conditions.1).mp conditions.2

/-! ### Stamped documents -/

def sampleComprobante (xsi : String) : Tag where
  localName := "Comprobante"
  uri := cfdUri
  attributes := [⟨"xmlns:cfdi", "http://www.w3.org/2000/xmlns/", cfdUri⟩,
    ⟨"xmlns:xsi", "http://www.w3.org/2000/xmlns/", xsi⟩, ⟨"xsi:nil", xsi, "false"⟩,
    ⟨"Version", "", "4.0"⟩]

def sampleEmisor (added : List Attribute) : Tag :=
  ⟨"Emisor", cfdUri, ⟨"Rfc", "", "EKU9003173C9"⟩ :: added⟩

def sampleTimbre : Node :=
  .element ⟨"TimbreFiscalDigital", timbreUri, [
    ⟨"xmlns", "http://www.w3.org/2000/xmlns/", timbreUri⟩, ⟨"Version", "", "1.1"⟩,
    ⟨"UUID", "", "ad662d33-6934-459c-a128-bdf0393f0f44"⟩,
    ⟨"FechaTimbrado", "", "2026-09-05T10:00:01"⟩, ⟨"RfcProvCertif", "", "SAT970701NN3"⟩,
    ⟨"NoCertificadoSAT", "", "30001000000500003416"⟩,
    ⟨"SelloSAT", "", "c2VsbG9TQVRzZWxsb1NBVHNlbGxvU0FUc2VsbG8="⟩]⟩ []

def sampleXsi : String := "http://www.w3.org/2001/XMLSchema-instance"

def sampleOriginal : Tag × List Node :=
  (sampleComprobante sampleXsi, [.element (sampleEmisor []) []])

def sampleStamped (xsi : String) (added : List Attribute) (inside : List Node) : Tag × List Node :=
  (sampleComprobante xsi, [.element (sampleEmisor added) inside,
    .element ⟨"Complemento", cfdUri, []⟩ [sampleTimbre]])

def sampleXml (xsi attributes inside complemento : String) : String :=
  "<cfdi:Comprobante xmlns:cfdi=\"http://www.sat.gob.mx/cfd/4\" xmlns:xsi=\"" ++ xsi ++
    "\" xsi:nil=\"false\" Version=\"4.0\"><cfdi:Emisor Rfc=\"EKU9003173C9\"" ++ attributes ++ ">" ++
    inside ++ "</cfdi:Emisor>" ++ complemento ++ "</cfdi:Comprobante>"

def sampleOriginalXml : String := sampleXml sampleXsi "" "" ""

def sampleStampedXml (xsi attributes inside : String) : String :=
  sampleXml xsi attributes inside
    "<cfdi:Complemento><TimbreFiscalDigital xmlns=\"http://www.sat.gob.mx/TimbreFiscalDigital\" Version=\"1.1\" UUID=\"ad662d33-6934-459c-a128-bdf0393f0f44\" FechaTimbrado=\"2026-09-05T10:00:01\" RfcProvCertif=\"SAT970701NN3\" NoCertificadoSAT=\"30001000000500003416\" SelloSAT=\"c2VsbG9TQVRzZWxsb1NBVHNlbGxvU0FUc2VsbG8=\"/></cfdi:Complemento>"

def sampleSax (stamped : Tag × List Node) (text : String) : List Event :=
  if text = sampleOriginalXml then (Node.element sampleOriginal.1 sampleOriginal.2).events
  else (Node.element stamped.1 stamped.2).events

/-- A second `Complemento`, hidden in the issuer. -/
def hiddenComplemento : Tag × List Node :=
  sampleStamped sampleXsi [] [.element ⟨"Complemento", cfdUri, [⟨"Rfc", "", "XAXX010101000"⟩]⟩ []]

def hiddenComplementoXml : String :=
  sampleStampedXml sampleXsi "" "<cfdi:Complemento Rfc=\"XAXX010101000\"></cfdi:Complemento>"

def hiddenAttribute : Tag × List Node :=
  sampleStamped sampleXsi [⟨"xmlnsRfc", "", "XAXX010101000"⟩] []

def hiddenAttributeXml : String :=
  sampleStampedXml sampleXsi " xmlnsRfc=\"XAXX010101000\"" ""

def reboundPrefix : Tag × List Node := sampleStamped "urn:other" [] []

def reboundPrefixXml : String := sampleStampedXml "urn:other" "" ""

def sampleOptions : ValidationOptions :=
  ⟨some "AD662D33-6934-459C-A128-BDF0393F0F44", none, some sampleOriginalXml⟩

/-- The order of the names, as far as they differ in more than letter case. -/
def samplePrecedes (a b : String) : Bool := lowered a ≤ lowered b

def sampleValidation (stampedXml : String) (stamped : Tag × List Node) :
    Except BillingError TimbreFiscalDigitalData :=
  validateAndExtractTimbreFiscalDigital (sampleSax stamped) samplePrecedes (fun _ => true) stampedXml
    sampleOptions

theorem utf8ByteSize_ofList (chars : List Char) :
    (String.ofList chars).utf8ByteSize = (chars.map Char.utf8Size).sum := by
  induction chars with
  | nil => rfl
  | cons c rest ih => simp [String.ofList_cons, ih]

/-- A short text without exclamation and question marks. -/
def isOrdinary (chars : List Char) : Bool :=
  (chars.map Char.toLower).all (fun c => c != '!' && c != '?') && !chars.all isTrimmed &&
    decide ((chars.map Char.utf8Size).sum ≤ 1024 * 1024)

theorem containsText_false {pattern : String} (marker : Char) (chars : List Char)
    (marked : marker ∈ pattern.toList) (absent : marker ∉ chars) :
    containsText pattern chars = false := by
  rw [containsText, any_eq_false]
  intro tail isTail starts
  have inside : pattern.toList <+: tail := isPrefixOf_iff_prefix.mp starts
  exact absent (((mem_tails _ _).mp isTail).subset (inside.subset marked))

theorem checkText_ordinary {chars : List Char} (ordinary : isOrdinary chars) :
    checkText (String.ofList chars) = .ok () := by
  simp only [isOrdinary, Bool.and_eq_true, Bool.not_eq_true', decide_eq_true_eq, all_eq_true,
    bne_iff_ne] at ordinary
  obtain ⟨⟨unmarked, notBlank⟩, short⟩ := ordinary
  have noExclamation : '!' ∉ chars.map Char.toLower := fun member => (unmarked '!' member).1 rfl
  have noQuestion : '?' ∉ chars.map Char.toLower := fun member => (unmarked '?' member).2 rfl
  have blank : isBlank (String.ofList chars) = false := by
    rw [isBlank, String.toList_ofList, notBlank]
  have ordinary : ["<!doctype", "<!entity", "<?xml-stylesheet"].any
      (containsText · (lowered (String.ofList chars))) = false := by
    rw [lowered, String.toList_ofList, any_cons, any_cons, any_cons, any_nil,
      containsText_false '!' _ (by decide) noExclamation,
      containsText_false '!' _ (by decide) noExclamation,
      containsText_false '?' _ (by decide) noQuestion]
    rfl
  have small : ¬1024 * 1024 < (String.ofList chars).utf8ByteSize := by
    rw [utf8ByteSize_ofList]
    omega
  simp only [checkText, blank, ordinary, if_neg small, Bool.false_eq_true, if_false]
  rfl

structure SampleText (stampedXml : String) : Prop where
  other : stampedXml ≠ sampleOriginalXml
  stamped : checkText stampedXml = .ok ()
  original : checkText sampleOriginalXml = .ok ()

theorem toList_pieces {a b c d e f g h i : List Char} :
    String.toList (.ofList a ++ .ofList b ++ .ofList c ++ .ofList d ++ .ofList e ++ .ofList f ++
      .ofList g ++ .ofList h ++ .ofList i) = a ++ b ++ c ++ d ++ e ++ f ++ g ++ h ++ i := by
  simp only [String.toList_append, String.toList_ofList]

theorem sampleText {chars originalChars : List Char} (isText : text.toList = chars)
    (isOriginal : sampleOriginalXml.toList = originalChars)
    (run : isOrdinary chars ∧ isOrdinary originalChars ∧ chars ≠ originalChars) :
    SampleText text := by
  obtain ⟨ordinary, ordinaryOriginal, different⟩ := run
  have ofText := checkText_ordinary ordinary
  have ofOriginal := checkText_ordinary ordinaryOriginal
  rw [← isText, String.ofList_toList] at ofText
  rw [← isOriginal, String.ofList_toList] at ofOriginal
  exact ⟨fun same => different (by rw [← isText, ← isOriginal, same]), ofText, ofOriginal⟩

theorem checkText_notBlank (checked : checkText text = .ok ()) : isBlank text = false := by
  simp only [checkText, guard_eq_ok] at checked
  simpa using checked.1

theorem notEmpty_of_checkText (checked : checkText text = .ok ()) : text ≠ "" := by
  rintro rfl
  exact absurd (checkText_notBlank checked) (by decide)

variable {stamped : Tag × List Node}

def isReported (root : Tag × List Node) : Bool :=
  spaced root.2 && (elements [.element root.1 root.2]).all fun node =>
    decide (node.1.attributes.map Attribute.name).Nodup

theorem reads_of_isReported (notEmpty : text ≠ "") (reported : isReported stamped)
    (events : sax text = (Node.element stamped.1 stamped.2).events) : Reads sax text stamped := by
  simp only [isReported, Bool.and_eq_true, all_eq_true, decide_eq_true_eq] at reported
  refine ⟨notEmpty, ?_, reported.2⟩
  rw [events]
  exact reportedDocument_events _ reported.1

theorem sample_reads (text : SampleText stampedXml) (reported : isReported stamped) :
    Reads (sampleSax stamped) stampedXml stamped ∧
      Reads (sampleSax stamped) sampleOriginalXml sampleOriginal :=
  ⟨reads_of_isReported (notEmpty_of_checkText text.stamped) reported (if_neg text.other),
    reads_of_isReported (notEmpty_of_checkText text.original) (by decide) (if_pos rfl)⟩

def sampleAccepted (stamped : Tag × List Node) : Bool :=
  isReported stamped && (validateRoot (fun _ => true) sampleOptions stamped
    (compareTrees samplePrecedes stamped sampleOriginal)).isOk

theorem sampleValidation_eq_ok (text : SampleText stampedXml)
    (accepted : sampleAccepted stamped) :
    ∃ data, sampleValidation stampedXml stamped = .ok data := by
  rw [sampleAccepted, Bool.and_eq_true] at accepted
  obtain ⟨reads, readsOriginal⟩ := sample_reads text accepted.1
  have parsed := parseXmlStructure_of_reads reads
  have parsedOriginal := parseXmlStructure_of_reads readsOriginal
  rw [text.stamped] at parsed
  rw [text.original] at parsedOriginal
  have given : (some sampleOriginalXml).filter (fun text => text != "") = some sampleOriginalXml := by
    simp [notEmpty_of_checkText text.original]
  have same : sampleValidation stampedXml stamped = validateRoot (fun _ => true) sampleOptions stamped
      (compareTrees samplePrecedes stamped sampleOriginal) := by
    simp only [sampleValidation, validateAndExtractTimbreFiscalDigital,
      checkText_notBlank text.stamped, Bool.false_eq_true, if_false, parsed, Except.map,
      ok_bind, compareWithOriginal, sampleOptions, given, parsedOriginal]
  rw [same]
  exact exists_of_isOk accepted.2

/-- An accepted text whose document, without its stamp, is not the one that was sent. -/
def Forged (stampedXml : String) (stamped : Tag × List Node) : Prop :=
  Reads (sampleSax stamped) stampedXml stamped ∧
    Reads (sampleSax stamped) sampleOriginalXml sampleOriginal ∧
    (∃ data, sampleValidation stampedXml stamped = .ok data) ∧
    ¬Same [.element stamped.1 (eraseTimbre stamped.2)] [.element sampleOriginal.1 sampleOriginal.2]

theorem forged (text : SampleText stampedXml) (accepted : sampleAccepted stamped)
    (different : ¬Same [.element stamped.1 (eraseTimbre stamped.2)]
      [.element sampleOriginal.1 sampleOriginal.2]) : Forged stampedXml stamped := by
  obtain ⟨reads, readsOriginal⟩ := sample_reads text ((Bool.and_eq_true _ _).mp accepted).1
  exact ⟨reads, readsOriginal, sampleValidation_eq_ok text accepted, different⟩

theorem sample_same {xsi : String} {added : List Attribute} {inside : List Node}
    (same : Same [.element (sampleStamped xsi added inside).1
      (eraseTimbre (sampleStamped xsi added inside).2)]
      [.element sampleOriginal.1 sampleOriginal.2]) :
    SameAttributes (sampleComprobante xsi).attributes (sampleComprobante sampleXsi).attributes ∧
      SameAttributes (sampleEmisor added).attributes (sampleEmisor []).attributes ∧ inside = [] := by
  cases same with
  | element _ _ _ _ _ _ root children _ =>
    cases children with
    | element _ _ _ _ _ _ emisor content _ =>
      cases content
      exact ⟨root.attributes, emisor.attributes, rfl⟩

set_option maxRecDepth 20000 in
/-- A hidden element, a hidden attribute and a rebound prefix are accepted. -/
theorem forged_documents_accepted :
    Forged hiddenComplementoXml hiddenComplemento ∧ Forged hiddenAttributeXml hiddenAttribute ∧
      Forged reboundPrefixXml reboundPrefix := by
  have hiddenText : SampleText hiddenComplementoXml :=
    sampleText toList_pieces toList_pieces (by decide +kernel)
  have attributeText : SampleText hiddenAttributeXml :=
    sampleText toList_pieces toList_pieces (by decide +kernel)
  have reboundText : SampleText reboundPrefixXml :=
    sampleText toList_pieces toList_pieces (by decide +kernel)
  have accepted : sampleAccepted hiddenComplemento ∧ sampleAccepted hiddenAttribute ∧
      sampleAccepted reboundPrefix := by
    decide +kernel
  refine ⟨forged hiddenText accepted.1 fun same => ?_,
    forged attributeText accepted.2.1 fun same => ?_,
    forged reboundText accepted.2.2 fun same => ?_⟩
  · obtain ⟨-, -, empty⟩ := sample_same same
    simp at empty
  · obtain ⟨-, emisor, -⟩ := sample_same same
    have found := (emisor ⟨"xmlnsRfc", "", "XAXX010101000"⟩ (by decide)).mp (by decide)
    exact absurd found (by decide)
  · obtain ⟨root, -, -⟩ := sample_same same
    have found := (root ⟨"xsi:nil", "urn:other", "false"⟩ (by decide)).mp (by decide)
    exact absurd found (by decide)

set_option maxRecDepth 20000 in
/-- A document to which nothing but the stamp was added. -/
theorem honest_document_accepted :
    (findNodesByName (sampleStamped sampleXsi [] []) "TimbreFiscalDigital").length = 1 ∧
      Same [.element (sampleStamped sampleXsi [] []).1
        (eraseTimbre (sampleStamped sampleXsi [] []).2)]
        [.element sampleOriginal.1 sampleOriginal.2] := by
  have text : SampleText (sampleStampedXml sampleXsi "" "") :=
    sampleText toList_pieces toList_pieces (by decide +kernel)
  have accepted : sampleAccepted (sampleStamped sampleXsi [] []) := by decide +kernel
  obtain ⟨data, validated⟩ := sampleValidation_eq_ok text accepted
  obtain ⟨reads, readsOriginal⟩ := sample_reads text ((Bool.and_eq_true _ _).mp accepted).1
  obtain ⟨single, same⟩ :=
    accepted_stamp_is_only_change _ _ _ _ _ _ data _ _ reads readsOriginal rfl validated
  refine ⟨single, same.mpr ⟨by decide +kernel, ?_⟩⟩
  have erased : Node.element (sampleStamped sampleXsi [] []).1
      (eraseTimbre (sampleStamped sampleXsi [] []).2) = .element sampleOriginal.1 sampleOriginal.2 := rfl
  intro pair member
  rw [erased, zip_eq_zipWith, zipWith_self, mem_map] at member
  obtain ⟨node, isNode, rfl⟩ := member
  exact .refl (readsOriginal.keyed node isNode)

end TridentPos.Billing
