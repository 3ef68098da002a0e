import Mathlib.Data.List.Forall2

/-!
# XML trees and parser events

The tree of a document with resolved namespaces, and the events a streaming parser reports for it.
Character data may arrive in several pieces, as text or as CDATA.
-/
namespace TridentPos.Library.XmlTree

structure Attribute where
  (name uri value : String)
deriving DecidableEq

structure Tag where
  (localName uri : String)
  attributes : List Attribute

inductive Node where
  | text (content : String)
  | element (tag : Tag) (children : List Node)

inductive Event where
  | opentag (tag : Tag)
  | text (content : String)
  | cdata (content : String)
  | closetag
  | error (message : String)

def Event.content : Event → Option String
  | .text content => some content
  | .cdata content => some content
  | _ => none

/-! ### Trees -/

def Node.isText : Node → Bool
  | .text _ => true
  | .element _ _ => false

mutual

/-- The element and those inside it, each with its children, in document order. -/
def Node.elements : Node → List (Tag × List Node)
  | .text _ => []
  | .element tag children => (tag, children) :: elements children

def elements : List Node → List (Tag × List Node)
  | [] => []
  | node :: rest => node.elements ++ elements rest

end

@[simp] theorem elements_append (nodes more : List Node) :
    elements (nodes ++ more) = elements nodes ++ elements more := by
  induction nodes with
  | nil => rfl
  | cons node rest ih => simp [elements, ih]

theorem mem_elements {tag : Tag} {children nodes : List Node}
    (member : .element tag children ∈ nodes) :
    (tag, children) ∈ elements nodes := by
  induction nodes with
  | nil => simp at member
  | cons node rest ih =>
    rw [elements, List.mem_append]
    rcases List.mem_cons.mp member with rfl | later
    · exact .inl (by simp [Node.elements])
    · exact .inr (ih later)

mutual

theorem Node.elements_trans (inner outer : Tag × List Node) : (node : Node) →
    outer ∈ node.elements → inner ∈ XmlTree.elements outer.2 → inner ∈ node.elements
  | .text _, isOuter, _ => by simp [Node.elements] at isOuter
  | .element tag children, isOuter, isInner => by
    rw [Node.elements, List.mem_cons] at isOuter ⊢
    rcases isOuter with rfl | deeper
    · exact .inr isInner
    · exact .inr (elements_trans inner outer children deeper isInner)

theorem elements_trans (inner outer : Tag × List Node) : (nodes : List Node) →
    outer ∈ elements nodes → inner ∈ elements outer.2 → inner ∈ elements nodes
  | [], isOuter, _ => by simp [elements] at isOuter
  | node :: rest, isOuter, isInner => by
    rw [elements, List.mem_append] at isOuter ⊢
    rcases isOuter with first | later
    · exact .inl (Node.elements_trans inner outer node first isInner)
    · exact .inr (elements_trans inner outer rest later isInner)

end

def Attribute.declares (attr : Attribute) : Bool :=
  attr.name == "xmlns" || "xmlns:".toList.isPrefixOf attr.name.toList

def SameAttributes (a b : List Attribute) : Prop :=
  ∀ attr : Attribute, attr.declares = false → (attr ∈ a ↔ attr ∈ b)

structure SameTag (a b : Tag) : Prop where
  name : a.localName = b.localName
  uri : a.uri = b.uri
  attributes : SameAttributes a.attributes b.attributes

section Match

variable {r q : Tag → Tag → Prop} {a b : List Node}

/-- Two forests of one shape, with the same texts and with related tags. -/
inductive Match (r : Tag → Tag → Prop) : List Node → List Node → Prop
  | nil : Match r [] []
  | text (content : String) (rest others : List Node) (later : Match r rest others) :
      Match r (.text content :: rest) (.text content :: others)
  | element (a b : Tag) (children children' rest others : List Node) (tags : r a b)
      (inside : Match r children children') (later : Match r rest others) :
      Match r (.element a children :: rest) (.element b children' :: others)

theorem Match.length_elements (alike : Match r a b) : (elements a).length = (elements b).length := by
  induction alike with
  | nil => rfl
  | text content rest others _ ih => simpa [elements, Node.elements] using ih
  | element => simp [elements, Node.elements, *]

theorem Match.zip_iff (alike : Match r a b) :
    (∀ pair ∈ (elements a).zip (elements b), q pair.1.1 pair.2.1) ↔ Match q a b := by
  induction alike with
  | nil => simp [elements, Match.nil]
  | text content rest others _ ih =>
    simp only [elements, Node.elements, List.nil_append, ih]
    refine ⟨.text content rest others, fun whole => ?_⟩
    cases whole
    assumption
  | element tag other children children' rest others _ inside _ ihInside ihLater =>
    simp only [elements, Node.elements, List.cons_append, List.zip_cons_cons, List.forall_mem_cons,
      List.zip_append inside.length_elements, List.forall_mem_append, ihInside, ihLater]
    constructor
    · rintro ⟨tags, inner, later⟩
      exact .element tag other children children' rest others tags inner later
    · intro whole
      cases whole
      exact ⟨‹_›, ‹_›, ‹_›⟩

end Match

/-- The same trees: expanded names, attribute sets, text and order of children. -/
def Same : List Node → List Node → Prop := Match SameTag

/-! ### Events of a tree -/

inductive Chunks : String → List Event → Prop
  | last (event : Event) (content : String) (piece : event.content = some content) :
      Chunks content [event]
  | cons (event : Event) (content later : String) (events : List Event)
      (piece : event.content = some content) (rest : Chunks later events) :
      Chunks (content ++ later) (event :: events)

inductive Reported : List Node → List Event → Prop
  | nil : Reported [] []
  | text (content : String) (chunks events : List Event) (rest : List Node)
      (pieces : Chunks content chunks) (apart : ∀ node ∈ rest.head?, node.isText = false)
      (later : Reported rest events) : Reported (.text content :: rest) (chunks ++ events)
  | element (tag : Tag) (children rest : List Node) (inner events : List Event)
      (inside : Reported children inner) (later : Reported rest events) :
      Reported (.element tag children :: rest) (.opentag tag :: (inner ++ .closetag :: events))

def ReportedDocument (tag : Tag) (children : List Node) (events : List Event) : Prop :=
  ∃ before inner after, Reported children inner ∧
    (∀ event ∈ before ++ after, event.content.isSome) ∧
    events = before ++ (.opentag tag :: (inner ++ .closetag :: after))

mutual

def Node.events : Node → List Event
  | .text content => [.text content]
  | .element tag children => .opentag tag :: (events children ++ [.closetag])

def events : List Node → List Event
  | [] => []
  | node :: rest => node.events ++ events rest

end

mutual

def Node.spaced : Node → Bool
  | .text _ => true
  | .element _ children => spaced children

def spaced : List Node → Bool
  | [] => true
  | node :: rest => node.spaced && !(node.isText && rest.head?.any Node.isText) && spaced rest

end

theorem reported_events : (nodes : List Node) → spaced nodes → Reported nodes (events nodes)
  | [], _ => .nil
  | .text content :: rest, apart => by
    simp only [spaced, Node.isText, Bool.true_and, Bool.and_eq_true, Bool.not_eq_true'] at apart
    refine .text content [.text content] (events rest) rest (.last _ content rfl) ?_
      (reported_events rest apart.2)
    intro node isHead
    have none := apart.1.2
    rw [Option.mem_def.mp isHead] at none
    simpa using none
  | .element tag children :: rest, apart => by
    simp only [spaced, Node.spaced, Bool.and_eq_true] at apart
    have whole := Reported.element tag children rest (events children) (events rest)
      (reported_events children apart.1.1) (reported_events rest apart.2)
    simpa [events, Node.events] using whole

theorem reportedDocument_events (tag : Tag) {children : List Node}
    (apart : spaced children) :
    ReportedDocument tag children (Node.element tag children).events :=
  ⟨[], events children, [], reported_events children apart, by simp, by simp [Node.events]⟩

end TridentPos.Library.XmlTree
