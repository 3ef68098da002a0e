import TridentPos.Billing.Domain
import TridentPos.Core.Text
import TridentPos.Library.Fallible
import TridentPos.Library.JsonValue
import TridentPos.Library.XmlTree
import Mathlib.Data.List.Sort

/-!
# The stamped document against the one that was sent

`xml-validator.ts`: the tree is built from the events of the parser, both documents are brought to a
canonical form that leaves the stamp out, and the texts of the two forms are compared.
-/
namespace TridentPos.Billing

open Core Library XmlTree

def validationError (message : String) : BillingError := ⟨.fiscalSuccessValidation, message⟩

/-! ### Building the tree -/

structure Frame where
  tag : Tag
  children : List Node

structure ParserState where
  root : Option (Tag × List Node)
  stack : List Frame
  rootCount : Nat
  parseError : Option String

def ParserState.start : ParserState := ⟨none, [], 0, none⟩

def addText (children : List Node) (content : String) : List Node :=
  match children.getLast? with
  | some (.text before) => children.dropLast ++ [.text (before ++ content)]
  | _ => children ++ [.text content]

def handleText (state : ParserState) (content : String) : ParserState :=
  match state.stack with
  | [] => state
  | current :: outer =>
    { state with stack := { current with children := addText current.children content } :: outer }

/-- The handlers of the parser; nothing is handled after an error. A node joins its parent when it is
closed, where the source links it at once and fills it later. -/
def handleEvent (state : ParserState) (event : Event) : ParserState :=
  match state.parseError with
  | some _ => state
  | none =>
    match event with
    | .error message => { state with parseError := some message }
    | .opentag tag =>
      match state.stack with
      | [] =>
        if state.rootCount = 0 then { state with rootCount := 1, stack := [⟨tag, []⟩] }
        else { state with
          rootCount := state.rootCount + 1, parseError := some "Multiple root elements detected" }
      | outer => { state with stack := ⟨tag, []⟩ :: outer }
    | .text content => handleText state content
    | .cdata content => handleText state content
    | .closetag =>
      match state.stack with
      | [] => state
      | [last] => { state with root := some (last.tag, last.children), stack := [] }
      | current :: parent :: outer =>
        let node := Node.element current.tag current.children
        { state with stack := { parent with children := parent.children ++ [node] } :: outer }

def lowered (text : String) : List Char := text.toList.map Char.toLower

def containsText (pattern : String) (chars : List Char) : Bool :=
  chars.tails.any (pattern.toList.isPrefixOf ·)

/-- What `parseXmlStructure` asks of a text before it parses it. -/
def checkText (xmlText : String) : Except BillingError Unit := do
  if isBlank xmlText then throw (validationError "XML input is empty or not a string")
  if 1024 * 1024 < xmlText.utf8ByteSize then
    throw (validationError "XML payload exceeds maximum size limit (1MB)")
  if ["<!doctype", "<!entity", "<?xml-stylesheet"].any (containsText · (lowered xmlText)) then
    throw (validationError "Unsupported XML construct or DTD reference")

def parseXmlStructure (sax : String → List Event) (xmlText : String) :
    Except BillingError (Tag × List Node) := do
  checkText xmlText
  let state := (sax xmlText).foldl handleEvent .start
  match state.parseError with
  | some message =>
    throw (validationError ("Invalid fiscal XML structure or identity: " ++ message))
  | none =>
    match state.root with
    | none => throw (validationError "Invalid fiscal XML structure or identity")
    | some root =>
      if state.stack ≠ [] ∨ state.rootCount ≠ 1 then
        throw (validationError "Invalid fiscal XML structure or identity")
      return root

/-! ### The canonical form -/

def cfdUri : String := "http://www.sat.gob.mx/cfd/4"

def timbreUri : String := "http://www.sat.gob.mx/TimbreFiscalDigital"

def isTimbre (tag : Tag) : Bool := tag.localName == "TimbreFiscalDigital" && tag.uri == timbreUri

def isComplemento (tag : Tag) : Bool := tag.localName == "Complemento" && tag.uri == cfdUri

def noOtherElement (children : List Node) : Bool :=
  children.all fun
    | .text _ => true
    | .element tag _ => isTimbre tag

section Canonical

variable (precedes : String → String → Bool)

/-- The attributes whose name does not start with `xmlns`, in the order of `localeCompare`. -/
def sortedAttributes (attributes : List Attribute) : List Attribute :=
  (attributes.filter fun attr => !"xmlns".toList.isPrefixOf attr.name.toList).insertionSort
    fun a b => precedes a.name b.name

def canonicalAttribute (attr : Attribute) : Json Empty :=
  .array [.string attr.name, .string attr.value]

def canonicalElement (tag : Tag) (children : List (Json Empty)) : Json Empty :=
  .array [.string tag.localName, .string tag.uri,
    .array ((sortedAttributes precedes tag.attributes).map canonicalAttribute), .array children]

mutual

/-- What a child adds to the canonical form of its parent; the stamp, and a `Complemento` of its own
that was not in the original, add nothing. -/
def canonicalizeItem (isStamped originalHadComplement : Bool) : Node → List (Json Empty)
  | .text content => [.array [.string "#text", .string content]]
  | .element tag children =>
    if isStamped && isTimbre tag then []
    else if isStamped && isComplemento tag && !originalHadComplement && noOtherElement children then []
    else [canonicalElement precedes tag (canonicalizeChildren isStamped originalHadComplement children)]

def canonicalizeChildren (isStamped originalHadComplement : Bool) : List Node → List (Json Empty)
  | [] => []
  | node :: rest =>
    canonicalizeItem isStamped originalHadComplement node ++
      canonicalizeChildren isStamped originalHadComplement rest

end

def canonicalizeNode (isStamped originalHadComplement : Bool) (root : Tag × List Node) :
    Json Empty :=
  canonicalElement precedes root.1 (canonicalizeChildren precedes isStamped originalHadComplement root.2)

def canonicalText (form : Json Empty) : String := form.stringify Empty.elim

end Canonical

/-! ### The stamp -/

structure TimbreFiscalDigitalData where
  (version uuid fechaTimbrado rfcProvCertif : String)
  selloCfd : Option String
  (noCertificadoSat selloSat : String)

structure ValidationOptions where
  (expectedUuid expectedProvider expectedOriginalXml : Option String)

/-- `findNodesByName`, without regard to letter case. -/
def findNodesByName (root : Tag × List Node) (name : String) : List (Tag × List Node) :=
  (root :: elements root.2).filter fun node => lowered node.1.localName == lowered name

def attributeOf (tag : Tag) (names : List String) : Option String :=
  names.findSome? fun name => (tag.attributes.find? fun attr => attr.name == name).map Attribute.value

def hasShape (shape : List (Char → Bool)) (chars : List Char) : Bool :=
  shape.length == chars.length && (shape.zip chars).all fun (allowed, c) => allowed c

def isHex (c : Char) : Bool := c.isDigit || ('a' ≤ c && c ≤ 'f') || ('A' ≤ c && c ≤ 'F')

def isUuidText (text : String) : Bool :=
  let group (n : Nat) := List.replicate n isHex
  hasShape (group 8 ++ [(· == '-')] ++ group 4 ++ [(· == '-')] ++ group 4 ++ [(· == '-')] ++ group 4 ++
    [(· == '-')] ++ group 12) text.toList

def isFechaText (text : String) : Bool :=
  let two := [Char.isDigit, Char.isDigit]
  let date := two ++ two ++ [(· == '-')] ++ two ++ [(· == '-')] ++ two ++ [(· == 'T')] ++ two ++
    [(· == ':')] ++ two ++ [(· == ':')] ++ two
  hasShape date text.toList || hasShape (date ++ [(· == 'Z')]) text.toList ||
    hasShape (date ++ [fun c => c == '+' || c == '-'] ++ two ++ [(· == ':')] ++ two) text.toList

/-- Base 64 with at most two `=` at its end. -/
def isBase64Text (text : String) : Bool :=
  let body := text.toList.takeWhile fun c => c.isAlphanum || c == '+' || c == '/'
  let padding := text.toList.drop body.length
  body ≠ [] && padding.all (· == '=') && padding.length ≤ 2

def isRfcText (text : String) : Bool :=
  let letter (c : Char) := c.isUpper || c == '&' || c == 'Ñ'
  let tail := List.replicate 6 Char.isDigit ++ List.replicate 3 fun c => c.isUpper || c.isDigit
  hasShape (List.replicate 3 letter ++ tail) text.toList ||
    hasShape (List.replicate 4 letter ++ tail) text.toList

/-- Step 4: the attributes of the stamp. `dateParses` is `Number.isFinite(Date.parse(text))`. -/
def extractTimbre (dateParses : String → Bool) (options : ValidationOptions) (timbre : Tag) :
    Except BillingError TimbreFiscalDigitalData := do
  let uuid := attributeOf timbre ["UUID", "uuid"]
  let fechaTimbrado := attributeOf timbre ["FechaTimbrado", "fechaTimbrado"]
  let rfcProvCertif := attributeOf timbre ["RfcProvCertif", "rfcProvCertif"]
  let selloSat := attributeOf timbre ["SelloSAT", "selloSAT", "selloSat"]
  let noCertificadoSat := attributeOf timbre ["NoCertificadoSAT", "noCertificadoSAT", "noCertificadoSat"]
  let version := attributeOf timbre ["Version"]
  if version ≠ some "1.1" then throw (validationError "TFD version must be 1.1")
  let selloCfd := attributeOf timbre ["SelloCFD", "selloCFD"]
  match uuid.filter isUuidText, fechaTimbrado.filter fun text => isFechaText text && dateParses text,
      selloSat.filter fun text => isBase64Text text && 32 ≤ text.length,
      noCertificadoSat.filter fun text => hasShape (List.replicate 20 Char.isDigit) text.toList,
      rfcProvCertif.filter isRfcText with
  | none, _, _, _, _ => throw (validationError "Invalid fiscal XML structure or identity")
  | _, none, _, _, _ => throw (validationError "TimbreFiscalDigital FechaTimbrado is missing")
  | _, _, none, _, _ => throw (validationError "TimbreFiscalDigital SelloSAT is missing")
  | _, _, _, none, _ => throw (validationError "TimbreFiscalDigital NoCertificadoSAT is missing")
  | _, _, _, _, none => throw (validationError "TimbreFiscalDigital RfcProvCertif is missing")
  | some uuid, some fechaTimbrado, some selloSat, some noCertificadoSat, some rfcProvCertif =>
    if (options.expectedProvider.filter fun text => text != "").any fun text => rfcProvCertif != text then
      throw (validationError "TimbreFiscalDigital RfcProvCertif is missing")
    if (options.expectedUuid.filter fun text => text != "").any fun text =>
        toUpperCase text != toUpperCase uuid then
      throw (validationError "Invalid fiscal XML structure or identity")
    return ⟨"1.1", uuid, fechaTimbrado, rfcProvCertif, selloCfd, noCertificadoSat, selloSat⟩

def holdsTimbre (children : List Node) : Bool :=
  children.any fun
    | .text _ => false
    | .element tag _ => lowered tag.localName == lowered "TimbreFiscalDigital"

def complementHoldsTimbre : Node → Bool
  | .text _ => false
  | .element tag children => isComplemento tag && holdsTimbre children

def hasComplement (children : List Node) : Bool :=
  children.any fun
    | .text _ => false
    | .element tag _ => isComplemento tag

section Validation

variable (sax : String → List Event) (precedes : String → String → Bool) (dateParses : String → Bool)

def compareTrees (root original : Tag × List Node) : Except BillingError Unit :=
  let originalHasComplement := hasComplement original.2
  if canonicalText (canonicalizeNode precedes true originalHasComplement root) ≠
      canonicalText (canonicalizeNode precedes false originalHasComplement original) then
    .error (validationError "Certified XML differs from submitted invoice")
  else .ok ()

def compareWithOriginal (root : Tag × List Node) (expectedOriginalXml : Option String) :
    Except BillingError Unit := do
  match expectedOriginalXml.filter fun text => text != "" with
  | none => return ()
  | some text => compareTrees precedes root (← parseXmlStructure sax text)

def validateRoot (options : ValidationOptions) (root : Tag × List Node)
    (comparison : Except BillingError Unit) : Except BillingError TimbreFiscalDigitalData := do
  if root.1.localName ≠ "Comprobante" ∨ root.1.uri ≠ cfdUri then
    throw (validationError "Invalid fiscal XML structure or identity")
  if attributeOf root.1 ["Version"] ≠ some "4.0" then
    throw (validationError "Invalid fiscal XML structure or identity")
  match findNodesByName root "TimbreFiscalDigital" with
  | [] =>
    throw (validationError "Authoritative TimbreFiscalDigital not found in certified XML structure")
  | _ :: _ :: _ =>
    throw (validationError "Multiple TimbreFiscalDigital nodes found in certified XML structure")
  | [timbre] =>
    if root.2.any complementHoldsTimbre = false ∨ isTimbre timbre.1 = false then
      throw (validationError "Invalid TFD namespace or placement")
    comparison
    extractTimbre dateParses options timbre.1

def validateAndExtractTimbreFiscalDigital (stampedXml : String) (options : ValidationOptions) :
    Except BillingError TimbreFiscalDigitalData := do
  if isBlank stampedXml then throw (validationError "Certified stamped XML is empty or missing")
  let root ← parseXmlStructure sax stampedXml
  validateRoot dateParses options root
    (compareWithOriginal sax precedes root options.expectedOriginalXml)

end Validation

end TridentPos.Billing
