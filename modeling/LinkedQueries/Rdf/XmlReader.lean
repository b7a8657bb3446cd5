import LinkedQueries.Iri.Resolve
import LinkedQueries.Rdf.Entities
import LinkedQueries.Rdf.FreshLabel
import LinkedQueries.Rdf.Markup
import LinkedQueries.Rdf.NameChar
import LinkedQueries.Rdf.Reading
import LinkedQueries.Text.LanguageTag

/-!
# Reading RDF/XML

Elements stand for nodes and properties in turns. A stack of frames holds what the open elements
stand for: the element of a node emits the types and the properties that are written as
attributes, the element of a property emits its statement when it is closed. What an element means
depends on its name and its attributes, which are IRIs made of a namespace and a local name.

A piece of markup that does not fit is one malformed place; the text is read on behind it. An
opening tag that does not fit has no frame of its own, so that its closing tag closes the frame
around it. A piece that breaks the text is the last malformed place.
-/

namespace LinkedQueries.Rdf.XmlReader

open Markup

/-! ## Names -/

/-- A prefix with its namespace, and the number of elements that are open where it is bound. The
default namespace has no prefix. -/
structure Binding where
  space : Option Bytes
  name : Bytes
  level : Nat
  deriving DecidableEq, Repr

/-- The bindings of a text, the innermost first. -/
abbrev Bindings := List Binding

/-- The namespace of the attributes of XML itself. -/
def xmlName : Bytes := Piece.ascii "http://www.w3.org/XML/1998/namespace"

/-- The namespace of the declarations of namespaces. -/
def xmlnsName : Bytes := Piece.ascii "http://www.w3.org/2000/xmlns/"

/-- The bindings that need no attribute. -/
def Bindings.standard : Bindings :=
  [⟨some (Piece.ascii "xmlns"), xmlnsName, 0⟩, ⟨some (Piece.ascii "xml"), xmlName, 0⟩]

/-- The prefix of a name and its local part. -/
def splitName (name : Bytes) : Option Bytes × Bytes :=
  match cutAt (byte ':') name with
  | some (space, part) => (some space, part)
  | none => (none, name)

/-- The prefix that an attribute binds, if it binds one. -/
def boundSpace? (key : Bytes) : Option (Option Bytes) :=
  if key == Piece.ascii "xmlns" then some none
  else if (Piece.ascii "xmlns:").isPrefixOf key then
    some (if key.length == 6 then none else some (key.drop 6))
  else none

/-- The bindings within an element with some attributes, and whether it may bind them: the
prefixes and the namespaces of XML belong together. Those before one that it may not bind count.
-/
def Bindings.within (b : Bindings) (level : Nat) : List Attribute → Bindings × Bool
  | [] => (b, true)
  | (key, name) :: rest =>
    match boundSpace? key with
    | none => within b level rest
    | some none => within (⟨none, name, level⟩ :: b) level rest
    | some (some space) =>
      if space == Piece.ascii "xml" then
        if name == xmlName then within b level rest else (b, false)
      else if space == Piece.ascii "xmlns" || name == xmlName || name == xmlnsName then (b, false)
      else within (⟨some space, name, level⟩ :: b) level rest

/-- The namespace of a prefix; an empty one unbinds it. -/
def Bindings.namespace? (b : Bindings) (space : Option Bytes) : Option Bytes :=
  ((b.find? (·.space == space)).map (·.name)).filter (!·.isEmpty)

/-- A term of the namespace of RDF. -/
def term (name : String) : String := rdf ++ name

/-- The terms that are neither nodes nor properties. -/
def isReservedElement (name : String) : Bool :=
  (["about", "aboutEach", "aboutEachPrefix", "bagID", "datatype", "ID", "li", "nodeID", "parseType",
    "RDF", "resource"].map term).contains name

/-- The terms that are no attributes. -/
def isReservedAttribute (name : String) : Bool :=
  (["aboutEach", "aboutEachPrefix", "li", "RDF"].map term).contains name

/-- Whether a text is a name without a colon. -/
def isPlainName : List Char → Bool
  | [] => false
  | c :: rest => isNameStart c && rest.all fun c => isNameChar c || c == '.'

/-! ## Frames -/

/-- A property of a subject whose object is still to come, with the name of the statement and the
datatype of a literal. -/
structure Property where
  subject : Term
  predicate : String
  statement : Option String
  datatype : Option String
  deriving DecidableEq, Repr

/-- The object of a property, as far as it is known. -/
inductive Object where
  | absent
  | node (node : Term)
  | text (content : List Char)
  deriving DecidableEq, Repr

/-- Whether the object of a property is settled; blanks settle nothing. -/
def Object.isSettled : Object → Bool
  | .absent => false
  | .node _ => true
  | .text content => !content.all isBlank

/-- What an open element stands for. A node counts the members it lists; markup that is a literal
counts the elements open in it. -/
inductive Level where
  | document
  | root
  | node (subject : Term) (members : Nat)
  | property (property : Property) (object : Object)
  | collection (property : Property) (objects : List Term)
  | markup (property : Property) (isKept : Bool) (content : Bytes) (depth : Nat)
  deriving DecidableEq, Repr

/-- An open element with its base and its language. -/
structure Frame where
  level : Level
  base : Option String
  language : Option String
  deriving DecidableEq, Repr

/-- What has been read of a text. -/
structure State where
  /-- The frames of the open elements, the innermost first. -/
  frames : List Frame
  /-- The names of the open elements, the innermost first. -/
  names : List Bytes
  /-- The number of elements that are open for the bindings. -/
  depth : Nat
  bindings : Bindings
  entities : Entities
  /-- The identifiers that were given to resources. -/
  identifiers : List String
  /-- The number of the text for its fresh labels, and the next of them. -/
  text : Nat
  fresh : Nat

/-- An action on a state that may fail. What it has changed before it fails stays changed. -/
abbrev Action := OptionT (StateM State)

namespace State

/-- At the beginning of a text. -/
def start (base : Option String) (text : Nat) : State where
  frames := [⟨.document, base, none⟩]
  names := []
  depth := 0
  bindings := .standard
  entities := []
  identifiers := []
  text
  fresh := 0

/-- A text with its references replaced. -/
def expand? (s : State) (source : Bytes) : Option (List Char) :=
  (Utf8.strict? source).bind s.entities.expand

/-- The IRI of a name. Names of elements may be in the default namespace, those of attributes not.
-/
def name? (s : State) (isElement : Bool) (name : Bytes) : Option String := do
  let (space, part) := splitName name
  if space.isNone && !isElement then none
  return String.ofList (← s.expand? ((← s.bindings.namespace? space) ++ part))

/-- The innermost frame put in place of the one there is. -/
def withFrame (s : State) (f : Frame) : State := { s with frames := f :: s.frames.drop 1 }

end State

/-- A fresh blank node. -/
def anonymous : Action Term := modifyGet fun s =>
  (.blank (freshLabel s.text s.fresh), { s with fresh := s.fresh + 1 })

/-- One frame more. -/
def push (f : Frame) : Action Unit := modify fun s => { s with frames := f :: s.frames }

/-- The value, if there is one. -/
def ofOption {α : Type} (x : Option α) : Action α := OptionT.mk (pure x)

/-- Whether a text is an absolute IRI. -/
def isAbsolute (iri : List Char) : Bool := (Iri.checkAbsolute iri).isOk

/-! ## Attributes -/

/-- What the attributes of an element say. References are not resolved yet. -/
structure Description where
  base : Option String
  language : Option String
  id : Option (List Char) := none
  label : Option String := none
  about : Option Bytes := none
  resource : Option Bytes := none
  datatype : Option Bytes := none
  type : Option Bytes := none
  parseType : Option Bytes := none
  properties : List (String × String) := []

/-- Takes in an attribute in a namespace. -/
def Description.withNamed (s : State) (d : Description) (name : String) (source : Bytes) :
    Option Description :=
  if name == term "about" then some { d with about := some source }
  else if name == term "resource" then some { d with resource := some source }
  else if name == term "datatype" then some { d with datatype := some source }
  else if name == term "parseType" then some { d with parseType := some source }
  else if name == term "type" then some { d with type := some source }
  else do
    let value ← s.expand? source
    if name == term "ID" then if isPlainName value then some { d with id := some value } else none
    else if name == term "bagID" then if isPlainName value then some d else none
    else if name == term "nodeID" then
      if isPlainName value then some { d with label := some (String.ofList value) } else none
    else if isReservedAttribute name || !isAbsolute name.toList then none
    else some { d with properties := d.properties ++ [(name, String.ofList value)] }

/-- Takes in an attribute. -/
def Description.withAttribute (s : State) (d : Description) (written : Attribute) :
    Option Description := do
  let (key, source) := written
  if key == Piece.ascii "xml:lang" then
    let tag := (← s.expand? source).map Char.toLower
    if LanguageTag.isTag tag then some { d with language := some (String.ofList tag) } else none
  else if key == Piece.ascii "xml:base" then
    let iri ← s.expand? source
    if isAbsolute iri then some { d with base := some (String.ofList iri) } else none
  else if (Piece.ascii "xml").isPrefixOf key then some d
  else d.withNamed s (← s.name? false key) source

/-- The IRI of a reference under the base of an element. -/
def Description.resolve? (d : Description) (reference : List Char) : Option String :=
  (Iri.ofReference d.base reference).toOption

/-- The IRI of an attribute that is a reference, if it is there. -/
def Description.resolved (d : Description) (source : Option Bytes) : Action (Option String) := do
  let s ← get
  source.mapM fun source => ofOption ((s.expand? source).bind d.resolve?)

/-- The literal of a text in the language of an element. -/
def literalIn (language : Option String) (text : String) : Term :=
  .literal ((language.map (Literal.tagged text)).getD (.simple text))

/-- The statements of a node that its attributes make, the latest first. -/
def Description.statements (d : Description) (node : Term) (types : List String) : List Triple :=
  (d.properties.map fun (p, text) => ⟨node, p, literalIn d.language text⟩) ++
    types.map fun type => ⟨node, term "type", .iri type⟩

/-! ## Statements -/

/-- The statement of a property with its object, and the statements about it if it has a name. -/
def Property.statements (p : Property) (object : Term) : List Triple :=
  let about := match p.statement with
    | none => []
    | some name =>
      [⟨.iri name, term "type", .iri (term "Statement")⟩,
       ⟨.iri name, term "subject", p.subject⟩,
       ⟨.iri name, term "predicate", .iri p.predicate⟩,
       ⟨.iri name, term "object", object⟩]
  about ++ [⟨p.subject, p.predicate, object⟩]

/-- The literal of a text that a property holds. -/
def Property.literal (p : Property) (language : Option String) (text : List Char) : Term :=
  match p.datatype with
  | some d => .literal (.ofDatatype (String.ofList text) d)
  | none => literalIn language (String.ofList text)

/-! ## Opening an element -/

/-- The references of an element, resolved. -/
structure References where
  id : Option String
  about : Option String
  resource : Option String
  datatype : Option String
  type : Option String

/-- The references of an element. An identifier is given only once. -/
def Description.references (d : Description) : Action References := do
  let id ← d.id.mapM fun i => ofOption (d.resolve? ('#' :: i))
  if let some i := id then
    if (← get).identifiers.contains i then failure
    modify fun s => { s with identifiers := i :: s.identifiers }
  return {
    id
    about := ← d.resolved d.about
    resource := ← d.resolved d.resource
    datatype := ← d.resolved d.datatype
    type := ← d.resolved d.type }

/-- Opens the element of a node. -/
def openNode (d : Description) (r : References) (name : String) : Action (List Triple) := do
  if isReservedElement name || !isAbsolute name.toList then failure
  let subject ← match r.id, d.label, r.about with
    | some i, none, none | none, none, some i => pure (Term.iri i)
    | none, some l, none => pure (.blank l)
    | none, none, none => anonymous
    | _, _, _ => failure
  push ⟨.node subject 0, d.base, d.language⟩
  let own := if name == term "Description" then [] else [name]
  return d.statements subject (r.type.toList ++ own)

/-- The predicate of the element of a property; a member of a container has a number. -/
def predicateOf (frame : Frame) (subject : Term) (members : Nat) (name : String) :
    Action String := do
  if name == term "li" then
    modify (·.withFrame { frame with level := .node subject (members + 1) })
    return term ("_" ++ toString (members + 1))
  else if isReservedElement name || name == term "Description" || !isAbsolute name.toList then
    failure
  else return name

/-- Opens the element of a property of a node. -/
def openProperty (d : Description) (r : References) (p : Property) : Action (List Triple) := do
  let frame (level : Level) : Frame := ⟨level, d.base, d.language⟩
  match d.parseType.map fun t => String.ofList (t.map lone) with
  | none =>
    if r.resource.isNone && d.label.isNone && d.properties.isEmpty then
      push (frame (.property p .absent))
      return []
    else
      let object ← match r.resource, d.label with
        | some i, none => pure (Term.iri i)
        | none, some l => pure (.blank l)
        | none, none => anonymous
        | _, _ => failure
      push (frame (.property p (.node object)))
      return d.statements object r.type.toList
  | some "Resource" =>
    let object ← anonymous
    push (frame (.node object 0))
    return p.statements object
  | some "Collection" =>
    push (frame (.collection p []))
    return []
  | some other =>
    push (frame (.markup p (other == "Literal") [] 0))
    return []

/-- Opens an element outside of markup that is a literal. Its attributes are those up to the first
malformed one. -/
def openMeaning (name : Bytes) (attributes : List Attribute) (isSound : Bool) :
    Action (List Triple) := do
  let s ← get
  let name ← ofOption (s.name? true name)
  let outer := s.frames.head?
  let d ← ofOption (attributes.foldlM (Description.withAttribute s)
    { base := outer.bind (·.base), language := outer.bind (·.language) })
  if !isSound then failure
  let r ← d.references
  match outer with
  | none => failure
  | some frame =>
    match frame.level with
    | .node subject members =>
      let predicate ← predicateOf frame subject members name
      openProperty d r ⟨subject, predicate, r.id, r.datatype⟩
    | .document =>
      if name == term "RDF" then
        push ⟨.root, d.base, d.language⟩
        return []
      else openNode d r name
    | _ => openNode d r name

/-- A tag as it stands in markup that is a literal. -/
def tagText (name : Bytes) (attributes : List Attribute) : Bytes :=
  byte '<' :: name ++ (attributes.flatMap fun (key, value) =>
    byte ' ' :: key ++ byte '=' :: byte '"' :: value ++ [byte '"']) ++ [byte '>']

/-- Opens an element. -/
def openElement (name inside : Bytes) : Action (List Triple) := do
  let (attributes, isSound) := attributes true inside
  let s ← get
  match s.frames with
  | ⟨.markup p isKept content depth, base, language⟩ :: _ =>
    if !isSound || (Utf8.strict? name).isNone then failure
    let level := .markup p isKept (content ++ tagText name attributes) (depth + 1)
    set (s.withFrame ⟨level, base, language⟩)
    return []
  | _ => openMeaning name attributes isSound

/-! ## Closing an element -/

/-- The statements of a list of objects, the latest first, with its first cell. -/
def cells : List Term → Action (Term × List Triple)
  | [] => return (.iri (term "nil"), [])
  | object :: rest => do
    let (next, triples) ← cells rest
    let cell ← anonymous
    return (cell, triples ++ [⟨cell, term "first", object⟩, ⟨cell, term "rest", next⟩])

/-- Hands a node over to the property that is open around it. -/
def receive (node : Term) : Action Unit := do
  let s ← get
  match s.frames with
  | ⟨.property p object, base, language⟩ :: _ =>
    if object.isSettled then failure
    set (s.withFrame ⟨.property p (.node node), base, language⟩)
  | ⟨.collection p objects, base, language⟩ :: _ =>
    set (s.withFrame ⟨.collection p (objects ++ [node]), base, language⟩)
  | _ => pure ()

/-- What the end of an element gives, when its frame is taken off. -/
def closeLevel (language : Option String) : Level → Action (List Triple)
  | .document | .root => return []
  | .node subject _ => do
    receive subject
    return []
  | .property p .absent => return p.statements (p.literal language [])
  | .property p (.text text) => return p.statements (p.literal language text)
  | .property p (.node node) => return p.statements node
  | .collection p objects => do
    let (first, triples) ← cells objects
    return triples ++ p.statements first
  | .markup p isKept content _ =>
    if !isKept then return []
    else if content.isEmpty then failure
    else do
      let text ← ofOption (Utf8.strict? content)
      return p.statements (.literal (.typed (String.ofList text) (term "XMLLiteral")))

/-- Closes an element. -/
def closeElement (name : Bytes) : Action (List Triple) := do
  let s ← get
  match s.frames with
  | ⟨.markup p isKept content (depth + 1), base, language⟩ :: _ =>
    let closing := byte '<' :: byte '/' :: name ++ [byte '>']
    set (s.withFrame ⟨.markup p isKept (content ++ closing) depth, base, language⟩)
    return []
  | frame :: frames =>
    set { s with frames }
    closeLevel frame.language frame.level
  | [] => return []

/-! ## Texts -/

/-- Takes in a text; only that of a property may hold more than blanks, as long as the object of the
property is not settled. -/
def takeText (text : List Char) : Action (List Triple) := do
  let s ← get
  match s.frames with
  | ⟨.property p object, base, language⟩ :: _ =>
    if !object.isSettled then set (s.withFrame ⟨.property p (.text text), base, language⟩)
    else if !text.all isBlank then failure
  | ⟨.markup p isKept content depth, base, language⟩ :: _ =>
    let written := Utf8.encode (text.flatMap Entities.escapedChar)
    set (s.withFrame ⟨.markup p isKept (content ++ written) depth, base, language⟩)
  | _ => if !text.all isBlank then failure
  return []

/-! ## Pieces -/

/-- Takes in an opening tag. Its namespaces count even if it does not fit. -/
def opening (name inside : Bytes) : Action (List Triple) := do
  let s ← get
  let depth := s.depth + 1
  let (bindings, mayBind) := s.bindings.within depth (attributes false inside).1
  set { s with names := name :: s.names, depth, bindings }
  if !mayBind then failure
  openElement name inside

/-- Takes in a closing tag; it has to close the innermost element. -/
def closing (name : Bytes) : Action (List Triple) := do
  let s ← get
  match s.names with
  | [] => failure
  | opened :: names =>
    set { s with names }
    if opened != name then failure
    let depth := s.depth - 1
    modify fun s => { s with depth, bindings := s.bindings.dropWhile (depth < ·.level) }
    closeElement name

/-- The names of the one encoding that a text may have. -/
def encodings : List String :=
  ["utf-8", "utf8", "unicode-1-1-utf-8", "unicode11utf8", "unicode20utf8", "x-unicode20utf8"]

/-- Whether the declaration at the beginning of a text is one that can be read. -/
def isReadable (inside : Bytes) : Bool :=
  let (attributes, isSound) := attributes false inside
  match attributes.lookup (Piece.ascii "encoding") with
  | some encoding => encodings.contains (String.ofList (encoding.map fun b => (lone b).toLower))
  | none => isSound

/-- Takes in a piece; it gives statements, the latest first. -/
def take : Piece → Action (List Triple)
  | .opening name inside _ => opening name inside
  | .closing name => closing name
  | .text source => do takeText (← ofOption ((← get).expand? source))
  | .verbatim content => do takeText (← ofOption (Utf8.strict? content))
  | .header inside => if isReadable inside then return [] else failure
  | .documentType content => do
    let (entities, isSound) := (← get).entities.declared (← ofOption (Utf8.strict? content))
    modify fun s => { s with entities }
    if isSound then return [] else failure
  | .aside => return []
  | .malformed | .broken => failure

/-- The events of the statements that a piece gives, the latest first. -/
def events : Option (List Triple) → List ReadEvent
  | some triples => triples.map fun t => .statement (t.inGraph .default)
  | none => [.misfit]

/-- The pieces that a piece stands for: an element that is closed at once has a closing tag, too. -/
def expanded : Piece → List Piece
  | .opening name inside true => [.opening name inside false, .closing name]
  | piece => [piece]

/-- Reads a text; events are collected last first. The flag says whether the text is broken. -/
def readFrom (fuel : Nat) (ending : Bool) (s : State) (seen : List ReadEvent) (cs : Bytes) :
    List ReadEvent × Bool :=
  match fuel with
  | 0 => (seen, false)
  | fuel + 1 =>
    match Piece.next ending cs with
    | none => (seen, false)
    | some (.broken, _) => (.misfit :: seen, true)
    | some (piece, rest) =>
      let (s, seen) := (expanded piece).foldl (fun (s, seen) piece =>
        let (triples, s) := (take piece).run s
        (s, events triples ++ seen)) (s, seen)
      readFrom fuel ending s seen rest

/-- Reads a text, behind the mark of its encoding if it begins with one. -/
def read (fuel : Nat) (ending : Bool) (s : State) (cs : Bytes) : List ReadEvent × Bool :=
  readFrom fuel ending s [] (if cs.take 3 == [0xEF, 0xBB, 0xBF] then cs.drop 3 else cs)

end LinkedQueries.Rdf.XmlReader
