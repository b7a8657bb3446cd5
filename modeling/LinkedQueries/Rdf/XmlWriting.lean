import LinkedQueries.Rdf.Entities
import LinkedQueries.Rdf.NameChar
import LinkedQueries.Rdf.Term

/-!
# Writing RDF/XML

Statements with one subject that follow each other are the properties of one element. If the first
of them gives a type, the element is named after it.

A text is made in two steps: statements give marks (`marks`, `closing`), and marks are set into
lines (`layout`). A statement that cannot be written gives no marks, but the ones behind it are
written as if its subject had been opened.

`XmlWriting.write` is the text of some statements, with everything closed once no more follow.
-/

namespace LinkedQueries.Rdf.XmlWriting

/-! ## What can be written -/

/-- The terms of RDF that are part of the syntax and can name neither a type nor a property. -/
def isReserved (name : String) : Bool :=
  (["Description", "li", "RDF", "ID", "about", "parseType", "resource", "nodeID", "datatype"].map
    (rdf ++ ·)).contains name

/-- What a statement has that cannot be written. -/
inductive Misfit where
  | subject
  | property
  | object
  deriving DecidableEq, Repr

/-- Whether an element can stand for a subject. -/
def isSubject : Term → Bool
  | .iri _ | .blank _ => true
  | .literal _ | .triple .. => false

/-- The type that a statement gives, if an element can be named after it. -/
def namingType? (t : Triple) : Option String :=
  match t.object with
  | .iri type => if t.predicate == rdf ++ "type" && !isReserved type then some type else none
  | _ => none

/-- What keeps a property from being written. -/
def propertyMisfit? (t : Triple) : Option Misfit :=
  if isReserved t.predicate then some .property
  else match t.object with
    | .triple .. => some .object
    | _ => none

/-- What keeps a statement from being written behind one on a subject. -/
def misfit? (last : Option Term) (t : Triple) : Option Misfit :=
  if last == some t.subject then propertyMisfit? t
  else if !isSubject t.subject then some .subject
  else if (namingType? t).isSome then none
  else propertyMisfit? t

/-! ## Names -/

/-- A text within markup. -/
def escape (text : String) : List Char :=
  text.toList.flatMap Entities.escapedChar

/-- An attribute with its value. -/
def attributeText (name value : String) : List Char :=
  ' ' :: name.toList ++ '=' :: '"' :: escape value ++ ['"']

/-- The namespace of an IRI and its local name, which is as long as it can be a name. -/
def splitIri (iri : String) : List Char × List Char :=
  let isPart (c : Char) : Bool := isNameChar c || c == '.'
  let tail := (iri.toList.reverse.takeWhile isPart).reverse
  let space := iri.toList.take (iri.length - tail.length)
  if space.isEmpty then (iri.toList, [])
  else (space ++ tail.takeWhile (!isNameStart ·), tail.dropWhile (!isNameStart ·))

/-- The name of an element for an IRI, and the attribute that declares its namespace. -/
def elementName (iri : String) : List Char × List Char :=
  let (space, name) := splitIri iri
  if String.ofList space == rdf then ("rdf:".toList ++ name, [])
  else if String.ofList space == "http://www.w3.org/2000/xmlns/" then ("xmlns:".toList ++ name, [])
  else if name.isEmpty then ("p:".toList, attributeText "xmlns:p" (String.ofList space))
  else (name, attributeText "xmlns" (String.ofList space))

/-! ## Marks -/

/-- A mark: what begins, is or ends an element, or the text in one. -/
inductive Mark where
  | heading
  | start (name attributes : List Char)
  | whole (name attributes : List Char)
  | stop (name : List Char)
  | text (content : String)
  deriving DecidableEq, Repr

/-- The attributes that denote a subject. -/
def subjectText : Term → List Char
  | .iri i => attributeText "rdf:about" i
  | .blank l => attributeText "rdf:nodeID" l
  | _ => []

/-- The marks of a property with its object. -/
def propertyMarks (t : Triple) : List Mark :=
  let (name, space) := elementName t.predicate
  let filled (described : List Char) (text : String) : List Mark :=
    [.start name (space ++ described), .text text, .stop name]
  match t.object with
  | .iri i => [.whole name (space ++ attributeText "rdf:resource" i)]
  | .blank l => [.whole name (space ++ attributeText "rdf:nodeID" l)]
  | .literal (.simple text) => filled [] text
  | .literal (.tagged text language) => filled (attributeText "xml:lang" language) text
  | .literal (.typed text datatype) => filled (attributeText "rdf:datatype" datatype) text
  | .triple .. => []

/-- The element that is open: its subject and its name. -/
abbrev Open := Option (Term × List Char)

/-- The element that is open behind a statement. -/
def openAfter (current : Open) (t : Triple) : Open :=
  match current with
  | some (subject, name) =>
    if subject == t.subject then some (subject, name) else some (t.subject, nameFor t)
  | none => some (t.subject, nameFor t)
where
  /-- The name of the element that a statement opens. -/
  nameFor (t : Triple) : List Char :=
    ((namingType? t).map fun type => (elementName type).1).getD "rdf:Description".toList

/-- What begins a text. -/
def beginning : List Mark :=
  [.heading, .start "rdf:RDF".toList (attributeText "xmlns:rdf" rdf)]

/-- The marks of a statement that opens an element. -/
def openingMarks (t : Triple) : List Mark :=
  match namingType? t with
  | some type =>
    let (name, space) := elementName type
    [.start name (space ++ subjectText t.subject)]
  | none => .start "rdf:Description".toList (subjectText t.subject) :: propertyMarks t

/-- What stands between the element that is open and the next one. -/
def between (current : Open) : List Mark :=
  match current with
  | some (_, name) => [.stop name]
  | none => beginning

/-- The marks of a statement behind others. -/
def statementMarks (current : Open) (t : Triple) : List Mark :=
  let last := current.map (·.1)
  if (misfit? last t).isSome then []
  else if last == some t.subject then propertyMarks t
  else between current ++ openingMarks t

/-- The marks of statements behind others. -/
def marks (current : Open) : List Triple → List Mark
  | [] => []
  | t :: rest => statementMarks current t ++ marks (openAfter current t) rest

/-- What ends a text. -/
def ending (triples : List Triple) : List Mark :=
  between (triples.foldl openAfter none) ++ [.stop "rdf:RDF".toList]

/-! ## Lines -/

/-- Where a mark is put: how deep, and whether on a line of its own. -/
structure Place where
  depth : Nat
  isNewLine : Bool
  deriving DecidableEq, Repr

/-- What stands before a mark. -/
def Place.indentation (p : Place) : List Char :=
  if p.isNewLine then '\n' :: List.replicate p.depth '\t' else []

/-- The text of a mark. -/
def Mark.textAt (p : Place) : Mark → List Char
  | .heading => p.indentation ++ "<?xml version=\"1.0\" encoding=\"UTF-8\"?>".toList
  | .start name attributes => p.indentation ++ '<' :: name ++ attributes ++ ['>']
  | .whole name attributes => p.indentation ++ '<' :: name ++ attributes ++ "/>".toList
  | .stop name => { p with depth := p.depth - 1 }.indentation ++ '<' :: '/' :: name ++ ['>']
  | .text content => escape content

/-- The place behind a mark. What follows a text stays on its line. -/
def Place.behind (p : Place) : Mark → Place
  | .heading | .whole .. => ⟨p.depth, true⟩
  | .start .. => ⟨p.depth + 1, true⟩
  | .stop _ => ⟨p.depth - 1, true⟩
  | .text _ => ⟨p.depth, false⟩

/-- Marks in lines. -/
def layout (p : Place) : List Mark → List Char
  | [] => []
  | m :: rest => m.textAt p ++ layout (p.behind m) rest

/-- The text of some statements, closed or not. -/
def write (triples : List Triple) (isClosed : Bool) : List Char :=
  layout ⟨0, false⟩ (marks none triples ++ if isClosed then ending triples else [])

end LinkedQueries.Rdf.XmlWriting
