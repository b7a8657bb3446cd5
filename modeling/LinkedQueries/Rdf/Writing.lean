import LinkedQueries.Input
import LinkedQueries.Rdf.Format
import LinkedQueries.Rdf.JsonWriting
import LinkedQueries.Rdf.XmlWriting

/-!
# Writing RDF texts

Line formats write one statement after the other. Turtle and TriG share what neighbouring statements
have in common: the graph, the subject, and the predicate. Neither uses prefixes or a base.

`RdfFormat.write` is the text of some quads, with everything closed once no more follow. Some
formats cannot hold all statements: `RdfFormat.refusal?` says why.
-/

namespace LinkedQueries

/-! ## Line formats -/

/-- The line of a quad. -/
def Quad.line (q : Quad) : List Char :=
  q.text.toList ++ " .\n".toList

/-! ## Terms of Turtle -/

/-- A text without a sign before it. -/
def unsigned : List Char → List Char
  | '+' :: rest | '-' :: rest => rest
  | cs => cs

/-- Whether a text is a nonempty run of digits. -/
def isDigits (cs : List Char) : Bool :=
  !cs.isEmpty && cs.all Char.isDigit

/-- The whole digits of a number, and what follows them. -/
def wholeDigits (cs : List Char) : List Char × List Char :=
  ((unsigned cs).takeWhile Char.isDigit, (unsigned cs).dropWhile Char.isDigit)

/-- Whether a text is an integer as Turtle writes it. -/
def isBareInteger (cs : List Char) : Bool :=
  isDigits (unsigned cs)

/-- Whether a text is a decimal as Turtle writes it. -/
def isBareDecimal (cs : List Char) : Bool :=
  match (wholeDigits cs).2 with
  | '.' :: fraction => isDigits fraction
  | _ => false

/-- Whether a text is an exponent. -/
def isExponent : List Char → Bool
  | 'e' :: rest | 'E' :: rest => isDigits (unsigned rest)
  | _ => false

/-- Whether a text is a double as Turtle writes it. -/
def isBareDouble (cs : List Char) : Bool :=
  let (whole, rest) := wholeDigits cs
  match rest with
  | '.' :: rest =>
    let fraction := rest.takeWhile Char.isDigit
    (!whole.isEmpty || !fraction.isEmpty) && isExponent (rest.dropWhile Char.isDigit)
  | _ => !whole.isEmpty && isExponent rest

/-- Whether a literal is written without quotes. -/
def Literal.isBare (lexical : List Char) (datatype : String) : Bool :=
  if datatype = xsd ++ "boolean" then lexical == "true".toList || lexical == "false".toList
  else if datatype = xsd ++ "integer" then isBareInteger lexical
  else if datatype = xsd ++ "decimal" then isBareDecimal lexical
  else if datatype = xsd ++ "double" then isBareDouble lexical
  else false

/-- A term as Turtle writes it. -/
def Term.turtle : Term → List Char
  | .literal (.typed lexical datatype) =>
    if Literal.isBare lexical.toList datatype then lexical.toList
    else (Literal.typed lexical datatype).chars
  | .triple s p o =>
    '<' :: '<' :: ' ' :: s.turtle ++ ' ' :: bracketed p ++ ' ' :: o.turtle ++ [' ', '>', '>']
  | t => t.chars

/-! ## Turtle and TriG -/

/-- The indentation within a graph. -/
def indentation : GraphName → List Char
  | .default => []
  | _ => ['\t']

/-- What begins a graph. -/
def openGraph (g : GraphName) : List Char :=
  match g.text? with
  | none => []
  | some name => name.toList ++ " \x7b\n".toList

/-- What ends a graph. -/
def closeGraph : GraphName → List Char
  | .default => []
  | _ => "\x7d\n".toList

/-- A statement in full. -/
def fullStatement (q : Quad) : List Char :=
  indentation q.graph ++ q.subject.turtle ++ ' ' :: bracketed q.predicate ++ ' ' :: q.object.turtle

/-- A statement behind another one. -/
def nextStatement (last q : Quad) : List Char :=
  if q.graph = last.graph then
    if q.subject = last.subject then
      if q.predicate = last.predicate then " , ".toList ++ q.object.turtle
      else
        " ;\n\t".toList ++ indentation q.graph ++ bracketed q.predicate ++ ' ' :: q.object.turtle
    else " .\n".toList ++ fullStatement q
  else " .\n".toList ++ closeGraph last.graph ++ openGraph q.graph ++ fullStatement q

/-- Statements behind another one. -/
def nextStatements (last : Quad) : List Quad → List Char
  | [] => []
  | q :: rest => nextStatement last q ++ nextStatements q rest

/-- Statements that share what they have in common. -/
def sharedStatements : List Quad → List Char
  | [] => []
  | q :: rest => openGraph q.graph ++ fullStatement q ++ nextStatements q rest

/-- What closes the last of some statements. -/
def closeStatements (quads : List Quad) : List Char :=
  match quads.getLast? with
  | none => []
  | some last => " .\n".toList ++ closeGraph last.graph

/-! ## Formats -/

namespace RdfFormat

/-- Why a format refuses a statement behind one on a subject, if it does. -/
def refusal? (format : RdfFormat) (last : Option Term) (t : Triple) : Option Failure :=
  match format with
  | .rdfXml => (Rdf.XmlWriting.misfit? last t).map fun misfit => ⟨.invalidInput, message misfit⟩
  | .jsonLd _ =>
    if Rdf.JsonWriting.isWritable t then none
    else some ⟨.invalidInput, "JSON-LD does not support RDF-star yet"⟩
  | _ => none
where
  /-- The text of a refusal. -/
  message : Rdf.XmlWriting.Misfit → String
    | .subject => "RDF/XML only supports named or blank subject"
    | .property => "RDF/XML reserved syntax term is not allowed as a predicate"
    | .object => "RDF/XML only supports named, blank or literal object"

/-- The text of the quads that a format has been offered, closed or not. A quad that it refuses
gives no text of its own. -/
def write (format : RdfFormat) (offered : List Quad) (isClosed : Bool) : List Char :=
  match format with
  | .nTriples | .nQuads => offered.flatMap Quad.line
  | .rdfXml => Rdf.XmlWriting.write (offered.map (·.toTriple)) isClosed
  | .jsonLd _ => Rdf.JsonWriting.write offered isClosed
  | .turtle | .triG | .n3 =>
    sharedStatements offered ++ if isClosed then closeStatements offered else []

end RdfFormat

end LinkedQueries
