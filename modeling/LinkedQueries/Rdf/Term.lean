/-!
# RDF terms

The ground terms of an RDF graph, quoted triples included, with triples, graph names and quads, and
the text in which a term appears in reports: `<iri>`, `_:label`, `"lexical"@tag` and `<<s p o>>`.

A value of `Term` need not be well-formed: whether an IRI, a label or a position is legal is decided
where a text is read or a name is turned back into a graph.
-/

namespace LinkedQueries

/-- The namespace of the terms that RDF itself gives a meaning. -/
def rdf : String := "http://www.w3.org/1999/02/22-rdf-syntax-ns#"

/-- The namespace of the datatypes. -/
def xsd : String := "http://www.w3.org/2001/XMLSchema#"

/-- The datatype that a literal without tag and datatype has. -/
def xsdString : String := "http://www.w3.org/2001/XMLSchema#string"

/-- A literal: a lexical form alone, with a language tag, or with a datatype. -/
inductive Literal where
  | simple (lexical : String)
  | tagged (lexical language : String)
  | typed (lexical datatype : String)
  deriving DecidableEq, Repr

namespace Literal

/-- The lexical form. -/
def lexical : Literal → String
  | .simple s | .tagged s _ | .typed s _ => s

/-- The literal of a datatype; a string has the plain form. -/
def ofDatatype (lexical datatype : String) : Literal :=
  if datatype = xsdString then .simple lexical else .typed lexical datatype

/-- The IRI of the datatype; a tagged literal has the one reserved for language-tagged strings. -/
def datatype : Literal → String
  | .simple _ => xsdString
  | .tagged _ _ => "http://www.w3.org/1999/02/22-rdf-syntax-ns#langString"
  | .typed _ d => d

end Literal

/-- A ground RDF term. -/
inductive Term where
  | iri (value : String)
  | blank (label : String)
  | literal (value : Literal)
  | triple (subject : Term) (predicate : String) (object : Term)
  deriving DecidableEq, Repr

/-- A triple. -/
structure Triple where
  subject : Term
  predicate : String
  object : Term
  deriving DecidableEq, Repr

/-- The triple as a term that other triples may speak about. -/
def Triple.quoted (t : Triple) : Term :=
  .triple t.subject t.predicate t.object

/-- The name of a graph of a dataset. -/
inductive GraphName where
  | default
  | iri (value : String)
  | blank (label : String)
  deriving DecidableEq, Repr

/-- A triple in a graph. -/
structure Quad extends Triple where
  graph : GraphName
  deriving DecidableEq, Repr

/-- The triple, placed in a graph. -/
def Triple.inGraph (t : Triple) (g : GraphName) : Quad :=
  { t with graph := g }

/-! ## Texts -/

/-- Four upper-case hexadecimal digits of a value below 65536. -/
def fourHex (n : Nat) : List Char :=
  [n / 4096, n / 256 % 16, n / 16 % 16, n % 16].map fun d =>
    if d < 10 then Char.ofNat (48 + d) else Char.ofNat (55 + d)

/-- One character of a lexical form: quotes, backslashes and control characters are escaped. -/
def quotedChar (c : Char) : List Char :=
  if c = '\x08' then ['\\', 'b']
  else if c = '\t' then ['\\', 't']
  else if c = '\n' then ['\\', 'n']
  else if c = '\x0C' then ['\\', 'f']
  else if c = '\r' then ['\\', 'r']
  else if c = '"' then ['\\', '"']
  else if c = '\\' then ['\\', '\\']
  else if c.toNat < 0x20 || c.toNat == 0x7F then '\\' :: 'u' :: fourHex c.toNat
  else [c]

/-- A text in quotes. -/
def quotedChars (s : String) : List Char :=
  '"' :: s.toList.flatMap quotedChar ++ ['"']

/-- An IRI in angle brackets, as it is. -/
def bracketed (iri : String) : List Char :=
  '<' :: iri.toList ++ ['>']

namespace Literal

/-- The text of a literal. -/
def chars : Literal → List Char
  | .simple s => quotedChars s
  | .tagged s tag => quotedChars s ++ '@' :: tag.toList
  | .typed s d => quotedChars s ++ '^' :: '^' :: bracketed d

/-- The text of a literal. -/
def text (l : Literal) : String :=
  String.ofList l.chars

end Literal

namespace Term

/-- The text of a term. -/
def chars : Term → List Char
  | .iri i => bracketed i
  | .blank l => '_' :: ':' :: l.toList
  | .literal l => l.chars
  | .triple s p o =>
    '<' :: '<' :: s.chars ++ ' ' :: bracketed p ++ ' ' :: o.chars ++ ['>', '>']

/-- The text of a term. -/
def text (t : Term) : String :=
  String.ofList t.chars

end Term

/-- The text of a triple: its three terms. -/
def Triple.text (t : Triple) : String :=
  String.ofList (t.subject.chars ++ ' ' :: bracketed t.predicate ++ ' ' :: t.object.chars)

/-- The text of a graph name; the default graph has none. -/
def GraphName.text? : GraphName → Option String
  | .default => none
  | .iri i => some (String.ofList (bracketed i))
  | .blank l => some ("_:" ++ l)

/-- The text of a quad: its triple, and its graph unless that is the default graph. -/
def Quad.text (q : Quad) : String :=
  match q.graph.text? with
  | none => q.toTriple.text
  | some g => q.toTriple.text ++ " " ++ g

end LinkedQueries
