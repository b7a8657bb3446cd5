import LinkedQueries.Rdf.Term

/-!
# Writing JSON-LD

A text in expanded form: an array of objects, one for statements with one subject that follow each
other, and one around those of a named graph. Nothing is abbreviated.

`JsonWriting.write` is the text of some statements, with everything closed once no more follow.
-/

namespace LinkedQueries.Rdf.JsonWriting

/-- Whether a statement can be written: it quotes no other one. -/
def isWritable (t : Triple) : Bool :=
  match t.subject, t.object with
  | .triple .., _ | _, .triple .. => false
  | _, _ => true

/-- A character within a string. -/
def escapedChar (c : Char) : List Char :=
  match c with
  | '"' => "\\\"".toList
  | '\\' => "\\\\".toList
  | '\x08' => "\\b".toList
  | '\x0C' => "\\f".toList
  | '\n' => "\\n".toList
  | '\r' => "\\r".toList
  | '\t' => "\\t".toList
  | c => if c.toNat < 0x20 then '\\' :: 'u' :: fourHex c.toNat else [c]

/-- A string. -/
def stringText (text : String) : List Char :=
  '"' :: text.toList.flatMap escapedChar ++ ['"']

/-- A key with what follows it. -/
def keyed (key : String) (value : List Char) : List Char :=
  stringText key ++ ':' :: value

/-- An object with some members. -/
def object (members : List (List Char)) : List Char :=
  "\x7b".toList ++ (members.intersperse [',']).flatten ++ "\x7d".toList

/-- The identifier of a node. -/
def nodeText : Term → List Char
  | .iri i => stringText i
  | .blank l => stringText ("_:" ++ l)
  | _ => []

/-- The object of a statement. Types are given by their identifiers alone. -/
def objectText (t : Triple) : List Char :=
  match t.object with
  | .literal (.simple text) => object [keyed "@value" (stringText text)]
  | .literal (.tagged text language) =>
    object [keyed "@language" (stringText language), keyed "@value" (stringText text)]
  | .literal (.typed text datatype) =>
    object [keyed "@type" (stringText datatype), keyed "@value" (stringText text)]
  | node =>
    if t.predicate == rdf ++ "type" then nodeText node else object [keyed "@id" (nodeText node)]

/-- The key of a property with the beginning of its objects. -/
def propertyText (t : Triple) : List Char :=
  let key := match t.object with
    | .iri _ | .blank _ => if t.predicate == rdf ++ "type" then "@type" else t.predicate
    | _ => t.predicate
  keyed key ('[' :: objectText t)

/-- The beginning of the object of a subject. -/
def subjectText (t : Triple) : List Char :=
  "\x7b".toList ++ keyed "@id" (nodeText t.subject) ++ ',' :: propertyText t

/-- The beginning of the object of a graph; the default graph has none. -/
def graphText : GraphName → List Char
  | .default => []
  | .iri i => "\x7b".toList ++ keyed "@id" (stringText i) ++ ',' :: keyed "@graph" ['[']
  | .blank l => "\x7b".toList ++ keyed "@id" (stringText ("_:" ++ l)) ++ ',' :: keyed "@graph" ['[']

/-- The end of the object of a subject. -/
def subjectEnd : List Char := "]\x7d".toList

/-- The end of the object of a graph. -/
def graphEnd : GraphName → List Char
  | .default => []
  | _ => "]\x7d".toList

/-- What is open behind a statement: the statement, and the properties of its object that are
complete. A complete property is not taken up again, its statement begins another object. -/
structure Open where
  last : Quad
  complete : List String

/-- Whether a statement goes on with the object that is open. -/
def Open.isContinued (current : Open) (q : Quad) : Bool :=
  q.graph == current.last.graph && q.subject == current.last.subject &&
    (q.predicate == current.last.predicate || !current.complete.contains q.predicate)

/-- What is open behind one more statement. -/
def Open.behind (current : Open) (q : Quad) : Open :=
  if !current.isContinued q then ⟨q, []⟩
  else if q.predicate == current.last.predicate then ⟨q, current.complete⟩
  else ⟨q, current.last.predicate :: current.complete⟩

/-- A statement behind others. -/
def nextStatement (current : Open) (q : Quad) : List Char :=
  let last := current.last
  if q.graph != last.graph then
    subjectEnd ++ graphEnd last.graph ++ ',' :: graphText q.graph ++ subjectText q.toTriple
  else if !current.isContinued q then subjectEnd ++ ',' :: subjectText q.toTriple
  else if q.predicate != last.predicate then ']' :: ',' :: propertyText q.toTriple
  else ',' :: objectText q.toTriple

/-- Statements behind others. -/
def nextStatements (current : Open) : List Quad → List Char
  | [] => []
  | q :: rest => nextStatement current q ++ nextStatements (current.behind q) rest

/-- Some statements, to which more can be added. -/
def statements : List Quad → List Char
  | [] => []
  | q :: rest => '[' :: graphText q.graph ++ subjectText q.toTriple ++ nextStatements ⟨q, []⟩ rest

/-- What ends some statements. -/
def ending (quads : List Quad) : List Char :=
  match quads.getLast? with
  | none => "[]".toList
  | some last => subjectEnd ++ graphEnd last.graph ++ [']']

/-- The text of the statements that can be written, closed or not. -/
def write (quads : List Quad) (isClosed : Bool) : List Char :=
  let held := quads.filter (isWritable ·.toTriple)
  statements held ++ if isClosed then ending held else []

end LinkedQueries.Rdf.JsonWriting
