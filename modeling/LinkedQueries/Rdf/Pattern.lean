import LinkedQueries.Rdf.Term

/-!
# Triple patterns

Terms with variables, as they stand in the basic graph patterns of a query. Unlike in a ground
triple, a literal may stand in subject position.
-/

namespace LinkedQueries

/-- What may stand for a name: an IRI or a variable. -/
inductive NamePattern where
  | iri (value : String)
  | variable (name : String)
  deriving DecidableEq, Repr

/-- A term of a pattern. -/
inductive TermPattern where
  | iri (value : String)
  | blank (label : String)
  | literal (value : Literal)
  | variable (name : String)
  | triple (subject : TermPattern) (predicate : NamePattern) (object : TermPattern)
  deriving DecidableEq, Repr

/-- A triple of patterns. -/
structure TriplePattern where
  subject : TermPattern
  predicate : NamePattern
  object : TermPattern
  deriving DecidableEq, Repr

/-- A name as a term. -/
def NamePattern.term : NamePattern → TermPattern
  | .iri i => .iri i
  | .variable v => .variable v

/-- The triple pattern as a term that other patterns may speak about. -/
def TriplePattern.quoted (t : TriplePattern) : TermPattern :=
  .triple t.subject t.predicate t.object

/-- The terms of a triple pattern: subject, predicate and object. -/
def TriplePattern.terms (t : TriplePattern) : List TermPattern :=
  [t.subject, t.predicate.term, t.object]

/-- A ground term as a pattern. -/
def Term.pattern : Term → TermPattern
  | .iri i => .iri i
  | .blank l => .blank l
  | .literal l => .literal l
  | .triple s p o => .triple s.pattern (.iri p) o.pattern

/-! ## Texts -/

/-- The text of a name. -/
def NamePattern.chars : NamePattern → List Char
  | .iri i => bracketed i
  | .variable v => '?' :: v.toList

/-- The text of a term of a pattern. -/
def TermPattern.chars : TermPattern → List Char
  | .iri i => bracketed i
  | .blank l => '_' :: ':' :: l.toList
  | .literal l => l.chars
  | .variable v => '?' :: v.toList
  | .triple s p o => '<' :: '<' :: s.chars ++ ' ' :: p.chars ++ ' ' :: o.chars ++ ['>', '>']

/-- The text of a name. -/
def NamePattern.text (p : NamePattern) : String :=
  String.ofList p.chars

/-- The text of a term of a pattern. -/
def TermPattern.text (t : TermPattern) : String :=
  String.ofList t.chars

/-- The text of a triple pattern: its three terms. -/
def TriplePattern.text (t : TriplePattern) : String :=
  String.ofList (t.subject.chars ++ ' ' :: t.predicate.chars ++ ' ' :: t.object.chars)

end LinkedQueries
