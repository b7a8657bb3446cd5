import LinkedQueries.Input
import LinkedQueries.Rdf.Format
import LinkedQueries.Rdf.Term

/-!
# Reading RDF texts

What comes of reading an RDF text, in order: statements, places where a statement is malformed,
with what the parser says of them, and at most one failure of the reader behind them, which ends the
text early.
-/

namespace LinkedQueries

/-- One outcome of reading an RDF text. -/
inductive ReadEvent where
  | statement (quad : Quad)
  | malformed (message : String)
  | failed (failure : Failure)
  deriving DecidableEq, Repr

/-- A way to read the texts of each format, under a base IRI if there is one. -/
abbrev StatementReader := RdfFormat → Option String → Input → List ReadEvent

/-- The place of a token that does not fit. The readers of this library say no more of it. -/
def ReadEvent.misfit : ReadEvent :=
  .malformed "The text does not follow the grammar of its format"

/-- Whether an outcome is a place where a statement is malformed. -/
def ReadEvent.isMalformed : ReadEvent → Bool
  | .malformed _ => true
  | _ => false

/-- The statement of an outcome. -/
def ReadEvent.quad? : ReadEvent → Option Quad
  | .statement q => some q
  | _ => none

/-- The failure of an outcome. -/
def ReadEvent.failure? : ReadEvent → Option Failure
  | .failed f => some f
  | _ => none

/-- All statements of a text, malformed ones left out, unless the reader fails. -/
def ReadEvent.allQuads (events : List ReadEvent) : Except Failure (List Quad) :=
  match events.findSome? ReadEvent.failure? with
  | some failure => .error failure
  | none => .ok (events.filterMap ReadEvent.quad?)

end LinkedQueries
