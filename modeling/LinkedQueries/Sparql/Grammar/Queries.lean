import LinkedQueries.Iri.Grammar
import LinkedQueries.Sparql.Grammar.Groups
import LinkedQueries.Text.Utf8

/-!
# Queries

The rules of whole queries: declarations of a base and of prefixes, then one of the four forms.

`Query.read` reads a query text under a base IRI; it fails if the base is no absolute IRI or if the
text is no query. Updates are none.
-/

namespace LinkedQueries.Sparql

/-- Why a query text is not read. -/
inductive SyntaxError where
  | base (error : IriError)
  | grammar
  deriving DecidableEq, Repr

/-- The wording of an error; of a fault of the grammar only the beginning is fixed. -/
def SyntaxError.message : SyntaxError → String
  | .base e => "Invalid SPARQL base IRI provided: " ++ e.message
  | .grammar => "error at "

namespace Grammar

open Rule

/-- The declarations before a query. -/
def prologue : Rule Unit := do
  let base : Rule Unit := do
    let iri ← keyword "BASE" *> lexeme reference
    note fun c => { c with base := some iri }
  let declared : Rule Unit := do
    let label ← keyword "PREFIX" *> lexeme space
    let iri ← lexeme reference
    note fun c => { c with prefixes := c.prefixes.alter label fun _ => iri }
  let _ ← many (base <|> declared)

/-- The graphs that a query is about. -/
def datasetClause : Rule (Option DatasetClause) := do
  let graph : Rule (Bool × String) :=
    (return (false, ← iri)) <|> (return (true, ← keyword "NAMED" *> iri))
  let found ← many (keyword "FROM" *> graph)
  let chosen (isNamed : Bool) : List String :=
    found.filterMap fun (n, i) => if n == isNamed then some i else none
  return if found.isEmpty then none else some ⟨chosen false, chosen true⟩

/-- A query of a form, when its pattern is read. -/
def finished (form : QueryForm) (dataset : Option DatasetClause) (s : Selection)
    (p : GraphPattern) (inner : InnerRules) : Rule Query := do
  let pattern ← selected s p (← modifiers inner)
  return ⟨form, dataset, pattern, (← context).base⟩

/-- A query that selects solutions. -/
def selectQuery (inner : InnerRules) : Rule Query := do
  let s ← selection inner
  let dataset ← datasetClause
  finished .select dataset s (← wherePattern inner.group) inner

/-- A query that constructs triples. If its pattern is its template, the template stands once. -/
def constructQuery (inner : InnerRules) : Rule Query :=
  (do
    let triples ← keyword "CONSTRUCT" *> symbol "\x7b" *> template <* symbol "\x7d"
    let dataset ← datasetClause
    finished (.construct triples) dataset .everything (← wherePattern inner.group) inner) <|>
  (do
    let dataset ← keyword "CONSTRUCT" *> datasetClause
    let triples ← keyword "WHERE" *> symbol "\x7b" *> (triplesTemplate <|> pure []) <* symbol "\x7d"
    finished (.construct triples) dataset .everything (.bgp triples) inner)

/-- A query that describes resources: all, or those that are listed. -/
def describeQuery (inner : InnerRules) : Rule Query := do
  keyword "DESCRIBE"
  let s ← (symbol "*" *> pure Selection.everything) <|>
    (do
      let columns ← oneOrMore do
        match ← variableOrIri with
        | .variable name => return Column.variable name
        | .iri i => return .value (.iri i) (← fresh)
      return ⟨.all, .given columns⟩)
  let dataset ← datasetClause
  let p ← optional (wherePattern inner.group)
  finished .describe dataset s (p.getD (.bgp [])) inner

/-- A query that asks whether there is a solution. -/
def askQuery (inner : InnerRules) : Rule Query := do
  let dataset ← keyword "ASK" *> datasetClause
  finished .ask dataset .everything (← wherePattern inner.group) inner

/-- A whole query text. -/
def query : Rule Query := nested fun depth => do
  let inner := innerRules depth
  let _ ← spaces
  prologue
  let q ← selectQuery inner <|> constructQuery inner <|> describeQuery inner <|> askQuery inner
  atEnd
  return q

end Grammar

/-- Reads a query text under a base IRI. Readings with different salts have different fresh
labels. -/
def Query.read (salt : Nat) (base : Option String) (text : String) : Except SyntaxError Query := do
  if let some iri := base then
    (Iri.checkAbsolute iri.toList).mapError SyntaxError.base
  let start : Context := {
    base
    prefixes := Keyed.empty
    closedLabels := []
    openLabels := []
    aggregates := []
    text := textNumber salt (Utf8.encode text.toList)
    fresh := 0 }
  match (Grammar.query text.toList start).1 with
  | some (q, _) => return q
  | none => throw .grammar

/-- Reads query texts, with errors in words. -/
def Query.reader (salt : Nat) (base : Option String) (text : String) : Except String Query :=
  (Query.read salt base text).mapError (·.message)

end LinkedQueries.Sparql
