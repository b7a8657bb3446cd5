import LinkedQueries.Sparql.Grammar.Expressions
import LinkedQueries.Sparql.Grammar.Triples
import LinkedQueries.Sparql.Selection
import LinkedQueries.Text.Decimal

/-!
# Groups

The rules of group graph patterns and of the selections that may stand in them. The parts of a
group are taken together from left to right; its filters apply to the whole group.

Blank node labels belong to one group: `leaveLabels` closes those of a group where another one
begins or where it ends.
-/

namespace LinkedQueries.Sparql.Grammar

open Rule

/-! ## Inline data -/

/-- A quoted triple of inline data, nested up to a depth. -/
def groundTriple : Nat → Rule GroundTerm
  | 0 => failure
  | depth + 1 => fun cs c => (do
      let term : Rule GroundTerm :=
        groundTriple depth <|> .iri <$> iri <|> .literal <$> literal
      symbol "<<"
      let subject ← term
      let predicate ← iriOrA
      let object ← term
      symbol ">>"
      return GroundTerm.triple subject predicate object : Rule GroundTerm) cs c

/-- A value of inline data, perhaps none. -/
def dataValue : Rule (Option GroundTerm) :=
  some <$> nested groundTriple <|> (fun i => some (.iri i)) <$> iri <|>
    (fun l => some (.literal l)) <$> literal <|> (keyword "UNDEF" *> pure none)

/-- Inline data for one variable or for several; each row has a value for each variable. -/
def dataBlock : Rule GraphPattern :=
  (do
    let name ← varName
    let values ← symbol "\x7b" *> many dataValue <* symbol "\x7d"
    return .values [name] (values.map fun v => [v])) <|>
  (do
    let names ← symbol "(" *> many varName <* symbol ")"
    let row := symbol "(" *> many dataValue <* symbol ")"
    let rows ← symbol "\x7b" *> many row <* symbol "\x7d"
    require (rows.all fun row => row.length == names.length)
    return .values names rows)

/-! ## Parts of a group -/

/-- The patterns of some statements: the triples between two paths are one basic graph pattern.
`triples` are those since the last path, the latest first. -/
def patternsOf (triples : List TriplePattern) : List Statement → List GraphPattern
  | [] => [.bgp triples.reverse]
  | .triple pattern :: rest => patternsOf (pattern :: triples) rest
  | .path subject path object :: rest =>
    .bgp triples.reverse :: .path subject path object :: patternsOf [] rest

/-- The pattern of some statements. -/
def patternOf (statements : List Statement) : GraphPattern :=
  .joinAll (patternsOf [] statements)

/-- A part of a group, as it acts on what stands before it. -/
inductive Part where
  | joined (pattern : GraphPattern)
  | optional (pattern : GraphPattern)
  | minus (pattern : GraphPattern)
  | bind (expression : Expression) (name : String)
  | filter (expression : Expression)

/-- The patterns between which a choice is. -/
def unionRule (inner : InnerRules) : Rule GraphPattern :=
  separated (lexeme inner.group) (keyword "UNION") >>= folded .union

/-- A part of a group other than triples. -/
def part (inner : InnerRules) : Rule Part :=
  .joined <$> unionRule inner <|>
  .optional <$> (keyword "OPTIONAL" *> inner.group) <|>
  .minus <$> (keyword "MINUS" *> inner.group) <|>
  (do
    let name ← keyword "GRAPH" *> variableOrIri
    return .joined (.graph name (← inner.group))) <|>
  (do
    let name ← keyword "SERVICE" *> keyword "SILENT" *> variableOrIri
    return .joined (.service name (← inner.group) true)) <|>
  (do
    let name ← keyword "SERVICE" *> variableOrIri
    return .joined (.service name (← inner.group) false)) <|>
  .filter <$> (keyword "FILTER" *> condition inner) <|>
  (do
    let e ← keyword "BIND" *> symbol "(" *> inner.expression
    let name ← keyword "AS" *> varName <* symbol ")"
    return .bind e name) <|>
  .joined <$> (keyword "VALUES" *> dataBlock)

/-- A group so far: its pattern, and the filters over all of it. -/
structure Assembly where
  pattern : GraphPattern
  condition : Option Expression

/-- A group with one more part; a variable in scope cannot be bound again. -/
def Assembly.add? (a : Assembly) : Part → Option Assembly
  | .joined p => some { a with pattern := a.pattern.joined p }
  | .optional (.filter e p) => some { a with pattern := .leftJoin a.pattern p (some e) }
  | .optional p => some { a with pattern := .leftJoin a.pattern p none }
  | .minus p => some { a with pattern := .minus a.pattern p }
  | .bind e name =>
    if a.pattern.scope.contains name then none
    else some { a with pattern := .extend a.pattern name e }
  | .filter e =>
    some { a with condition := some (match a.condition with
      | some before => .binary .and before e
      | none => e) }

/-- The pattern of a group. -/
def Assembly.whole (a : Assembly) : GraphPattern :=
  match a.condition with
  | some e => .filter e a.pattern
  | none => a.pattern

/-- Closes the labels of the group that is read. -/
def leaveLabels : Rule Unit :=
  note fun c => { c with closedLabels := c.openLabels ++ c.closedLabels, openLabels := [] }

/-- The parts of a group. -/
def groupParts (inner : InnerRules) : Rule GraphPattern := do
  let first ← optional triplesBlock
  let rest ← many do
    let part ← part inner
    let _ ← optional (symbol ".")
    match ← optional triplesBlock with
    | some statements => return [part, .joined (patternOf statements)]
    | none => return [part]
  let start : Assembly := ⟨patternOf (first.getD []), none⟩
  Assembly.whole <$> ofOption (rest.flatten.foldlM Assembly.add? start)

/-! ## Selections -/

/-- An expression in brackets that is given a name. -/
def named (inner : InnerRules) : Rule (Expression × String) := do
  let e ← symbol "(" *> inner.expression
  let name ← keyword "AS" *> varName <* symbol ")"
  return (e, name)

/-- The columns that are asked for. From here on aggregates belong to this selection. -/
def selection (inner : InnerRules) : Rule Selection := do
  keyword "SELECT"
  note fun c => { c with aggregates := [] :: c.aggregates }
  let multiplicity ← (keyword "DISTINCT" *> pure Multiplicity.distinct) <|>
    (keyword "REDUCED" *> pure .reduced) <|> pure .all
  let columns ← (symbol "*" *> pure Columns.star) <|>
    .given <$> oneOrMore (.variable <$> varName <|>
      (fun (e, name) => .value e name) <$> named inner)
  return ⟨multiplicity, columns⟩

/-- A condition by which solutions are grouped: its variable, and what is computed for it. -/
def groupCondition (inner : InnerRules) : Rule (String × Option (String × Expression)) :=
  let keyed (e : Expression) (name : Option String) :
      Rule (String × Option (String × Expression)) :=
    match e with
    | .variable name => pure (name, none)
    | e => do
      let name ← match name with
        | some name => pure name
        | none => fresh
      return (name, some (name, e))
  (languageCall inner >>= fun e => keyed e none) <|>
  (namedCall inner >>= fun e => keyed e none) <|>
  (do
    let e ← symbol "(" *> inner.expression
    let name ← optional (keyword "AS" *> varName)
    symbol ")"
    keyed e name) <|>
  (varName >>= fun name => keyed (.variable name) none)

/-- A criterion by which solutions are ordered. -/
def orderKey (inner : InnerRules) : Rule (SortOrder × Expression) :=
  (return (.ascending, ← keyword "ASC" *> bracketed inner)) <|>
  (return (.descending, ← keyword "DESC" *> bracketed inner)) <|>
  (return (.ascending, ← condition inner)) <|>
  (return (.ascending, .variable (← varName)))

/-- A number behind a keyword. It is below 2^64. -/
def countAfter (word : String) : Rule Nat := do
  let ds ← keyword word *> lexeme digits
  ofOption (decimalBelow? wordBound ds)

/-- The part of the solutions that is given. -/
def slice : Rule (Nat × Option Nat) :=
  (do
    let length ← countAfter "LIMIT"
    let start ← optional (countAfter "OFFSET")
    return (start.getD 0, some length)) <|>
  (do
    let start ← countAfter "OFFSET"
    return (start, ← optional (countAfter "LIMIT")))

/-- What follows the pattern of a query. -/
def modifiers (inner : InnerRules) : Rule Modifiers := do
  let group ← optional do
    let keys ← keyword "GROUP" *> keyword "BY" *> oneOrMore (groupCondition inner)
    return (keys.map (·.1), keys.filterMap (·.2))
  let having ← optional
    (keyword "HAVING" *> conditions inner >>= folded (.binary .and))
  let order ← optional (keyword "ORDER" *> keyword "BY" *> oneOrMore (orderKey inner))
  let slice ← optional slice
  let values ← optional (keyword "VALUES" *> dataBlock)
  return { group, having, order, slice, values }

/-- The pattern of a query with what follows it. -/
def selected (s : Selection) (p : GraphPattern) (m : Modifiers) : Rule GraphPattern := do
  let aggregates := (← context).aggregates
  note fun c => { c with aggregates := aggregates.tail }
  ofOption (s.pattern? (← fresh) p m (aggregates.headD []))

/-- The keyword that may stand before the pattern of a query, and the pattern. -/
def wherePattern (group : Rule GraphPattern) : Rule GraphPattern :=
  optional (keyword "WHERE") *> group

/-- A selection within a group. -/
def subselect (inner : InnerRules) : Rule GraphPattern := do
  let s ← selection inner
  let p ← wherePattern inner.group
  selected s p (← modifiers inner)

/-! ## Groups -/

/-- A group over the rules for what stands in its braces. -/
def groupOver (inner : InnerRules) : Rule GraphPattern :=
  let braced (content : Rule GraphPattern) : Rule GraphPattern := do
    symbol "\x7b"
    leaveLabels
    let p ← content
    leaveLabels
    symbol "\x7d"
    return p
  braced (groupParts inner) <|> braced (subselect inner)

/-- The rules for what stands in brackets and braces, up to a depth. -/
def innerRules : Nat → InnerRules
  | 0 => ⟨failure, failure⟩
  | depth + 1 => {
      expression := fun cs c => expressionOver (innerRules depth) cs c
      group := fun cs c => groupOver (innerRules depth) cs c }

end LinkedQueries.Sparql.Grammar
