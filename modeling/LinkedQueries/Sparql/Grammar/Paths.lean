import LinkedQueries.Sparql.Grammar.Lexical

/-!
# Property paths

The rules of property paths. A path that stands alone, without operators, is an IRI.
-/

namespace LinkedQueries.Sparql.Grammar

open Rule

/-- An IRI of a negated set; the flag says whether it is reversed. -/
def setMember : Rule (Bool × String) :=
  (return (true, ← symbol "^" *> iriOrA)) <|> (return (false, ← iriOrA))

/-- The path that a negated set is: those forward, those in reverse, or a choice of both. -/
def negatedSet (members : List (Bool × String)) : Path :=
  let direct := members.filterMap fun (reversed, i) => if reversed then none else some i
  let inverse := members.filterMap fun (reversed, i) => if reversed then some i else none
  if inverse.isEmpty then .negated direct
  else if direct.isEmpty then .inverse (.negated inverse)
  else .alternative (.negated direct) (.inverse (.negated inverse))

/-- What follows the exclamation mark. -/
def negatedPath : Rule Path :=
  (negatedSet <$> (symbol "(" *> separated setMember (symbol "|") <* symbol ")")) <|>
  (return negatedSet [← setMember])

/-- The operator behind a path; a question mark that begins a variable is none. -/
def pathOperator : Rule (Path → Path) :=
  (symbol "*" *> pure .zeroOrMore) <|> (symbol "+" *> pure .oneOrMore) <|>
  (lexeme (exactly "?" *> notAhead fun c => c.isDigit || isNameHead c) *> pure .zeroOrOne)

/-- A path from left to right, over an operator that joins two. -/
def folded {α : Type} (join : α → α → α) : List α → Rule α
  | [] => failure
  | first :: rest => pure (rest.foldl join first)

/-- A path whose brackets hold paths of `inner`. -/
def pathOver (inner : Rule Path) : Rule Path :=
  let primary : Rule Path :=
    .iri <$> iriOrA <|> (symbol "!" *> negatedPath) <|> (symbol "(" *> inner <* symbol ")")
  let element : Rule Path := do
    let path ← primary
    return match ← optional pathOperator with
      | some operator => operator path
      | none => path
  let step : Rule Path := (.inverse <$> (symbol "^" *> element)) <|> element
  let sequence : Rule Path := separated step (symbol "/") >>= folded .sequence
  separated sequence (symbol "|") >>= folded .alternative

/-- A path with brackets up to a depth. -/
def pathTo : Nat → Rule Path
  | 0 => failure
  | depth + 1 => fun cs c => pathOver (pathTo depth) cs c

/-- A path. -/
def path : Rule Path := nested pathTo

end LinkedQueries.Sparql.Grammar
