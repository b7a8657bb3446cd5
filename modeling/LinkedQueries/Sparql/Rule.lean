import LinkedQueries.Keyed
import LinkedQueries.Rdf.FreshLabel
import LinkedQueries.Sparql.Algebra

/-!
# Grammar rules

A rule reads something at the beginning of a text and gives it with the rest of the text, or fails.
Choices are ordered: an alternative is tried only if those before it have failed, and a choice that
was made is not taken back. What a rule has noted in the context stays there even if the rule fails.

* `Rule.many` repeats a rule as long as it succeeds, at most as often as the text has characters.
* `Rule.nested` bounds rules that contain themselves by the length of the text.
-/

namespace LinkedQueries.Sparql

/-- What is noted while a query text is read. -/
structure Context where
  /-- The IRI against which references are resolved. -/
  base : Option String
  /-- The IRIs of the prefixes. -/
  prefixes : Keyed String
  /-- The blank node labels of the groups that are over. -/
  closedLabels : List String
  /-- The blank node labels of the group that is read. -/
  openLabels : List String
  /-- The aggregates met so far, for each selection that is read, the innermost first. -/
  aggregates : List (List (String × Aggregate))
  /-- The number of the text. -/
  text : Nat
  /-- How many fresh labels have been given out. -/
  fresh : Nat

/-- Reads something at the beginning of a text. -/
def Rule (α : Type) : Type := List Char → Context → Option (α × List Char) × Context

namespace Rule

variable {α β : Type}

instance : Monad Rule where
  pure x := fun cs c => (some (x, cs), c)
  bind r f := fun cs c =>
    match r cs c with
    | (some (x, rest), c) => f x rest c
    | (none, c) => (none, c)

instance : Alternative Rule where
  failure := fun _ c => (none, c)
  orElse r other := fun cs c =>
    match r cs c with
    | (none, c) => other () cs c
    | found => found

/-! ## Repetition -/

/-- Repeats a rule at most so often; `taken` are the results so far, the latest first. -/
def repeated (r : Rule α) : Nat → List α → Rule (List α)
  | 0, taken => pure taken.reverse
  | n + 1, taken => fun cs c =>
    match r cs c with
    | (some (x, rest), c) => repeated r n (x :: taken) rest c
    | (none, c) => (some (taken.reverse, cs), c)

/-- Repeats a rule as long as it succeeds. -/
def many (r : Rule α) : Rule (List α) := fun cs c => repeated r cs.length [] cs c

/-- Repeats a rule at least once. -/
def oneOrMore (r : Rule α) : Rule (List α) := do
  let first ← r
  return first :: (← many r)

/-- Repeats a rule at least once, with a separator between. -/
def separated (r : Rule α) (separator : Rule β) : Rule (List α) := do
  let first ← r
  return first :: (← many (separator *> r))

/-- Repeats a rule, with a separator between. -/
def listed (r : Rule α) (separator : Rule β) : Rule (List α) :=
  separated r separator <|> pure []

/-- A rule for each depth of nesting, up to the depth that the text can have. -/
def nested (r : Nat → Rule α) : Rule α := fun cs c => r (cs.length + 1) cs c

/-- A rule with the text that it reads. -/
def measured (r : Rule α) : Rule (α × List Char) := fun cs c =>
  match r cs c with
  | (some (x, rest), c) => (some ((x, cs.take (cs.length - rest.length)), rest), c)
  | (none, c) => (none, c)

/-! ## Characters -/

/-- One character of a class. -/
def char (cls : Char → Bool) : Rule Char := fun cs c =>
  match cs with
  | x :: rest => if cls x then (some (x, rest), c) else (none, c)
  | [] => (none, c)

/-- The characters of a text, exactly. -/
def exactly (text : String) : Rule Unit := fun cs c =>
  if text.toList.isPrefixOf cs then (some ((), cs.drop text.length), c) else (none, c)

/-- Succeeds where a character of a class does not follow. -/
def notAhead (cls : Char → Bool) : Rule Unit := fun cs c =>
  if cs.head?.any cls then (none, c) else (some ((), cs), c)

/-- Succeeds at the end of the text. -/
def atEnd : Rule Unit := fun cs c =>
  if cs.isEmpty then (some ((), cs), c) else (none, c)

/-! ## Context -/

/-- The context. -/
def context : Rule Context := fun cs c => (some (c, cs), c)

/-- Changes the context. -/
def note (change : Context → Context) : Rule Unit := fun cs c => (some ((), cs), change c)

/-- A label that no other blank node or variable has. -/
def fresh : Rule String := fun cs c =>
  (some (freshLabel c.text c.fresh, cs), { c with fresh := c.fresh + 1 })

/-- The value, if there is one. -/
def ofOption (x : Option α) : Rule α :=
  match x with
  | some x => pure x
  | none => failure

/-- Fails unless a condition holds. -/
def require (condition : Bool) : Rule Unit :=
  if condition then pure () else failure

end Rule

end LinkedQueries.Sparql
