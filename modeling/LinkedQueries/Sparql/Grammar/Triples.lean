import LinkedQueries.Sparql.Grammar.Paths

/-!
# Triples of queries

The rules of triples: subjects with what is said about them, lists, anonymous nodes, quoted
triples and annotations. A verb may be a path; a path that is a sequence becomes one statement for
each of its steps, with fresh blank nodes between, and an inverse path exchanges subject and
object.

The cells of a list come from the last to the first, and an annotation comes before the triple
that it is about.
-/

namespace LinkedQueries.Sparql

/-- A triple pattern, or two terms with a path between them. -/
inductive Statement where
  | triple (pattern : TriplePattern)
  | path (subject : TermPattern) (path : Path) (object : TermPattern)

namespace Statement

/-- The triple pattern of a statement without path. -/
def triple? : Statement → Option TriplePattern
  | .triple pattern => some pattern
  | .path .. => none

end Statement

namespace Grammar

open Rule

/-! ## Terms -/

/-- The empty list. -/
def emptyList : TermPattern := .iri (rdf ++ "nil")

/-- A variable or a term, over the rule for quoted triples. -/
def termOver (quoted : Rule TriplePattern) : Rule TermPattern :=
  .variable <$> varName <|> TriplePattern.quoted <$> quoted <|> .iri <$> iri <|>
    .literal <$> literal <|> blank <|> (emptyPair "(" ")" *> pure emptyList)

/-- A quoted triple with a depth of quotation. -/
def quotedTo : Nat → Rule TriplePattern
  | 0 => failure
  | depth + 1 => fun cs c =>
    let term := termOver (quotedTo depth)
    (symbol "<<" *> pure TriplePattern.mk <*> term <*> verbName <*> term <* symbol ">>") cs c

/-- A variable or a term. -/
def term : Rule TermPattern := termOver (nested quotedTo)

/-! ## What is said about a subject -/

/-- A verb: a variable, or a path, which is an IRI in the simplest case. -/
inductive Verb where
  | variable (name : String)
  | path (path : Path)

/-- A verb without operators. -/
def plainVerb : Rule Verb :=
  .variable <$> varName <|> (fun i => .path (.iri i)) <$> iriOrA

/-- A verb that may be any path. -/
def pathVerb : Rule Verb := .path <$> path <|> .variable <$> varName

/-- The statements that come of a subject. -/
abbrev Remark := TermPattern → Rule (List Statement)

/-- A term with the statements that are written within it. -/
structure Node where
  term : TermPattern
  within : List Statement

/-- A term in object position, perhaps with a remark about the triple in which it stands. -/
structure Object where
  term : TermPattern
  annotated : Option Remark

/-- What is said about a subject, with the statements that are written within it. -/
structure Properties where
  within : List Statement
  remark : Remark

/-- The statements of a triple: what is said about it, and itself. -/
def tripleWith (subject : TermPattern) (predicate : NamePattern) (object : Object) :
    Rule (List Statement) := do
  let pattern : TriplePattern := ⟨subject, predicate, object.term⟩
  let remarks ← match object.annotated with
    | some remark => remark pattern.quoted
    | none => pure []
  return remarks ++ [.triple pattern]

/-- The statements that connect two terms by a path; only a triple can be annotated. -/
def connect (subject : TermPattern) (object : Object) : Path → Rule (List Statement)
  | .iri p => tripleWith subject (.iri p) object
  | .inverse p => connect object.term { object with term := subject } p
  | .sequence first second => do
    require object.annotated.isNone
    let middle := TermPattern.blank (← fresh)
    let before ← connect subject ⟨middle, none⟩ first
    return before ++ (← connect middle object second)
  | p => do
    require object.annotated.isNone
    return [.path subject p object.term]

/-- The statements of a verb with its objects. -/
def relate (subject : TermPattern) (verb : Verb) (objects : List Object) :
    Rule (List Statement) :=
  List.flatten <$> objects.mapM fun object =>
    match verb with
    | .variable name => tripleWith subject (.variable name) object
    | .path path => connect subject object path

/-! ## Nested rules -/

/-- The rules that contain each other: nodes, and annotations behind objects. -/
structure NodeRules where
  node : Rule Node
  annotation : Rule Properties

/-- Objects, with the statements that are written within them. -/
def objects (rules : NodeRules) : Rule (List Statement × List Object) := do
  let found ← separated (do
    let node ← rules.node
    match ← optional rules.annotation with
    | some p => return (node.within ++ p.within, Object.mk node.term (some p.remark))
    | none => return (node.within, Object.mk node.term none)) (symbol ",")
  return (found.flatMap (·.1), found.map (·.2))

/-- Verbs with their objects; a semicolon may stand alone. -/
def properties (verb : Rule Verb) (rules : NodeRules) : Rule Properties := do
  let said : Rule (List Statement × Verb × List Object) := do
    let v ← verb
    let (within, os) ← objects rules
    return (within, v, os)
  let first ← said
  let rest ← many (symbol ";" *> optional said)
  let all := first :: rest.filterMap id
  return {
    within := all.flatMap (·.1)
    remark := fun subject => List.flatten <$> all.mapM fun (_, v, os) => relate subject v os }

/-- A list. -/
def collection (rules : NodeRules) : Rule Node := do
  let nodes ← symbol "(" *> oneOrMore rules.node <* symbol ")"
  nodes.reverse.foldlM (fun tail node => do
    let cell := TermPattern.blank (← fresh)
    let triple (p : String) (o : TermPattern) : Statement := .triple ⟨cell, .iri (rdf ++ p), o⟩
    let own := [triple "first" node.term, triple "rest" tail.term]
    return ⟨cell, tail.within ++ own ++ node.within⟩)
    ⟨emptyList, []⟩

/-- An anonymous node with what is said about it. -/
def anonymous (verb : Rule Verb) (rules : NodeRules) : Rule Node := do
  let p ← symbol "[" *> properties verb rules <* symbol "]"
  let node := TermPattern.blank (← fresh)
  return ⟨node, p.within ++ (← p.remark node)⟩

/-- A list or an anonymous node. -/
def compound (verb : Rule Verb) (rules : NodeRules) : Rule Node :=
  collection rules <|> anonymous verb rules

/-- The rules of nodes up to a depth of nesting. -/
def nodeRules (verb : Rule Verb) : Nat → NodeRules
  | 0 => ⟨failure, failure⟩
  | depth + 1 => {
      node := fun cs c =>
        ((fun t => Node.mk t []) <$> term <|> compound verb (nodeRules verb depth)) cs c
      annotation := fun cs c =>
        (symbol "\x7b|" *> properties verb (nodeRules verb depth) <* symbol "|\x7d") cs c }

/-! ## Triples -/

/-- The statements of one subject, in the order in which they count. -/
def sameSubject (verb : Rule Verb) : Rule (List Statement) := nested fun depth => do
  let rules := nodeRules verb depth
  (do
    let subject ← term
    let p ← properties verb rules
    return p.within ++ (← p.remark subject)) <|>
  (do
    let node ← compound verb rules
    match ← optional (properties verb rules) with
    | some p => return node.within ++ p.within ++ (← p.remark node.term)
    | none => return node.within)

/-- Statements with dots between them. -/
def triplesBlock : Rule (List Statement) := do
  let found ← separated (sameSubject pathVerb) (symbol ".")
  let _ ← optional (symbol ".")
  return found.flatten

/-- Triple patterns without paths, with dots between them. -/
def triplesTemplate : Rule (List TriplePattern) := do
  let found ← separated (sameSubject plainVerb) (symbol ".")
  let _ ← optional (symbol ".")
  return found.flatten.filterMap Statement.triple?

/-- The template of a query that constructs triples; without triples, too, a dot may stand in it. -/
def template : Rule (List TriplePattern) :=
  triplesTemplate <|> (optional (symbol ".") *> pure [])

end Grammar

end LinkedQueries.Sparql
