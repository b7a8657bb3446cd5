import LinkedQueries.Sparql.Scope

/-!
# Selections

How the pattern of a query comes of its parts: statements are joined so that neighbouring triples
are one basic graph pattern, and what a selection asks for is put around the pattern from the
inside out: groups, conditions on groups, inline data, columns, order, projection, and the slice.

* `GraphPattern.joined` joins two patterns and keeps triples together.
* `Selection.pattern?` fails if the columns do not fit the pattern.
-/

namespace LinkedQueries.Sparql

/-! ## Joining -/

/-- Whether a pattern has nothing to match. -/
def GraphPattern.isEmpty : GraphPattern → Bool
  | .bgp patterns => patterns.isEmpty
  | _ => false

/-- The join of two patterns: empty ones are left out, and triples come together. -/
def GraphPattern.joined : GraphPattern → GraphPattern → GraphPattern
  | .bgp left, .bgp right => .bgp (left ++ right)
  | left, right =>
    if left.isEmpty then right else if right.isEmpty then left else .join left right

/-- The join of patterns from left to right. -/
def GraphPattern.joinAll (patterns : List GraphPattern) : GraphPattern :=
  patterns.foldl GraphPattern.joined (.bgp [])

/-! ## Selections -/

/-- What happens to equal solutions. -/
inductive Multiplicity where
  | all
  | distinct
  | reduced
  deriving DecidableEq, Repr

/-- A column: a variable of the pattern, or a new one with its value. -/
inductive Column where
  | variable (name : String)
  | value (expression : Expression) (name : String)

/-- The columns of the solutions: those given, all variables in scope, or nothing is projected. -/
inductive Columns where
  | given (columns : List Column)
  | star
  | unprojected

/-- What a query selects. -/
structure Selection where
  multiplicity : Multiplicity
  columns : Columns

/-- What follows the pattern of a query. -/
structure Modifiers where
  /-- The variables of the groups, with those that are computed for them. -/
  group : Option (List String × List (String × Expression))
  having : Option Expression
  order : Option (List (SortOrder × Expression))
  slice : Option (Nat × Option Nat)
  values : Option GraphPattern

namespace Selection

/-- The selection of all solutions as they are. -/
def everything : Selection := ⟨.all, .unprojected⟩

/-- The groups of solutions, if there are any: a query with aggregates and without groups has one
group of all solutions, under a variable of the given name. -/
def grouping? (constant : String) (group : Option (List String × List (String × Expression)))
    (aggregates : List (String × Aggregate)) : Option (List String × List (String × Expression)) :=
  if group.isNone && !aggregates.isEmpty then
    some ([constant], [(constant, .literal (.typed "1" (xsd ++ "integer")))])
  else group

/-- The pattern with its solutions grouped. -/
def grouped (p : GraphPattern) (group : Option (List String × List (String × Expression)))
    (aggregates : List (String × Aggregate)) : GraphPattern :=
  match group with
  | none => p
  | some (names, computed) =>
    .group (computed.foldl (fun p (name, e) => .extend p name e) p) names aggregates

/-- The pattern with one more column, if the column fits: no variable is given twice, no value
hides a variable, and behind groups only what the groups bind can be used. -/
def withColumn? (visible : List String) (isGrouped : Bool) (p : GraphPattern)
    (names : List String) : Column → Option (GraphPattern × List String)
  | .variable name =>
    if (isGrouped && !visible.contains name) || names.contains name then none
    else some (p, names ++ [name])
  | .value e name =>
    if visible.contains name || (isGrouped && !e.isOver visible) || names.contains name then none
    else some (.extend p name e, names ++ [name])

/-- The distinct texts among some, in ascending order. -/
def ascending (names : List String) : List String :=
  (names.foldl (fun seen name => if seen.contains name then seen else name :: seen) []).mergeSort
    fun a b => a ≤ b

/-- The pattern with its columns, and their names if there is a projection. -/
def withColumns? (isGrouped : Bool) (p : GraphPattern) :
    Columns → Option (GraphPattern × Option (List String))
  | .unprojected => some (p, none)
  | .star => if isGrouped then none else some (p, some (ascending p.scope))
  | .given columns => do
    let (p, names) ← columns.foldlM
      (fun (p', names) column => withColumn? p.scope isGrouped p' names column) (p, [])
    return (p, some names)

/-- The pattern of a query. -/
def pattern? (s : Selection) (constant : String) (p : GraphPattern) (m : Modifiers)
    (aggregates : List (String × Aggregate)) : Option GraphPattern := do
  let group := grouping? constant m.group aggregates
  let p := grouped p group aggregates
  let p := match m.having with
    | some e => .filter e p
    | none => p
  let p := match m.values with
    | some data => p.joined data
    | none => p
  let (p, names) ← withColumns? group.isSome p s.columns
  let p := match m.order with
    | some keys => .orderBy p keys
    | none => p
  let p := match names with
    | some names => .project p names
    | none => p
  let p := match s.multiplicity with
    | .all => p
    | .distinct => .distinct p
    | .reduced => .reduced p
  return match m.slice with
    | some (start, length) => .slice p start length
    | none => p

end Selection

end LinkedQueries.Sparql
