import LinkedQueries.Sparql.Algebra

/-!
# Variables in scope

The variables that the solutions of a pattern may bind, in the order in which the pattern mentions
them, and the check that an expression over the solutions of a group uses no others.
-/

namespace LinkedQueries

/-- The variable of a name. -/
def NamePattern.variables : NamePattern → List String
  | .iri _ => []
  | .variable name => [name]

/-- The variables of a term. -/
def TermPattern.variables : TermPattern → List String
  | .iri _ | .blank _ | .literal _ => []
  | .variable name => [name]
  | .triple s p o => s.variables ++ p.variables ++ o.variables

/-- The variables of a triple pattern. -/
def TriplePattern.variables (t : TriplePattern) : List String :=
  t.subject.variables ++ t.predicate.variables ++ t.object.variables

namespace Sparql

/-- The variables in scope behind a pattern, with repetitions. -/
def GraphPattern.scope : GraphPattern → List String
  | .bgp patterns => patterns.flatMap TriplePattern.variables
  | .path subject _ object => subject.variables ++ object.variables
  | .join left right | .leftJoin left right _ | .union left right => left.scope ++ right.scope
  | .graph name inner => name.variables ++ inner.scope
  | .extend inner name _ => name :: inner.scope
  | .minus left _ => left.scope
  | .group _ names aggregates => names ++ aggregates.map (·.1)
  | .values names _ | .project _ names => names
  | .filter _ inner | .orderBy inner _ | .distinct inner | .reduced inner | .slice inner _ _
  | .service _ inner _ => inner.scope

mutual

/-- Whether an expression uses no other variables than those given. What is bound or exists is
tested elsewhere, and a choice among alternatives need not be bound. -/
def Expression.isOver (visible : List String) : Expression → Bool
  | .iri _ | .literal _ | .bound _ | .coalesce _ | .exist _ => true
  | .variable name => visible.contains name
  | .unary _ e => e.isOver visible
  | .binary _ left right => left.isOver visible && right.isOver visible
  | .isIn e es => e.isOver visible && Expression.areOver visible es
  | .call _ es => Expression.areOver visible es
  | .conditional condition yes no =>
    condition.isOver visible && yes.isOver visible && no.isOver visible

/-- Whether some expressions use no other variables than those given. -/
def Expression.areOver (visible : List String) : List Expression → Bool
  | [] => true
  | e :: es => e.isOver visible && Expression.areOver visible es

end

end Sparql

end LinkedQueries
