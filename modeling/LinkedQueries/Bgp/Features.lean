import LinkedQueries.Bgp.Graph
import LinkedQueries.Sparql.Algebra

/-!
# Structural features

The features of a query are the join graphs of its nonempty basic graph patterns, from left to right
through the algebra. Patterns within expressions, property paths and inline data have no part in
them.
-/

namespace LinkedQueries

/-- The join graphs of a query. -/
structure Features where
  graphs : List JoinGraph
  deriving DecidableEq, Repr

namespace Features

/-- The number of triple patterns. -/
def patternCount (f : Features) : Nat :=
  total (f.graphs.map (·.edges.length))

/-- The number of join vertices. -/
def joinVertexCount (f : Features) : Nat :=
  total (f.graphs.map (·.joinVertices.length))

/-- The features with one of the graphs changed. -/
def modify (f : Features) (index : Nat) (change : JoinGraph → JoinGraph) : Features :=
  ⟨f.graphs.modify index change⟩

end Features

namespace Sparql

/-- The nonempty basic graph patterns of a pattern, from left to right. -/
def GraphPattern.leaves : GraphPattern → List (List TriplePattern)
  | .bgp patterns => if patterns.isEmpty then [] else [patterns]
  | .join left right | .leftJoin left right _ | .union left right | .minus left right =>
    left.leaves ++ right.leaves
  | .filter _ inner | .graph _ inner | .extend inner _ _ | .orderBy inner _ | .project inner _
  | .distinct inner | .reduced inner | .slice inner _ _ | .group inner _ _ | .service _ inner _ =>
    inner.leaves
  | .path .. | .values .. => []

/-- The structural features of a query. -/
def Query.features (q : Query) : Features :=
  ⟨q.pattern.leaves.map JoinGraph.ofPatterns⟩

end Sparql

end LinkedQueries
