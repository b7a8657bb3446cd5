import LinkedQueries.Dataset.Basic
import LinkedQueries.Partition.Combine

/-!
# Grouping into graphs

Plain triples are grouped by the graph that one of their terms names, quads by their own graph.
Order and repetitions are kept within each group.
-/

namespace LinkedQueries

/-- The term by which triples are grouped. -/
inductive TripleGrouping where
  | subjects
  | objects
  | predicates
  deriving DecidableEq, Repr

/-- The key of the graph into which a triple goes. -/
def TripleGrouping.key : TripleGrouping → Triple → String
  | .subjects, t => t.subject.graphKey
  | .objects, t => t.object.graphKey
  | .predicates, t => t.predicate

/-- Groups triples by one of their terms. -/
def TripleGrouping.group (by_ : TripleGrouping) (count : Nat) (triples : Partitions Triple) :
    Partitions (String × List Triple) :=
  triples.groupBy by_.key count

/-- Groups quads by their graphs. -/
def groupByGraph (count : Nat) (quads : Partitions Quad) : Partitions (String × List Triple) :=
  quads.combineByKey (·.graph.key) (fun q => [q.toTriple]) (fun ts q => ts ++ [q.toTriple]) (· ++ ·)
    count

end LinkedQueries
