import LinkedQueries.Keyed
import LinkedQueries.Rdf.GraphKey
import LinkedQueries.Total

/-!
# Datasets

Graphs under the keys of their names, ascending. The triples of a graph keep their order and their
repetitions.

* `Dataset.ofQuads` sorts quads into graphs.
* `Dataset.toQuads?` gives them back, unless a key names no graph.
-/

namespace LinkedQueries

/-- Graphs under the keys of their names. -/
structure Dataset where
  graphs : Keyed (List Triple)

namespace Dataset

/-- The dataset without graphs. -/
def empty : Dataset := ⟨Keyed.empty⟩

/-- Adds triples to a graph, which is there afterwards even if they are none. -/
def insert (d : Dataset) (name : String) (triples : List Triple) : Dataset :=
  ⟨d.graphs.alter name fun known => known.getD [] ++ triples⟩

/-- The dataset of one graph. -/
def ofGraph (name : String) (triples : List Triple) : Dataset :=
  empty.insert name triples

/-- The dataset of some quads. -/
def ofQuads (quads : List Quad) : Dataset :=
  quads.foldl (fun d q => d.insert q.graph.key [q.toTriple]) empty

/-- The triples of a graph. -/
def graph? (d : Dataset) (name : String) : Option (List Triple) :=
  d.graphs.find? name

/-- The graphs with their names, ascending. -/
def toList (d : Dataset) : List (String × List Triple) :=
  d.graphs.entries

/-- The number of graphs. -/
def size (d : Dataset) : Nat :=
  d.graphs.size

/-- The number of triples in all graphs. -/
def tripleCount (d : Dataset) : Nat :=
  total (d.toList.map (·.2.length))

/-- The quads of a graph, if its key names one. -/
def graphQuads? (name : String) (triples : List Triple) : Except InvalidGraphKey (List Quad) :=
  (GraphName.ofKey? name).map fun g => triples.map (·.inGraph g)

/-- The quads of all graphs, or the first key that names no graph. -/
def toQuads? (d : Dataset) : Except InvalidGraphKey (List Quad) :=
  (d.toList.mapM fun (name, triples) => graphQuads? name triples).map List.flatten

end Dataset

end LinkedQueries
