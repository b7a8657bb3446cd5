import LinkedQueries.Execution
import LinkedQueries.Rdf.Pattern
import LinkedQueries.Total

/-!
# The join graph of a basic graph pattern

A hypergraph whose vertices are the distinct terms of the triple patterns, in order of their first
occurrence, and whose edges are the triple patterns, in their order. An edge connects the terms of
its pattern; a term that stands in a pattern twice is connected once. The degree of a vertex is
the number of edges at it, and a vertex where edges meet is a join vertex.

The index finds the vertex of a term; it grows with the vertices.

`JoinGraph.ofPatterns` builds the graph, one pattern after the other.
-/

namespace LinkedQueries

/-- A term of a basic graph pattern with the number of edges at it. -/
structure JoinVertex where
  term : TermPattern
  degree : Nat
  deriving DecidableEq, Repr

/-- At a join vertex at least two edges meet. -/
def JoinVertex.isJoin (v : JoinVertex) : Bool :=
  2 ≤ v.degree

/-- A triple pattern with the vertices that it connects, by index and in order of first
occurrence. -/
structure Hyperedge where
  pattern : TriplePattern
  vertices : List Nat
  deriving DecidableEq, Repr

/-- The join graph of a basic graph pattern, with the executions recorded for it. The index holds
the number of the vertex of each term. -/
structure JoinGraph where
  vertices : List JoinVertex
  index : List (TermPattern × Nat)
  edges : List Hyperedge
  executions : List PatternExecution
  deriving DecidableEq, Repr

/-- Why no execution can be looked up: the benchmark run is not given. -/
inductive LookupError where
  | missingRun
  deriving DecidableEq, Repr

/-- The wording of the error. -/
def LookupError.message : LookupError → String
  | .missingRun => "The benchmark run resource is not set"

/-- Figures about the joins of a basic graph pattern; average and median are 0 without join
vertices. -/
structure JoinStatistics where
  patternCount : Nat
  vertexCount : Nat
  joinVertexCount : Nat
  averageDegree : Nat
  medianDegree : Nat
  deriving DecidableEq, Repr

namespace JoinGraph

/-- The graph without patterns. -/
def empty : JoinGraph := ⟨[], [], [], []⟩

/-- The index of the vertex of a term. -/
def indexOf? (g : JoinGraph) (term : TermPattern) : Option Nat :=
  g.index.lookup term

/-! ## Building -/

/-- The graph with a new vertex at the end, to which no edge leads yet. -/
def withVertex (g : JoinGraph) (term : TermPattern) : JoinGraph :=
  { g with
    vertices := g.vertices ++ [⟨term, 0⟩]
    index := (term, g.vertices.length) :: g.index }

/-- The graph with a vertex for the term, which is added if the term is new, and the index of that
vertex. -/
def vertexFor (g : JoinGraph) (term : TermPattern) : JoinGraph × Nat :=
  match g.indexOf? term with
  | some i => (g, i)
  | none => (g.withVertex term, g.vertices.length)

/-- The graph with a vertex for one more term of a pattern, and the vertices that the pattern
connects so far. -/
def connect (g : JoinGraph) (connected : List Nat) (term : TermPattern) : JoinGraph × List Nat :=
  let (g, i) := g.vertexFor term
  (g, if connected.contains i then connected else connected ++ [i])

/-- The graph with a vertex for each term of a pattern, and the vertices that the pattern
connects. -/
def connectAll (g : JoinGraph) (terms : List TermPattern) : JoinGraph × List Nat :=
  terms.foldl (fun (g, connected) term => g.connect connected term) (g, [])

/-- The vertices with the degree of one raised by one. -/
def raise (vertices : List JoinVertex) (i : Nat) : List JoinVertex :=
  vertices.modify i fun v => { v with degree := v.degree + 1 }

/-- The graph with one more pattern. -/
def addPattern (g : JoinGraph) (pattern : TriplePattern) : JoinGraph :=
  let (g, connected) := g.connectAll pattern.terms
  { g with
    vertices := connected.foldl raise g.vertices
    edges := g.edges ++ [⟨pattern, connected⟩] }

/-- The join graph of triple patterns. -/
def ofPatterns (patterns : List TriplePattern) : JoinGraph :=
  patterns.foldl addPattern empty

/-! ## Reading -/

/-- The vertex of a term, if the term occurs. -/
def vertex? (g : JoinGraph) (term : TermPattern) : Option JoinVertex :=
  (g.indexOf? term).bind (g.vertices[·]?)

/-- The triple patterns, in order. -/
def patterns (g : JoinGraph) : List TriplePattern :=
  g.edges.map (·.pattern)

/-- The vertices at which edges meet. -/
def joinVertices (g : JoinGraph) : List JoinVertex :=
  g.vertices.filter JoinVertex.isJoin

/-- The degrees of the join vertices. -/
def joinDegrees (g : JoinGraph) : List Nat :=
  g.joinVertices.map (·.degree)

/-- The mean of some numbers, rounded down; 0 if there are none. -/
def average (xs : List Nat) : Nat :=
  total xs / xs.length

/-- The median of some numbers, the lower of two central ones; 0 if there are none. -/
def lowerMedian (xs : List Nat) : Nat :=
  (xs.mergeSort (· ≤ ·)).getD ((xs.length - 1) / 2) 0

/-- The figures about the joins. -/
def statistics (g : JoinGraph) : JoinStatistics where
  patternCount := g.edges.length
  vertexCount := g.vertices.length
  joinVertexCount := g.joinVertices.length
  averageDegree := average g.joinDegrees
  medianDegree := lowerMedian g.joinDegrees

/-! ## Executions -/

/-- The graph with one more execution. -/
def addExecution (g : JoinGraph) (e : PatternExecution) : JoinGraph :=
  { g with executions := g.executions ++ [e] }

/-- The first execution of a benchmark run. -/
def execution? (g : JoinGraph) : Option String → Except LookupError (Option PatternExecution)
  | none => .error .missingRun
  | some run => .ok (g.executions.find? (·.run == run))

end JoinGraph

end LinkedQueries
