import LinkedQueries.Dataset.Grouping
import LinkedQueries.Dump

/-!
# Views of a dump

The content of a dump is seen as triples, as quads or as datasets. A view that cannot be loaded
may be derived from another one: triples are quads without their graphs, quads are triples in the
default graph, and datasets are groups of either.
-/

namespace LinkedQueries

/-- The views of a dump. -/
inductive ViewKind where
  | triples
  | quads
  | datasets
  deriving DecidableEq, Repr

/-- The word for a view. -/
def ViewKind.text : ViewKind → String
  | .triples => "triples"
  | .quads => "quads"
  | .datasets => "datasets"

/-- A view, loaded or derived. -/
inductive View where
  | triples (triples : Partitions Triple)
  | quads (quads : Partitions Quad)
  | datasets (datasets : Partitions Dataset)

namespace View

/-- The kind of a view. -/
def kind : View → ViewKind
  | .triples _ => .triples
  | .quads _ => .quads
  | .datasets _ => .datasets

/-- The number of elements. -/
def size : View → Nat
  | .triples p => p.size
  | .quads p => p.size
  | .datasets p => p.size

end View

/-- How a view is obtained. -/
inductive Derivation where
  | direct (kind : ViewKind)
  | dropGraphs
  | placeInDefaultGraph
  | groupTriples (by_ : TripleGrouping)
  | groupQuads
  deriving DecidableEq, Repr

/-- The view that a derivation gives. -/
def Derivation.target : Derivation → ViewKind
  | .direct kind => kind
  | .dropGraphs => .triples
  | .placeInDefaultGraph => .quads
  | .groupTriples _ | .groupQuads => .datasets

/-- How views are partitioned and triples are grouped. Readings of different numbers give different
labels to the anonymous nodes of one text. -/
structure ViewOptions where
  partitionSize : Nat := Partitions.defaultSize
  partitionCount : Nat := 8
  grouping : TripleGrouping := .subjects
  reading : Nat := 0
  deriving DecidableEq, Repr

/-- Why a dump is not loaded, regrouped or written. -/
inductive DumpError where
  | unsupported (format : SourceFormat) (kind : ViewKind)
  | graphName (error : InvalidGraphKey)
  | io (failure : Failure)
  deriving DecidableEq, Repr

/-- The wording of an error. -/
def DumpError.message : DumpError → String
  | .unsupported format kind =>
    "The format " ++ format.text ++ " does not support the " ++ kind.text ++ " representation"
  | .graphName e => e.message
  | .io failure => failure.message

end LinkedQueries
