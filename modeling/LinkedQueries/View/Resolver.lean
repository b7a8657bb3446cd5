import LinkedQueries.View.Registry

/-!
# Resolving views

A view is loaded if there is a loader for it, and otherwise derived from a view that can be loaded;
derivations do not chain.

* `Resolver.plan` decides how a view is obtained.
* `Resolver.resolve` obtains it.
-/

namespace LinkedQueries

/-- Loaders, and the options with which they are run. -/
structure Resolver where
  registry : Registry
  options : ViewOptions

namespace Resolver

/-- The resolver of a reading of another number. -/
def reading (r : Resolver) (n : Nat) : Resolver :=
  { r with options := { r.options with reading := n } }

/-- How a view of dumps in a format is obtained. Datasets come from triples if the format holds only
triples, or if there is nothing else. -/
def plan (r : Resolver) (format : SourceFormat) (kind : ViewKind) : Except DumpError Derivation :=
  let triples := r.registry.supports format .triples
  let quads := r.registry.supports format .quads
  if r.registry.supports format kind then .ok (.direct kind)
  else
    match kind with
    | .triples => if quads then .ok .dropGraphs else .error (.unsupported format kind)
    | .quads => if triples then .ok .placeInDefaultGraph else .error (.unsupported format kind)
    | .datasets =>
      if triples && (format.isTriples || !quads) then .ok (.groupTriples r.options.grouping)
      else if quads then .ok .groupQuads
      else .error (.unsupported format kind)

/-- Runs a loader, if there is one. -/
def load {α : Type} (r : Resolver) (files : Files) (source : Source) (kind : ViewKind)
    (loader : Option (Loader α)) : Except DumpError (Partitions α) :=
  match loader with
  | some loader => loader files source r.options
  | none => .error (.unsupported source.format kind)

/-- Loads the triples of a dump. -/
def loadTriples (r : Resolver) (files : Files) (source : Source) :
    Except DumpError (Partitions Triple) :=
  r.load files source .triples (r.registry.tripleLoader? source.format)

/-- Loads the quads of a dump. -/
def loadQuads (r : Resolver) (files : Files) (source : Source) :
    Except DumpError (Partitions Quad) :=
  r.load files source .quads (r.registry.quadLoader? source.format)

/-- Loads the datasets of a dump. -/
def loadDatasets (r : Resolver) (files : Files) (source : Source) :
    Except DumpError (Partitions Dataset) :=
  r.load files source .datasets (r.registry.datasetLoader? source.format)

/-- Each group as a dataset of one graph. -/
def oneGraphEach (groups : Partitions (String × List Triple)) : Partitions Dataset :=
  groups.map fun (name, triples) => Dataset.ofGraph name triples

/-- The triples of a dump. -/
def triples (r : Resolver) (files : Files) (source : Source) :
    Except DumpError (Partitions Triple) := do
  match ← r.plan source.format .triples with
  | .dropGraphs => return (← r.loadQuads files source).map (·.toTriple)
  | _ => r.loadTriples files source

/-- The quads of a dump. -/
def quads (r : Resolver) (files : Files) (source : Source) :
    Except DumpError (Partitions Quad) := do
  match ← r.plan source.format .quads with
  | .placeInDefaultGraph => return (← r.loadTriples files source).map (·.inGraph .default)
  | _ => r.loadQuads files source

/-- The datasets of a dump. -/
def datasets (r : Resolver) (files : Files) (source : Source) :
    Except DumpError (Partitions Dataset) := do
  match ← r.plan source.format .datasets with
  | .groupTriples by_ =>
    return oneGraphEach (by_.group r.options.partitionCount (← r.loadTriples files source))
  | .groupQuads =>
    return oneGraphEach (groupByGraph r.options.partitionCount (← r.loadQuads files source))
  | _ => r.loadDatasets files source

/-- A view of a dump. -/
def resolve (r : Resolver) (files : Files) (source : Source) : ViewKind → Except DumpError View
  | .triples => (r.triples files source).map View.triples
  | .quads => (r.quads files source).map View.quads
  | .datasets => (r.datasets files source).map View.datasets

end Resolver

end LinkedQueries
