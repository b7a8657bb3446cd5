import LinkedQueries.Rdf.Reading
import LinkedQueries.View.Basic

/-!
# Loaders

A loader reads a dump into one view. A registry holds at most one loader for each format and view;
the last one registered counts. `Registry.standard` reads the formats of triples as triples and
those of quads as quads.
-/

namespace LinkedQueries

/-- Reads a dump into partitions. -/
abbrev Loader (α : Type) := Files → Source → ViewOptions → Except DumpError (Partitions α)

/-- The loaders of each view, the latest first. -/
structure Registry where
  triples : List (SourceFormat × Loader Triple)
  quads : List (SourceFormat × Loader Quad)
  datasets : List (SourceFormat × Loader Dataset)

namespace Registry

/-- No loaders. -/
def empty : Registry := ⟨[], [], []⟩

/-- Registers a loader of triples. -/
def addTriples (r : Registry) (format : SourceFormat) (loader : Loader Triple) : Registry :=
  { r with triples := (format, loader) :: r.triples }

/-- Registers a loader of quads. -/
def addQuads (r : Registry) (format : SourceFormat) (loader : Loader Quad) : Registry :=
  { r with quads := (format, loader) :: r.quads }

/-- Registers a loader of datasets. -/
def addDatasets (r : Registry) (format : SourceFormat) (loader : Loader Dataset) : Registry :=
  { r with datasets := (format, loader) :: r.datasets }

/-- The loader of triples for a format. -/
def tripleLoader? (r : Registry) (format : SourceFormat) : Option (Loader Triple) :=
  r.triples.lookup format

/-- The loader of quads for a format. -/
def quadLoader? (r : Registry) (format : SourceFormat) : Option (Loader Quad) :=
  r.quads.lookup format

/-- The loader of datasets for a format. -/
def datasetLoader? (r : Registry) (format : SourceFormat) : Option (Loader Dataset) :=
  r.datasets.lookup format

/-- Whether there is a loader of a view for a format. -/
def supports (r : Registry) (format : SourceFormat) : ViewKind → Bool
  | .triples => (r.tripleLoader? format).isSome
  | .quads => (r.quadLoader? format).isSome
  | .datasets => (r.datasetLoader? format).isSome

end Registry

/-! ## The standard loaders -/

/-- Loads all statements of a dump as quads; malformed ones are skipped. -/
def loadQuads (read : Nat → StatementReader) : Loader Quad := fun files source options =>
  match source.format.rdf? with
  | none => .error (.unsupported source.format .quads)
  | some format =>
    let events (input : Input) : List ReadEvent := read options.reading format none input
    match (source.open? files).bind fun input => ReadEvent.allQuads (events input) with
    | .error failure => .error (.io failure)
    | .ok quads => .ok (Partitions.chunked options.partitionSize quads)

/-- Loads all statements of a dump as triples. -/
def loadTriples (read : Nat → StatementReader) : Loader Triple := fun files source options =>
  (loadQuads read files source options).map (Partitions.map (·.toTriple))

/-- The loaders of the formats that hold triples or quads. -/
def Registry.standard (read : Nat → StatementReader) : Registry :=
  let triples := [RdfFormat.nTriples, .turtle, .n3, .rdfXml].foldl
    (fun r format => r.addTriples (.rdf format) (loadTriples read)) Registry.empty
  [RdfFormat.nQuads, .triG].foldl
    (fun r format => r.addQuads (.rdf format) (loadQuads read)) triples

end LinkedQueries
