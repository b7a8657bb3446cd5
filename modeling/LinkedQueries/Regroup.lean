import LinkedQueries.Dataset.Writer
import LinkedQueries.View.Resolver

/-!
# Regrouping

The dataset views of some dumps are put behind each other and written. All dumps are resolved before
anything is written, so a dump that cannot be read leaves no trace.
-/

namespace LinkedQueries

/-- What was written. -/
structure RegroupSummary where
  graphs : Nat
  triples : Nat
  deriving DecidableEq, Repr

namespace Regroup

/-- The dataset views of all dumps, one behind the other, in partitions of the size of the
options. Each dump is a reading of its own. -/
def union (r : Resolver) (files : Files) (sources : List Source) :
    Except DumpError (Partitions Dataset) := do
  let views ← sources.zipIdx.mapM fun (source, n) => (r.reading n).datasets files source
  return (views.foldl Partitions.append Partitions.empty).repartition r.options.partitionSize

variable {σ : Type}

/-- Writes datasets and finishes the sink. -/
def write (sink : Sink σ) (datasets : Partitions Dataset) (state : σ) :
    σ × Except DumpError RegroupSummary :=
  match sink.writeDatasets datasets state with
  | (state, .error e) => (state, .error e)
  | (state, .ok graphs) =>
    match sink.finish state with
    | (state, .error e) => (state, .error e)
    | (state, .ok _) =>
      (state, .ok ⟨graphs, total (datasets.flatten.map Dataset.tripleCount)⟩)

/-- Writes the dataset views of all dumps and finishes the sink. -/
def run (r : Resolver) (files : Files) (sources : List Source) (sink : Sink σ) (state : σ) :
    σ × Except DumpError RegroupSummary :=
  match union r files sources with
  | .error e => (state, .error e)
  | .ok datasets => write sink datasets state

end Regroup

end LinkedQueries
