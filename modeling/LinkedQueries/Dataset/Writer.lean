import LinkedQueries.Rdf.Writing
import LinkedQueries.View.Basic

/-!
# Writing datasets

A sink takes graphs one by one until it is finished. `GraphWriter` is the sink that writes a file: a
format with graphs keeps the names of the graphs, all others put the triples into one graph.

* `Sink.writeGraphs` stops at the first graph that the sink refuses.
* `GraphWriter.content` is what the file holds at any time.
-/

namespace LinkedQueries

/-- Takes graphs one by one. Refusing a graph may leave a trace in the state. -/
structure Sink (σ : Type) where
  writeGraph : String → List Triple → σ → σ × Except DumpError Unit
  finish : σ → σ × Except DumpError Unit

namespace Sink

variable {σ : Type}

/-- Writes graphs and counts them, up to the first that is refused. -/
def writeGraphs (sink : Sink σ) : List (String × List Triple) → σ → σ × Except DumpError Nat
  | [], state => (state, .ok 0)
  | (name, triples) :: rest, state =>
    match sink.writeGraph name triples state with
    | (state, .error e) => (state, .error e)
    | (state, .ok _) =>
      match sink.writeGraphs rest state with
      | (state, .error e) => (state, .error e)
      | (state, .ok n) => (state, .ok (n + 1))

/-- Writes the graphs of all datasets and counts them. -/
def writeDatasets (sink : Sink σ) (datasets : Partitions Dataset) (state : σ) :
    σ × Except DumpError Nat :=
  sink.writeGraphs (datasets.flatten.flatMap Dataset.toList) state

end Sink

/-- A file to which graphs are written: the quads that its format has been offered so far, and
whether no more may follow. -/
structure GraphWriter where
  path : String
  format : RdfFormat
  offered : List Quad
  finished : Bool
  deriving DecidableEq, Repr

namespace GraphWriter

/-- The writer of a file that is still empty. -/
def create (path : String) (format : RdfFormat) : GraphWriter :=
  ⟨path, format, [], false⟩

/-- The graph that a name denotes in the format of the file. -/
def graphName? (w : GraphWriter) (name : String) : Except DumpError GraphName :=
  if w.format.hasGraphs then (GraphName.ofKey? name).mapError DumpError.graphName
  else .ok .default

/-- The failure of writing to a finished file. -/
def alreadyFinished (w : GraphWriter) : Failure :=
  ⟨.other, w.path ++ " is already finished"⟩

/-- The triples up to the first that a format refuses behind one on a subject, and why it does. -/
def upToRefusal (format : RdfFormat) (last : Option Term) :
    List Triple → List Triple × Except DumpError Unit
  | [] => ([], .ok ())
  | t :: rest =>
    match format.refusal? last t with
    | some failure => ([t], .error (.io failure))
    | none =>
      let (more, result) := upToRefusal format (some t.subject) rest
      (t :: more, result)

/-- Writes a graph, unless its name denotes none or the file is finished. A statement that the
format refuses ends the graph. -/
def writeGraph (name : String) (triples : List Triple) (w : GraphWriter) :
    GraphWriter × Except DumpError Unit :=
  match w.graphName? name with
  | .error e => (w, .error e)
  | .ok g =>
    if w.finished then (w, .error (.io w.alreadyFinished))
    else
      let last := w.offered.getLast?.map (·.subject)
      let (offered, result) := upToRefusal w.format last triples
      ({ w with offered := w.offered ++ offered.map (·.inGraph g) }, result)

/-- Finishes the file; a finished file stays as it is. -/
def finish (w : GraphWriter) : GraphWriter × Except DumpError Unit :=
  ({ w with finished := true }, .ok ())

/-- Files as sinks. -/
def sink : Sink GraphWriter := ⟨writeGraph, finish⟩

/-- What the file holds. -/
def content (w : GraphWriter) : List UInt8 :=
  Utf8.encode (w.format.write w.offered w.finished)

end GraphWriter

end LinkedQueries
