import LinkedQueries.Iri.Grammar
import LinkedQueries.Rdf.Reading

/-!
# Record streams

The statements of an RDF text, gathered into records. A record holds the statements in a row that
are in one named graph, or that are in the default graph and share their subject.

A stream is a machine that is polled: it opens its source at the first poll, gives one record or
error at each poll and then the end, and lets go of its reader when it ends or is dropped.
Malformed statements are counted, or end the stream if it is to fail fast.

* `RecordStream.poll` is one step.
* `RecordStream.runs` says what the records of a list of statements are.
-/

namespace LinkedQueries

/-- The statements in a row about one resource. -/
structure ResourceRecord where
  resource : Term
  graph : GraphName
  triples : List Triple
  deriving DecidableEq, Repr

/-- The statements of a record. -/
def ResourceRecord.quads (r : ResourceRecord) : List Quad :=
  r.triples.map (·.inGraph r.graph)

/-- Why a stream ends early. -/
inductive StreamError where
  | malformed (message : String)
  | acquisition (failure : Failure)
  | baseIri (iri : String) (error : IriError)
  deriving DecidableEq, Repr

namespace StreamError

/-- Whether the error is about the input rather than a single statement. -/
def isFatal : StreamError → Bool
  | .malformed _ => false
  | _ => true

/-- The wording of an error. -/
def message : StreamError → String
  | .malformed message => "Malformed RDF record: " ++ message
  | .acquisition failure => "Failed to read the input: " ++ failure.message
  | .baseIri iri error => "Invalid base IRI '" ++ iri ++ "': " ++ error.message

/-- The error as a failure of the outside world; a failure of the input is one already, and of a
malformed statement it is what the parser says. -/
def toFailure : StreamError → Failure
  | .acquisition failure => failure
  | .malformed message => ⟨.invalidData, message⟩
  | .baseIri iri error => ⟨.invalidInput, message (.baseIri iri error)⟩

end StreamError

/-- How a source is read into records. -/
structure StreamOptions where
  format : RdfFormat
  base : Option String
  failFast : Bool
  deriving DecidableEq, Repr

namespace RecordStream

/-! ## Records of statements -/

/-- The resource that a statement is about: its graph if that is named, else its subject. -/
def resource (q : Quad) : Term :=
  match q.graph with
  | .iri i => .iri i
  | .blank l => .blank l
  | .default => q.subject

/-- Whether a statement belongs to the record that another one begins. -/
def continues (first q : Quad) : Bool :=
  q.graph = first.graph && (first.graph ≠ .default || q.subject = first.subject)

/-- The record of a statement and those that follow it. -/
def record (first : Quad) (more : List Quad) : ResourceRecord :=
  ⟨resource first, first.graph, (first :: more).map (·.toTriple)⟩

/-- The records of some statements: the longest runs in a row. -/
def runs : List Quad → List ResourceRecord
  | [] => []
  | first :: rest =>
    record first (rest.takeWhile (continues first)) :: runs (rest.dropWhile (continues first))
termination_by quads => quads.length
decreasing_by
  have := (List.dropWhile_sublist (continues first) (l := rest)).length_le
  simp only [List.length_cons]; omega

/-! ## Streams -/

/-- Where a stream is: not yet polled, reading with at most one statement ahead, or at its end. -/
inductive Stage where
  | pending
  | reading (ahead : Option Quad) (events : List ReadEvent)
  | done
  deriving DecidableEq, Repr

/-- A stream, with what it has counted so far. -/
structure Stream where
  stage : Stage
  malformed : Nat
  opened : Nat
  dropped : Nat
  deriving DecidableEq, Repr

/-- A stream that has not been polled. -/
def Stream.start : Stream := ⟨.pending, 0, 0, 0⟩

/-- What the next statement is, how many malformed ones were skipped before it, and what follows. -/
structure Advance where
  result : Except StreamError (Option Quad)
  skipped : Nat
  events : List ReadEvent

/-- Looks for the next statement. -/
def advance (failFast : Bool) : List ReadEvent → Advance
  | [] => ⟨.ok none, 0, []⟩
  | .statement q :: rest => ⟨.ok (some q), 0, rest⟩
  | .failed failure :: rest => ⟨.error (.acquisition failure), 0, rest⟩
  | .malformed message :: rest =>
    if failFast then ⟨.error (.malformed message), 0, rest⟩
    else
      let a := advance failFast rest
      { a with skipped := a.skipped + 1 }

/-- What comes of gathering a record: it, or an error; the statement ahead; how many malformed
statements were skipped; and what follows. -/
structure Gathered where
  result : Except StreamError ResourceRecord
  ahead : Option Quad
  skipped : Nat
  events : List ReadEvent

/-- Gathers the statements of a record; `taken` are those behind the first, the latest first. -/
def gather (failFast : Bool) (first : Quad) (taken : List Quad) : List ReadEvent → Gathered
  | [] => ⟨.ok (record first taken.reverse), none, 0, []⟩
  | .statement q :: rest =>
    if continues first q then gather failFast first (q :: taken) rest
    else ⟨.ok (record first taken.reverse), some q, 0, rest⟩
  | .failed failure :: rest => ⟨.error (.acquisition failure), none, 0, rest⟩
  | .malformed message :: rest =>
    if failFast then ⟨.error (.malformed message), none, 0, rest⟩
    else
      let g := gather failFast first taken rest
      { g with skipped := g.skipped + 1 }

/-- The stream at its end, its reader let go. -/
def Stream.close (s : Stream) : Stream :=
  { s with stage := .done, dropped := s.dropped + 1 }

/-- Gives the record that a statement begins, or the error that ends it. -/
def Stream.emit (failFast : Bool) (s : Stream) (first : Quad) (events : List ReadEvent) :
    Stream × Option (Except StreamError ResourceRecord) :=
  let g := gather failFast first [] events
  let s := { s with malformed := s.malformed + g.skipped }
  match g.result with
  | .ok r => ({ s with stage := .reading g.ahead g.events }, some (.ok r))
  | .error e => (s.close, some (.error e))

/-- A poll of a stream that is reading. -/
def Stream.pollReading (failFast : Bool) (s : Stream) (ahead : Option Quad)
    (events : List ReadEvent) : Stream × Option (Except StreamError ResourceRecord) :=
  match ahead with
  | some first => s.emit failFast first events
  | none =>
    let a := advance failFast events
    let s := { s with malformed := s.malformed + a.skipped }
    match a.result with
    | .ok (some first) => s.emit failFast first a.events
    | .ok none => (s.close, none)
    | .error e => (s.close, some (.error e))

/-- The fault of the base IRI, which has to be absolute in every format. -/
def baseFault? (options : StreamOptions) : Option StreamError :=
  match options.base with
  | none => none
  | some iri =>
    match Iri.checkAbsolute iri.toList with
    | .ok _ => none
    | .error e => some (.baseIri iri e)

/-- One poll: the next record or error, or the end. The source is opened by the first poll, unless
the base IRI is at fault. -/
def poll (read : StatementReader) (options : StreamOptions) (source : Except Failure Input)
    (s : Stream) : Stream × Option (Except StreamError ResourceRecord) :=
  match s.stage with
  | .done => (s, none)
  | .reading ahead events => s.pollReading options.failFast ahead events
  | .pending =>
    match baseFault? options with
    | some e => ({ s with stage := .done }, some (.error e))
    | none =>
      let s := { s with opened := s.opened + 1 }
      match source with
      | .error failure => ({ s with stage := .done }, some (.error (.acquisition failure)))
      | .ok input => s.pollReading options.failFast none (read options.format options.base input)

/-- A stream that is dropped lets go of its reader. -/
def Stream.drop (s : Stream) : Stream :=
  match s.stage with
  | .reading .. => s.close
  | _ => { s with stage := .done }

end RecordStream

end LinkedQueries
