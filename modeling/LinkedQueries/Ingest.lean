import LinkedQueries.AccessLog.Entry
import LinkedQueries.Store

/-!
# Ingesting logs

Every line of an access log that holds a query text is a sighting of that query and is merged into
a store. A query that the store does not know yet may be analysed first.

An entry takes two steps on the store, and another ingestion may come between them: `Ingest.look`
asks whether the query is known and prepares a record, `Ingest.commit` merges it. `Ingest.entry`
takes both, `Ingest.log` does so for all lines.
-/

namespace LinkedQueries

/-- How logs are ingested. -/
structure IngestOptions where
  strict : Bool
  analyze : Bool
  base : Option String
  deriving DecidableEq, Repr

/-- What an ingestion has met. -/
structure IngestSummary where
  lines : Nat
  skippedLines : Nat
  entriesWithoutQuery : Nat
  sightings : Nat
  newRecords : Nat
  invalidQueries : Nat
  deriving DecidableEq, Repr

/-- Nothing met so far. -/
def IngestSummary.zero : IngestSummary := ⟨0, 0, 0, 0, 0, 0⟩

/-- Why an ingestion stops. -/
inductive IngestError where
  | log (error : AccessLog.LogError)
  | store (error : StoreError)
  deriving DecidableEq, Repr

namespace IngestError

/-- The wording of an error. -/
def message : IngestError → String
  | .log e => e.message
  | .store e => e.message

/-- The error as a failure of the outside world; a failure of the reader is one already. -/
def toFailure : IngestError → Failure
  | .log (.io failure) => failure
  | .log e => ⟨.invalidData, e.message⟩
  | .store e => ⟨.other, e.message⟩

end IngestError

namespace Ingest

/-- A way to read query texts under a base IRI. -/
abbrev QueryReader := Option String → String → Except String Sparql.Query

/-- A record of a query text and the summary so far, when the store has been asked for its hash: an
unknown query counts as new and may be analysed. -/
def prepare (read : QueryReader) (options : IngestOptions) (known : Bool) (record : QueryRecord)
    (summary : IngestSummary) : QueryRecord × IngestSummary :=
  if known then (record, summary)
  else
    let summary := { summary with newRecords := summary.newRecords + 1 }
    if options.analyze then
      match record.analyze (read options.base) with
      | (record, true) => (record, summary)
      | (record, false) => (record, { summary with invalidQueries := summary.invalidQueries + 1 })
    else (record, summary)

/-- The first step: asks the store for a query text and prepares the record of its sighting. -/
def look (read : QueryReader) (options : IngestOptions) (store : RecordStore) (sequenceId : Nat)
    (entry : AccessLog.Entry) (query : String) (summary : IngestSummary) :
    QueryRecord × IngestSummary :=
  let (record, summary) :=
    prepare read options (store.contains (fingerprint query)) (QueryRecord.ofText query) summary
  (record.addRemote (entry.toRemoteExecution (some sequenceId)), summary)

/-- The second step: merges a record into the store. -/
def commit (store : RecordStore) (record : QueryRecord) (summary : IngestSummary) :
    RecordStore × Except IngestError IngestSummary :=
  match store.merge record with
  | .ok store => (store, .ok { summary with sightings := summary.sightings + 1 })
  | .error e => (store, .error (.store e))

/-- Ingests an entry. -/
def entry (read : QueryReader) (options : IngestOptions) (store : RecordStore) (sequenceId : Nat)
    (entry : AccessLog.Entry) (summary : IngestSummary) :
    RecordStore × Except IngestError IngestSummary :=
  match entry.query with
  | none => (store, .ok { summary with entriesWithoutQuery := summary.entriesWithoutQuery + 1 })
  | some query =>
    let (record, summary) := look read options store sequenceId entry query summary
    commit store record summary

/-- Ingests what a line has given. -/
def item (read : QueryReader) (options : IngestOptions) (store : RecordStore) (sequenceId : Nat)
    (item : Except AccessLog.LogError (Option AccessLog.Entry)) (summary : IngestSummary) :
    RecordStore × Except IngestError IngestSummary :=
  let summary := { summary with lines := summary.lines + 1 }
  match item with
  | .error e => (store, .error (.log e))
  | .ok none => (store, .ok { summary with skippedLines := summary.skippedLines + 1 })
  | .ok (some e) => entry read options store sequenceId e summary

/-- Ingests what the lines have given, up to the first error. -/
def items (read : QueryReader) (options : IngestOptions) :
    List (Nat × Except AccessLog.LogError (Option AccessLog.Entry)) → RecordStore →
      IngestSummary → RecordStore × Except IngestError IngestSummary
  | [], store, summary => (store, .ok summary)
  | (sequenceId, x) :: rest, store, summary =>
    match item read options store sequenceId x summary with
    | (store, .error e) => (store, .error e)
    | (store, .ok summary) => items read options rest store summary

/-- Ingests all lines of a log, up to the first error. -/
def log (read : QueryReader) (options : IngestOptions) (store : RecordStore) (log : Input) :
    RecordStore × Except IngestError IngestSummary :=
  items read options (AccessLog.numbered (AccessLog.extractAll options.strict log)) store
    IngestSummary.zero

end Ingest

end LinkedQueries
