import LinkedQueries.Ingest
import LinkedQueries.Proofs.Store.Merging

/-!
# One sighting

What ingesting an entry that holds a query text does to a store whose records have their keys as
hashes: the record of that text gets one execution, and is made first if the store does not know it.

Results:
* `prepare_eq`: an unknown query is analysed if queries are analysed, and is counted.
* **`entry_spec`**: the entry becomes one execution of the record with the hash of its query.
-/

namespace LinkedQueries.Ingest

open AccessLog RecordStore

variable (read : QueryReader) (options : IngestOptions)

/-- The record of a query text that a store does not know: the text, its hash and, only if queries
are analysed, the features of the query or else the message of the parser. -/
def newRecord (query : String) : QueryRecord where
  text := some query
  hash := some (fingerprint query)
  parseError :=
    match options.analyze, read options.base query with
    | true, .error message => some message
    | _, _ => none
  features :=
    match options.analyze, read options.base query with
    | true, .ok parsed => some parsed.features
    | _, _ => none
  localExecutions := []
  remoteExecutions := []

/-- Whether a query text that a store does not know counts as invalid. -/
def invalid (query : String) : Bool :=
  options.analyze && !(read options.base query).isOk

/-- What a stored record, if any, is after a sighting of its query. -/
def sighted (query : String) (execution : RemoteExecution) (known : Option QueryRecord) :
    QueryRecord :=
  (known.getD (newRecord read options query)).addRemote execution

/-- The summary after a sighting. -/
def counted (known : Bool) (query : String) (summary : IngestSummary) : IngestSummary :=
  { summary with
    sightings := summary.sightings + 1
    newRecords := summary.newRecords + if known then 0 else 1
    invalidQueries :=
      summary.invalidQueries + if !known && invalid read options query then 1 else 0 }

/-! ## Looking -/

/-- An unknown query is counted, and analysed if queries are analysed. -/
theorem prepare_eq (known : Bool) (query : String) (summary : IngestSummary) :
    prepare read options known (QueryRecord.ofText query) summary =
      (if known then QueryRecord.ofText query else newRecord read options query,
        { counted read options known query summary with sightings := summary.sightings }) := by
  unfold prepare counted invalid newRecord
  cases known with
  | true => rfl
  | false =>
    cases ha : options.analyze with
    | false => rfl
    | true =>
      cases hr : read options.base query with
      | ok parsed => simp [QueryRecord.analyze, QueryRecord.ofText, QueryRecord.withQuery,
          QueryRecord.empty, hr, Except.isOk, Except.toBool]
      | error message => simp [QueryRecord.analyze, QueryRecord.ofText, QueryRecord.withQuery,
          QueryRecord.empty, hr, Except.isOk, Except.toBool]

/-- The record of a sighting has the hash of the query. -/
theorem prepare_hash (known : Bool) (query : String) (summary : IngestSummary) :
    (prepare read options known (QueryRecord.ofText query) summary).1.hash =
      some (fingerprint query) := by
  rw [prepare_eq]
  cases known <;> rfl

/-- A record that has a hash takes in nothing of a record without findings but its executions. -/
theorem fill_sighting {k : QueryRecord} {hash : String} (hk : k.hash = some hash) (query : String)
    (execution : RemoteExecution) :
    k.fill ((QueryRecord.ofText query).addRemote execution) = k.addRemote execution := by
  unfold QueryRecord.fill QueryRecord.addRemote QueryRecord.ofText QueryRecord.withQuery
    QueryRecord.empty
  simp [hk]

/-- The record that was prepared for the store makes of the stored one what a sighting does. -/
theorem filled_prepare {known : Option QueryRecord} {hash : String}
    (h : ∀ k, known = some k → k.hash = some hash) (query : String) (summary : IngestSummary)
    (execution : RemoteExecution) :
    filled known ((prepare read options known.isSome (QueryRecord.ofText query)
      summary).1.addRemote execution) = sighted read options query execution known := by
  rw [prepare_eq]
  cases known with
  | none => rfl
  | some k => exact fill_sighting (h k rfl) query execution

/-! ## Looking and committing -/

/-- What a sighting of a query does to a store: the record with its hash has been sighted, no other
record has changed, and there is one record more iff the query was unknown. -/
structure Sighted (query : String) (execution : RemoteExecution) (s s' : RecordStore) :
    Prop where
  get? : ∀ other, s'.get? other =
    if other = fingerprint query
      then some (sighted read options query execution (s.get? other))
      else s.get? other
  size : s'.size = s.size + if s.contains (fingerprint query) then 0 else 1
  wellKeyed : s'.WellKeyed

/-- **An entry with a query** is one sighting, and never fails. -/
theorem entry_spec {s : RecordStore} (hs : s.WellKeyed) (n : Nat) {e : Entry} {query : String}
    (hq : e.query = some query) (summary : IngestSummary) :
    ∃ s', entry read options s n e summary =
        (s', .ok (counted read options (s.contains (fingerprint query)) query summary)) ∧
      Sighted read options query (e.toRemoteExecution (some n)) s s' := by
  obtain ⟨s', hmerge, hm⟩ := merge_spec hs
    (r := (prepare read options (s.contains (fingerprint query)) (QueryRecord.ofText query)
      summary).1.addRemote (e.toRemoteExecution (some n)))
    (prepare_hash read options _ query summary)
  refine ⟨s', ?_, fun other => ?_, hm.size, hm.wellKeyed⟩
  · unfold entry look commit
    rw [hq]
    dsimp only
    rw [hmerge, prepare_eq]
    rfl
  · rw [hm.get?]
    by_cases ho : other = fingerprint query
    · rw [if_pos ho, if_pos ho, ho]
      exact congrArg some (filled_prepare read options (hs _) query summary _)
    · rw [if_neg ho, if_neg ho]

end LinkedQueries.Ingest
