import LinkedQueries.CommandLine.Run
import LinkedQueries.Proofs.CommandLine.Table
import LinkedQueries.Proofs.Ingest.Parts
import Mathlib.Data.List.Nodup
import Mathlib.Data.Set.Function

/-!
# The table of an extraction

An extraction ingests a log into an empty store and prints the table of the store; if the ingestion
fails, nothing is printed. The records of the store are those of the queries in the log, so that the
table can be read back as the queries of the log with their hashes.

Results:
* `get?_extracted`: the records that an ingestion makes in an empty store.
* `plain_fingerprint`: hashes hold neither tabs nor line ends.
* **`extract_table`**: what an extraction prints.
-/

namespace LinkedQueries

/-! ## Hashes -/

/-- A hash consists of hexadecimal digits. -/
theorem mem_fingerprint {text : String} {c : Char} (h : c ∈ (fingerprint text).toList) :
    ∃ n < 16, c = lowerHex n := by
  unfold fingerprint at h
  rw [String.toList_ofList] at h
  obtain ⟨w, -, hw⟩ := List.mem_flatMap.mp h
  obtain ⟨i, -, rfl⟩ := List.mem_map.mp hw
  exact ⟨_, Nat.mod_lt _ (by decide), rfl⟩

theorem plain_fingerprint (text : String) : QueryTable.Plain (fingerprint text).toList := by
  intro c hc
  obtain ⟨n, hn, rfl⟩ := mem_fingerprint hc
  exact (by decide : ∀ n < 16, lowerHex n ≠ '\t' ∧ lowerHex n ≠ '\n') n hn

namespace Ingest

open AccessLog RecordStore

/-! ## The store of an extraction -/

variable {read : QueryReader} {options : IngestOptions}

/-- An ingestion that succeeds has read its log to the end. -/
theorem failure_of_ok {log : Input} {s s' : RecordStore} {c : IngestSummary}
    (h : Ingest.log read options s log = (s', .ok c)) : log.failure = none := by
  have hok : ∀ x ∈ extractAll options.strict log, ∃ y, x = .ok y :=
    (forall_numbered (p := fun x : Except LogError (Option Entry) => ∃ y, x = .ok y)).mp
      (items_ok h).1
  cases hf : log.failure with
  | none => rfl
  | some failure =>
    have hmem : .error (.io failure) ∈ extractAll options.strict log := by
      rw [extractAll_eq, hf]
      exact List.mem_append_right _ (List.mem_singleton_self _)
    obtain ⟨y, hy⟩ := hok _ hmem
    cases hy

/-- **The records that an ingestion makes** in an empty store: under each hash that of the query that
is sighted first, with all executions under that hash. -/
theorem get?_extracted {log : Input} {s : RecordStore} {c : IngestSummary}
    (h : Ingest.log read options .empty log = (s, .ok c)) :
    s.size = c.newRecords ∧ ∀ hash, s.get? hash =
      ((sightings (entriesOf log.bytes)).find? fun x => hash == fingerprint x.1).map fun x =>
        withExecutions (executionsUnder hash (sightings (entriesOf log.bytes)))
          (newRecord read options x.1) := by
  have hfailure := failure_of_ok h
  obtain ⟨bytes, failure⟩ := log
  subst hfailure
  obtain ⟨hlenient, -⟩ := log_ok_iff.mp h
  obtain ⟨s', c', hitems, hrun⟩ := items_lenient read { options with strict := false }
    (entriesOf bytes) Reachable.empty.wellKeyed .zero
  rw [log_lenient rfl] at hlenient
  cases hlenient.symm.trans hitems
  refine ⟨?_, fun hash => ?_⟩
  · have hsize := hrun.size
    exact hsize.trans (Nat.zero_add _)
  · rw [hrun.get?, track_eq]
    cases (sightings (entriesOf bytes)).find? fun x => hash == fingerprint x.1 <;> rfl

/-- What is known of a record that an ingestion has made. -/
theorem record_extracted {log : Input} {s : RecordStore} {c : IngestSummary}
    (h : Ingest.log read options .empty log = (s, .ok c)) {hash : String} {r : QueryRecord}
    (hr : s.get? hash = some r) :
    ∃ query ∈ queries log.bytes, r.text = some query ∧ fingerprint query = hash ∧
      r.features = (newRecord read options query).features := by
  rw [(get?_extracted h).2] at hr
  obtain ⟨x, hx, rfl⟩ := Option.map_eq_some_iff.mp hr
  have hquery : x.1 ∈ queries log.bytes := by
    rw [queries_eq]
    exact List.mem_map_of_mem (List.mem_of_find?_eq_some hx)
  have hhash := List.find?_some hx
  exact ⟨x.1, hquery, rfl, (beq_iff_eq.mp hhash).symm, rfl⟩

/-- Every query of the log has a record. -/
theorem contains_extracted {log : Input} {s : RecordStore} {c : IngestSummary}
    (h : Ingest.log read options .empty log = (s, .ok c)) {query : String}
    (hq : query ∈ queries log.bytes) : s.contains (fingerprint query) = true := by
  rw [queries_eq] at hq
  obtain ⟨x, hx, rfl⟩ := List.mem_map.mp hq
  show (s.get? (fingerprint x.1)).isSome = true
  rw [(get?_extracted h).2, Option.isSome_map, List.find?_isSome]
  exact ⟨x, hx, beq_self_eq_true _⟩

end Ingest

/-! ## Rows -/

namespace QueryTable

open Ingest

variable {read : QueryReader} {options : IngestOptions}

/-- The rows of all records of a store. -/
def rowsOf (analyzed : Bool) (s : RecordStore) : List Row :=
  s.records.entries.map fun x => rowOf analyzed x.1 x.2

theorem map_hash_rowsOf (analyzed : Bool) (s : RecordStore) :
    (rowsOf analyzed s).map (·.hash) = s.hashes := by
  unfold rowsOf
  rw [List.map_map]
  rfl

/-- The number of triple patterns of a query, if queries are analysed and this one is understood. -/
def patternsOf (read : QueryReader) (options : IngestOptions) (query : String) : Option Nat :=
  if options.analyze then
    (read options.base query).toOption.map fun parsed => parsed.features.patternCount
  else none

theorem patterns_newRecord (query : String) :
    (if options.analyze then (newRecord read options query).features.map (·.patternCount)
      else none) = patternsOf read options query := by
  unfold newRecord patternsOf
  cases options.analyze with
  | false => rfl
  | true => cases read options.base query <;> rfl

/-- The row of a record that an ingestion has made tells about a query of the log. -/
theorem row_extracted {log : Input} {s : RecordStore} {c : IngestSummary}
    (h : Ingest.log read options .empty log = (s, .ok c)) {row : Row}
    (hrow : row ∈ rowsOf options.analyze s) :
    row.text ∈ queries log.bytes ∧ fingerprint row.text = row.hash ∧
      row.patterns = patternsOf read options row.text := by
  obtain ⟨⟨hash, r⟩, hm, rfl⟩ := List.mem_map.mp hrow
  have hr : s.get? hash = some r := s.records.ascending.find?_of_mem hm
  obtain ⟨query, hquery, htext, hhash, hfeatures⟩ := record_extracted h hr
  unfold rowOf
  dsimp only
  rw [htext, hfeatures, patterns_newRecord]
  exact ⟨hquery, hhash, rfl⟩

/-- Each query of the log has a row with its hash. -/
theorem exists_row {log : Input} {s : RecordStore} {c : IngestSummary}
    (h : Ingest.log read options .empty log = (s, .ok c)) {query : String}
    (hquery : query ∈ queries log.bytes) :
    ∃ row ∈ rowsOf options.analyze s, row.hash = fingerprint query := by
  have hmem : fingerprint query ∈ (rowsOf options.analyze s).map (·.hash) := by
    rw [map_hash_rowsOf]
    exact (s.records.mem_keys_iff _).mpr (contains_extracted h hquery)
  obtain ⟨row, hrow, hhash⟩ := List.mem_map.mp hmem
  exact ⟨row, hrow, hhash⟩

/-- The rows have different texts. -/
theorem nodup_texts {log : Input} {s : RecordStore} {c : IngestSummary}
    (h : Ingest.log read options .empty log = (s, .ok c)) :
    ((rowsOf options.analyze s).map (·.text)).Nodup := by
  have hhashes : ((rowsOf options.analyze s).map (·.text)).map fingerprint = s.hashes := by
    rw [List.map_map, ← map_hash_rowsOf options.analyze]
    exact List.map_congr_left fun row hrow => (row_extracted h hrow).2.1
  refine List.Nodup.of_map fingerprint ?_
  rw [hhashes]
  exact s.records.nodup_keys

/-- The texts are the queries of the log, if no two of these have one hash. -/
theorem mem_texts_iff {log : Input} {s : RecordStore} {c : IngestSummary}
    (h : Ingest.log read options .empty log = (s, .ok c))
    (hinj : Set.InjOn fingerprint { text | text ∈ queries log.bytes }) (text : String) :
    text ∈ (rowsOf options.analyze s).map (·.text) ↔ text ∈ queries log.bytes := by
  constructor
  · intro hm
    obtain ⟨row, hrow, rfl⟩ := List.mem_map.mp hm
    exact (row_extracted h hrow).1
  · intro hquery
    obtain ⟨row, hrow, hhash⟩ := exists_row h hquery
    obtain ⟨htext, hfingerprint, -⟩ := row_extracted h hrow
    exact List.mem_map.mpr ⟨row, hrow, hinj htext hquery (hfingerprint.trans hhash)⟩

/-- The table of an extraction is read back. -/
theorem rows?_extracted {log : Input} {s : RecordStore} {c : IngestSummary}
    (h : Ingest.log read options .empty log = (s, .ok c)) :
    rows? options.analyze (s.table options.analyze) = some (rowsOf options.analyze s) := by
  refine rows?_table options.analyze fun hash hm => ?_
  obtain ⟨r, hr⟩ := Option.isSome_iff_exists.mp ((s.records.mem_keys_iff hash).mp hm)
  obtain ⟨query, -, -, rfl, -⟩ := record_extracted h hr
  exact plain_fingerprint query

end QueryTable

/-! ## What is printed -/

namespace CommandLine

open QueryTable

/-- What an extraction does, once it has opened its log. -/
theorem run_extract {arguments : List String} {stdin : Input} {files : Files}
    {file : Option String} {options : IngestOptions}
    (harguments : Arguments.read arguments = .ok (.extract file options)) {log : Input}
    (hlog : openLog file stdin files = .ok log) :
    run arguments stdin files =
      match Ingest.log (Sparql.Query.reader 0) options .empty log with
      | (_, .error e) => ⟨1, "", Fault.report ⟨e.message, none⟩, files⟩
      | (store, .ok summary) => ⟨0, store.table options.analyze, ingestReport summary, files⟩ := by
  unfold run
  rw [harguments]
  dsimp only [answer]
  rw [hlog]
  dsimp only [Except.bind, extract]
  rcases Ingest.log (Sparql.Query.reader 0) options .empty log with ⟨store, e | summary⟩ <;> rfl

/-- **The table of an extraction.** An extraction that has opened its log prints nothing if the
ingestion fails. If it succeeds, what is printed reads as a table with one row for each record of the
store, in strictly ascending order of the hashes, and as many rows as the ingestion has counted new
records. Each row has a query of the log with its hash, and the number of its triple patterns if
queries are analysed and this one could be parsed; and each query of the log has the hash of a row.
If no two of the queries have one hash, the texts are the distinct queries of the log. -/
theorem extract_table {arguments : List String} {stdin : Input} {files : Files}
    {file : Option String} {options : IngestOptions}
    (harguments : Arguments.read arguments = .ok (.extract file options)) {log : Input}
    (hlog : openLog file stdin files = .ok log) :
    let read : Ingest.QueryReader := Sparql.Query.reader 0
    let outcome := run arguments stdin files
    (∀ store e, Ingest.log read options .empty log = (store, .error e) →
      outcome.exitCode = 1 ∧ outcome.output = "") ∧
    ∀ store summary, Ingest.log read options .empty log = (store, .ok summary) →
      outcome.exitCode = 0 ∧
      ∃ rows, rows? options.analyze outcome.output = some rows ∧
        rows.map (·.hash) = store.hashes ∧ (rows.map (·.hash)).Pairwise (· < ·) ∧
        (rows.map (·.text)).Nodup ∧ rows.length = summary.newRecords ∧
        (∀ row ∈ rows, row.text ∈ Ingest.queries log.bytes ∧ fingerprint row.text = row.hash ∧
          row.patterns = patternsOf read options row.text) ∧
        (∀ query ∈ Ingest.queries log.bytes, ∃ row ∈ rows, row.hash = fingerprint query) ∧
        (Set.InjOn fingerprint { text | text ∈ Ingest.queries log.bytes } →
          ∀ text, text ∈ rows.map (·.text) ↔ text ∈ Ingest.queries log.bytes) := by
  intro read outcome
  have houtcome : outcome = _ := run_extract harguments hlog
  refine ⟨fun store e h => ?_, fun store summary h => ?_⟩
  · rw [houtcome, h]
    exact ⟨rfl, rfl⟩
  rw [houtcome, h]
  refine ⟨rfl, rowsOf options.analyze store, rows?_extracted h, map_hash_rowsOf .., ?_,
    nodup_texts h, ?_, fun row hrow => row_extracted h hrow, fun query hq => exists_row h hq,
    mem_texts_iff h⟩
  · rw [map_hash_rowsOf]
    exact store.records.keys_ascending
  · rw [← (Ingest.get?_extracted h).1]
    exact List.length_map _

/-- A query text with a backslash in front of a letter and with a line end, and another query. -/
theorem extract_table_backslash :
    let line (query : String) :=
      "h - u [01/Jan/2021:00:00:00 +0000] \"GET /?query=".toList ++ query.toList ++
        " HTTP/1.1\" 200 3 \"-\"\n".toList
    let stdin : Input := ⟨Utf8.encode (line "a%5Cn%0A" ++ "x\n".toList ++ line "ASK"), none⟩
    let files := Files.empty
    Arguments.read ["extract", "--analyze"] = .ok (.extract none ⟨false, true, none⟩) ∧
      openLog none stdin files = .ok stdin ∧
      (run ["extract", "--analyze"] stdin files).exitCode = 0 ∧
      ∃ rows, rows? true (run ["extract", "--analyze"] stdin files).output = some rows ∧
        (rows.map (·.text)).Perm ["a\\n\n", "ASK"] := by
  intro line stdin files
  have harguments :
      Arguments.read ["extract", "--analyze"] = .ok (.extract none ⟨false, true, none⟩) := rfl
  have hlog : openLog none stdin files = .ok stdin := rfl
  obtain ⟨store, summary, hitems, -⟩ := Ingest.items_lenient (Sparql.Query.reader 0)
    ⟨false, true, none⟩ (Ingest.entriesOf stdin.bytes) RecordStore.Reachable.empty.wellKeyed .zero
  rw [← Ingest.log_lenient rfl] at hitems
  obtain ⟨hcode, rows, hrows, -, -, hnodup, -, -, -, htexts⟩ :=
    (extract_table harguments hlog).2 store summary hitems
  have hqueries : Ingest.queries stdin.bytes = ["a\\n\n", "ASK"] := by decide +kernel
  have hhashes : fingerprint "a\\n\n" ≠ fingerprint "ASK" := by decide +kernel
  have hinj : Set.InjOn fingerprint { text | text ∈ Ingest.queries stdin.bytes } := by
    rw [hqueries]
    exact (Set.injOn_pair.mpr fun h => absurd h hhashes).mono fun text hm => List.mem_pair.mp hm
  refine ⟨harguments, hlog, hcode, rows, hrows, ?_⟩
  have hdistinct : ["a\\n\n", "ASK"].Nodup :=
    List.nodup_cons.mpr ⟨fun hm => hhashes (congrArg fingerprint (List.mem_singleton.mp hm)),
      List.nodup_singleton _⟩
  refine (List.perm_ext_iff_of_nodup hnodup hdistinct).mpr fun text => ?_
  rw [htexts hinj, hqueries]

end CommandLine

end LinkedQueries
