import LinkedQueries.Proofs.AccessLog.Lines
import LinkedQueries.Proofs.Ingest.Sighting
import Mathlib.Data.List.Basic

/-!
# Lenient ingestion

A lenient ingestion meets an entry or none on each line and never stops. What it does to the store
is said for each hash on its own: the record with that hash takes the sightings of the queries with
that hash, one after the other.

Results:
* `track_eq`: all sightings of one hash are executions of one record.
* `item_spec`, `Run.append`: one line, and one run after another.
* `items_lenient`: any lines, by induction.
* **`log_exact`**: summary and store after a lenient ingestion.
-/

namespace LinkedQueries.Ingest

open AccessLog

/-! ## Sightings -/

/-- The query text of an entry, if it has one, and the execution that it shows. -/
def sighting? (x : Nat × Option Entry) : Option (String × RemoteExecution) :=
  x.2.bind fun e => e.query.map fun query => (query, e.toRemoteExecution (some x.1))

/-- The sightings of queries, in the order of the entries. -/
def sightings (entries : List (Nat × Option Entry)) : List (String × RemoteExecution) :=
  entries.filterMap sighting?

theorem sightings_append (xs ys : List (Nat × Option Entry)) :
    sightings (xs ++ ys) = sightings xs ++ sightings ys := List.filterMap_append

theorem sightings_of_none {e : Entry} (h : e.query = none) (n : Nat) :
    sightings [(n, some e)] = [] := by
  unfold sightings sighting?
  simp [h]

theorem sightings_of_some {e : Entry} {query : String} (h : e.query = some query) (n : Nat) :
    sightings [(n, some e)] = [(query, e.toRemoteExecution (some n))] := by
  unfold sightings sighting?
  simp [h]

/-! ## The record of a hash -/

variable (read : QueryReader) (options : IngestOptions)

/-- What the record with a hash, if any, is after a sighting. -/
def track (hash : String) (known : Option QueryRecord) (x : String × RemoteExecution) :
    Option QueryRecord :=
  if hash = fingerprint x.1 then some (sighted read options x.1 x.2 known) else known

/-- The record with some more remote executions. -/
def withExecutions (executions : List RemoteExecution) (r : QueryRecord) : QueryRecord :=
  { r with remoteExecutions := r.remoteExecutions ++ executions }

theorem foldl_sighted (r : QueryRecord) : ∀ shown : List (String × RemoteExecution),
    shown.foldl (fun known x => some (sighted read options x.1 x.2 known)) (some r) =
      some (withExecutions (shown.map (·.2)) r)
  | [] => by
    unfold withExecutions
    rw [List.map_nil, List.append_nil]
    rfl
  | x :: shown => by
    rw [List.foldl_cons, show sighted read options x.1 x.2 (some r) = r.addRemote x.2 from rfl,
      foldl_sighted]
    unfold withExecutions QueryRecord.addRemote
    rw [List.map_cons, List.append_assoc]
    rfl

/-- The executions of the sightings of queries with some hash. -/
def executionsUnder (hash : String) (shown : List (String × RemoteExecution)) :
    List RemoteExecution :=
  (shown.filter fun x => hash == fingerprint x.1).map (·.2)

/-- All sightings of a hash are executions of one record. If there was none, it is the record of the
query that was sighted first. -/
theorem track_eq (hash : String) (known : Option QueryRecord)
    (shown : List (String × RemoteExecution)) :
    shown.foldl (track read options hash) known =
      (known <|> (shown.find? fun x => hash == fingerprint x.1).map fun x =>
        newRecord read options x.1).map
        (withExecutions (executionsUnder hash shown)) := by
  have hfold : shown.foldl (track read options hash) known =
      (shown.filter fun x => hash == fingerprint x.1).foldl
        (fun known x => some (sighted read options x.1 x.2 known)) known := by
    rw [List.foldl_filter]
    unfold track
    simp only [beq_iff_eq]
  rw [hfold, ← List.head?_filter]
  unfold executionsUnder
  cases known with
  | some r => exact foldl_sighted read options r _
  | none =>
    cases shown.filter fun x => hash == fingerprint x.1 with
    | nil => rfl
    | cons x own =>
      -- the first sighting makes the record that the others find
      rw [List.foldl_cons, foldl_sighted]
      rfl

/-! ## Runs -/

/-- What a run over some entries does: how it changes each record, and how its summary is linked to
the entries and to the number of records. -/
structure Run (entries : List (Nat × Option Entry)) (s : RecordStore) (c : IngestSummary)
    (s' : RecordStore) (c' : IngestSummary) : Prop where
  wellKeyed : s'.WellKeyed
  get? : ∀ hash, s'.get? hash = (sightings entries).foldl (track read options hash) (s.get? hash)
  lines : c'.lines = c.lines + entries.length
  sightings : c'.sightings = c.sightings + (sightings entries).length
  balance : c'.lines + (c.skippedLines + c.entriesWithoutQuery + c.sightings) =
    c.lines + (c'.skippedLines + c'.entriesWithoutQuery + c'.sightings)
  size : s'.size + c.newRecords = s.size + c'.newRecords
  new_le : c'.newRecords + c.sightings ≤ c.newRecords + c'.sightings
  invalid_le : c'.invalidQueries + c.newRecords ≤ c.invalidQueries + c'.newRecords

variable {read options}

theorem Run.nil {s : RecordStore} (hs : s.WellKeyed) (c : IngestSummary) :
    Run read options [] s c s c :=
  ⟨hs, fun _ => rfl, rfl, rfl, rfl, rfl, Nat.le_refl _, Nat.le_refl _⟩

/-- One run after another is a run. -/
theorem Run.append {xs ys : List (Nat × Option Entry)} {s s' s'' : RecordStore}
    {c c' c'' : IngestSummary} (h : Run read options xs s c s' c')
    (h' : Run read options ys s' c' s'' c'') : Run read options (xs ++ ys) s c s'' c'' where
  wellKeyed := h'.wellKeyed
  get? hash := by rw [h'.get?, h.get?, sightings_append, List.foldl_append]
  lines := by rw [h'.lines, h.lines, List.length_append, Nat.add_assoc]
  sightings := by
    rw [h'.sightings, h.sightings, sightings_append, List.length_append, Nat.add_assoc]
  balance := by
    have := h.balance
    have := h'.balance
    omega
  size := by
    have := h.size
    have := h'.size
    omega
  new_le := by
    have := h.new_le
    have := h'.new_le
    omega
  invalid_le := by
    have := h.invalid_le
    have := h'.invalid_le
    omega

/-! ### One line -/

/-- A line without a sighting leaves the store as it is; it is skipped or an entry without query. -/
theorem Run.passed {s : RecordStore} (hs : s.WellKeyed) {x : Nat × Option Entry}
    (hx : Ingest.sightings [x] = []) (c : IngestSummary) {skipped withoutQuery : Nat}
    (hone : skipped + withoutQuery = 1) :
    Run read options [x] s c s
      { c with lines := c.lines + 1, skippedLines := c.skippedLines + skipped,
               entriesWithoutQuery := c.entriesWithoutQuery + withoutQuery } where
  wellKeyed := hs
  get? hash := by rw [hx, List.foldl_nil]
  lines := rfl
  sightings := by rw [hx]; rfl
  balance := by dsimp only; omega
  size := rfl
  new_le := Nat.le_refl _
  invalid_le := Nat.le_refl _

/-- A line with a sighting. -/
theorem Run.sighted {s s' : RecordStore} {x : Nat × Option Entry} {query : String}
    {execution : RemoteExecution} (hx : Ingest.sightings [x] = [(query, execution)])
    (h : Sighted read options query execution s s') (c : IngestSummary) :
    Run read options [x] s c s'
      (counted read options (s.contains (fingerprint query)) query
        { c with lines := c.lines + 1 }) where
  wellKeyed := h.wellKeyed
  get? hash := by
    rw [hx, h.get?, List.foldl_cons, List.foldl_nil]
    rfl
  lines := rfl
  sightings := by rw [hx]; rfl
  balance := by unfold counted; dsimp only; omega
  size := by
    rw [h.size]
    unfold counted
    dsimp only
    omega
  new_le := by
    unfold counted
    dsimp only
    split <;> omega
  invalid_le := by
    unfold counted
    dsimp only
    -- a known query is never analysed
    cases s.contains (fingerprint query) with
    | true => simp
    | false =>
      simp only [Bool.not_false, Bool.true_and, Bool.false_eq_true, if_false]
      split <;> omega

/-- **One line.** -/
theorem item_spec (read : QueryReader) (options : IngestOptions) {s : RecordStore}
    (hs : s.WellKeyed) (n : Nat) (c : IngestSummary) : ∀ x : Option Entry,
    ∃ s' c', item read options s n (.ok x) c = (s', .ok c') ∧
      Run read options [(n, x)] s c s' c'
  | none => ⟨s, _, rfl, Run.passed hs rfl c (Nat.add_zero 1)⟩
  | some e => by
    have hitem : item read options s n (.ok (some e)) c =
        entry read options s n e { c with lines := c.lines + 1 } := rfl
    cases hq : e.query with
    | none =>
      refine ⟨s, _, ?_, Run.passed hs (sightings_of_none hq n) c (Nat.zero_add 1)⟩
      rw [hitem, entry, hq]
      rfl
    | some query =>
      obtain ⟨s', hentry, hs'⟩ := entry_spec read options hs n hq { c with lines := c.lines + 1 }
      exact ⟨s', _, hitem.trans hentry, Run.sighted (sightings_of_some hq n) hs' c⟩

/-! ### All lines -/

/-- **Any lines.** A lenient ingestion never stops. -/
theorem items_lenient (read : QueryReader) (options : IngestOptions) :
    ∀ (entries : List (Nat × Option Entry)) {s : RecordStore}, s.WellKeyed →
      ∀ c : IngestSummary, ∃ s' c',
        items read options (entries.map fun x => (x.1, .ok x.2)) s c = (s', .ok c') ∧
          Run read options entries s c s' c'
  | [], s, hs, c => ⟨s, c, rfl, Run.nil hs c⟩
  | (n, x) :: entries, s, hs, c => by
    obtain ⟨s', c', hitem, hrun⟩ := item_spec read options hs n c x
    obtain ⟨s'', c'', hitems, hruns⟩ := items_lenient read options entries hrun.wellKeyed c'
    refine ⟨s'', c'', ?_, hrun.append hruns⟩
    rw [List.map_cons, items, hitem]
    exact hitems

/-! ## Logs -/

/-- The entries of a log, with the numbers of their lines. -/
def entriesOf (log : List UInt8) : List (Nat × Option Entry) :=
  (numbered (lines log)).map fun x => (x.1, entryOf x.2)

/-- The query texts that are extracted from the lines of a log. -/
def queries (log : List UInt8) : List String :=
  (lines log).filterMap fun line => (entryOf line).bind (·.query)

/-- The execution that a line shows of a query, if that is extracted from it: the fields of the
entry, with the number of the line. -/
def execution? (query : String) (x : Nat × Option Entry) : Option RemoteExecution :=
  x.2.bind fun e => if e.query = some query then some (e.toRemoteExecution (some x.1)) else none

/-- The executions that the lines of a log show of a query, in their order. -/
def executionsOf (query : String) (log : List UInt8) : List RemoteExecution :=
  (entriesOf log).filterMap (execution? query)

theorem length_entriesOf (log : List UInt8) : (entriesOf log).length = lineCount log := by
  unfold entriesOf
  rw [List.length_map, length_numbered, length_lines]

theorem queries_eq (log : List UInt8) :
    queries log = (sightings (entriesOf log)).map (·.1) := by
  have hsighting : ∀ x : Nat × Option Entry,
      (sighting? x).map (·.1) = x.2.bind (·.query) := by
    rintro ⟨n, _ | e⟩
    · rfl
    · unfold sighting?
      cases h : e.query <;> simp [h]
  unfold queries sightings entriesOf
  rw [List.map_filterMap, List.filterMap_map]
  calc
    _ = ((numbered (lines log)).map (·.2)).filterMap
        (fun line => (entryOf line).bind (·.query)) := by rw [numbered_snd]
    _ = _ := by
      rw [List.filterMap_map]
      exact List.filterMap_congr fun x _ => (hsighting (x.1, entryOf x.2)).symm

/-- If no other query has its hash, the executions under the hash of a query are its own. -/
theorem executionsUnder_eq {query : String} {entries : List (Nat × Option Entry)}
    (h : ∀ x ∈ sightings entries, fingerprint x.1 = fingerprint query → x.1 = query) :
    executionsUnder (fingerprint query) (sightings entries) =
      entries.filterMap (execution? query) := by
  unfold executionsUnder sightings
  rw [List.filter_filterMap, List.map_filterMap]
  refine List.filterMap_congr fun x hx => ?_
  obtain ⟨n, _ | e⟩ := x
  · rfl
  · cases hq : e.query with
    | none => simp [sighting?, execution?, hq]
    | some other =>
      have hs : sighting? (n, some e) = some (other, e.toRemoteExecution (some n)) := by
        simp [sighting?, hq]
      have hother := h _ (List.mem_filterMap.mpr ⟨_, hx, hs⟩)
      rw [hs]
      by_cases ho : other = query
      · simp [execution?, hq, ho]
      · have hne : ¬ fingerprint query = fingerprint other := fun he => ho (hother he.symm)
        simp [execution?, hq, ho, hne]

/-- The first sighting under the hash of a query is a sighting of it, if no other has its hash. -/
theorem find?_sightings {query : String} {shown : List (String × RemoteExecution)}
    (h : ∀ x ∈ shown, fingerprint x.1 = fingerprint query → x.1 = query) :
    (shown.find? fun x => fingerprint query == fingerprint x.1).map (newRecord read options ·.1) =
      if query ∈ shown.map (·.1) then some (newRecord read options query) else none := by
  cases hf : shown.find? fun x => fingerprint query == fingerprint x.1 with
  | none =>
    have hnot : ¬ query ∈ shown.map (·.1) := by
      intro hm
      obtain ⟨x, hx, rfl⟩ := List.mem_map.mp hm
      exact absurd (List.find?_eq_none.mp hf x hx) (by simp)
    rw [if_neg hnot]
    rfl
  | some x =>
    have hx := List.mem_of_find?_eq_some hf
    have hp := List.find?_some hf
    have he := h x hx (beq_iff_eq.mp hp).symm
    rw [if_pos (he ▸ List.mem_map_of_mem hx), ← he]
    rfl

/-- Where no sighting has a hash, its record stays as it is. -/
theorem track_other {hash : String} (known : Option QueryRecord) :
    ∀ {shown : List (String × RemoteExecution)}, (∀ x ∈ shown, fingerprint x.1 ≠ hash) →
      shown.foldl (track read options hash) known = known
  | [], _ => rfl
  | x :: shown, h => by
    have hx : track read options hash known x = known :=
      if_neg (h x List.mem_cons_self).symm
    rw [List.foldl_cons, hx]
    exact track_other known fun y hy => h y (List.mem_cons_of_mem x hy)

/-- **A lenient ingestion is exact**, for any log that is read to its end. It succeeds; the lines are
counted, each is skipped, an entry without query or a sighting, and the new records are those that
the store has more. A query that shares its hash with no other one of the log gets one execution for
each line it is extracted from, in their order: in the record that its hash had, or else in a new one
if there is such a line. No other record changes. -/
theorem log_exact (read : QueryReader) {options : IngestOptions} (hlenient : options.strict = false)
    {store : RecordStore} (hstore : store.Reachable) (log : List UInt8) :
    ∃ store' summary,
      Ingest.log read options store ⟨log, none⟩ = (store', .ok summary) ∧
      summary.lines = lineCount log ∧
      summary.lines = summary.skippedLines + summary.entriesWithoutQuery + summary.sightings ∧
      store'.size = store.size + summary.newRecords ∧
      summary.invalidQueries ≤ summary.newRecords ∧ summary.newRecords ≤ summary.sightings ∧
      (∀ query,
        (∀ other ∈ queries log, fingerprint other = fingerprint query → other = query) →
        store'.get? (fingerprint query) =
          (store.get? (fingerprint query) <|>
            if query ∈ queries log then some (newRecord read options query) else none).map
          (withExecutions (executionsOf query log))) ∧
      (∀ hash, (∀ query ∈ queries log, fingerprint query ≠ hash) →
        store'.get? hash = store.get? hash) := by
  obtain ⟨store', summary, hitems, hrun⟩ :=
    items_lenient read options (entriesOf log) hstore.wellKeyed IngestSummary.zero
  have hlog : Ingest.log read options store ⟨log, none⟩ = (store', .ok summary) := by
    unfold Ingest.log
    rw [hlenient, extractAll_lenient, numbered_map]
    unfold entriesOf at hitems
    rw [List.map_map] at hitems
    exact hitems
  have hlines : summary.lines = lineCount log := by
    rw [hrun.lines, length_entriesOf]
    exact Nat.zero_add _
  have hbalance := hrun.balance
  have hsize := hrun.size
  have hnew := hrun.new_le
  have hinvalid := hrun.invalid_le
  simp only [IngestSummary.zero, Nat.add_zero, Nat.zero_add] at hbalance hsize hnew hinvalid
  refine ⟨store', summary, hlog, hlines, hbalance, hsize, hinvalid, hnew, ?_, ?_⟩
  · intro query hquery
    have hown : ∀ x ∈ sightings (entriesOf log), fingerprint x.1 = fingerprint query →
        x.1 = query := by
      intro x hx
      refine hquery x.1 ?_
      rw [queries_eq]
      exact List.mem_map_of_mem hx
    rw [hrun.get?, track_eq, find?_sightings hown, executionsUnder_eq hown, ← queries_eq]
    rfl
  · intro hash hhash
    rw [hrun.get?]
    refine track_other _ fun x hx => hhash x.1 ?_
    rw [queries_eq]
    exact List.mem_map_of_mem hx

/-- A known query, a line that is no entry, an unknown query that is analysed, the known one. -/
theorem log_exact_known_and_unknown :
    let line (query : String) :=
      "h - u [01/Jan/2021:00:00:00 +0000] \"GET /?query=".toList ++ query.toList ++
        " HTTP/1.1\" 200 3 \"-\"\n".toList
    let log := Utf8.encode (line "ASK" ++ "x\n".toList ++ line "SELECT" ++ line "ASK")
    let read : QueryReader := fun _ _ => .error "incomplete"
    let execution (n : Nat) (query : String) : RemoteExecution :=
      ⟨some n, "h", "u", some ⟨1609459200, 0⟩, some "GET", some ("/?query=" ++ query),
        some "HTTP/1.1", some 200, some 3, some "-", none, []⟩
    ∃ store, RecordStore.empty.merge (QueryRecord.ofText "ASK") = .ok store ∧
      ∃ store' summary,
        Ingest.log read ⟨false, true, none⟩ store ⟨log, none⟩ = (store', .ok summary) ∧
        summary.lines = 4 ∧ store'.size = store.size + summary.newRecords ∧
        store'.get? (fingerprint "ASK") = some { QueryRecord.ofText "ASK" with
          remoteExecutions := [execution 1 "ASK", execution 4 "ASK"] } ∧
        store'.get? (fingerprint "SELECT") = some { QueryRecord.ofText "SELECT" with
          parseError := some "incomplete", remoteExecutions := [execution 3 "SELECT"] } := by
  intro line log read execution
  let store : RecordStore :=
    ⟨Keyed.empty.alter (fingerprint "ASK") fun _ => QueryRecord.ofText "ASK"⟩
  have hmerge : RecordStore.empty.merge (QueryRecord.ofText "ASK") = .ok store := rfl
  obtain ⟨store', summary, hlog, hlines, -, hsize, -, -, hget, -⟩ :=
    @log_exact read ⟨false, true, none⟩ rfl store (.merge .empty hmerge) log
  have hqueries : queries log = ["ASK", "SELECT", "ASK"] := by decide +kernel
  have hhashes : fingerprint "ASK" ≠ fingerprint "SELECT" := by decide +kernel
  have hask : store.get? (fingerprint "ASK") = some (QueryRecord.ofText "ASK") :=
    (Keyed.find?_alter _ _ _ _).trans (if_pos rfl)
  have hselect : store.get? (fingerprint "SELECT") = none :=
    (Keyed.find?_alter _ _ _ _).trans (if_neg hhashes.symm)
  refine ⟨store, hmerge, store', summary, hlog, hlines.trans (by decide +kernel), hsize, ?_, ?_⟩
  · have hexec : executionsOf "ASK" log = [execution 1 "ASK", execution 4 "ASK"] := by
      decide +kernel
    rw [hget "ASK" (by rw [hqueries]; simpa using hhashes.symm), hask, hexec]
    rfl
  · have hexec : executionsOf "SELECT" log = [execution 3 "SELECT"] := by decide +kernel
    rw [hget "SELECT" (by rw [hqueries]; simpa using hhashes), hselect, hexec, hqueries]
    rfl

end LinkedQueries.Ingest
