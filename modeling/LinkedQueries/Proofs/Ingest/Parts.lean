import LinkedQueries.Proofs.Ingest.Aborted
import LinkedQueries.Proofs.Store.Named

/-!
# A log in parts

A log that is cut between two lines may be ingested in two runs, one after the other on the same
store. The second run counts its lines from 1 again; in everything else both are as one run.

Results:
* `lines_append`: the lines of two parts are the lines of the whole.
* `items_added`: what a run adds to a summary depends on the store only through its hashes.
* `log_parts_lenient`: a lenient run over the whole, and over the parts.
* **`log_parts`**: any runs that succeed.
-/

namespace LinkedQueries

/-- The summary of two runs. -/
def IngestSummary.add (c d : IngestSummary) : IngestSummary where
  lines := c.lines + d.lines
  skippedLines := c.skippedLines + d.skippedLines
  entriesWithoutQuery := c.entriesWithoutQuery + d.entriesWithoutQuery
  sightings := c.sightings + d.sightings
  newRecords := c.newRecords + d.newRecords
  invalidQueries := c.invalidQueries + d.invalidQueries

theorem IngestSummary.zero_add (c : IngestSummary) : zero.add c = c := by
  simp [add, zero]

theorem IngestSummary.add_assoc (c d e : IngestSummary) : (c.add d).add e = c.add (d.add e) := by
  simp [add, Nat.add_assoc]

/-- The execution with a sequence number that is greater by `n`. -/
def RemoteExecution.later (n : Nat) (e : RemoteExecution) : RemoteExecution :=
  { e with sequenceId := e.sequenceId.map (· + n) }

namespace AccessLog

/-! ## Lines -/

theorem withRest_append (ls : List (List UInt8)) (lines : List (List UInt8)) (rest : List UInt8) :
    withRest (ls ++ lines, rest) = ls ++ withRest (lines, rest) := by
  unfold withRest
  split
  · rfl
  · exact List.append_assoc ..

/-- Bytes that end with a line break are made up of complete lines. -/
theorem terminated_lines {bytes : List UInt8}
    (h : bytes = [] ∨ bytes.getLast? = some lineBreak) : terminated (lines bytes) = bytes := by
  have hjoin := completeLines_join bytes
  have hunbroken := unbroken_completeLines bytes
  cases hc : completeLines bytes with
  | mk ls rest =>
    rw [hc] at hjoin hunbroken
    cases rest with
    | nil =>
      unfold lines
      rw [hc, show withRest (ls, []) = ls from rfl, ← hjoin]
      exact (List.append_nil _).symm
    | cons b rest =>
      -- the last byte of the rest would be the last one of all
      have hlast : bytes.getLast?.all (· == lineBreak) = false := by
        rw [← hjoin]
        exact getLast?_rest hunbroken.2 _
      rcases h with rfl | h
      · cases hlast
      · rw [h] at hlast
        cases hlast

/-- **The lines of two parts** are those of the whole. -/
theorem lines_append {a : List UInt8} (ha : a = [] ∨ a.getLast? = some lineBreak)
    (b : List UInt8) : lines (a ++ b) = lines a ++ lines b := by
  have hwhole : a ++ b = joined (lines a ++ (completeLines b).1, (completeLines b).2) := by
    conv_lhs => rw [← terminated_lines ha, ← completeLines_join b]
    unfold terminated joined
    rw [List.flatMap_append, List.append_assoc]
  have hunbroken : Unbroken (lines a ++ (completeLines b).1, (completeLines b).2) := by
    obtain ⟨hlines, hrest⟩ := unbroken_completeLines b
    have ha' : ∀ line ∈ lines a, lineBreak ∉ line := unbroken_served ⟨a, none⟩
    exact ⟨List.forall_mem_append.mpr ⟨ha', hlines⟩, hrest⟩
  conv_lhs => unfold lines
  rw [hwhole, completeLines_joined hunbroken, withRest_append]
  rfl

/-- Items that come `n` lines later. -/
def delayed {α : Type} (n : Nat) (items : List (Nat × α)) : List (Nat × α) :=
  items.map fun x => (x.1 + n, x.2)

theorem numbered_append {α : Type} (xs ys : List α) :
    numbered (xs ++ ys) = numbered xs ++ delayed xs.length (numbered ys) := by
  unfold numbered delayed
  rw [List.zipIdx_append, List.map_append, List.map_map, Nat.zero_add,
    List.zipIdx_eq_map_add (l := ys) (i := xs.length), List.map_map]
  simp only [Function.comp_def, Nat.add_right_comm, Nat.add_comm xs.length]

end AccessLog

namespace Ingest

open AccessLog RecordStore

/-! ## Sightings of later lines -/

/-- The sightings on items that come later are later. -/
theorem sightings_delayed (n : Nat) (entries : List (Nat × Option Entry)) :
    sightings (delayed n entries) = (sightings entries).map fun x => (x.1, x.2.later n) := by
  unfold sightings delayed
  rw [List.filterMap_map, List.map_filterMap]
  refine List.filterMap_congr fun x _ => ?_
  obtain ⟨i, _ | e⟩ := x
  · rfl
  · unfold sighting?
    cases h : e.query with
    | none => simp [h]
    | some query => simp [h, RemoteExecution.later, Entry.toRemoteExecution]

theorem executionsUnder_later (n : Nat) (hash : String)
    (shown : List (String × RemoteExecution)) :
    executionsUnder hash (shown.map fun x => (x.1, x.2.later n)) =
      (executionsUnder hash shown).map (·.later n) := by
  unfold executionsUnder
  rw [List.filter_map, List.map_map, List.map_map]
  rfl

/-- **The entries of two parts**: those of the second part come later in the whole. -/
theorem entriesOf_append {a : List UInt8} (ha : a = [] ∨ a.getLast? = some lineBreak)
    (b : List UInt8) :
    entriesOf (a ++ b) = entriesOf a ++ delayed (lineCount a) (entriesOf b) := by
  unfold entriesOf
  rw [lines_append ha, numbered_append, List.map_append, length_lines]
  unfold delayed
  rw [List.map_map, List.map_map]
  rfl

/-! ## Summaries -/

section Summaries

variable (read : QueryReader) (options : IngestOptions)

/-- What a line adds to a summary, by the hashes that the store knows. -/
def added (known : String → Bool) : Option Entry → IngestSummary
  | none => ⟨1, 1, 0, 0, 0, 0⟩
  | some e =>
    match e.query with
    | none => ⟨1, 0, 1, 0, 0, 0⟩
    | some query => counted read options (known (fingerprint query)) query ⟨1, 0, 0, 0, 0, 0⟩

/-- The hashes that are known after a line. -/
def knownAfter (known : String → Bool) (x : Option Entry) (hash : String) : Bool :=
  known hash || (x.bind (·.query)).any fun query => hash == fingerprint query

/-- What lines add to a summary. -/
def addedAll (known : String → Bool) : List (Option Entry) → IngestSummary
  | [] => .zero
  | x :: xs => (added read options known x).add (addedAll (knownAfter known x) xs)

variable {read options}

/-- A sighting makes its query known. -/
theorem Sighted.contains {query : String} {execution : RemoteExecution} {s s' : RecordStore}
    (h : Sighted read options query execution s s') (other : String) :
    s'.contains other = (s.contains other || other == fingerprint query) := by
  show (s'.get? other).isSome = ((s.get? other).isSome || _)
  rw [h.get?]
  by_cases ho : other = fingerprint query <;> simp [ho]

variable (read options)

/-- What one line adds to a summary and to the hashes of a store. -/
theorem item_added {s : RecordStore} (hs : s.WellKeyed) (n : Nat) (c : IngestSummary) :
    ∀ x : Option Entry, ∃ s',
      item read options s n (.ok x) c = (s', .ok (c.add (added read options s.contains x))) ∧
        s'.WellKeyed ∧ s'.contains = knownAfter s.contains x
  | none => ⟨s, rfl, hs, funext fun _ => (Bool.or_false _).symm⟩
  | some e => by
    have hitem : item read options s n (.ok (some e)) c =
        entry read options s n e { c with lines := c.lines + 1 } := rfl
    rw [hitem]
    unfold added knownAfter
    dsimp only [Option.bind_some]
    cases hq : e.query with
    | none =>
      refine ⟨s, ?_, hs, funext fun _ => (Bool.or_false _).symm⟩
      unfold entry
      rw [hq]
      rfl
    | some query =>
      obtain ⟨s', hentry, hs'⟩ := entry_spec read options hs n hq { c with lines := c.lines + 1 }
      refine ⟨s', hentry.trans ?_, hs'.wellKeyed, funext fun hash => hs'.contains hash⟩
      simp [counted, IngestSummary.add]

/-- **What lines add to a summary** depends on the store only through its hashes. -/
theorem items_added : ∀ (entries : List (Nat × Option Entry)) {s : RecordStore}, s.WellKeyed →
    ∀ c : IngestSummary, ∃ s',
      items read options (entries.map fun x => (x.1, .ok x.2)) s c =
        (s', .ok (c.add (addedAll read options s.contains (entries.map (·.2)))))
  | [], s, _, c => ⟨s, rfl⟩
  | (n, x) :: entries, s, hs, c => by
    obtain ⟨s', hitem, hs', hknown⟩ := item_added read options hs n c x
    obtain ⟨s'', hitems⟩ :=
      items_added entries hs' (c.add (added read options s.contains x))
    refine ⟨s'', ?_⟩
    rw [List.map_cons, items, hitem]
    rw [hknown, IngestSummary.add_assoc] at hitems
    exact hitems

end Summaries

/-! ## Stores -/

/-- A store is the one after two runs, but the executions that the second run has added to the
records come later. -/
structure Renumbered (n : Nat) (own : String → List RemoteExecution)
    (first second s : RecordStore) : Prop where
  executions : ∀ hash, second.executions hash = first.executions hash ++ own hash
  get? : ∀ hash, s.get? hash = (second.get? hash).map fun r =>
    { r with remoteExecutions := first.executions hash ++ (own hash).map (·.later n) }

/-- The executions that the second run has added come later. -/
theorem Renumbered.executions_later {n : Nat} {own : String → List RemoteExecution}
    {first second s : RecordStore} (h : Renumbered n own first second s) (hash : String) :
    s.executions hash = first.executions hash ++ (own hash).map (·.later n) := by
  have hsecond := h.executions hash
  unfold RecordStore.executions at hsecond ⊢
  rw [h.get?]
  cases hk : second.get? hash with
  | some r => rfl
  | none =>
    rw [hk] at hsecond
    obtain ⟨hfirst, hown⟩ := List.append_eq_nil_iff.mp hsecond.symm
    rw [hfirst, hown]
    rfl

variable {read : QueryReader} {options : IngestOptions}

/-- The record that takes the executions of some sightings under a hash: the one that is there, or
else that of the query which is sighted first. -/
def taking (read : QueryReader) (options : IngestOptions) (hash : String) (s : RecordStore)
    (shown : List (String × RemoteExecution)) : Option QueryRecord :=
  s.get? hash <|> (shown.find? fun x => hash == fingerprint x.1).map fun x =>
    newRecord read options x.1

/-- The record has the executions of the store. -/
theorem taking_executions (hash : String) (s : RecordStore)
    (shown : List (String × RemoteExecution)) :
    (taking read options hash s shown).elim [] (·.remoteExecutions) = s.executions hash := by
  unfold taking RecordStore.executions
  cases s.get? hash with
  | some r => rfl
  | none => cases shown.find? fun x => hash == fingerprint x.1 <;> rfl

/-- Without such a record there are no sightings. -/
theorem executionsUnder_of_taking {hash : String} {s : RecordStore}
    {shown : List (String × RemoteExecution)} (h : taking read options hash s shown = none) :
    executionsUnder hash shown = [] := by
  unfold taking at h
  rw [Option.orElse_eq_orElse, Option.orElse_eq_or, Option.or_eq_none_iff,
    Option.map_eq_none_iff, List.find?_eq_none] at h
  unfold executionsUnder
  rw [List.filter_eq_nil_iff.mpr h.2, List.map_nil]

/-- Sightings of later lines are taken by the same record. -/
theorem taking_later (n : Nat) (hash : String) (s : RecordStore)
    (shown : List (String × RemoteExecution)) :
    taking read options hash s (shown.map fun x => (x.1, x.2.later n)) =
      taking read options hash s shown := by
  unfold taking
  rw [List.find?_map, Option.map_map]
  rfl

/-- The same lines under other numbers. -/
theorem Run.renumbered {n : Nat} {entries : List (Nat × Option Entry)} {first second s : RecordStore}
    {c c' d d' : IngestSummary} (h : Run read options entries first c second c')
    (hlater : Run read options (delayed n entries) first d s d') :
    Renumbered n (fun hash => executionsUnder hash (Ingest.sightings entries)) first second s := by
  have hsecond (hash : String) : second.get? hash =
      (taking read options hash first (Ingest.sightings entries)).map
        (withExecutions (executionsUnder hash (Ingest.sightings entries))) :=
    (h.get? hash).trans (track_eq ..)
  have hs (hash : String) : s.get? hash =
      (taking read options hash first (Ingest.sightings entries)).map
        (withExecutions
          ((executionsUnder hash (Ingest.sightings entries)).map (·.later n))) := by
    rw [← executionsUnder_later, ← taking_later n, ← sightings_delayed]
    exact (hlater.get? hash).trans (track_eq ..)
  refine ⟨fun hash => ?_, fun hash => ?_⟩
  · rw [← taking_executions hash first (Ingest.sightings entries)]
    unfold RecordStore.executions
    rw [hsecond]
    cases hk : taking read options hash first (Ingest.sightings entries) with
    | none => exact (executionsUnder_of_taking hk).symm
    | some r => rfl
  · rw [hs, hsecond, ← taking_executions hash first (Ingest.sightings entries)]
    cases taking read options hash first (Ingest.sightings entries) <;> rfl

/-! ## Runs over a log -/

/-- A lenient run goes over the entries of the log. -/
theorem log_lenient (hlenient : options.strict = false) (s : RecordStore) (bytes : List UInt8) :
    Ingest.log read options s ⟨bytes, none⟩ =
      items read options ((entriesOf bytes).map fun x => (x.1, .ok x.2)) s .zero := by
  unfold Ingest.log entriesOf
  rw [hlenient, extractAll_lenient, numbered_map, List.map_map]
  rfl

/-- A run that succeeds is the lenient one, and skips nothing if it is strict. -/
theorem log_ok_iff {log : Input} {s s' : RecordStore} {c : IngestSummary} :
    Ingest.log read options s log = (s', .ok c) ↔
      Ingest.log read { options with strict := false } s log = (s', .ok c) ∧
        (options.strict = true → c.skippedLines = 0) := by
  obtain ⟨strict, analyze, base⟩ := options
  cases strict with
  | false => simp
  | true =>
    refine (@log_strict_iff read ⟨true, analyze, base⟩ log s s' c).trans ?_
    simp

/-- **Lenient runs** over two parts and over the whole. -/
theorem log_parts_lenient (read : QueryReader) (hlenient : options.strict = false) {store : RecordStore}
    (hstore : store.WellKeyed) {a : List UInt8} (ha : a = [] ∨ a.getLast? = some lineBreak)
    (b : List UInt8) : ∃ first c second d s,
      Ingest.log read options store ⟨a, none⟩ = (first, .ok c) ∧
      Ingest.log read options first ⟨b, none⟩ = (second, .ok d) ∧
      Ingest.log read options store ⟨a ++ b, none⟩ = (s, .ok (c.add d)) ∧
      Renumbered (lineCount a) (fun hash => executionsUnder hash (sightings (entriesOf b)))
        first second s := by
  obtain ⟨first, c, ha', hfirst⟩ := items_lenient read options (entriesOf a) hstore .zero
  obtain ⟨second, d, hb, hsecond⟩ :=
    items_lenient read options (entriesOf b) hfirst.wellKeyed .zero
  obtain ⟨s, e, hb', hs⟩ :=
    items_lenient read options (delayed (lineCount a) (entriesOf b)) hfirst.wellKeyed c
  have hsum : e = c.add d := by
    obtain ⟨_, hd⟩ := items_added read options (entriesOf b) hfirst.wellKeyed .zero
    obtain ⟨_, he⟩ :=
      items_added read options (delayed (lineCount a) (entriesOf b)) hfirst.wellKeyed c
    have hentries : (delayed (lineCount a) (entriesOf b)).map (·.2) = (entriesOf b).map (·.2) := by
      unfold delayed
      rw [List.map_map]
      rfl
    rw [hd, IngestSummary.zero_add] at hb
    rw [he, hentries] at hb'
    cases hb
    cases hb'
    rfl
  subst hsum
  refine ⟨first, c, second, d, s, ?_, ?_, ?_, hsecond.renumbered hs⟩
  · rw [log_lenient hlenient, ha']
  · rw [log_lenient hlenient, hb]
  · rw [log_lenient hlenient, entriesOf_append ha, List.map_append, items_append, ha']
    exact hb'

/-- **A log in parts.** Let a log be cut behind a line break, or in front. A run over the whole log
succeeds iff runs over both parts do, one after the other on the same store; lenient runs do. The
summary of the whole is then the sum of both, and its store is the one after both, but the executions
that the second part has added, which are all at the end of their records, have sequence numbers that
are greater by the number of lines in the first part. -/
theorem log_parts (read : QueryReader) (options : IngestOptions) {store : RecordStore}
    (hstore : store.Reachable) {a : List UInt8} (ha : a = [] ∨ a.getLast? = some lineBreak)
    (b : List UInt8) :
    (options.strict = false →
      ∃ s e, Ingest.log read options store ⟨a ++ b, none⟩ = (s, .ok e)) ∧
    ((∃ s e, Ingest.log read options store ⟨a ++ b, none⟩ = (s, .ok e)) ↔
      ∃ first c second d, Ingest.log read options store ⟨a, none⟩ = (first, .ok c) ∧
        Ingest.log read options first ⟨b, none⟩ = (second, .ok d)) ∧
    ∀ first c second d, Ingest.log read options store ⟨a, none⟩ = (first, .ok c) →
      Ingest.log read options first ⟨b, none⟩ = (second, .ok d) →
      ∃ s, Ingest.log read options store ⟨a ++ b, none⟩ = (s, .ok (c.add d)) ∧
        Renumbered (lineCount a) (fun hash => executionsUnder hash (sightings (entriesOf b)))
          first second s := by
  have hlenient : ({ options with strict := false } : IngestOptions).strict = false := rfl
  obtain ⟨first, c, second, d, s, hfirst, hsecond, hwhole, hrenumbered⟩ :=
    log_parts_lenient read hlenient hstore.wellKeyed ha b
  -- all runs are the lenient ones, so that only the skipped lines decide
  have hparts : ∀ {first' c' second' d'},
      Ingest.log read options store ⟨a, none⟩ = (first', .ok c') →
      Ingest.log read options first' ⟨b, none⟩ = (second', .ok d') →
      first' = first ∧ c' = c ∧ second' = second ∧ d' = d ∧
        (options.strict = true → (c.add d).skippedLines = 0) := by
    intro first' c' second' d' h h'
    obtain ⟨h, hc⟩ := log_ok_iff.mp h
    cases h.symm.trans hfirst
    obtain ⟨h', hd⟩ := log_ok_iff.mp h'
    cases h'.symm.trans hsecond
    refine ⟨rfl, rfl, rfl, rfl, fun hstrict => ?_⟩
    exact Nat.add_eq_zero_iff.mpr ⟨hc hstrict, hd hstrict⟩
  have hall (h : options.strict = true → (c.add d).skippedLines = 0) :
      Ingest.log read options store ⟨a, none⟩ = (first, .ok c) ∧
      Ingest.log read options first ⟨b, none⟩ = (second, .ok d) ∧
      Ingest.log read options store ⟨a ++ b, none⟩ = (s, .ok (c.add d)) :=
    ⟨log_ok_iff.mpr ⟨hfirst, fun hstrict => (Nat.add_eq_zero_iff.mp (h hstrict)).1⟩,
      log_ok_iff.mpr ⟨hsecond, fun hstrict => (Nat.add_eq_zero_iff.mp (h hstrict)).2⟩,
      log_ok_iff.mpr ⟨hwhole, h⟩⟩
  refine ⟨fun hstrict => ?_, ⟨?_, ?_⟩, ?_⟩
  · exact ⟨s, _, (hall fun h => absurd (hstrict.symm.trans h) Bool.false_ne_true).2.2⟩
  · rintro ⟨s', e, h⟩
    obtain ⟨h, he⟩ := log_ok_iff.mp h
    cases h.symm.trans hwhole
    exact ⟨first, c, second, d, (hall he).1, (hall he).2.1⟩
  · rintro ⟨first', c', second', d', h, h'⟩
    obtain ⟨-, -, -, -, hskipped⟩ := hparts h h'
    exact ⟨s, _, (hall hskipped).2.2⟩
  · intro first' c' second' d' h h'
    obtain ⟨rfl, rfl, rfl, rfl, hskipped⟩ := hparts h h'
    exact ⟨s, (hall hskipped).2.2, hrenumbered⟩

/-- A query on both sides of the cut, behind a line that is skipped and before a last line that no
line break ends. -/
theorem log_parts_skipped_and_unended :
    let line (query : String) :=
      "h - u [01/Jan/2021:00:00:00 +0000] \"GET /?query=".toList ++ query.toList ++
        " HTTP/1.1\" 200 3 \"-\"\r".toList
    let a := Utf8.encode (line "ASK" ++ "\nx\n".toList)
    let b := Utf8.encode (line "ASK" ++ "\n".toList ++ line "SELECT")
    let read : QueryReader := fun _ _ => .error "incomplete"
    let options : IngestOptions := ⟨false, true, none⟩
    let execution (n : Nat) (query : String) : RemoteExecution :=
      ⟨some n, "h", "u", some ⟨1609459200, 0⟩, some "GET", some ("/?query=" ++ query),
        some "HTTP/1.1", some 200, some 3, some "-", none, []⟩
    RecordStore.empty.Reachable ∧ a.getLast? = some lineBreak ∧
      ∃ first c second d s,
        Ingest.log read options RecordStore.empty ⟨a, none⟩ = (first, .ok c) ∧
        Ingest.log read options first ⟨b, none⟩ = (second, .ok d) ∧
        Ingest.log read options RecordStore.empty ⟨a ++ b, none⟩ = (s, .ok (c.add d)) ∧
        second.executions (fingerprint "ASK") =
          first.executions (fingerprint "ASK") ++ [execution 1 "ASK"] ∧
        s.executions (fingerprint "ASK") =
          first.executions (fingerprint "ASK") ++ [execution 3 "ASK"] := by
  intro line a b read options execution
  have ha : a.getLast? = some lineBreak := by decide +kernel
  have hlines : lineCount a = 2 := by decide +kernel
  have hsightings : sightings (entriesOf b) =
      [("ASK", execution 1 "ASK"), ("SELECT", execution 2 "SELECT")] := by
    decide +kernel
  have hhashes : (fingerprint "ASK" == fingerprint "SELECT") = false := by decide +kernel
  have hown : executionsUnder (fingerprint "ASK") (sightings (entriesOf b)) =
      [execution 1 "ASK"] := by
    rw [hsightings]
    unfold executionsUnder
    simp [hhashes]
  obtain ⟨hlenient, hparts, hwhole⟩ := log_parts read options Reachable.empty (.inr ha) b
  obtain ⟨first, c, second, d, hfirst, hsecond⟩ := hparts.mp (hlenient rfl)
  obtain ⟨s, hs, hrenumbered⟩ := hwhole first c second d hfirst hsecond
  refine ⟨.empty, ha, first, c, second, d, s, hfirst, hsecond, hs, ?_, ?_⟩
  · rw [hrenumbered.executions, hown]
  · rw [hrenumbered.executions_later, hown, hlines]
    rfl

end Ingest

end LinkedQueries
