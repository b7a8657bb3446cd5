import LinkedQueries.Proofs.Bgp.Incidence
import LinkedQueries.Proofs.Record.Consistency
import LinkedQueries.Proofs.Text.ByteOrder
import Mathlib.Data.List.Infix

/-!
# The first execution of a run

A benchmark run may execute a query more than once, and what counts is the execution that was
recorded first. Records keep local executions in the order in which they came, so one that is the
first of its run stays the first, whatever is recorded or merged later. The executions of a record
are looked up in a collection by run, those of a basic graph pattern one by one; both follow this
rule.

* `IsEarliest`: an execution is the first of a run.

Results:
* `find?_executionOfRun`: looking up a run in the collection is searching the executions for it.
* `isPrefix_run`, `isPrefix_foldl`: what is done with a record adds local executions at the end.
* `execution?_withExecutions`: looking up a run among the executions of a basic graph pattern.
* **`executions_first`**: both ways to look up a run, merged records, and what stays found.
-/

namespace LinkedQueries

/-! ## The rule -/

section Rule

variable {ε : Type} (runOf : ε → String) {run : String} {executions : List ε} {e : ε}

/-- An execution belongs to a run, and none that was recorded before it does. -/
def IsEarliest (run : String) (executions : List ε) (e : ε) : Prop :=
  ∃ earlier later, executions = earlier ++ e :: later ∧ runOf e = run ∧
    ∀ e' ∈ earlier, runOf e' ≠ run

/-- Searching follows the rule. -/
theorem find?_eq_some_iff_isEarliest :
    executions.find? (runOf · == run) = some e ↔ IsEarliest runOf run executions e := by
  rw [List.find?_eq_some_iff_append]
  constructor
  · rintro ⟨hrun, earlier, later, heq, hearlier⟩
    exact ⟨earlier, later, heq, beq_iff_eq.mp hrun, fun e' he' => by simpa using hearlier e' he'⟩
  · rintro ⟨earlier, later, heq, hrun, hearlier⟩
    exact ⟨beq_iff_eq.mpr hrun, earlier, later, heq, fun e' he' => by simpa using hearlier e' he'⟩

theorem find?_eq_none_iff_forall :
    executions.find? (runOf · == run) = none ↔ ∀ e ∈ executions, runOf e ≠ run := by
  simp

/-- **Collecting executions by run**, where those that are known stay: a run that is not known yet
gets the first execution of it. -/
theorem find?_collected (run : String) : ∀ (executions : List ε) (known : Keyed ε),
    (executions.foldl (fun m e => m.alter (runOf e) fun old => old.getD e) known).find? run =
      (known.find? run).or (executions.find? (runOf · == run))
  | [], known => Option.or_none.symm
  | e :: executions, known => by
    rw [List.foldl_cons, find?_collected run executions, Keyed.find?_alter, List.find?_cons]
    by_cases h : run = runOf e
    · rw [if_pos h, ← h, beq_self_eq_true]
      cases known.find? run <;> rfl
    · rw [if_neg h, beq_false_of_ne (Ne.symm h)]

end Rule

/-! ## The executions of a record -/

namespace QueryRecord

section Lookup

variable (r : QueryRecord) (run : String)

/-- **A run is looked up** as its executions are searched for. -/
theorem find?_executionOfRun :
    r.executionOfRun.find? run = r.localExecutions.find? (·.run == run) := by
  unfold executionOfRun
  rw [find?_collected (·.run) run r.localExecutions Keyed.empty, Keyed.find?_empty, Option.none_or]

theorem mem_keys_executionOfRun :
    run ∈ r.executionOfRun.keys ↔ ∃ e ∈ r.localExecutions, e.run = run := by
  rw [Keyed.mem_keys_iff, Keyed.contains, find?_executionOfRun, List.find?_isSome]
  simp only [beq_iff_eq]

/-- The runs are in the order of their bytes. -/
theorem keys_executionOfRun_ascending : r.executionOfRun.keys.Pairwise fun s t =>
    Utf8.encode s.toList < Utf8.encode t.toList :=
  r.executionOfRun.keys_ascending.imp fun h => Utf8.encode_lt (String.lt_iff.mp h)

/-- **A merged record** has the executions that the first record has, and those of the other one for
the runs that the first record does not know. -/
theorem find?_executionOfRun_fill (other : QueryRecord) :
    (r.fill other).executionOfRun.find? run =
      (r.executionOfRun.find? run).or (other.executionOfRun.find? run) := by
  rw [find?_executionOfRun, find?_executionOfRun, find?_executionOfRun]
  exact List.find?_append

-- the other record has an execution of the same run, and one of a run that comes before it
example :
    let execution (run : String) (count : Nat) : LocalExecution := ⟨⟨run, some count, none⟩, none⟩
    let r := (empty.addLocal (execution "b" 1)).addLocal (execution "b" 2)
    let other := (empty.addLocal (execution "b" 3)).addLocal (execution "a" 4)
    (r.fill other).executionOfRun.entries.map (fun e => (e.1, e.2.resultCount)) =
      [("a", some 4), ("b", some 1)] := by decide

/-- What is found stays found while executions are added at the end. -/
theorem find?_executionOfRun_of_isPrefix {r r' : QueryRecord} {run : String} {e : LocalExecution}
    (h : r.localExecutions <+: r'.localExecutions) (he : r.executionOfRun.find? run = some e) :
    r'.executionOfRun.find? run = some e := by
  rw [find?_executionOfRun] at he ⊢
  exact h.find?_eq_some he

end Lookup

/-! ## What is done with records -/

/-- The change begins a record anew. -/
def Update.renews : Update → Bool
  | new | newOf _ => true
  | _ => false

/-- **A change** adds local executions at the end, or leaves them alone, unless it begins the record
anew. -/
theorem Update.isPrefix_apply {u : Update} (h : u.renews = false) (r : QueryRecord) :
    r.localExecutions <+: (u.apply r).localExecutions := by
  cases u with
  | new | newOf text => cases h
  | addLocal execution => exact List.prefix_append _ _
  | analyze parse =>
    rw [Update.apply, QueryRecord.analyze]
    split
    · exact List.prefix_rfl
    · split <;> exact List.prefix_rfl
  | setQuery text | setQueryOf query | clearQuery | setText text | rehash | setParseError message
  | setFeatures features | addRemote execution | modifyGraph index change => exact List.prefix_rfl

/-- A merge that succeeds adds the executions of the other record, and one that fails adds none. -/
theorem isPrefix_afterMerge (r other : QueryRecord) :
    r.localExecutions <+: (r.afterMerge other).localExecutions := by
  rcases afterMerge_cases r other with h | h
  · rw [h]
  · rw [h]
    exact List.prefix_append _ _

section Records

variable {ι : Type} [DecidableEq ι] {i : ι}

/-- The step begins record `i` anew. -/
def Operation.Renews (i : ι) : Operation ι → Prop
  | update j u => j = i ∧ u.renews = true
  | merge _ _ => False

/-- **One step** keeps the local executions of a record in front, unless it begins the record
anew. -/
theorem isPrefix_run {o : Operation ι} (h : ¬ o.Renews i) (records : ι → QueryRecord) :
    (records i).localExecutions <+: (o.run records i).localExecutions := by
  cases o with
  | update j u =>
    rw [Operation.run]
    by_cases hij : i = j
    · subst hij
      rw [Function.update_self]
      exact u.isPrefix_apply (Bool.eq_false_iff.mpr fun hu => h ⟨rfl, hu⟩) _
    · rw [Function.update_of_ne hij]
  | merge j k =>
    rw [Operation.run]
    by_cases hij : i = j
    · subst hij
      rw [Function.update_self]
      exact isPrefix_afterMerge _ _
    · rw [Function.update_of_ne hij]

/-- **Some steps** do so too, by induction on them. -/
theorem isPrefix_foldl : ∀ {operations : List (Operation ι)}, (∀ o ∈ operations, ¬ o.Renews i) →
    ∀ records : ι → QueryRecord,
      (records i).localExecutions <+: (operations.foldl Operation.run records i).localExecutions
  | [], _, _ => List.prefix_rfl
  | o :: operations, h, records => by
    obtain ⟨ho, hrest⟩ := List.forall_mem_cons.mp h
    exact (isPrefix_run ho records).trans (isPrefix_foldl hrest (o.run records))

end Records

end QueryRecord

/-! ## The executions of a basic graph pattern -/

namespace JoinGraph

theorem executions_vertexFor (g : JoinGraph) (term : TermPattern) :
    (g.vertexFor term).1.executions = g.executions := by
  unfold vertexFor
  split <;> rfl

theorem executions_connectAll (g : JoinGraph) (terms : List TermPattern) :
    (g.connectAll terms).1.executions = g.executions := by
  induction terms using List.reverseRecOn with
  | nil => rfl
  | append_singleton terms term ih =>
    rw [connectAll_concat]
    exact (executions_vertexFor _ term).trans ih

/-- Building a graph records no executions. -/
theorem executions_ofPatterns (patterns : List TriplePattern) :
    (ofPatterns patterns).executions = [] := by
  unfold ofPatterns
  induction patterns using List.reverseRecOn with
  | nil => rfl
  | append_singleton patterns pattern ih =>
    rw [List.foldl_append, ← ih]
    exact executions_connectAll _ pattern.terms

theorem executions_foldl : ∀ (added : List PatternExecution) (g : JoinGraph),
    (added.foldl addExecution g).executions = g.executions ++ added
  | [], _ => (List.append_nil _).symm
  | e :: added, g => by
    rw [List.foldl_cons, executions_foldl added]
    exact List.append_assoc _ [e] added

/-- The graph of some triple patterns with executions that were recorded for it, one by one. -/
def withExecutions (patterns : List TriplePattern) (added : List PatternExecution) : JoinGraph :=
  added.foldl addExecution (ofPatterns patterns)

/-- **A run is looked up** among all executions that have been recorded. -/
theorem execution?_withExecutions (patterns : List TriplePattern) (added : List PatternExecution)
    (run : String) : (withExecutions patterns added).execution? (some run) =
      .ok (added.find? (·.run == run)) := by
  unfold execution? withExecutions
  rw [executions_foldl, executions_ofPatterns, List.nil_append]

end JoinGraph

/-! ## Both together -/

/-- **The first execution of a run.** The runs of a record are those of its local executions, each
once and in the order of their bytes, and each is mapped to the first execution of it. A merge that
succeeds adds the runs that were not known, with their first executions in the other record. What is
found once is found from then on, whatever is done with some records, as long as the record is not
begun anew. Among the executions of a basic graph pattern the first one of a run is found as well,
nothing is found iff there is none, and the same executions are found as in a record; without a run
there is nothing to look up. -/
theorem executions_first {ι : Type} [DecidableEq ι] (records : ι → QueryRecord) (r : QueryRecord)
    (patterns : List TriplePattern) (added : List PatternExecution) :
    let graphWith := JoinGraph.withExecutions patterns
    (r.executionOfRun.keys.Nodup ∧
      r.executionOfRun.keys.Pairwise fun s t => Utf8.encode s.toList < Utf8.encode t.toList) ∧
    (∀ run, run ∈ r.executionOfRun.keys ↔ ∃ e ∈ r.localExecutions, e.run = run) ∧
    (∀ run e, r.executionOfRun.find? run = some e ↔
      IsEarliest (·.run) run r.localExecutions e) ∧
    (∀ other merged, r.merge other = .ok merged → ∀ run,
      merged.executionOfRun.find? run =
        (r.executionOfRun.find? run).or (other.executionOfRun.find? run)) ∧
    (∀ (i : ι) (operations : List (QueryRecord.Operation ι)),
      (∀ o ∈ operations, ¬ o.Renews i) → ∀ run e,
        (records i).executionOfRun.find? run = some e →
        (operations.foldl QueryRecord.Operation.run records i).executionOfRun.find? run =
          some e) ∧
    (∀ run e, (graphWith added).execution? (some run) = .ok (some e) ↔
      IsEarliest (·.run) run added e) ∧
    (∀ run, (graphWith added).execution? (some run) = .ok none ↔ ∀ e ∈ added, e.run ≠ run) ∧
    (∀ run, (graphWith (r.localExecutions.map (·.toPatternExecution))).execution? (some run) =
      .ok ((r.executionOfRun.find? run).map (·.toPatternExecution))) ∧
    ∀ g : JoinGraph, g.execution? none = .error .missingRun := by
  intro graphWith
  have hgraph := JoinGraph.execution?_withExecutions patterns
  refine ⟨⟨r.executionOfRun.nodup_keys, r.keys_executionOfRun_ascending⟩,
    r.mem_keys_executionOfRun, fun run e => ?_, fun other merged h run => ?_,
    fun i operations h run e he => ?_, fun run e => ?_, fun run => ?_, fun run => ?_,
    fun _ => rfl⟩
  · rw [r.find?_executionOfRun]
    exact find?_eq_some_iff_isEarliest _
  · rw [QueryRecord.eq_fill_of_merge h]
    exact r.find?_executionOfRun_fill run other
  · exact QueryRecord.find?_executionOfRun_of_isPrefix (QueryRecord.isPrefix_foldl h records) he
  · rw [hgraph, Except.ok.injEq]
    exact find?_eq_some_iff_isEarliest _
  · rw [hgraph, Except.ok.injEq]
    exact find?_eq_none_iff_forall _
  · rw [hgraph, r.find?_executionOfRun, List.find?_map]
    rfl

end LinkedQueries
