import LinkedQueries.RecordStream
import Mathlib.Data.List.Chain
import Mathlib.Data.List.TakeWhile

/-!
# Runs of statements

The records of some statements are their longest runs: consecutive blocks of statements in one
graph and, in the default graph, about one subject.

Results:
* `continues_iff`: a statement continues a record iff it is in its graph and about its resource.
* `runs_append`: a run that another statement breaks off is the first record.
* **`areRuns_iff`**: `runs` gives the only records that lose, double and reorder no statement, are
  not empty, hold statements of one graph about one resource, and cannot be joined with their
  neighbours.
-/

namespace LinkedQueries.RecordStream

/-- The statement continues the record that another one begins iff both are in one graph and about
one resource. -/
theorem continues_iff (first q : Quad) :
    continues first q = true ↔ q.graph = first.graph ∧ resource q = resource first := by
  unfold continues resource
  rw [Bool.and_eq_true, decide_eq_true_eq, Bool.or_eq_true, decide_eq_true_eq, decide_eq_true_eq]
  constructor
  · rintro ⟨hg, h⟩
    refine ⟨hg, ?_⟩
    rw [hg]
    cases hf : first.graph with
    | default => exact h.resolve_left fun hne => hne hf
    | iri i => rfl
    | blank l => rfl
  · rintro ⟨hg, h⟩
    refine ⟨hg, ?_⟩
    rw [hg] at h
    cases hf : first.graph with
    | default =>
      rw [hf] at h
      exact Or.inr h
    | iri i => exact Or.inl (by simp)
    | blank l => exact Or.inl (by simp)

/-! ## The first run -/

theorem runs_cons (first : Quad) (rest : List Quad) :
    runs (first :: rest) =
      record first (rest.takeWhile (continues first)) ::
        runs (rest.dropWhile (continues first)) := by
  rw [runs]

theorem runs_ne_nil (first : Quad) (rest : List Quad) : runs (first :: rest) ≠ [] := by
  rw [runs_cons]
  exact List.cons_ne_nil _ _

/-- Statements that all continue the first one are one record. -/
theorem runs_eq_singleton {first : Quad} {more : List Quad}
    (h : ∀ q ∈ more, continues first q = true) : runs (first :: more) = [record first more] := by
  rw [runs_cons, List.takeWhile_eq_self_iff.mpr h, List.dropWhile_eq_nil_iff.mpr h, runs]

/-- The statement that breaks a run off begins the next record. -/
theorem runs_append {first q : Quad} {more rest : List Quad}
    (h : ∀ q ∈ more, continues first q = true) (hq : ¬ continues first q = true) :
    runs (first :: (more ++ q :: rest)) = record first more :: runs (q :: rest) := by
  rw [runs_cons, List.takeWhile_append_of_pos h, List.dropWhile_append_of_pos h,
    List.takeWhile_cons_of_neg hq, List.dropWhile_cons_of_neg hq, List.append_nil]

/-! ## The longest runs -/

/-- **The longest runs** of some statements: the records make up the statements, none is empty,
each holds statements of its graph about its resource, and neighbours differ in one of the two. -/
structure AreRuns (quads : List Quad) (records : List ResourceRecord) : Prop where
  joined : records.flatMap ResourceRecord.quads = quads
  nonempty : ∀ r ∈ records, r.triples ≠ []
  about : ∀ r ∈ records, ∀ q ∈ r.quads, q.graph = r.graph ∧ resource q = r.resource
  maximal : records.IsChain fun r r' => ¬ (r.graph = r'.graph ∧ r.resource = r'.resource)

theorem inGraph_toTriple {q : Quad} {g : GraphName} (h : q.graph = g) :
    q.toTriple.inGraph g = q := by
  subst h
  rfl

theorem triples_eq (r : ResourceRecord) : r.quads.map (·.toTriple) = r.triples := by
  unfold ResourceRecord.quads
  rw [List.map_map]
  exact List.map_id _

theorem exists_quads {r : ResourceRecord} (h : r.triples ≠ []) :
    ∃ first more, r.quads = first :: more := by
  cases hq : r.quads with
  | nil =>
    rw [← triples_eq, hq] at h
    exact absurd List.map_nil h
  | cons first more => exact ⟨first, more, rfl⟩

/-- The statements of a record are those that it was made of. -/
theorem quads_record {first : Quad} {more : List Quad}
    (h : ∀ q ∈ more, continues first q = true) : (record first more).quads = first :: more := by
  unfold ResourceRecord.quads record
  rw [List.map_map]
  refine (List.map_congr_left fun q hq => ?_).trans (List.map_id _)
  rcases List.mem_cons.mp hq with rfl | hq
  · exact inGraph_toTriple rfl
  · exact inGraph_toTriple ((continues_iff first q).mp (h q hq)).1

/-- Statements of one record make it up again. -/
theorem record_eq {r : ResourceRecord} {first : Quad} {more : List Quad}
    (hq : r.quads = first :: more) (hr : resource first = r.resource) :
    record first more = r := by
  have hg : first.graph = r.graph := by
    have hm : first ∈ r.quads := hq ▸ List.mem_cons_self
    obtain ⟨t, -, rfl⟩ := List.mem_map.mp hm
    rfl
  unfold record
  rw [← hq, triples_eq, hr, hg]

/-- The longest runs are longest runs. -/
theorem areRuns_runs (quads : List Quad) : AreRuns quads (runs quads) := by
  induction quads using runs.induct with
  | case1 =>
    rw [runs]
    exact ⟨rfl, fun r h => absurd h List.not_mem_nil, fun r h => absurd h List.not_mem_nil,
      List.IsChain.nil⟩
  | case2 first rest ih =>
    have hrun : ∀ q ∈ rest.takeWhile (continues first), continues first q = true :=
      fun q hq => List.mem_takeWhile_imp hq
    rw [runs_cons]
    refine ⟨?_, fun r hr => ?_, fun r hr q hq => ?_, ?_⟩
    · rw [List.flatMap_cons, ih.joined, quads_record hrun, List.cons_append,
        List.takeWhile_append_dropWhile]
    · rcases List.mem_cons.mp hr with rfl | hr
      · exact List.cons_ne_nil _ _
      · exact ih.nonempty r hr
    · rcases List.mem_cons.mp hr with rfl | hr
      · rw [quads_record hrun] at hq
        rcases List.mem_cons.mp hq with rfl | hq
        · exact ⟨rfl, rfl⟩
        · exact (continues_iff first q).mp (hrun q hq)
      · exact ih.about r hr q hq
    · -- the next record begins with the statement that broke this one off
      cases hd : rest.dropWhile (continues first) with
      | nil =>
        rw [runs]
        exact List.isChain_singleton _
      | cons q others =>
        have hq : continues first q = false := by
          have hne : rest.dropWhile (continues first) ≠ [] := by rw [hd]; exact List.cons_ne_nil _ _
          simpa [hd] using List.head_dropWhile_not (continues first) hne
        have hchain := ih.maximal
        rw [hd, runs_cons] at hchain
        rw [runs_cons]
        refine List.isChain_cons_cons.mpr ⟨fun ⟨hg, hr⟩ => ?_, hchain⟩
        rw [(continues_iff first q).mpr ⟨hg.symm, hr.symm⟩] at hq
        exact Bool.noConfusion hq

/-- Longest runs are determined by the statements. -/
theorem AreRuns.eq_runs : ∀ {records : List ResourceRecord} {quads : List Quad},
    AreRuns quads records → records = runs quads
  | [], _, h => by
    rw [← h.joined, List.flatMap_nil, runs]
  | r :: rs, quads, h => by
    have hrs : AreRuns (rs.flatMap ResourceRecord.quads) rs :=
      ⟨rfl, fun r' hr => h.nonempty r' (List.mem_cons_of_mem r hr),
        fun r' hr => h.about r' (List.mem_cons_of_mem r hr), h.maximal.tail⟩
    have ih := hrs.eq_runs
    have habout := h.about r List.mem_cons_self
    obtain ⟨first, more, hq⟩ := exists_quads (h.nonempty r List.mem_cons_self)
    rw [hq] at habout
    obtain ⟨hg, hr⟩ := habout first List.mem_cons_self
    have hmore : ∀ q ∈ more, continues first q = true := by
      intro q hm
      obtain ⟨hg', hr'⟩ := habout q (List.mem_cons_of_mem first hm)
      exact (continues_iff first q).mpr ⟨hg'.trans hg.symm, hr'.trans hr.symm⟩
    rw [← h.joined, List.flatMap_cons, hq, List.cons_append]
    cases rs with
    | nil => rw [List.flatMap_nil, List.append_nil, runs_eq_singleton hmore, record_eq hq hr]
    | cons r' rs' =>
      -- the first statement of the next record breaks this one off
      obtain ⟨q, others, hq'⟩ := exists_quads (hrs.nonempty r' List.mem_cons_self)
      obtain ⟨hg', hr'⟩ := hrs.about r' List.mem_cons_self q (hq' ▸ List.mem_cons_self)
      have hbreak : ¬ continues first q = true := by
        intro hc
        obtain ⟨hcg, hcr⟩ := (continues_iff first q).mp hc
        refine (List.isChain_cons_cons.mp h.maximal).1 ⟨?_, ?_⟩
        · rw [← hg, ← hg', hcg]
        · rw [← hr, ← hr', hcr]
      rw [List.flatMap_cons, hq', List.cons_append] at ih ⊢
      rw [runs_append hmore hbreak, ← ih, record_eq hq hr]

/-- **The records of some statements are their longest runs**, and nothing else is. -/
theorem areRuns_iff {quads : List Quad} {records : List ResourceRecord} :
    AreRuns quads records ↔ records = runs quads :=
  ⟨AreRuns.eq_runs, fun h => h ▸ areRuns_runs quads⟩

end LinkedQueries.RecordStream
