import LinkedQueries.Proofs.Lists
import LinkedQueries.Proofs.Regroup.Writing

/-!
# Dumps that cannot be regrouped

The dataset views of all dumps are made before a sink is called. The first view that cannot be made
decides how a run fails, and then the sink has not been called at all. `Sink.traced` is a sink that
also keeps the calls that are made to it.

Results:
* `union_eq_error`: the union fails as the first dump does whose view cannot be made.
* `write_traced`: a sink that takes all graphs is called once for each of them, and then once more.
* **`run_of_failsFirst`**: a run that fails on its dumps calls no sink.
-/

namespace LinkedQueries

/-! ## The calls of a sink -/

/-- A call of a sink. -/
inductive SinkCall where
  | writeGraph (name : String) (triples : List Triple)
  | finish
  deriving DecidableEq, Repr

namespace Sink

variable {σ : Type}

/-- The sink that also keeps the calls that are made to it. -/
def traced (sink : Sink σ) : Sink (σ × List SinkCall) where
  writeGraph name triples s :=
    (((sink.writeGraph name triples s.1).1, s.2 ++ [.writeGraph name triples]),
      (sink.writeGraph name triples s.1).2)
  finish s := (((sink.finish s.1).1, s.2 ++ [.finish]), (sink.finish s.1).2)

/-- The calls that write some graphs. -/
def writing (graphs : List NamedGraph) : List SinkCall :=
  graphs.map fun g => .writeGraph g.1 g.2

/-- A sink that takes all graphs is called once for each of them, in order. -/
theorem writeGraphs_traced {sink : Sink σ} : ∀ {graphs : List NamedGraph} {state state' : σ}
    {n : Nat}, sink.writeGraphs graphs state = (state', .ok n) → ∀ calls : List SinkCall,
      sink.traced.writeGraphs graphs (state, calls) = ((state', calls ++ writing graphs), .ok n)
  | [], _, _, _, h, calls => by
    cases h
    rw [writing, List.map_nil, List.append_nil]
    rfl
  | g :: rest, state, state', n, h, calls => by
    obtain ⟨state₁, m, hgraph, hrest, rfl⟩ := writeGraphs_cons_ok.mp h
    refine writeGraphs_cons_ok.mpr ⟨(state₁, calls ++ [.writeGraph g.1 g.2]), m, ?_, ?_, rfl⟩
    · dsimp only [traced]
      rw [hgraph]
    · rw [writeGraphs_traced hrest, List.append_assoc]
      rfl

end Sink

namespace Regroup

variable {σ : Type}

/-- A sink that takes some datasets is called for each of their graphs and then finished. -/
theorem write_traced {sink : Sink σ} {datasets : Partitions Dataset} {state state' : σ}
    {summary : RegroupSummary} (h : write sink datasets state = (state', .ok summary)) :
    write sink.traced datasets (state, []) =
      ((state', Sink.writing (datasets.flatten.flatMap Dataset.toList) ++ [.finish]),
        .ok summary) := by
  obtain ⟨state₁, n, hgraphs, hfinish, rfl⟩ := write_ok_iff.mp h
  refine write_ok_iff.mpr ⟨_, n, Sink.writeGraphs_traced hgraphs [], ?_, rfl⟩
  dsimp only [Sink.traced]
  rw [hfinish]
  rfl

/-! ## The first failure -/

variable {r : Resolver} {files : Files} {sources : List Source} {n : Nat} {e : DumpError}

/-- The `n`-th dump is the first whose dataset view cannot be made, because of this error. -/
structure FailsFirst (r : Resolver) (files : Files) (sources : List Source) (n : Nat)
    (e : DumpError) : Prop where
  fails : ∃ source, sources[n]? = some source ∧ (r.reading n).datasets files source = .error e
  before : ∀ m < n, ∀ source, sources[m]? = some source →
    ∃ view, (r.reading m).datasets files source = .ok view

/-- **The union fails** as the first dump does whose view cannot be made. -/
theorem union_eq_error :
    union r files sources = .error e ↔ ∃ n, FailsFirst r files sources n e := by
  have hviews : union r files sources = .error e ↔
      (sources.zipIdx.mapM fun x => (r.reading x.2).datasets files x.1) = .error e := by
    unfold union
    cases sources.zipIdx.mapM fun x => (r.reading x.2).datasets files x.1 <;>
      simp [bind, Except.bind, pure, Except.pure]
  rw [hviews, mapM_eq_error]
  simp only [List.getElem?_zipIdx, Option.map_eq_some_iff, Nat.zero_add]
  constructor
  · rintro ⟨n, ⟨_, ⟨source, hsource, rfl⟩, hfails⟩, hbefore⟩
    exact ⟨n, ⟨source, hsource, hfails⟩, fun m hm source hsource =>
      hbefore m hm _ ⟨source, hsource, rfl⟩⟩
  · rintro ⟨n, ⟨source, hsource, hfails⟩, hbefore⟩
    refine ⟨n, ⟨_, ⟨source, hsource, rfl⟩, hfails⟩, ?_⟩
    rintro m hm _ ⟨source, hsource, rfl⟩
    exact hbefore m hm source hsource

/-- Each dump of a union has a view. -/
theorem exists_view_of_union {datasets : Partitions Dataset}
    (h : union r files sources = .ok datasets) {source : Source}
    (hsource : sources[n]? = some source) :
    ∃ view, (r.reading n).datasets files source = .ok view := by
  unfold union at h
  cases hviews : sources.zipIdx.mapM fun x => (r.reading x.2).datasets files x.1 with
  | ok views =>
    exact exists_of_mapM_eq_ok hviews (source, n) (List.mem_zipIdx_iff_getElem?.mpr hsource)
  | error e =>
    rw [hviews] at h
    cases h

/-- Dumps with the same dataset views have the same union. -/
theorem union_map {others : Files} {f : Source → Source} (h : ∀ (n : Nat) (source : Source),
    sources[n]? = some source →
      (r.reading n).datasets others (f source) = (r.reading n).datasets files source) :
    union r others (sources.map f) = union r files sources := by
  unfold union
  rw [List.zipIdx_map, List.mapM_map]
  refine congrArg (· >>= _) (mapM_congr fun x hx => ?_)
  exact h x.2 x.1 (List.mem_zipIdx_iff_getElem?.mp hx)

/-- If some view cannot be made, there is a first one. -/
theorem exists_failsFirst {source : Source} (hsource : sources[n]? = some source)
    (hfails : (r.reading n).datasets files source = .error e) :
    ∃ m ≤ n, ∃ first, FailsFirst r files sources m first := by
  cases hunion : union r files sources with
  | ok datasets =>
    obtain ⟨view, hview⟩ := exists_view_of_union hunion hsource
    cases hfails.symm.trans hview
  | error first =>
    obtain ⟨m, hfirst⟩ := union_eq_error.mp hunion
    refine ⟨m, Nat.le_of_not_lt fun hlt => ?_, first, hfirst⟩
    obtain ⟨view, hview⟩ := hfirst.before n hlt source hsource
    cases hfails.symm.trans hview

/-- **A run that fails on its dumps** has the error of the first that fails, and the state of the
sink is the one before. -/
theorem run_of_failsFirst (h : FailsFirst r files sources n e) (sink : Sink σ) (state : σ) :
    run r files sources sink state = (state, .error e) := by
  unfold run
  rw [union_eq_error.mpr ⟨n, h⟩]

end Regroup

end LinkedQueries
