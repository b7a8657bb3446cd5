import LinkedQueries.Proofs.View.Agreement
import LinkedQueries.Regroup

/-!
# Writing graphs

A sink takes the graphs of some datasets one after the other. `Sink.recorded` is a sink that also
keeps what it has been passed. A file is such a sink: if it takes all graphs, its format has been
offered all their triples, in the graphs that their names denote.

Results:
* `writeGraphs_recorded`: recording changes nothing, and what has been passed are the first graphs;
  all of them, if none is refused.
* `write_ok`: a sink that takes all graphs and can be finished has been passed each of them once.
* `GraphWriter.writeGraphs_ok`: what a format has been offered.
* `GraphWriter.writeGraphs_named`: with legal names, no graph is refused because of its name.
-/

namespace LinkedQueries

/-- A graph with its name. -/
abbrev NamedGraph := String × List Triple

/-! ## What a sink has been passed -/

namespace Sink

variable {σ : Type}

/-- The sink that also keeps the graphs that it has been passed. -/
def recorded (sink : Sink σ) : Sink (σ × List NamedGraph) where
  writeGraph name triples s :=
    (((sink.writeGraph name triples s.1).1, s.2 ++ [(name, triples)]),
      (sink.writeGraph name triples s.1).2)
  finish s := (((sink.finish s.1).1, s.2), (sink.finish s.1).2)

theorem writeGraphs_cons_of_error {sink : Sink σ} {g : NamedGraph} {rest : List NamedGraph}
    {state state₁ : σ} {e : DumpError}
    (h : sink.writeGraph g.1 g.2 state = (state₁, .error e)) :
    sink.writeGraphs (g :: rest) state = (state₁, .error e) := by
  rw [writeGraphs, h]

theorem writeGraphs_cons_of_ok {sink : Sink σ} {g : NamedGraph} {rest : List NamedGraph}
    {state state₁ : σ} (h : sink.writeGraph g.1 g.2 state = (state₁, .ok ())) :
    sink.writeGraphs (g :: rest) state =
      ((sink.writeGraphs rest state₁).1, (sink.writeGraphs rest state₁).2.map (· + 1)) := by
  rw [writeGraphs, h]
  dsimp only
  rcases sink.writeGraphs rest state₁ with ⟨state₂, e | n⟩ <;> rfl

theorem writeGraphs_cons_ok {sink : Sink σ} {g : NamedGraph} {rest : List NamedGraph}
    {state state' : σ} {n : Nat} :
    sink.writeGraphs (g :: rest) state = (state', .ok n) ↔
      ∃ state₁ m, sink.writeGraph g.1 g.2 state = (state₁, .ok ()) ∧
        sink.writeGraphs rest state₁ = (state', .ok m) ∧ n = m + 1 := by
  rcases hgraph : sink.writeGraph g.1 g.2 state with ⟨state₁, e | _⟩
  · simp [writeGraphs_cons_of_error hgraph]
  · rw [writeGraphs_cons_of_ok hgraph]
    rcases hrest : sink.writeGraphs rest state₁ with ⟨state₂, e | m⟩
    · simp [hrest, Except.map]
    · simp [hrest, Except.map, and_assoc, eq_comm]

/-- A sink refuses some graphs only if it refuses one of them. -/
theorem writeGraphs_error {sink : Sink σ} {e : DumpError} : ∀ {graphs : List NamedGraph}
    {state : σ}, (sink.writeGraphs graphs state).2 = .error e →
      ∃ g ∈ graphs, ∃ state, (sink.writeGraph g.1 g.2 state).2 = .error e
  | [], _, h => nomatch h
  | g :: rest, state, h => by
    rcases hgraph : sink.writeGraph g.1 g.2 state with ⟨state₁, e' | _⟩
    · rw [writeGraphs_cons_of_error hgraph] at h
      cases h
      exact ⟨g, List.mem_cons_self, state, congrArg (·.2) hgraph⟩
    · rw [writeGraphs_cons_of_ok hgraph] at h
      obtain ⟨g', hg', hstate⟩ := writeGraphs_error (map_eq_error.mp h)
      exact ⟨g', List.mem_cons_of_mem _ hg', hstate⟩

/-- A sink that takes all graphs has been passed each of them once, in order. -/
theorem writeGraphs_recorded {sink : Sink σ} : ∀ {graphs : List NamedGraph} {state state' : σ}
    {n : Nat}, sink.writeGraphs graphs state = (state', .ok n) → ∀ passed : List NamedGraph,
      n = graphs.length ∧
      sink.recorded.writeGraphs graphs (state, passed) = ((state', passed ++ graphs), .ok n)
  | [], _, _, _, h, passed => by
    cases h
    exact ⟨rfl, by rw [List.append_nil]; rfl⟩
  | g :: rest, state, state', n, h, passed => by
    obtain ⟨state₁, m, hgraph, hrest, rfl⟩ := writeGraphs_cons_ok.mp h
    obtain ⟨rfl, hpassed⟩ := writeGraphs_recorded hrest (passed ++ [g])
    refine ⟨rfl, writeGraphs_cons_ok.mpr ⟨(state₁, passed ++ [g]), _, ?_, ?_, rfl⟩⟩
    · dsimp only [recorded]
      rw [hgraph]
    · rw [hpassed, List.append_assoc]
      rfl

end Sink

/-! ## Files -/

namespace GraphWriter

/-- The graph in which a file keeps the triples of a graph of some name. -/
def graphOf (w : GraphWriter) (name : String) : GraphName :=
  if w.format.hasGraphs then nameOfKey name else .default

/-- The file when its format has been offered some more quads. -/
def offer (w : GraphWriter) (quads : List Quad) : GraphWriter :=
  { w with offered := w.offered ++ quads }

theorem upToRefusal_ok {format : RdfFormat} : ∀ {triples : List Triple} {last : Option Term},
    (upToRefusal format last triples).2 = .ok () → (upToRefusal format last triples).1 = triples
  | [], _, _ => rfl
  | t :: rest, last, h => by
    unfold upToRefusal at h ⊢
    split at h
    · cases h
    · exact congrArg (t :: ·) (upToRefusal_ok h)

/-- A format that refuses none of some triples takes all of them. -/
theorem upToRefusal_of_none {format : RdfFormat} : ∀ {triples : List Triple},
    (∀ t ∈ triples, ∀ last, format.refusal? last t = none) → ∀ last : Option Term,
      upToRefusal format last triples = (triples, .ok ())
  | [], _, _ => rfl
  | t :: rest, h, last => by
    obtain ⟨ht, hrest⟩ := List.forall_mem_cons.mp h
    rw [upToRefusal, ht last, upToRefusal_of_none hrest]

/-- A refusal is a failure of the format. -/
theorem upToRefusal_error {format : RdfFormat} {e : DumpError} :
    ∀ {triples : List Triple} {last : Option Term},
      (upToRefusal format last triples).2 = .error e → ∃ failure, e = .io failure
  | [], _, h => nomatch h
  | t :: rest, last, h => by
    unfold upToRefusal at h
    split at h
    · next failure _ => exact ⟨failure, (Except.error.inj h).symm⟩
    · exact upToRefusal_error h

/-! ### One graph -/

/-- The name denotes a graph. -/
def IsName (name : String) : Prop :=
  ∃ g : GraphName, g.WellFormed ∧ g.key = name

variable {w w' : GraphWriter} {name : String} {triples : List Triple}

theorem graphName?_eq (w : GraphWriter) (h : IsName name) :
    w.graphName? name = .ok (w.graphOf name) := by
  obtain ⟨g, hg, rfl⟩ := h
  unfold graphName? graphOf
  rw [GraphName.ofKey?_key hg, nameOfKey_key hg]
  split <;> rfl

/-- The quads of a graph as a file keeps them. -/
def quadsOf (w : GraphWriter) (g : NamedGraph) : List Quad :=
  g.2.map (·.inGraph (w.graphOf g.1))

/-- A graph that is taken has been offered to the format. -/
theorem writeGraph_ok (hname : IsName name) (h : w.writeGraph name triples = (w', .ok ())) :
    w' = w.offer (w.quadsOf (name, triples)) := by
  unfold writeGraph at h
  rw [graphName?_eq w hname] at h
  dsimp only at h
  split at h
  · cases h
  · obtain ⟨hw, hresult⟩ := Prod.mk.inj h
    rw [← hw, upToRefusal_ok hresult]
    rfl

/-- The name is no reason to refuse a graph. -/
theorem writeGraph_named (hname : IsName name) (e : InvalidGraphKey) :
    (w.writeGraph name triples).2 ≠ .error (.graphName e) := by
  unfold writeGraph
  rw [graphName?_eq w hname]
  dsimp only
  split
  · simp
  · intro h
    obtain ⟨failure, hfailure⟩ := upToRefusal_error h
    cases hfailure

/-- An open file takes a graph whose name denotes one and whose triples its format can write. -/
theorem writeGraph_of_none (hname : w.graphName? name = .ok (w.graphOf name))
    (hopen : w.finished = false)
    (h : ∀ t ∈ triples, ∀ last, w.format.refusal? last t = none) :
    w.writeGraph name triples = (w.offer (w.quadsOf (name, triples)), .ok ()) := by
  unfold writeGraph
  rw [hname, hopen]
  dsimp only
  rw [upToRefusal_of_none h, if_neg Bool.false_ne_true, ← hopen]
  rfl

/-! ### All graphs -/

/-- **A file that has taken some graphs** has offered all their quads to its format. -/
theorem writeGraphs_ok : ∀ {graphs : List NamedGraph} {w w' : GraphWriter} {n : Nat},
    (∀ g ∈ graphs, IsName g.1) → sink.writeGraphs graphs w = (w', .ok n) →
      w' = w.offer (graphs.flatMap w.quadsOf)
  | [], w, w', n, _, h => by
    cases h
    simp [offer]
  | g :: rest, w, w', n, hnames, h => by
    obtain ⟨hname, hnames⟩ := List.forall_mem_cons.mp hnames
    obtain ⟨w₁, m, hgraph, hrest, rfl⟩ := Sink.writeGraphs_cons_ok.mp h
    obtain rfl := writeGraph_ok hname hgraph
    rw [writeGraphs_ok hnames hrest, List.flatMap_cons]
    unfold offer
    rw [List.append_assoc]
    rfl

/-- With legal names, no graph is refused because of its name. -/
theorem writeGraphs_named {graphs : List NamedGraph} (hnames : ∀ g ∈ graphs, IsName g.1)
    (w : GraphWriter) (e : InvalidGraphKey) :
    (sink.writeGraphs graphs w).2 ≠ .error (.graphName e) := by
  intro h
  obtain ⟨g, hg, w₁, herror⟩ := Sink.writeGraphs_error h
  exact writeGraph_named (hnames g hg) e herror

/-- A file that is not finished takes all graphs if its format refuses nothing. -/
theorem writeGraphs_of_none : ∀ {graphs : List NamedGraph} {w : GraphWriter},
    (∀ g ∈ graphs, IsName g.1) → w.finished = false →
      (∀ last t, w.format.refusal? last t = none) →
        ∃ w', sink.writeGraphs graphs w = (w', .ok graphs.length)
  | [], w, _, _, _ => ⟨w, rfl⟩
  | g :: rest, w, hnames, hopen, h => by
    obtain ⟨hname, hnames⟩ := List.forall_mem_cons.mp hnames
    have hgraph : w.writeGraph g.1 g.2 = (w.offer (w.quadsOf g), .ok ()) :=
      writeGraph_of_none (graphName?_eq w hname) hopen fun t _ last => h last t
    obtain ⟨w', hrest⟩ :=
      @writeGraphs_of_none rest (w.offer (w.quadsOf g)) hnames hopen h
    exact ⟨w', Sink.writeGraphs_cons_ok.mpr ⟨_, _, hgraph, hrest, rfl⟩⟩

end GraphWriter

/-! ## Datasets -/

/-- The total of some lengths is the length of what is joined. -/
theorem length_flatMap_eq_total {α β : Type} (f : α → List β) : ∀ xs : List α,
    (xs.flatMap f).length = total (xs.map fun x => (f x).length)
  | [] => rfl
  | x :: xs => by
    rw [List.flatMap_cons, List.length_append, length_flatMap_eq_total f xs, List.map_cons, total]

/-- The triples of some datasets are counted one graph after the other. -/
theorem total_tripleCount (datasets : List Dataset) :
    total (datasets.map Dataset.tripleCount) =
      ((datasets.flatMap Dataset.toList).flatMap (·.2)).length := by
  have hcount : ∀ d : Dataset, d.tripleCount = (d.toList.flatMap (·.2)).length := fun d =>
    (length_flatMap_eq_total Prod.snd d.toList).symm
  rw [List.flatMap_assoc, length_flatMap_eq_total]
  exact congrArg total (List.map_congr_left fun d _ => hcount d)

namespace Regroup

variable {σ : Type} {sink : Sink σ} {datasets : Partitions Dataset} {state state' : σ}
  {summary : RegroupSummary}

/-- Datasets are written if all their graphs are and the sink can be finished. -/
theorem write_ok_iff :
    write sink datasets state = (state', .ok summary) ↔
      ∃ state₁ n, sink.writeGraphs (datasets.flatten.flatMap Dataset.toList) state =
          (state₁, .ok n) ∧
        sink.finish state₁ = (state', .ok ()) ∧
        summary = ⟨n, ((datasets.flatten.flatMap Dataset.toList).flatMap (·.2)).length⟩ := by
  unfold write Sink.writeDatasets
  rw [total_tripleCount]
  rcases sink.writeGraphs (datasets.flatten.flatMap Dataset.toList) state with ⟨state₁, e | n⟩
  · simp
  · dsimp only
    rcases hfinish : sink.finish state₁ with ⟨state₂, e | _⟩
    · simp [hfinish]
    · simp [hfinish, eq_comm]

/-- **A sink that has taken some datasets** has been passed each of their graphs once. -/
theorem write_ok (h : write sink datasets state = (state', .ok summary)) :
    let graphs := datasets.flatten.flatMap Dataset.toList
    summary = ⟨graphs.length, (graphs.flatMap (·.2)).length⟩ ∧
    write sink.recorded datasets (state, []) = ((state', graphs), .ok summary) := by
  obtain ⟨state₁, n, hgraphs, hfinish, rfl⟩ := write_ok_iff.mp h
  obtain ⟨rfl, hrecorded⟩ := Sink.writeGraphs_recorded hgraphs []
  refine ⟨rfl, write_ok_iff.mpr ⟨_, _, hrecorded, ?_, rfl⟩⟩
  dsimp only [Sink.recorded]
  rw [hfinish]
  rfl

/-- A file refuses no dataset because of the name of a graph, if all names are legal. -/
theorem write_named
    (hnames : ∀ g ∈ datasets.flatten.flatMap Dataset.toList, GraphWriter.IsName g.1)
    (w : GraphWriter) (e : InvalidGraphKey) :
    (write GraphWriter.sink datasets w).2 ≠ .error (.graphName e) := by
  have hgraphs := GraphWriter.writeGraphs_named hnames w e
  unfold write Sink.writeDatasets
  revert hgraphs
  rcases GraphWriter.sink.writeGraphs (datasets.flatten.flatMap Dataset.toList) w with ⟨w₁, e' | n⟩
  · exact fun hne he => hne (congrArg Except.error (Except.error.inj he))
  · exact fun _ => nofun

end Regroup

end LinkedQueries
