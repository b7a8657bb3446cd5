import LinkedQueries.Proofs.Dataset.Names
import LinkedQueries.Proofs.Regroup.Failure

/-!
# Calls of a file writer

A file takes the calls that are made to it one after the other, in whatever order. The name of a
graph is looked at first, then whether the file is finished, and only then are triples offered to
the format. So a call that is refused leaves the file as it was, and a finished file stays as it is.

* `Sink.run`: some calls one after the other, with their answers.
* `RdfFormat.CanWrite`: a format can write a triple, whatever was written before.
* `GraphWriter.Answers`: how a file answers a call.

Results:
* `call_of_answers`: what one call does, by its answer.
* `run_of_open`, `run_of_finished`: what calls leave of a file that is open, and of one that is
  finished.
* `writeGraphs_cases`: a file takes all graphs, or those before the first that it refuses.
* **`graphs_all_or_nothing`**: what some calls leave in a file, and how it answers them.
-/

namespace LinkedQueries

/-! ## Making calls -/

/-- The triples of a call. -/
def SinkCall.triples : SinkCall → List Triple
  | .writeGraph _ triples => triples
  | .finish => []

namespace Sink

variable {σ : Type}

/-- Makes a call. -/
def call (sink : Sink σ) (state : σ) : SinkCall → σ × Except DumpError Unit
  | .writeGraph name triples => sink.writeGraph name triples state
  | .finish => sink.finish state

/-- Makes some calls and keeps the answers. -/
def run (sink : Sink σ) : List SinkCall → σ → σ × List (Except DumpError Unit)
  | [], state => (state, [])
  | c :: calls, state =>
    let (state, answer) := sink.call state c
    let (state, answers) := sink.run calls state
    (state, answer :: answers)

theorem run_cons (sink : Sink σ) (c : SinkCall) (calls : List SinkCall) (state : σ) :
    sink.run (c :: calls) state =
      ((sink.run calls (sink.call state c).1).1,
        (sink.call state c).2 :: (sink.run calls (sink.call state c).1).2) :=
  rfl

theorem run_append (sink : Sink σ) : ∀ (before after : List SinkCall) (state : σ),
    sink.run (before ++ after) state =
      ((sink.run after (sink.run before state).1).1,
        (sink.run before state).2 ++ (sink.run after (sink.run before state).1).2)
  | [], _, _ => rfl
  | c :: before, after, state => by
    rw [List.cons_append, run_cons, run_append, run_cons, List.cons_append]

theorem length_run (sink : Sink σ) : ∀ (calls : List SinkCall) (state : σ),
    (sink.run calls state).2.length = calls.length
  | [], _ => rfl
  | c :: calls, state => by
    rw [run_cons, List.length_cons, length_run, List.length_cons]

/-- The answer to a call among others. -/
theorem getElem?_run (sink : Sink σ) (before : List SinkCall) (c : SinkCall)
    (after : List SinkCall) (state : σ) :
    (sink.run (before ++ c :: after) state).2[before.length]? =
      some (sink.call (sink.run before state).1 c).2 := by
  rw [run_append, run_cons, ← length_run sink before state,
    List.getElem?_append_right (Nat.le_refl _), Nat.sub_self]
  rfl

/-- A call that changes nothing might as well not be made. -/
theorem run_eraseIdx {sink : Sink σ} {before : List SinkCall} {c : SinkCall} {state : σ}
    (h : (sink.call (sink.run before state).1 c).1 = (sink.run before state).1)
    (after : List SinkCall) :
    sink.run (before ++ after) state =
      ((sink.run (before ++ c :: after) state).1,
        (sink.run (before ++ c :: after) state).2.eraseIdx before.length) := by
  rw [run_append, run_append, run_cons, h, ← length_run sink before state,
    List.eraseIdx_append_of_length_le (Nat.le_refl _), Nat.sub_self]
  rfl

end Sink

/-- The graphs of the calls that succeeded before the first one that finishes. -/
def taken : List SinkCall → List (Except DumpError Unit) → List NamedGraph
  | .writeGraph name triples :: calls, .ok () :: answers => (name, triples) :: taken calls answers
  | .writeGraph .. :: calls, .error _ :: answers => taken calls answers
  | _, _ => []

theorem mem_taken {g : NamedGraph} {calls : List SinkCall}
    {answers : List (Except DumpError Unit)} (h : g ∈ taken calls answers) :
    ∃ before after, calls = before ++ .writeGraph g.1 g.2 :: after ∧
      answers[before.length]? = some (.ok ()) := by
  fun_induction taken calls answers with
  | case1 name triples calls answers ih =>
    obtain rfl | hg := List.mem_cons.mp h
    · exact ⟨[], calls, rfl, rfl⟩
    · obtain ⟨before, after, rfl, hanswer⟩ := ih hg
      exact ⟨.writeGraph name triples :: before, after, rfl, hanswer⟩
  | case2 name triples calls e answers ih =>
    obtain ⟨before, after, rfl, hanswer⟩ := ih h
    exact ⟨.writeGraph name triples :: before, after, rfl, hanswer⟩
  | case3 => cases h

/-! ## What a format can write -/

namespace Rdf.XmlWriting

theorem propertyMisfit?_of_namingType? {t : Triple} (h : (namingType? t).isSome = true) :
    propertyMisfit? t = none := by
  obtain ⟨subject, predicate, object⟩ := t
  unfold namingType? at h
  split at h
  next type hobject =>
    obtain rfl : object = .iri type := hobject
    split at h
    next hpredicate =>
      obtain ⟨hpredicate, -⟩ := Bool.and_eq_true_iff.mp hpredicate
      have htype : isReserved (rdf ++ "type") = false := by decide +kernel
      obtain rfl : predicate = rdf ++ "type" := eq_of_beq hpredicate
      unfold propertyMisfit?
      rw [htype]
      rfl
    next => cases h
  next => cases h

/-- A statement that can begin an element can be one of its properties. -/
theorem misfit?_of_none {t : Triple} (h : misfit? none t = none) (last : Option Term) :
    misfit? last t = none := by
  have hnone : (none == some t.subject) = false := rfl
  have hproperty : propertyMisfit? t = none := by
    unfold misfit? at h
    rw [hnone] at h
    split at h
    next hfalse => cases hfalse
    next =>
      split at h
      next => cases h
      next =>
        split at h
        next hnaming => exact propertyMisfit?_of_namingType? hnaming
        next => exact h
  unfold misfit?
  split
  next => exact hproperty
  next =>
    unfold misfit? at h
    rwa [hnone, if_neg Bool.false_ne_true] at h

end Rdf.XmlWriting

/-- The format can write the triple, if it is the first. -/
def RdfFormat.CanWrite (format : RdfFormat) (t : Triple) : Prop :=
  format.refusal? none t = none

instance (format : RdfFormat) (t : Triple) : Decidable (format.CanWrite t) :=
  inferInstanceAs (Decidable (format.refusal? none t = none))

/-- A triple that can be written first can be written behind others. -/
theorem RdfFormat.CanWrite.refusal? {format : RdfFormat} {t : Triple} (h : format.CanWrite t)
    (last : Option Term) : format.refusal? last t = none := by
  cases format with
  | rdfXml =>
    have hmisfit := Rdf.XmlWriting.misfit?_of_none (Option.map_eq_none_iff.mp h) last
    exact Option.map_eq_none_iff.mpr hmisfit
  | _ => exact h

/-! ## Answers of a file -/

namespace GraphWriter

/-- A file takes a graph of some name. Only a format with graphs looks at the name. -/
def Accepts (format : RdfFormat) (name : String) : Prop :=
  format.hasGraphs = true → GraphName.IsKey name

/-- How a file answers a call, if its format can write the triples. -/
inductive Answers (path : String) (format : RdfFormat) (closed : Prop) :
    SinkCall → Except DumpError Unit → Prop
  | written {name : String} {triples : List Triple} (hname : Accepts format name)
      (hopen : ¬ closed) : Answers path format closed (.writeGraph name triples) (.ok ())
  | refused {name : String} {triples : List Triple} {e : InvalidGraphKey}
      (hname : ¬ Accepts format name) (he : GraphName.ofKey? name = .error e) :
      Answers path format closed (.writeGraph name triples) (.error (.graphName e))
  | late {name : String} {triples : List Triple} (hname : Accepts format name)
      (hclosed : closed) : Answers path format closed (.writeGraph name triples)
        (.error (.io ⟨.other, path ++ " is already finished"⟩))
  | finish : Answers path format closed .finish (.ok ())

/-- Each call has an answer. -/
theorem exists_answers (path : String) (format : RdfFormat) (closed : Prop) (c : SinkCall) :
    ∃ a, Answers path format closed c a := by
  cases c with
  | finish => exact ⟨_, .finish⟩
  | writeGraph name triples =>
    by_cases hname : Accepts format name
    · by_cases hclosed : closed
      · exact ⟨_, .late hname hclosed⟩
      · exact ⟨_, .written hname hclosed⟩
    · cases he : GraphName.ofKey? name with
      | error e => exact ⟨_, .refused hname he⟩
      | ok g => exact absurd (fun _ => GraphName.isKey_iff.mpr ⟨g, he⟩) hname

variable {w : GraphWriter} {c : SinkCall} {a : Except DumpError Unit} {calls : List SinkCall}

/-- The file after a call with some answer. -/
def after (w : GraphWriter) : SinkCall → Except DumpError Unit → GraphWriter
  | .writeGraph name triples, .ok () => w.offer (w.quadsOf (name, triples))
  | .writeGraph .., .error _ => w
  | .finish, _ => { w with finished := true }

theorem graphName?_of_accepts {name : String} (h : Accepts w.format name) :
    w.graphName? name = .ok (w.graphOf name) := by
  unfold graphName? graphOf
  split
  next hgraphs =>
    rw [GraphName.ofKey?_nameOfKey (h hgraphs)]
    rfl
  next => rfl

theorem graphName?_of_error {name : String} {e : InvalidGraphKey} (h : ¬ Accepts w.format name)
    (he : GraphName.ofKey? name = .error e) : w.graphName? name = .error (.graphName e) := by
  have hgraphs : w.format.hasGraphs = true := by
    by_contra hgraphs
    exact h fun hhas => absurd hhas hgraphs
  rw [graphName?, if_pos hgraphs, he]
  rfl

/-- **A call** does nothing but what its answer says. -/
theorem call_of_answers (hc : ∀ t ∈ c.triples, w.format.CanWrite t)
    (h : Answers w.path w.format (w.finished = true) c a) : sink.call w c = (w.after c a, a) := by
  cases h with
  | finish => rfl
  | refused hname he =>
    show w.writeGraph _ _ = _
    rw [writeGraph, graphName?_of_error hname he]
    rfl
  | late hname hclosed =>
    show w.writeGraph _ _ = _
    rw [writeGraph, graphName?_of_accepts hname]
    dsimp only
    rw [if_pos hclosed]
    rfl
  | written hname hopen =>
    exact writeGraph_of_none (graphName?_of_accepts hname) (Bool.eq_false_iff.mpr hopen)
      fun t ht => (hc t ht).refusal?

/-- A call does not change a finished file. -/
theorem call_of_finished (h : w.finished = true) (c : SinkCall) : (sink.call w c).1 = w := by
  cases c with
  | finish =>
    obtain ⟨path, format, offered, finished⟩ := w
    obtain rfl : finished = true := h
    rfl
  | writeGraph name triples =>
    show (w.writeGraph name triples).1 = w
    unfold writeGraph
    split
    next => rfl
    next => rw [if_pos h]

/-- **A finished file** stays as it is. -/
theorem run_of_finished (h : w.finished = true) : ∀ calls, (sink.run calls w).1 = w
  | [] => rfl
  | c :: calls => by
    rw [Sink.run_cons, call_of_finished h c]
    exact run_of_finished h calls

theorem run_finish (w : GraphWriter) (before after : List SinkCall) :
    (sink.run (before ++ .finish :: after) w).1 = (sink.run (before ++ [.finish]) w).1 := by
  have hclosed : (sink.run (before ++ [.finish]) w).1.finished = true := by
    rw [Sink.run_append]
    rfl
  rw [List.append_cons, Sink.run_append]
  exact run_of_finished hclosed after

/-- **An open file** keeps the graphs that it takes until it is finished. -/
theorem run_of_open (hopen : w.finished = false)
    (hcalls : ∀ c ∈ calls, ∀ t ∈ c.triples, w.format.CanWrite t) :
    (sink.run calls w).1 =
      { w.offer ((taken calls (sink.run calls w).2).flatMap w.quadsOf) with
        finished := decide (.finish ∈ calls) } := by
  induction calls generalizing w with
  | nil =>
    obtain ⟨path, format, offered, finished⟩ := w
    obtain rfl : finished = false := hopen
    simp [Sink.run, taken, offer]
  | cons c calls ih =>
    obtain ⟨hc, hrest⟩ := List.forall_mem_cons.mp hcalls
    obtain ⟨a, ha⟩ := exists_answers w.path w.format (w.finished = true) c
    rw [Sink.run_cons, call_of_answers hc ha]
    -- The rest is called on a file that is finished, on the same file, or on one with more quads.
    cases ha with
    | finish =>
      rw [run_of_finished rfl]
      simp [after, taken, offer]
    | late _ hclosed => exact absurd hclosed (Bool.eq_false_iff.mp hopen)
    | refused =>
      rw [after, ih hopen hrest]
      simp [taken]
    | @written name triples =>
      have hquads : (w.offer (w.quadsOf (name, triples))).quadsOf = w.quadsOf := rfl
      rw [after, ih (w := w.offer (w.quadsOf (name, triples))) hopen hrest, hquads]
      simp [taken, offer]

/-! ### New files -/

section

variable {path : String} {format : RdfFormat}

theorem run_create (hcalls : ∀ c ∈ calls, ∀ t ∈ c.triples, format.CanWrite t) :
    (sink.run calls (create path format)).1 =
      ⟨path, format, (taken calls (sink.run calls (create path format)).2).flatMap
        (create path format).quadsOf, decide (.finish ∈ calls)⟩ :=
  @run_of_open (create path format) calls rfl hcalls

/-- A call behind others is answered by whether the file was finished before. -/
theorem call_of_run {before : List SinkCall}
    (hbefore : ∀ c ∈ before, ∀ t ∈ c.triples, format.CanWrite t)
    (hc : ∀ t ∈ c.triples, format.CanWrite t) :
    let w := (sink.run before (create path format)).1
    ∃ a, sink.call w c = (w.after c a, a) ∧ Answers path format (.finish ∈ before) c a := by
  obtain ⟨a, ha⟩ := exists_answers path format (.finish ∈ before) c
  refine ⟨a, ?_, ha⟩
  rw [run_create hbefore]
  exact call_of_answers hc (by rwa [decide_eq_true_eq])

end

/-! ### Graphs -/

/-- The graph that a name denotes in a file in some format. -/
def Denotes (format : RdfFormat) (name : String) (g : GraphName) : Prop :=
  if format.hasGraphs then g.WellFormed ∧ g.key = name else g = .default

theorem denotes_graphOf {name : String} (h : Accepts w.format name) :
    Denotes w.format name (w.graphOf name) := by
  unfold Denotes graphOf
  split
  next hgraphs => exact GraphName.ofKey?_eq_ok_iff.mp (GraphName.ofKey?_nameOfKey (h hgraphs))
  next => rfl

/-- What a file does with some graphs: it takes and counts all of them, or it takes those before the
first that it refuses. -/
inductive Writes (w : GraphWriter) (graphs : List NamedGraph) :
    GraphWriter × Except DumpError Nat → Prop
  | all (hgraphs : ∀ g ∈ graphs,
      Answers w.path w.format (w.finished = true) (.writeGraph g.1 g.2) (.ok ())) :
    Writes w graphs (w.offer (graphs.flatMap w.quadsOf), .ok graphs.length)
  | upTo {before after : List NamedGraph} {g : NamedGraph} {e : DumpError}
      (hgraphs : graphs = before ++ g :: after)
      (hbefore : ∀ g ∈ before,
        Answers w.path w.format (w.finished = true) (.writeGraph g.1 g.2) (.ok ()))
      (hrefused : Answers w.path w.format (w.finished = true) (.writeGraph g.1 g.2) (.error e)) :
    Writes w graphs (w.offer (before.flatMap w.quadsOf), .error e)

theorem offer_nil (w : GraphWriter) : w.offer [] = w := by
  rw [offer, List.append_nil]

theorem offer_append (w : GraphWriter) (quads more : List Quad) :
    (w.offer quads).offer more = w.offer (quads ++ more) := by
  unfold offer
  rw [List.append_assoc]

/-- **Graphs are written** whole, up to the first that is refused. -/
theorem writes_writeGraphs {graphs : List NamedGraph}
    (hgraphs : ∀ g ∈ graphs, ∀ t ∈ g.2, w.format.CanWrite t) :
    Writes w graphs (sink.writeGraphs graphs w) := by
  induction graphs generalizing w with
  | nil =>
    have hnil : Writes w [] (w.offer [], .ok 0) := .all nofun
    rwa [offer_nil] at hnil
  | cons g graphs ih =>
    obtain ⟨hg, hrest⟩ := List.forall_mem_cons.mp hgraphs
    obtain ⟨a, ha⟩ := exists_answers w.path w.format (w.finished = true) (.writeGraph g.1 g.2)
    have hcall : sink.writeGraph g.1 g.2 w = (w.after (.writeGraph g.1 g.2) a, a) :=
      @call_of_answers w (.writeGraph g.1 g.2) a hg ha
    rcases a with e | u
    · have hfirst : Writes w (g :: graphs) (w.offer [], .error e) :=
        @Writes.upTo w _ [] graphs g e rfl nofun ha
      rw [offer_nil] at hfirst
      rwa [Sink.writeGraphs_cons_of_error hcall]
    · cases u
      rw [Sink.writeGraphs_cons_of_ok hcall]
      have hwrites := ih (w := w.offer (w.quadsOf g)) hrest
      dsimp only [after]
      generalize sink.writeGraphs graphs (w.offer (w.quadsOf g)) = result at hwrites ⊢
      cases hwrites with
      | all htaken =>
        rw [offer_append]
        exact .all (List.forall_mem_cons.mpr ⟨ha, htaken⟩)
      | upTo hsplit hbefore hrefused =>
        rw [offer_append, hsplit]
        exact @Writes.upTo w _ (g :: _) _ _ _ rfl
          (List.forall_mem_cons.mpr ⟨ha, hbefore⟩) hrefused

end GraphWriter

/-- **Graphs are all or nothing**, and finishing closes the file. If a format can write the triples,
a file keeps those of the graphs whose calls succeeded before the first call that finishes, in
order, each in the graph that its name denotes. A call with a name that denotes none is refused, as
if it had not been made. Otherwise a graph is taken before the file is finished and refused
afterwards, when the file stays as it is. Datasets are written and counted whole, or up to the first
graph that is refused. -/
theorem graphs_all_or_nothing (path : String) (format : RdfFormat) (calls : List SinkCall)
    (hcalls : ∀ c ∈ calls, ∀ t ∈ c.triples, format.CanWrite t) :
    let created := GraphWriter.create path format
    let run (calls : List SinkCall) := GraphWriter.sink.run calls created
    let graphs := taken calls (run calls).2
    (run calls).1 =
      ⟨path, format, graphs.flatMap created.quadsOf, decide (.finish ∈ calls)⟩ ∧
    (∀ g ∈ graphs, GraphWriter.Denotes format g.1 (created.graphOf g.1)) ∧
    (∀ before c after, calls = before ++ c :: after → ∃ a,
      (run calls).2[before.length]? = some a ∧
        GraphWriter.Answers path format (.finish ∈ before) c a) ∧
    (∀ before name triples after, calls = before ++ .writeGraph name triples :: after →
      ¬ GraphWriter.Accepts format name →
        run (before ++ after) = ((run calls).1, (run calls).2.eraseIdx before.length)) ∧
    (∀ before after, calls = before ++ .finish :: after →
      (run calls).1 = (run (before ++ [.finish])).1) ∧
    ∀ datasets : Partitions Dataset,
      (∀ d ∈ datasets.flatten, ∀ g ∈ d.toList, ∀ t ∈ g.2, format.CanWrite t) →
        GraphWriter.Writes (run calls).1 (datasets.flatten.flatMap Dataset.toList)
          (GraphWriter.sink.writeDatasets datasets (run calls).1) := by
  intro created run graphs
  have hanswers : ∀ before c after, calls = before ++ c :: after → ∃ a,
      GraphWriter.sink.call (run before).1 c = ((run before).1.after c a, a) ∧
        GraphWriter.Answers path format (.finish ∈ before) c a := by
    rintro before c after rfl
    obtain ⟨hbefore, hrest⟩ := List.forall_mem_append.mp hcalls
    exact GraphWriter.call_of_run hbefore (List.forall_mem_cons.mp hrest).1
  have hrun : (run calls).1 =
      ⟨path, format, graphs.flatMap created.quadsOf, decide (.finish ∈ calls)⟩ :=
    GraphWriter.run_create hcalls
  refine ⟨hrun, fun g hg => ?_, fun before c after h => ?_,
    fun before name triples after h hname => ?_, fun before after h => ?_,
    fun datasets hdatasets => ?_⟩
  · -- The call succeeded, so its name denotes a graph.
    obtain ⟨before, after, h, hanswer⟩ := mem_taken hg
    obtain ⟨a, hcall, ha⟩ := hanswers before _ after h
    rw [h, Sink.getElem?_run, hcall] at hanswer
    cases Option.some.inj hanswer
    cases ha with
    | written hname => exact @GraphWriter.denotes_graphOf created g.1 hname
  · obtain ⟨a, hcall, ha⟩ := hanswers before c after h
    refine ⟨a, ?_, ha⟩
    rw [h, Sink.getElem?_run, hcall]
  · obtain ⟨a, hcall, ha⟩ := hanswers before _ after h
    rw [h]
    refine Sink.run_eraseIdx ?_ after
    rw [hcall]
    cases ha with
    | refused => rfl
    | written haccepts | late haccepts => exact absurd haccepts hname
  · rw [h]
    exact created.run_finish before after
  · rw [hrun]
    refine GraphWriter.writes_writeGraphs fun g hg => ?_
    obtain ⟨d, hd, hg⟩ := List.mem_flatMap.mp hg
    exact hdatasets d hd g hg

/-- A name that denotes no graph between two that do, and a graph for a file that is finished. In
RDF/XML, the name is as good as any. -/
theorem graphs_all_or_nothing_misnamed :
    let about (object : String) : Triple := ⟨.iri "x:s", "x:p", .iri object⟩
    let first : SinkCall := .writeGraph "x:g" [about "x:a", about "x:b"]
    let misnamed : SinkCall := .writeGraph "no key" [about "x:c"]
    let rest : List SinkCall := [.writeGraph "" [about "x:a"], .finish,
      .writeGraph "x:g" [about "x:c"], .finish]
    let run (format : RdfFormat) (calls : List SinkCall) :=
      GraphWriter.sink.run calls (GraphWriter.create "out" format)
    (∀ c ∈ first :: misnamed :: rest, ∀ t ∈ c.triples, RdfFormat.triG.CanWrite t) ∧
    (run .triG (first :: misnamed :: rest)).1 = ⟨"out", .triG,
      [(about "x:a").inGraph (.iri "x:g"), (about "x:b").inGraph (.iri "x:g"),
        (about "x:a").inGraph .default], true⟩ ∧
    (run .triG (first :: rest)).1 = (run .triG (first :: misnamed :: rest)).1 ∧
    (run .rdfXml (first :: misnamed :: rest)).1 = ⟨"out", .rdfXml,
      [about "x:a", about "x:b", about "x:c", about "x:a"].map (·.inGraph .default), true⟩ := by
  intro about first misnamed rest run
  have htriG : ∀ c ∈ first :: misnamed :: rest, ∀ t ∈ c.triples, RdfFormat.triG.CanWrite t := by
    decide +kernel
  have hname : ¬ GraphWriter.Accepts .triG "no key" := fun haccepts => by
    obtain ⟨g, hg⟩ := GraphName.isKey_iff.mp (haccepts rfl)
    have hnone : (GraphName.ofKey? "no key").toOption = none := by decide +kernel
    rw [hg] at hnone
    cases hnone
  obtain ⟨hstate, -, -, hrefused, -⟩ := graphs_all_or_nothing "out" .triG _ htriG
  obtain ⟨hxml, -⟩ := graphs_all_or_nothing "out" .rdfXml (first :: misnamed :: rest)
    (by decide +kernel)
  have hskipped : run .triG (first :: rest) = _ :=
    hrefused [first] "no key" [about "x:c"] rest rfl hname
  refine ⟨htriG, ?_, ?_, ?_⟩
  · rw [hstate]
    decide +kernel
  · rw [hskipped]
  · rw [hxml]
    decide +kernel

end LinkedQueries
