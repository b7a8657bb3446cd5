import LinkedQueries.Proofs.Lists
import LinkedQueries.Proofs.Rdf.GraphTerm
import LinkedQueries.Proofs.Regroup.Writing

/-!
# Regrouping loses, adds and moves nothing

The dumps that are regrouped are known by the statements that their reader accepts. Each statement
has its place: that of a format of quads is in its graph, that of a format of triples is in the
graph that its grouping term names. The graphs that are written are those of the statements at their
places, dump by dump.

Results:
* `ReadDump.IsRead.datasets_eq`, `ReadDump.groups_gathered`: the dataset view of a dump gathers its
  statements.
* `union_ok`: the union of the views holds the graphs of one view behind those of the other.
* `written_perm`: what is made of all triples that are written is made of all statements.
* **`regroup_exact`**: what any sink is passed, the summary, and what a file holds.
-/

namespace LinkedQueries

/-- A dump, with what its reader accepts. -/
structure ReadDump where
  source : Source
  format : RdfFormat
  statements : List Quad

namespace ReadDump

/-- The dump is in a format of the standard registry, and its statements are those that the reader
of some number accepts. Their terms are well-formed, and a format of triples names no graphs. -/
structure IsRead (read : Nat → StatementReader) (files : Files) (n : Nat) (d : ReadDump) :
    Prop where
  format_eq : d.source.format = .rdf d.format
  registered : ∀ profiles, d.format ≠ .jsonLd profiles
  reads : ((d.source.open? files).bind fun input =>
    ReadEvent.allQuads (read n d.format none input)) = .ok d.statements
  wellFormed : ∀ q ∈ d.statements, q.quoted.WellFormed ∧ q.graph.WellFormed
  default_of_triples : d.format.hasGraphs = false → ∀ q ∈ d.statements, q.graph = .default

/-! ## One dump -/

section One

variable (grouping : TripleGrouping) (options : ViewOptions) (d : ReadDump)

/-- The place of a statement. -/
def placed (q : Quad) : Quad :=
  if d.format.hasGraphs then q
  else q.toTriple.inGraph (grouping.term q.toTriple).graphName

/-- The statements at their places. -/
def quads : List Quad :=
  d.statements.map (d.placed grouping)

/-- The keys of their graphs, each once. -/
def keys : List String :=
  ((d.quads grouping).map (·.graph.key)).dedup

/-- The graphs of the statements at their places. -/
def graphs : List NamedGraph :=
  Partitions.gathered (·.graph.key) (·.toTriple) (d.quads grouping)

/-- The graphs that are made of the statements. -/
def groups : Partitions NamedGraph :=
  let loaded := Partitions.chunked options.partitionSize d.statements
  if d.format.hasGraphs then groupByGraph options.partitionCount loaded
  else options.grouping.group options.partitionCount (loaded.map (·.toTriple))

/-- The dataset view. -/
def view : Partitions Dataset :=
  Resolver.oneGraphEach (d.groups options)

theorem graphs_view :
    (d.view options).flatten.flatMap Dataset.toList = (d.groups options).flatten :=
  graphs_oneGraphEach _

theorem length_graphs : (d.graphs grouping).length = (d.keys grouping).length :=
  List.length_map _

theorem quads_of_quads (h : d.format.hasGraphs = true) : d.quads grouping = d.statements := by
  have hplaced : d.placed grouping = id := by
    unfold placed
    rw [h]
    rfl
  rw [quads, hplaced, List.map_id]

theorem toTriple_placed (q : Quad) : (d.placed grouping q).toTriple = q.toTriple := by
  unfold placed
  split <;> rfl

/-- **The groups** gather the statements at their places. -/
theorem groups_gathered :
    Partitions.Gathered (·.graph.key) (·.toTriple) (d.quads options.grouping)
      (d.groups options).flatten := by
  have hloaded := Partitions.flatten_chunked options.partitionSize d.statements
  unfold groups
  dsimp only
  cases hgraphs : d.format.hasGraphs with
  | true =>
    have hgathered := groupByGraph_gathers options.partitionCount
      (Partitions.chunked options.partitionSize d.statements)
    rw [hloaded] at hgathered
    rw [if_pos rfl, d.quads_of_quads options.grouping hgraphs]
    exact hgathered
  | false =>
    have hgathered := options.grouping.group_gathers options.partitionCount
      ((Partitions.chunked options.partitionSize d.statements).map (·.toTriple))
    rw [Partitions.flatten_map, hloaded] at hgathered
    have hquads : d.quads options.grouping = (d.statements.map (·.toTriple)).map fun t =>
        t.inGraph (options.grouping.term t).graphName := by
      unfold quads placed
      rw [List.map_map, hgraphs]
      rfl
    have hkey : ((·.graph.key) ∘ fun t : Triple =>
        t.inGraph (options.grouping.term t).graphName) = options.grouping.key := by
      funext t
      exact (Term.key_graphName _).trans (options.grouping.key_eq t).symm
    rw [if_neg Bool.false_ne_true, hquads]
    refine Partitions.Gathered.map ?_
    rw [hkey]
    exact hgathered

variable {grouping options d} {read : Nat → StatementReader} {files : Files} {n : Nat}

/-- The statements are at places whose names are legal. -/
theorem IsRead.quads_wellFormed (h : d.IsRead read files n) :
    ∀ q ∈ d.quads grouping, q.graph.WellFormed := by
  intro q' hq'
  obtain ⟨q, hq, rfl⟩ := List.mem_map.mp hq'
  obtain ⟨hterms, hgraph⟩ := h.wellFormed q hq
  unfold placed
  split
  · exact hgraph
  · have hterm : (grouping.term q.toTriple).WellFormed := by
      cases grouping with
      | subjects => exact hterms.1
      | objects => exact hterms.2.2
      | predicates => exact hterms.2.1
    exact Term.graphName_wellFormed hterm

theorem IsRead.isName (h : d.IsRead read files n) :
    ∀ g ∈ (d.groups options).flatten, GraphWriter.IsName g.1 := by
  intro g hg
  obtain ⟨q, hq, hkey⟩ := (d.groups_gathered options).exists_of_mem hg
  exact ⟨q.graph, h.quads_wellFormed q hq, hkey⟩

/-- **The dataset view** of a dump. -/
theorem IsRead.datasets_eq (h : d.IsRead read files n) (options : ViewOptions) :
    ((standardResolver read options).reading n).datasets files d.source = .ok (d.view options) := by
  have haccepted : accepted read files { options with reading := n } d.source d.format =
      .ok d.statements := h.reads
  have hloaded := loadQuads_eq read files { options with reading := n } h.format_eq
  rw [haccepted] at hloaded
  unfold view groups
  dsimp only
  cases hgraphs : d.format.hasGraphs with
  | true =>
    obtain ⟨-, -, hdatasets⟩ :=
      views_of_quads read files { options with reading := n } h.format_eq hgraphs h.registered
    rw [hloaded] at hdatasets
    exact hdatasets
  | false =>
    obtain ⟨-, -, hdatasets⟩ :=
      views_of_triples read files { options with reading := n } h.format_eq hgraphs
    rw [loadTriples, hloaded] at hdatasets
    exact hdatasets

end One

end ReadDump

/-! ## All dumps -/

open ReadDump

section All

variable {read : Nat → StatementReader} {files : Files} {dumps : List ReadDump}

theorem flatten_foldl_append {α : Type} : ∀ (ps : List (Partitions α)) (p : Partitions α),
    (ps.foldl Partitions.append p).flatten = p.flatten ++ ps.flatMap Partitions.flatten
  | [], p => (List.append_nil _).symm
  | q :: ps, p => by
    have happend : (p.append q).flatten = p.flatten ++ q.flatten := List.flatten_append
    rw [List.foldl_cons, flatten_foldl_append ps, happend, List.flatMap_cons, List.append_assoc]

/-- The graphs of the views of all dumps, one behind the other. -/
def viewGraphs (options : ViewOptions) (dumps : List ReadDump) : List NamedGraph :=
  dumps.flatMap fun d => (d.view options).flatten.flatMap Dataset.toList

/-- **The union** of the views can be made of dumps that are read, and holds their graphs. -/
theorem union_ok (h : ∀ x ∈ dumps.zipIdx, x.1.IsRead read files x.2) (options : ViewOptions) :
    ∃ datasets, Regroup.union (standardResolver read options) files (dumps.map (·.source)) =
        .ok datasets ∧
      datasets.flatten.flatMap Dataset.toList = viewGraphs options dumps := by
  have hviews : (dumps.map (·.source)).zipIdx.mapM (fun x =>
      ((standardResolver read options).reading x.2).datasets files x.1) =
      .ok (dumps.map (view options)) := by
    have heach : ∀ x ∈ dumps.zipIdx, ((standardResolver read options).reading x.2).datasets files
        x.1.source = .ok (x.1.view options) := fun x hx => (h x hx).datasets_eq options
    rw [List.zipIdx_map, List.mapM_map]
    refine (mapM_eq_pure heach).trans (congrArg Except.ok ?_)
    conv_rhs => rw [← List.zipIdx_map_fst 0 dumps, List.map_map]
    rfl
  refine ⟨((dumps.map (view options)).foldl Partitions.append Partitions.empty).repartition
    options.partitionSize, ?_, ?_⟩
  · exact congrArg (· >>= _) hviews
  · unfold Partitions.repartition
    rw [Partitions.flatten_chunked, flatten_foldl_append, List.flatMap_map]
    exact List.flatMap_assoc

/-- What is made of the triples of all views is made of the statements of all dumps. -/
theorem written_perm {δ : Type} (options : ViewOptions) (f : String → Triple → δ) :
    ((viewGraphs options dumps).flatMap fun g => g.2.map (f g.1)).Perm
      (dumps.flatMap fun d =>
        (d.quads options.grouping).map fun q => f q.graph.key q.toTriple) := by
  unfold viewGraphs
  rw [List.flatMap_assoc]
  refine List.Perm.flatMap_left dumps fun d _ => ?_
  rw [graphs_view]
  exact (d.groups_gathered options).perm f

theorem viewGraphs_perm (options : ViewOptions) :
    (viewGraphs options dumps).Perm (dumps.flatMap (·.graphs options.grouping)) := by
  refine List.Perm.flatMap_left dumps fun d _ => ?_
  rw [graphs_view]
  exact (d.groups_gathered options).perm_gathered

/-- The summary counts the graphs and the statements of each dump. -/
theorem length_viewGraphs (options : ViewOptions) :
    (viewGraphs options dumps).length =
      total (dumps.map fun d => (d.keys options.grouping).length) := by
  rw [(viewGraphs_perm options).length_eq, length_flatMap_eq_total]
  simp only [length_graphs]

theorem length_triples (options : ViewOptions) :
    ((viewGraphs options dumps).flatMap (·.2)).length =
      total (dumps.map (·.statements.length)) := by
  have hperm := @written_perm dumps _ options fun _ t => t
  simp only [List.map_id'] at hperm
  rw [hperm.length_eq, length_flatMap_eq_total]
  simp only [quads, List.length_map]

/-- The quads that a file with or without graphs holds of all statements. -/
def quadsIn (hasGraphs : Bool) (grouping : TripleGrouping) (dumps : List ReadDump) : List Quad :=
  if hasGraphs then dumps.flatMap (·.quads grouping)
  else dumps.flatMap fun d => d.statements.map (·.toTriple.inGraph .default)

variable {options : ViewOptions} (h : ∀ x ∈ dumps.zipIdx, x.1.IsRead read files x.2)
include h

theorem exists_isRead {d : ReadDump} (hd : d ∈ dumps) : ∃ n, d.IsRead read files n := by
  rw [← List.zipIdx_map_fst 0 dumps] at hd
  obtain ⟨x, hx, rfl⟩ := List.mem_map.mp hd
  exact ⟨x.2, h x hx⟩

/-- All names of graphs are legal. -/
theorem isName_viewGraphs : ∀ g ∈ viewGraphs options dumps, GraphWriter.IsName g.1 := by
  intro g hg
  obtain ⟨d, hd, hg⟩ := List.mem_flatMap.mp hg
  obtain ⟨n, hread⟩ := exists_isRead h hd
  rw [graphs_view] at hg
  exact hread.isName g hg

/-- The quads that a file is offered are the statements at their places, or their triples in the
default graph. -/
theorem quadsOf_perm (w : GraphWriter) :
    ((viewGraphs options dumps).flatMap w.quadsOf).Perm
      (quadsIn w.format.hasGraphs options.grouping dumps) := by
  refine (written_perm options fun key t => t.inGraph (w.graphOf key)).trans (List.Perm.of_eq ?_)
  unfold quadsIn GraphWriter.graphOf
  split
  · refine List.flatMap_congr fun d hd => ?_
    obtain ⟨n, hread⟩ := exists_isRead h hd
    refine (List.map_congr_left fun q hq => ?_).trans (List.map_id _)
    rw [nameOfKey_key (hread.quads_wellFormed q hq)]
    rfl
  · refine List.flatMap_congr fun d _ => ?_
    unfold quads
    rw [List.map_map]
    exact List.map_congr_left fun q _ =>
      congrArg (Triple.inGraph · .default) (d.toTriple_placed _ q)

/-- A run writes the graphs of the views, whatever takes them. -/
theorem run_eq (options : ViewOptions) : ∃ datasets,
    datasets.flatten.flatMap Dataset.toList = viewGraphs options dumps ∧
    ∀ {σ : Type} (sink : Sink σ) (state : σ),
      Regroup.run (standardResolver read options) files (dumps.map (·.source)) sink state =
        Regroup.write sink datasets state := by
  obtain ⟨datasets, hunion, hgraphs⟩ := union_ok h options
  refine ⟨datasets, hgraphs, fun sink state => ?_⟩
  unfold Regroup.run
  rw [hunion]

end All

/-- **Regrouping loses, adds and moves nothing**, however the collections are partitioned. Each
dataset view can be made and the graphs of all views are those of the statements, dump by dump. A
sink that takes all it is given has been passed each of these graphs once; the summary counts the
graphs of each dump and the statements. A file refuses no graph because of its name. Its format has
been offered the statements at their places, or their triples in the default graph if it knows no
graphs; and so the file has these statements if the format gives back what it was offered. A format
that refuses nothing is no reason to fail. -/
theorem regroup_exact (read : Nat → StatementReader) (files : Files) {dumps : List ReadDump}
    (h : ∀ x ∈ dumps.zipIdx, x.1.IsRead read files x.2) (options : ViewOptions) :
    let r := standardResolver read options
    let sources := dumps.map (·.source)
    let graphs := viewGraphs options dumps
    (∀ x ∈ dumps.zipIdx,
      (r.reading x.2).datasets files x.1.source = .ok (x.1.view options)) ∧
    graphs.Perm (dumps.flatMap (·.graphs options.grouping)) ∧
    (∀ {σ : Type} (sink : Sink σ) (state state' : σ) (summary : RegroupSummary),
      Regroup.run r files sources sink state = (state', .ok summary) →
        Regroup.run r files sources sink.recorded (state, []) = ((state', graphs), .ok summary) ∧
        summary.graphs = total (dumps.map fun d => (d.keys options.grouping).length) ∧
        summary.triples = total (dumps.map (·.statements.length))) ∧
    (∀ (w : GraphWriter) (e : InvalidGraphKey),
      (Regroup.run r files sources GraphWriter.sink w).2 ≠ .error (.graphName e)) ∧
    (∀ (w w' : GraphWriter) (summary : RegroupSummary),
      Regroup.run r files sources GraphWriter.sink w = (w', .ok summary) →
        let expected := w.offered ++ quadsIn w.format.hasGraphs options.grouping dumps
        w'.offered.Perm expected ∧
        ∀ parse : StatementReader,
          ReadEvent.allQuads (parse w'.format none ⟨w'.content, none⟩) = .ok w'.offered →
          ∃ back, ReadEvent.allQuads (parse w'.format none ⟨w'.content, none⟩) = .ok back ∧
            back.Perm expected) ∧
    ∀ w : GraphWriter, w.finished = false → (∀ last t, w.format.refusal? last t = none) →
      ∃ w' summary, Regroup.run r files sources GraphWriter.sink w = (w', .ok summary) := by
  intro r sources graphs
  obtain ⟨datasets, hgraphs, hrun⟩ := run_eq h options
  have hnames : ∀ g ∈ datasets.flatten.flatMap Dataset.toList, GraphWriter.IsName g.1 :=
    hgraphs ▸ isName_viewGraphs h
  refine ⟨fun x hx => (h x hx).datasets_eq options, viewGraphs_perm options,
    fun sink state state' summary hok => ?_, fun w e => ?_, fun w w' summary hok => ?_,
    fun w hopen hrefusal => ?_⟩
  · rw [hrun] at hok ⊢
    obtain ⟨rfl, hrecorded⟩ := Regroup.write_ok hok
    rw [hgraphs] at hrecorded ⊢
    exact ⟨hrecorded, length_viewGraphs options, length_triples options⟩
  · rw [hrun]
    exact Regroup.write_named hnames w e
  · rw [hrun] at hok
    obtain ⟨w₁, n, hwritten, hfinish, -⟩ := Regroup.write_ok_iff.mp hok
    have hw := GraphWriter.writeGraphs_ok hnames hwritten
    have hoffered : w'.offered.Perm
        (w.offered ++ quadsIn w.format.hasGraphs options.grouping dumps) := by
      cases hfinish
      rw [hw, hgraphs]
      exact (quadsOf_perm h w).append_left _
    exact ⟨hoffered, fun parse hparse => ⟨_, hparse, hoffered⟩⟩
  · obtain ⟨w', hwritten⟩ := GraphWriter.writeGraphs_of_none hnames hopen hrefusal
    rw [hrun]
    exact ⟨_, _, Regroup.write_ok_iff.mpr ⟨_, _, hwritten, rfl, rfl⟩⟩

/-- Two quads and two triples on one literal, after which their graph is named. -/
theorem regroup_exact_quads_and_triples :
    let quads : ReadDump := ⟨⟨.bytes (Utf8.encode
        "<x:s> <x:p> <x:o> <x:g> .\n_:b <x:p> \"a\" .\n".toList), .rdf .nQuads⟩, .nQuads,
      [⟨⟨.iri "x:s", "x:p", .iri "x:o"⟩, .iri "x:g"⟩,
        ⟨⟨.blank "b", "x:p", .literal (.simple "a")⟩, .default⟩]⟩
    let triples : ReadDump := ⟨⟨.bytes (Utf8.encode
        "<x:s> <x:p> \"a\" .\n<x:t> <x:p> \"a\" .\n".toList), .rdf .nTriples⟩, .nTriples,
      [⟨⟨.iri "x:s", "x:p", .literal (.simple "a")⟩, .default⟩,
        ⟨⟨.iri "x:t", "x:p", .literal (.simple "a")⟩, .default⟩]⟩
    let placed : List Quad := [⟨⟨.iri "x:s", "x:p", .iri "x:o"⟩, .iri "x:g"⟩,
      ⟨⟨.blank "b", "x:p", .literal (.simple "a")⟩, .default⟩,
      ⟨⟨.iri "x:s", "x:p", .literal (.simple "a")⟩, .iri "x-literal:%22a%22"⟩,
      ⟨⟨.iri "x:t", "x:p", .literal (.simple "a")⟩, .iri "x-literal:%22a%22"⟩]
    let options : ViewOptions := { partitionSize := 1, partitionCount := 0, grouping := .objects }
    (∀ x ∈ [quads, triples].zipIdx, x.1.IsRead Rdf.read Files.empty x.2) ∧
    ∃ w summary, Regroup.run (standardResolver Rdf.read options) Files.empty
        [quads.source, triples.source] GraphWriter.sink (.create "out.nq" .nQuads) =
        (w, .ok summary) ∧
      summary.graphs = 3 ∧ summary.triples = 4 ∧
      w.offered.Perm placed := by
  intro quads triples placed options
  have hiri : ∀ i ∈ ["x:s", "x:t", "x:p", "x:o", "x:g"], IsIri i := by
    unfold IsIri
    decide +kernel
  simp only [List.forall_mem_cons] at hiri
  obtain ⟨hs, ht, hp, ho, hg, -⟩ := hiri
  have hb : isBlankLabel "b".toList = true := by decide +kernel
  have hquads : quads.IsRead Rdf.read Files.empty 0 := by
    refine ⟨rfl, by simp [quads], by decide +kernel, ?_, by simp [quads, RdfFormat.hasGraphs]⟩
    simp only [quads, List.forall_mem_cons]
    exact ⟨⟨⟨hs, hp, ho⟩, hg⟩, ⟨⟨hb, hp, trivial⟩, trivial⟩, nofun⟩
  have htriples : triples.IsRead Rdf.read Files.empty 1 := by
    refine ⟨rfl, by simp [triples], by decide +kernel, ?_, fun _ => by simp [triples]⟩
    simp only [triples, List.forall_mem_cons]
    exact ⟨⟨⟨hs, hp, trivial⟩, trivial⟩, ⟨⟨ht, hp, trivial⟩, trivial⟩, nofun⟩
  have hread : ∀ x ∈ [quads, triples].zipIdx, x.1.IsRead Rdf.read Files.empty x.2 :=
    List.forall_mem_cons.mpr ⟨hquads, List.forall_mem_cons.mpr ⟨htriples, nofun⟩⟩
  obtain ⟨-, -, hany, -, hfile, htakes⟩ := regroup_exact Rdf.read Files.empty hread options
  obtain ⟨w, summary, hrun⟩ := htakes (.create "out.nq" .nQuads) rfl fun _ _ => rfl
  obtain ⟨-, hgraphs, hcount⟩ := hany GraphWriter.sink _ w summary hrun
  have hplaced : quadsIn true .objects [quads, triples] = placed := by decide +kernel
  refine ⟨hread, w, summary, hrun, hgraphs.trans (by decide +kernel), hcount, ?_⟩
  exact hplaced ▸ (hfile _ w summary hrun).1

end LinkedQueries
