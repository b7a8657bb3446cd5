import LinkedQueries.Proofs.Lists
import LinkedQueries.Proofs.Partition.Gathering
import LinkedQueries.Proofs.Rdf.GraphKey
import LinkedQueries.Rdf.Reader
import LinkedQueries.View.Resolver

/-!
# The views of a dump agree

A dump in one of the standard formats is loaded as triples or as quads, and its other views are
derived. All of them are views of the statements that the reader accepts: the triples without their
graphs, the quads as they are, and the datasets one graph at a time.

Results:
* `toQuads?_ofGraph`: a dataset of one graph gives back its quads.
* **`views_agree`**: what the three views hold, or the failure that all of them report.
-/

namespace LinkedQueries

/-! ## Datasets of one graph -/

namespace Dataset

theorem toList_ofGraph (name : String) (triples : List Triple) :
    (ofGraph name triples).toList = [(name, triples)] := rfl

/-- A dataset of one graph gives back its quads. -/
theorem toQuads?_ofGraph {g : GraphName} (h : g.WellFormed) (triples : List Triple) :
    (ofGraph g.key triples).toQuads? = .ok (triples.map (·.inGraph g)) := by
  have hquads : graphQuads? g.key triples = .ok (triples.map (·.inGraph g)) := by
    rw [graphQuads?, GraphName.ofKey?_key h]
    rfl
  unfold toQuads?
  rw [toList_ofGraph, List.mapM_cons]
  show ((graphQuads? g.key triples).bind fun quads => .ok [quads]).map List.flatten = _
  rw [hquads]
  exact congrArg Except.ok (List.append_nil _)

end Dataset

/-- Datasets of one graph each, whose triples together are some triples up to order. -/
structure GraphByGraph (triples : List Triple) (datasets : List Dataset) : Prop where
  one : ∀ d ∈ datasets, d.size = 1
  nonempty : ∀ d ∈ datasets, ∀ g ∈ d.toList, g.2 ≠ []
  nodup : ((datasets.flatMap Dataset.toList).map (·.1)).Nodup
  perm : ((datasets.flatMap Dataset.toList).flatMap (·.2)).Perm triples

section Groups

open Partitions

variable {α : Type} {groups : Partitions (String × List Triple)}

theorem flatten_oneGraphEach (groups : Partitions (String × List Triple)) :
    (Resolver.oneGraphEach groups).flatten =
      groups.flatten.map fun g => Dataset.ofGraph g.1 g.2 :=
  flatten_map _ groups

theorem mem_oneGraphEach {d : Dataset} (h : d ∈ (Resolver.oneGraphEach groups).flatten) :
    ∃ g ∈ groups.flatten, d.toList = [g] := by
  rw [flatten_oneGraphEach] at h
  obtain ⟨g, hg, rfl⟩ := List.mem_map.mp h
  exact ⟨g, hg, rfl⟩

theorem graphs_oneGraphEach (groups : Partitions (String × List Triple)) :
    (Resolver.oneGraphEach groups).flatten.flatMap Dataset.toList = groups.flatten := by
  rw [flatten_oneGraphEach, List.flatMap_map]
  exact List.flatMap_singleton' _

/-- The groups of some elements, each as a dataset of its own. -/
theorem Gathered.graphByGraph {key : α → String} {value : α → Triple} {xs : List α}
    (h : Gathered key value xs groups.flatten) :
    GraphByGraph (xs.map value) (Resolver.oneGraphEach groups).flatten where
  one d hd := by
    obtain ⟨g, -, hg⟩ := mem_oneGraphEach hd
    exact congrArg List.length hg
  nonempty d hd g hg := by
    obtain ⟨g', hg', hd⟩ := mem_oneGraphEach hd
    rw [hd, List.mem_singleton] at hg
    exact hg ▸ h.nonempty g' hg'
  nodup := by
    rw [graphs_oneGraphEach]
    exact h.nodup
  perm := by
    rw [graphs_oneGraphEach]
    simpa using h.perm fun _ t => t

end Groups

/-- The quads of some datasets, if the names of all their graphs are legal. -/
theorem mapM_toQuads? {nameOf : String → GraphName} {groups : List (String × List Triple)}
    (h : ∀ g ∈ groups, (nameOf g.1).WellFormed ∧ (nameOf g.1).key = g.1) :
    (groups.map fun g => Dataset.ofGraph g.1 g.2).mapM Dataset.toQuads? =
      .ok (groups.map fun g => g.2.map (·.inGraph (nameOf g.1))) := by
  rw [List.mapM_map]
  refine mapM_eq_pure fun g hg => ?_
  obtain ⟨hname, hkey⟩ := h g hg
  have hquads := Dataset.toQuads?_ofGraph hname g.2
  rw [hkey] at hquads
  exact hquads

/-- The name that a key has, if any. -/
def nameOfKey (key : String) : GraphName :=
  (GraphName.ofKey? key).toOption.getD .default

theorem nameOfKey_key {g : GraphName} (h : g.WellFormed) : nameOfKey g.key = g := by
  rw [nameOfKey, GraphName.ofKey?_key h]
  rfl

/-- Quads are told by their triples and the keys of their graphs. -/
theorem map_inGraph_nameOfKey {quads : List Quad} (h : ∀ q ∈ quads, q.graph.WellFormed) :
    (quads.map fun q => q.toTriple.inGraph (nameOfKey q.graph.key)) = quads := by
  conv_rhs => rw [← List.map_id quads]
  exact List.map_congr_left fun q hq => by rw [nameOfKey_key (h q hq)]; rfl

/-- Grouping gathers the quads of each graph, without it. -/
theorem groupByGraph_gathers (count : Nat) (quads : Partitions Quad) :
    Partitions.Gathered (·.graph.key) (·.toTriple) quads.flatten
      (groupByGraph count quads).flatten :=
  Partitions.combineByKey_gathers _ _ count quads

/-- Quads that are grouped by their graphs come back from the datasets of the groups. -/
theorem toQuads?_groupByGraph {quads : Partitions Quad} (count : Nat)
    (h : ∀ q ∈ quads.flatten, q.graph.WellFormed) :
    ∃ parts, (Resolver.oneGraphEach (groupByGraph count quads)).flatten.mapM Dataset.toQuads? =
      .ok parts ∧ parts.flatten.Perm quads.flatten := by
  have hgathered := groupByGraph_gathers count quads
  have hnames : ∀ g ∈ (groupByGraph count quads).flatten,
      (nameOfKey g.1).WellFormed ∧ (nameOfKey g.1).key = g.1 := by
    intro g hg
    obtain ⟨q, hq, hkey⟩ := hgathered.exists_of_mem hg
    rw [← hkey, nameOfKey_key (h q hq)]
    exact ⟨h q hq, rfl⟩
  refine ⟨_, by rw [flatten_oneGraphEach]; exact mapM_toQuads? hnames, ?_⟩
  have hperm := hgathered.perm fun key t => t.inGraph (nameOfKey key)
  rw [map_inGraph_nameOfKey h] at hperm
  rw [← List.flatMap_def]
  exact hperm

/-- The term after which the graph of a triple is named. -/
def TripleGrouping.term : TripleGrouping → Triple → Term
  | .subjects, t => t.subject
  | .objects, t => t.object
  | .predicates, t => .iri t.predicate

theorem TripleGrouping.key_eq (by_ : TripleGrouping) (t : Triple) :
    by_.key t = (by_.term t).graphKey := by
  cases by_ <;> rfl

/-- Grouping gathers the triples with a term, as they are. -/
theorem TripleGrouping.group_gathers (by_ : TripleGrouping) (count : Nat)
    (triples : Partitions Triple) :
    Partitions.Gathered by_.key id triples.flatten (by_.group count triples).flatten :=
  Partitions.combineByKey_gathers _ id count triples

/-! ## Loading -/

section Loading

variable (read : Nat → StatementReader) (files : Files) (options : ViewOptions) {source : Source}
  {format : RdfFormat}

/-- The statements of a dump that the reader accepts, malformed ones left out, or the failure that
keeps the dump from being read. -/
def accepted (source : Source) (format : RdfFormat) : Except Failure (List Quad) :=
  (source.open? files).bind fun input =>
    ReadEvent.allQuads (read options.reading format none input)

theorem loadQuads_eq (hsource : source.format = .rdf format) :
    loadQuads read files source options =
      match accepted read files options source format with
      | .error failure => .error (.io failure)
      | .ok quads => .ok (Partitions.chunked options.partitionSize quads) := by
  unfold loadQuads
  rw [hsource]
  rfl

theorem standard_of_triples (h : format.hasGraphs = false) :
    (Registry.standard read).tripleLoader? (.rdf format) = some (loadTriples read) ∧
      (Registry.standard read).quadLoader? (.rdf format) = none ∧
      (Registry.standard read).datasetLoader? (.rdf format) = none := by
  cases format <;> first | exact ⟨rfl, rfl, rfl⟩ | cases h

theorem standard_of_quads (h : format.hasGraphs = true)
    (hformat : ∀ profiles, format ≠ .jsonLd profiles) :
    (Registry.standard read).tripleLoader? (.rdf format) = none ∧
      (Registry.standard read).quadLoader? (.rdf format) = some (loadQuads read) ∧
      (Registry.standard read).datasetLoader? (.rdf format) = none := by
  cases format with
  | nQuads | triG => exact ⟨rfl, rfl, rfl⟩
  | jsonLd profiles => exact absurd rfl (hformat profiles)
  | _ => cases h

/-- The resolver with the standard loaders. -/
def standardResolver : Resolver :=
  ⟨.standard read, options⟩

/-- The views of a format of triples are made from its triples. -/
theorem views_of_triples (hsource : source.format = .rdf format) (h : format.hasGraphs = false) :
    let r := standardResolver read options
    let loaded := loadTriples read files source options
    r.triples files source = loaded ∧
      r.quads files source = (do return (← loaded).map (·.inGraph .default)) ∧
      r.datasets files source = do
        return Resolver.oneGraphEach
          (options.grouping.group options.partitionCount (← loaded)) := by
  intro r loaded
  obtain ⟨ht, hq, hd⟩ := standard_of_triples read h
  obtain ⟨htriples, hquads, hdatasets⟩ : r.plan (.rdf format) .triples = .ok (.direct .triples) ∧
      r.plan (.rdf format) .quads = .ok .placeInDefaultGraph ∧
      r.plan (.rdf format) .datasets = .ok (.groupTriples options.grouping) := by
    refine ⟨?_, ?_, ?_⟩ <;> simp [r, standardResolver, Resolver.plan, Registry.supports,
      SourceFormat.isTriples, SourceFormat.rdf?, ht, hq, hd, h]
  have hload : r.loadTriples files source = loaded := by
    simp [r, loaded, standardResolver, Resolver.loadTriples, Resolver.load, hsource, ht]
  refine ⟨?_, ?_, ?_⟩
  · unfold Resolver.triples
    rw [hsource, htriples]
    exact hload
  · unfold Resolver.quads
    rw [hsource, hquads, ← hload]
    rfl
  · unfold Resolver.datasets
    rw [hsource, hdatasets, ← hload]
    rfl

/-- The views of a format of quads are made from its quads. -/
theorem views_of_quads (hsource : source.format = .rdf format) (h : format.hasGraphs = true)
    (hformat : ∀ profiles, format ≠ .jsonLd profiles) :
    let r := standardResolver read options
    let loaded := loadQuads read files source options
    r.triples files source = (do return (← loaded).map (·.toTriple)) ∧
      r.quads files source = loaded ∧
      r.datasets files source = do
        return Resolver.oneGraphEach (groupByGraph options.partitionCount (← loaded)) := by
  intro r loaded
  obtain ⟨ht, hq, hd⟩ := standard_of_quads read h hformat
  obtain ⟨htriples, hquads, hdatasets⟩ : r.plan (.rdf format) .triples = .ok .dropGraphs ∧
      r.plan (.rdf format) .quads = .ok (.direct .quads) ∧
      r.plan (.rdf format) .datasets = .ok .groupQuads := by
    refine ⟨?_, ?_, ?_⟩ <;>
      simp [r, standardResolver, Resolver.plan, Registry.supports, ht, hq, hd]
  have hload : r.loadQuads files source = loaded := by
    simp [r, loaded, standardResolver, Resolver.loadQuads, Resolver.load, hsource, hq]
  refine ⟨?_, ?_, ?_⟩
  · unfold Resolver.triples
    rw [hsource, htriples, ← hload]
    rfl
  · unfold Resolver.quads
    rw [hsource, hquads]
    exact hload
  · unfold Resolver.datasets
    rw [hsource, hdatasets, ← hload]
    rfl

/-! ## Agreement -/

/-- What the three views of a dump hold whose statements are these. -/
structure Views (grouping : TripleGrouping) (format : RdfFormat) (statements : List Quad)
    (ts : Partitions Triple) (qs : Partitions Quad) (ds : Partitions Dataset) : Prop where
  triples : ts.flatten = statements.map (·.toTriple)
  quads : qs.flatten = statements
  datasets : GraphByGraph (statements.map (·.toTriple)) ds.flatten
  /-- In a format of quads, the datasets give back the statements. -/
  back : format.hasGraphs = true → ∃ parts,
    ds.flatten.mapM Dataset.toQuads? = .ok parts ∧ parts.flatten.Perm statements
  /-- In a format of triples, each triple is in the graph that the grouping names. -/
  named : format.hasGraphs = false → ∀ d ∈ ds.flatten, ∀ g ∈ d.toList, ∀ t ∈ g.2,
    g.1 = (grouping.term t).graphKey

theorem views_of_loaded_triples {statements : List Quad} (h : format.hasGraphs = false)
    (hdefault : ∀ q ∈ statements, q.graph = .default) {loaded : Partitions Triple}
    (hloaded : loaded.flatten = statements.map (·.toTriple)) :
    Views options.grouping format statements loaded (loaded.map (·.inGraph .default))
      (Resolver.oneGraphEach (options.grouping.group options.partitionCount loaded)) where
  triples := hloaded
  quads := by
    rw [Partitions.flatten_map, hloaded, List.map_map]
    conv_rhs => rw [← List.map_id statements]
    refine List.map_congr_left fun q hq => ?_
    show q.toTriple.inGraph .default = q
    rw [← hdefault q hq]
    rfl
  datasets := by
    rw [← hloaded, ← List.map_id loaded.flatten]
    exact Gathered.graphByGraph (options.grouping.group_gathers options.partitionCount loaded)
  back hgraphs := absurd hgraphs (by simp [h])
  named _ d hd g hg t ht := by
    have hgathered := options.grouping.group_gathers options.partitionCount loaded
    obtain ⟨g', hg', hd⟩ := mem_oneGraphEach hd
    rw [hd, List.mem_singleton] at hg
    subst hg
    rw [hgathered.group g hg', List.map_id] at ht
    rw [← TripleGrouping.key_eq]
    exact (of_decide_eq_true (List.mem_filter.mp ht).2).symm

theorem views_of_loaded_quads {loaded : Partitions Quad} (h : format.hasGraphs = true)
    (hnames : ∀ q ∈ loaded.flatten, q.graph.WellFormed) :
    Views options.grouping format loaded.flatten (loaded.map (·.toTriple)) loaded
      (Resolver.oneGraphEach (groupByGraph options.partitionCount loaded)) where
  triples := Partitions.flatten_map _ _
  quads := rfl
  datasets := Gathered.graphByGraph (groupByGraph_gathers options.partitionCount loaded)
  back _ := toQuads?_groupByGraph _ hnames
  named hgraphs := absurd hgraphs (by simp [h])

/-- **The views of a dump agree.** In the six formats with a standard loader, all three views report
the failure that keeps the dump from being read. Otherwise they all hold the statements that the
reader accepts, if it names graphs legally and names none in a format of triples. -/
theorem views_agree (hsource : source.format = .rdf format)
    (hformat : ∀ profiles, format ≠ .jsonLd profiles) :
    let r := standardResolver read options
    (∀ failure, accepted read files options source format = .error failure →
      r.triples files source = .error (.io failure) ∧ r.quads files source = .error (.io failure) ∧
        r.datasets files source = .error (.io failure)) ∧
    ∀ statements, accepted read files options source format = .ok statements →
      (∀ q ∈ statements, q.graph.WellFormed) →
      (format.hasGraphs = false → ∀ q ∈ statements, q.graph = .default) →
        ∃ triples quads datasets, r.triples files source = .ok triples ∧
          r.quads files source = .ok quads ∧ r.datasets files source = .ok datasets ∧
          Views options.grouping format statements triples quads datasets := by
  intro r
  cases hgraphs : format.hasGraphs with
  | false =>
    obtain ⟨ht, hq, hd⟩ := views_of_triples read files options hsource hgraphs
    refine ⟨fun failure hfailure => ?_, fun statements hread _ hdefault => ?_⟩
    · have hloaded : loadTriples read files source options = .error (.io failure) := by
        rw [loadTriples, loadQuads_eq read files options hsource, hfailure]
        rfl
      rw [ht, hq, hd, hloaded]
      exact ⟨rfl, rfl, rfl⟩
    · have hloaded : loadTriples read files source options =
          .ok ((Partitions.chunked options.partitionSize statements).map (·.toTriple)) := by
        rw [loadTriples, loadQuads_eq read files options hsource, hread]
        rfl
      rw [ht, hq, hd, hloaded]
      refine ⟨_, _, _, rfl, rfl, rfl, views_of_loaded_triples options hgraphs (hdefault rfl) ?_⟩
      rw [Partitions.flatten_map, Partitions.flatten_chunked]
  | true =>
    obtain ⟨ht, hq, hd⟩ := views_of_quads read files options hsource hgraphs hformat
    refine ⟨fun failure hfailure => ?_, fun statements hread hnames _ => ?_⟩
    · have hloaded : loadQuads read files source options = .error (.io failure) := by
        rw [loadQuads_eq read files options hsource, hfailure]
      rw [ht, hq, hd, hloaded]
      exact ⟨rfl, rfl, rfl⟩
    · have hloaded : loadQuads read files source options =
          .ok (Partitions.chunked options.partitionSize statements) := by
        rw [loadQuads_eq read files options hsource, hread]
      have hflatten := Partitions.flatten_chunked options.partitionSize statements
      rw [ht, hq, hd, hloaded]
      refine ⟨_, _, _, rfl, rfl, rfl, ?_⟩
      rw [← hflatten] at hnames
      have hviews := views_of_loaded_quads options hgraphs hnames
      rwa [hflatten] at hviews

end Loading

/-- A statement in a named graph, a line that is none, and a statement in the default graph; and a
file that is not there. -/
theorem views_agree_partly_malformed_and_missing :
    let text := "<x:s> <x:p> \"a\" <x:g> .\nno statement\n_:b <x:p> <x:o> .\n"
    let source : Source := ⟨.bytes (Utf8.encode text.toList), .rdf .nQuads⟩
    let statements : List Quad := [⟨⟨.iri "x:s", "x:p", .literal (.simple "a")⟩, .iri "x:g"⟩,
      ⟨⟨.blank "b", "x:p", .iri "x:o"⟩, .default⟩]
    let options : ViewOptions := { partitionSize := 1, partitionCount := 0 }
    let r := standardResolver Rdf.read options
    (∃ triples quads datasets, r.triples Files.empty source = .ok triples ∧
      r.quads Files.empty source = .ok quads ∧ r.datasets Files.empty source = .ok datasets ∧
      Views options.grouping .nQuads statements triples quads datasets) ∧
    r.datasets Files.empty ⟨.file "none.nt", .rdf .nTriples⟩ = .error (.io .missingFile) := by
  intro text source statements options r
  have haccepted : accepted Rdf.read Files.empty options source .nQuads = .ok statements := by
    have hoption : (accepted Rdf.read Files.empty options source .nQuads).toOption =
        some statements := by decide +kernel
    cases h : accepted Rdf.read Files.empty options source .nQuads with
    | error failure => simp [h, Except.toOption] at hoption
    | ok quads => simpa [h, Except.toOption] using hoption
  have hnames : ∀ q ∈ statements, q.graph.WellFormed := by
    have hgraph : IsIri "x:g" := by unfold IsIri; decide +kernel
    simp only [statements, List.forall_mem_cons]
    exact ⟨hgraph, trivial, by simp⟩
  have hquads := (@views_agree Rdf.read Files.empty options source .nQuads rfl (by simp)).2
    statements haccepted hnames (by decide)
  have hmissing := (@views_agree Rdf.read Files.empty options
    ⟨.file "none.nt", .rdf .nTriples⟩ .nTriples rfl (by simp)).1 .missingFile rfl
  exact ⟨hquads, hmissing.2.2⟩

end LinkedQueries
