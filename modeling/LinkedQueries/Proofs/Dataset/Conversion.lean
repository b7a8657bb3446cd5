import LinkedQueries.Proofs.Dataset.Content
import LinkedQueries.Proofs.Dataset.Names
import LinkedQueries.Proofs.Text.ByteOrder

/-!
# Datasets and quads

A dataset gives its quads one graph after the other, so quads that are sorted into a dataset come
back in the order of their graphs. One name that is no key keeps all quads from being given, even
that of an empty graph. The quads do not tell which empty graphs there were.

Results:
* `SortedByGraph.eq`: there is one stable order by graph.
* `Dataset.toQuads?_eq_ok`: the quads, if all names are keys.
* `Dataset.toQuads?_eq_error`: the error is about the first name that is none.
* `Dataset.quads_gathered`: the quads are those of the graphs that are not empty.
* **`quads_roundTrip`**: what is kept from quads to datasets and from datasets to quads.
-/

namespace LinkedQueries

/-! ## Quads in the order of their graphs -/

/-- The bytes of the key of a quad's graph. -/
def Quad.keyBytes (q : Quad) : List UInt8 :=
  Utf8.encode q.graph.key.toList

/-- The quads in the order of the bytes of the keys of their graphs, those of the default graph
first and those of each graph in the order in which they were. -/
structure SortedByGraph (quads sorted : List Quad) : Prop where
  perm : sorted.Perm quads
  ascending : sorted.Pairwise fun p q => p.keyBytes ≤ q.keyBytes
  defaultFirst : sorted.Pairwise fun p q => q.graph = .default → p.graph = .default
  stable : ∀ g : GraphName, sorted.filter (·.graph = g) = quads.filter (·.graph = g)

namespace SortedByGraph

variable {quads : List Quad}

/-- **There is one such order**, if all names are legal. -/
theorem eq {sorted sorted' : List Quad} (hnames : ∀ q ∈ quads, q.graph.WellFormed)
    (h : SortedByGraph quads sorted) (h' : SortedByGraph quads sorted') : sorted = sorted' := by
  refine eq_of_filter_eq h.ascending h'.ascending (fun p hp q hq hpq hqp => ?_) fun g =>
    (h.stable g).trans (h'.stable g).symm
  have hkey : p.graph.key = q.graph.key :=
    String.le_antisymm (Utf8.encode_le_iff.mp hpq) (Utf8.encode_le_iff.mp hqp)
  exact GraphName.key_inj (hnames p (h.perm.mem_iff.mp hp)) (hnames q (h'.perm.mem_iff.mp hq)) hkey

theorem eq_default_of_key_le {g : GraphName} (hg : g.WellFormed)
    (h : g.key ≤ GraphName.default.key) : g = .default := by
  refine GraphName.key_inj hg trivial (String.le_antisymm h (String.not_lt.mp fun hlt => ?_))
  exact List.not_lt_nil _ (String.lt_iff.mp hlt)

/-- The quads of one graph of a dataset after the other. -/
theorem of_keys {d : Dataset} (hnames : ∀ q ∈ quads, q.graph.WellFormed)
    (hkeys : ∀ q ∈ quads, q.graph.key ∈ d.graphs.keys) :
    SortedByGraph quads (d.graphs.keys.flatMap fun key => quads.filter (·.graph.key = key)) := by
  have hnodup := d.graphs.nodup_keys
  have hperm := Partitions.flatMap_filter_perm (fun q : Quad => q.graph.key) hnodup quads hkeys
  have hkey : ∀ {key : String} {q : Quad}, q ∈ quads.filter (·.graph.key = key) →
      q.graph.key = key := fun hq => of_decide_eq_true (List.mem_filter.mp hq).2
  have hle : (d.graphs.keys.flatMap fun key => quads.filter (·.graph.key = key)).Pairwise
      fun p q => p.graph.key ≤ q.graph.key := by
    rw [List.pairwise_flatMap]
    constructor
    · refine fun key _ => List.pairwise_of_forall_mem_list fun p hp q hq => ?_
      exact ((hkey hp).trans (hkey hq).symm) ▸ String.le_refl _
    · refine d.graphs.keys_ascending.imp fun hlt p hp q hq => ?_
      rw [hkey hp, hkey hq]
      exact Std.le_of_lt hlt
  refine ⟨hperm, hle.imp Utf8.encode_le_iff.mpr, hle.imp_of_mem fun hp _ h hq => ?_, fun g => ?_⟩
  · exact eq_default_of_key_le (hnames _ (hperm.mem_iff.mp hp)) (hq ▸ h)
  · exact filter_flatMap_filter hnodup hkeys fun q _ hq =>
      congrArg GraphName.key (of_decide_eq_true hq)

end SortedByGraph

/-! ## Datasets and their quads -/

namespace Dataset

/-- The dataset of the graphs that have triples. -/
def withoutEmpty (d : Dataset) : Dataset :=
  ⟨⟨d.toList.filter (·.2 ≠ []), d.graphs.ascending.filter _⟩⟩

variable {d : Dataset}

theorem mem_withoutEmpty {g : String × List Triple} :
    g ∈ d.withoutEmpty.toList ↔ g ∈ d.toList ∧ g.2 ≠ [] := by
  refine List.mem_filter.trans ?_
  rw [decide_eq_true_iff]

/-- **The quads of a dataset**, if all names are keys. -/
theorem toQuads?_eq_ok (h : ∀ g ∈ d.toList, GraphName.IsKey g.1) :
    d.toQuads? = .ok (d.toList.flatMap fun g => g.2.map (·.inGraph (nameOfKey g.1))) := by
  have hgraphs : (d.toList.mapM fun g => graphQuads? g.1 g.2) =
      .ok (d.toList.map fun g => g.2.map (·.inGraph (nameOfKey g.1))) := by
    refine mapM_eq_pure fun g hg => ?_
    rw [graphQuads?, GraphName.ofKey?_nameOfKey (h g hg)]
    rfl
  rw [List.flatMap_def]
  exact congrArg (Except.map List.flatten) hgraphs

theorem isKey_of_graphQuads? {name : String} {triples : List Triple} {quads : List Quad}
    (h : graphQuads? name triples = .ok quads) : GraphName.IsKey name := by
  obtain ⟨g, hg, -⟩ := map_eq_ok.mp h
  exact GraphName.isKey_iff.mpr ⟨g, hg⟩

theorem isKey_of_toQuads? {quads : List Quad} (h : d.toQuads? = .ok quads) :
    ∀ g ∈ d.toList, GraphName.IsKey g.1 := by
  intro g hg
  obtain ⟨parts, hparts, -⟩ := map_eq_ok.mp h
  obtain ⟨part, hpart⟩ := exists_of_mapM_eq_ok hparts g hg
  exact isKey_of_graphQuads? hpart

/-- **The error** is about the first name that is no key. -/
theorem toQuads?_eq_error {e : InvalidGraphKey} (h : d.toQuads? = .error e) :
    (∃ g ∈ d.toList, g.1 = e.key) ∧ ¬ GraphName.IsKey e.key ∧
      ∀ g ∈ d.toList, ¬ GraphName.IsKey g.1 → e.key ≤ g.1 := by
  obtain ⟨n, ⟨g, hn, hfails⟩, hbefore⟩ := mapM_eq_error.mp (map_eq_error.mp h)
  have hname : GraphName.ofKey? g.1 = .error e := map_eq_error.mp hfails
  rw [GraphName.key_of_ofKey?_eq_error hname]
  refine ⟨⟨g, List.mem_of_getElem? hn, rfl⟩, fun hg => ?_, fun g' hg' hillegal => ?_⟩
  · rw [GraphName.ofKey?_nameOfKey hg] at hname
    cases hname
  · obtain ⟨m, hm⟩ := List.mem_iff_getElem?.mp hg'
    rcases Nat.lt_trichotomy m n with hlt | rfl | hgt
    · obtain ⟨quads, hquads⟩ := hbefore m hlt g' hm
      exact absurd (isKey_of_graphQuads? hquads) hillegal
    · have hsame : g = g' := Option.some.inj (hn.symm.trans hm)
      exact hsame ▸ String.le_refl _
    · obtain ⟨hnlt, rfl⟩ := List.getElem?_eq_some_iff.mp hn
      obtain ⟨hmlt, rfl⟩ := List.getElem?_eq_some_iff.mp hm
      exact Std.le_of_lt (List.pairwise_iff_getElem.mp d.graphs.ascending n m hnlt hmlt hgt)

theorem toQuads?_error_iff :
    (∃ e, d.toQuads? = .error e) ↔ ∃ g ∈ d.toList, ¬ GraphName.IsKey g.1 := by
  constructor
  · rintro ⟨e, he⟩
    obtain ⟨⟨g, hg, hkey⟩, hillegal, -⟩ := toQuads?_eq_error he
    exact ⟨g, hg, hkey ▸ hillegal⟩
  · rintro ⟨g, hg, hillegal⟩
    cases hquads : d.toQuads? with
    | error e => exact ⟨e, rfl⟩
    | ok quads => exact absurd (isKey_of_toQuads? hquads g hg) hillegal

/-- **The quads of a dataset** are those of its graphs that are not empty. -/
theorem quads_gathered (h : ∀ g ∈ d.toList, GraphName.IsKey g.1) :
    Partitions.Gathered (·.graph.key) (·.toTriple)
      (d.toList.flatMap fun g => g.2.map (·.inGraph (nameOfKey g.1))) d.withoutEmpty.toList where
  nodup := d.withoutEmpty.graphs.nodup_keys
  group g hg := by
    obtain ⟨hg, -⟩ := mem_withoutEmpty.mp hg
    have hnodup : d.toList.Nodup := .of_map _ d.graphs.nodup_keys
    have hkey : ∀ g' ∈ d.toList, ∀ q ∈ g'.2.map (·.inGraph (nameOfKey g'.1)), q.graph.key = g'.1 := by
      intro g' hg' q hq
      obtain ⟨t, -, rfl⟩ := List.mem_map.mp hq
      exact GraphName.key_nameOfKey (h g' hg')
    have hothers : ∀ g' ∈ d.toList, g' ≠ g →
        (g'.2.map (·.inGraph (nameOfKey g'.1))).filter (·.graph.key = g.1) = [] := by
      intro g' hg' hne
      refine List.filter_eq_nil_iff.mpr fun q hq hqkey => hne ?_
      refine List.inj_on_of_nodup_map d.graphs.nodup_keys hg' hg ?_
      exact (hkey g' hg' q hq).symm.trans (of_decide_eq_true hqkey)
    have hown : (g.2.map (·.inGraph (nameOfKey g.1))).filter (·.graph.key = g.1) =
        g.2.map (·.inGraph (nameOfKey g.1)) :=
      List.filter_eq_self.mpr fun q hq => decide_eq_true (hkey g hg q hq)
    rw [List.filter_flatMap, flatMap_eq_of_nodup hnodup hg hothers, hown, List.map_map]
    exact (List.map_id g.2).symm
  nonempty g hg := (mem_withoutEmpty.mp hg).2
  covered q hq := by
    obtain ⟨g, hg, hq⟩ := List.mem_flatMap.mp hq
    obtain ⟨t, ht, rfl⟩ := List.mem_map.mp hq
    refine List.mem_map.mpr ⟨g, mem_withoutEmpty.mpr ⟨hg, List.ne_nil_of_mem ht⟩, ?_⟩
    exact (GraphName.key_nameOfKey (h g hg)).symm

/-- Sorting quads into a dataset orders them by graph. -/
theorem toQuads?_ofQuads {quads : List Quad} (h : ∀ q ∈ quads, q.graph.WellFormed) :
    ∃ sorted, (ofQuads quads).toQuads? = .ok sorted ∧ SortedByGraph quads sorted := by
  have hgathered := ofQuads_gathers quads
  have hnames : ∀ g ∈ (ofQuads quads).toList, GraphName.IsKey g.1 := by
    intro g hg
    obtain ⟨q, hq, hkey⟩ := hgathered.exists_of_mem hg
    exact hkey ▸ GraphName.isKey_key (h q hq)
  refine ⟨_, toQuads?_eq_ok hnames, ?_⟩
  rw [hgathered.flatMap_eq fun key t => t.inGraph (nameOfKey key), List.map_flatMap]
  have hsame : ∀ key : String, ((quads.filter (·.graph.key = key)).map fun q =>
      q.toTriple.inGraph (nameOfKey q.graph.key)) = quads.filter (·.graph.key = key) :=
    fun key => map_inGraph_nameOfKey fun q hq => h q (List.mem_filter.mp hq).1
  simp only [hsame]
  exact .of_keys h hgathered.covered

end Dataset

/-- **Datasets and quads are turned into each other.** The quads of a dataset of quads with legal
names are these quads in the stable order of the bytes of their graphs' keys, the default graph
first. The quads of a dataset are refused iff a name, be it that of an empty graph, is neither empty
nor that of a blank node nor an IRI; the error is about the first such name. Otherwise the dataset of
its quads is the dataset without its empty graphs, and there are as many quads as triples. -/
theorem quads_roundTrip :
    (∀ quads : List Quad, (∀ q ∈ quads, q.graph.WellFormed) →
      ∃ sorted, (Dataset.ofQuads quads).toQuads? = .ok sorted ∧ SortedByGraph quads sorted ∧
        ∀ other, SortedByGraph quads other → other = sorted) ∧
    ∀ d : Dataset,
      ((∃ e, d.toQuads? = .error e) ↔ ∃ g ∈ d.toList, ¬ GraphName.IsKey g.1) ∧
      (∀ e, d.toQuads? = .error e →
        (∃ g ∈ d.toList, g.1 = e.key) ∧ ¬ GraphName.IsKey e.key ∧
          ∀ g ∈ d.toList, ¬ GraphName.IsKey g.1 → e.key ≤ g.1) ∧
      ∀ quads, d.toQuads? = .ok quads →
        Dataset.ofQuads quads = d.withoutEmpty ∧ quads.length = d.tripleCount := by
  refine ⟨fun quads h => ?_, fun d => ⟨Dataset.toQuads?_error_iff,
    fun e => Dataset.toQuads?_eq_error, fun quads hquads => ?_⟩⟩
  · obtain ⟨sorted, hsorted, horder⟩ := Dataset.toQuads?_ofQuads h
    exact ⟨sorted, hsorted, horder, fun other hother => hother.eq h horder⟩
  · have hnames := Dataset.isKey_of_toQuads? hquads
    obtain rfl := Except.ok.inj (hquads.symm.trans (Dataset.toQuads?_eq_ok hnames))
    refine ⟨Dataset.eq_of_gathered (Dataset.ofQuads_gathers _) (Dataset.quads_gathered hnames), ?_⟩
    rw [length_flatMap_eq_total]
    simp only [List.length_map]
    rfl

/-- Quads of three graphs that take turns; a dataset with an empty graph between two others; and the
same with an empty graph whose name lacks a scheme. -/
theorem quads_roundTrip_interleaved :
    let about (object : String) : Triple := ⟨.iri "x:s", "x:p", .iri object⟩
    let g : GraphName := .iri "x:g"
    let quads := [(about "x:3").inGraph g, (about "x:2").inGraph (.blank "b"),
      (about "x:1").inGraph g, (about "x:1").inGraph .default, (about "x:3").inGraph g]
    let held := ((Dataset.ofGraph "x:g" [about "x:2", about "x:1"]).insert "_:b" []).insert ""
      [about "x:2"]
    SortedByGraph quads [(about "x:1").inGraph .default, (about "x:2").inGraph (.blank "b"),
      (about "x:3").inGraph g, (about "x:1").inGraph g, (about "x:3").inGraph g] ∧
    (Dataset.ofQuads [(about "x:2").inGraph .default, (about "x:2").inGraph g,
      (about "x:1").inGraph g] = held.withoutEmpty ∧ held.tripleCount = 3 ∧ held.size = 3) ∧
    ¬ GraphName.IsKey "no scheme" ∧
    ∃ e, (held.insert "no scheme" []).toQuads? = .error e := by
  intro about g quads held
  have hg : g.WellFormed := by
    show IsIri "x:g"
    unfold IsIri
    decide +kernel
  have hb : (GraphName.blank "b").WellFormed := by
    show isBlankLabel "b".toList = true
    decide +kernel
  have hnames : ∀ q ∈ quads, q.graph.WellFormed := by
    intro q hq
    simp only [quads, List.mem_cons, List.not_mem_nil, or_false] at hq
    rcases hq with rfl | rfl | rfl | rfl | rfl
    · exact hg
    · exact hb
    · exact hg
    · exact trivial
    · exact hg
  obtain ⟨hquads, hdatasets⟩ := quads_roundTrip
  obtain ⟨sorted, hsorted, horder, -⟩ := hquads quads hnames
  have hgiven : (Dataset.ofQuads quads).toQuads? = .ok [(about "x:1").inGraph .default,
      (about "x:2").inGraph (.blank "b"), (about "x:3").inGraph g, (about "x:1").inGraph g,
      (about "x:3").inGraph g] := by decide +kernel
  have hheld : held.toQuads? = .ok [(about "x:2").inGraph .default, (about "x:2").inGraph g,
      (about "x:1").inGraph g] := by decide +kernel
  have hrefused : (held.insert "no scheme" []).toQuads? =
      .error ⟨"no scheme", .iri (.codePoint ' ')⟩ := by decide +kernel
  obtain ⟨hback, hcount⟩ := (hdatasets held).2.2 _ hheld
  have hillegal := ((hdatasets (held.insert "no scheme" [])).2.1 _ hrefused).2.1
  refine ⟨Except.ok.inj (hsorted.symm.trans hgiven) ▸ horder, ⟨hback, hcount.symm, rfl⟩, hillegal,
    _, hrefused⟩

end LinkedQueries
