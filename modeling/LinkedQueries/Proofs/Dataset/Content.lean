import LinkedQueries.Proofs.View.Agreement
import Mathlib.Data.List.Induction

/-!
# What a dataset holds

A dataset is told by its graphs, in whatever order they are listed. Quads are sorted into it one by
one, groups of triples are added as a whole; both gather the triples of each graph.

Results:
* `Dataset.eq_of_perm`: datasets with the same graphs are the same.
* `Dataset.graph?_ofQuads`, `Dataset.ofQuads_gathers`: the triples of a graph are those of its
  quads, in order.
* `Dataset.toList_insertAll_perm`: graphs with names of their own are there as they were added.
* **`groupByGraph_agrees`**: groups make up the dataset of the quads, in whatever order they are
  added.
-/

namespace LinkedQueries

namespace Dataset

/-! ## Graphs -/

theorem mem_toList_iff {d : Dataset} {name : String} {triples : List Triple} :
    (name, triples) ∈ d.toList ↔ d.graph? name = some triples :=
  d.graphs.mem_entries_iff

/-- **Datasets with the same graphs** are the same: there is one way to list them. -/
theorem eq_of_perm {d e : Dataset} (h : d.toList.Perm e.toList) : d = e := by
  have hentries : d.toList = e.toList :=
    h.eq_of_pairwise (fun g g' _ _ hlt hgt => absurd (String.lt_trans hlt hgt) (String.lt_irrefl _))
      d.graphs.ascending e.graphs.ascending
  obtain ⟨graphs⟩ := d
  exact congrArg mk (Keyed.ext hentries)

/-- Datasets that gather the same elements are the same. -/
theorem eq_of_gathered {α : Type} {key : α → String} {value : α → Triple} {xs : List α}
    {d e : Dataset} (hd : Partitions.Gathered key value xs d.toList)
    (he : Partitions.Gathered key value xs e.toList) : d = e :=
  eq_of_perm (hd.perm_gathered.trans he.perm_gathered.symm)

theorem graph?_insert (d : Dataset) (name other : String) (triples : List Triple) :
    (d.insert name triples).graph? other =
      if other = name then some ((d.graph? name).getD [] ++ triples) else d.graph? other :=
  d.graphs.find?_alter name other _

/-! ## Quads one by one -/

/-- **The triples of a graph** are those of its quads, in order. -/
theorem graph?_ofQuads (quads : List Quad) (name : String) :
    (ofQuads quads).graph? name =
      if quads.filter (·.graph.key = name) = [] then none
      else some ((quads.filter (·.graph.key = name)).map (·.toTriple)) := by
  induction quads using List.reverseRecOn with
  | nil => rfl
  | append_singleton quads q ih =>
    have hstep : ofQuads (quads ++ [q]) = (ofQuads quads).insert q.graph.key [q.toTriple] :=
      List.foldl_concat _ empty q quads
    rw [hstep, graph?_insert, List.filter_append, List.map_append]
    by_cases hname : name = q.graph.key
    · subst hname
      rw [if_pos rfl, ih]
      by_cases hnone : quads.filter (·.graph.key = q.graph.key) = []
      · simp [hnone]
      · simp [hnone]
    · rw [if_neg hname, ih]
      simp [Ne.symm hname]

theorem ofQuads_gathers (quads : List Quad) :
    Partitions.Gathered (·.graph.key) (·.toTriple) quads (ofQuads quads).toList := by
  have hmem : ∀ {g : String × List Triple}, g ∈ (ofQuads quads).toList →
      quads.filter (·.graph.key = g.1) ≠ [] ∧
        (quads.filter (·.graph.key = g.1)).map (·.toTriple) = g.2 := by
    intro g hg
    have hgraph := mem_toList_iff.mp hg
    rw [graph?_ofQuads] at hgraph
    split at hgraph
    · cases hgraph
    · next hne => exact ⟨hne, Option.some.inj hgraph⟩
  refine ⟨(ofQuads quads).graphs.nodup_keys, fun g hg => (hmem hg).2.symm, fun g hg => ?_,
    fun q hq => ?_⟩
  · rw [← (hmem hg).2]
    exact fun hnil => (hmem hg).1 (List.map_eq_nil_iff.mp hnil)
  · let triples := (quads.filter (·.graph.key = q.graph.key)).map (·.toTriple)
    refine List.mem_map.mpr ⟨(q.graph.key, triples), mem_toList_iff.mpr ?_, rfl⟩
    rw [graph?_ofQuads, if_neg]
    exact List.ne_nil_of_mem (List.mem_filter.mpr ⟨hq, decide_eq_true rfl⟩)

/-! ## Graphs as a whole -/

/-- Adds some graphs one after the other. -/
def insertAll (d : Dataset) (graphs : List (String × List Triple)) : Dataset :=
  graphs.foldl (fun d g => d.insert g.1 g.2) d

theorem toList_insert_perm {d : Dataset} {name : String} (h : d.graph? name = none)
    (triples : List Triple) :
    (d.insert name triples).toList.Perm ((name, triples) :: d.toList) :=
  d.graphs.entries_alter_perm h _

/-- **Graphs with names of their own** are there as they were added. -/
theorem toList_insertAll_perm {graphs : List (String × List Triple)} {d : Dataset}
    (hnodup : (graphs.map (·.1)).Nodup) (hnew : ∀ g ∈ graphs, d.graph? g.1 = none) :
    (d.insertAll graphs).toList.Perm (graphs ++ d.toList) := by
  induction graphs generalizing d with
  | nil => rfl
  | cons g rest ih =>
    rw [List.map_cons, List.nodup_cons] at hnodup
    obtain ⟨hg, hrest⟩ := List.forall_mem_cons.mp hnew
    have hstill : ∀ g' ∈ rest, (d.insert g.1 g.2).graph? g'.1 = none := by
      intro g' hg'
      have hne : g'.1 ≠ g.1 := fun heq => hnodup.1 (heq ▸ List.mem_map_of_mem hg')
      rw [graph?_insert, if_neg hne]
      exact hrest g' hg'
    exact ((ih hnodup.2 hstill).trans ((toList_insert_perm hg g.2).append_left rest)).trans
      List.perm_middle

end Dataset

/-- **Two ways of grouping quads by graph agree.** However the quads are cut and over however many
partitions the groups are spread, adding the groups to the empty dataset, in any order, gives the
dataset of the quads, which holds the triples of each graph in order and with their repetitions. No
group is empty, and no two have one name. -/
theorem groupByGraph_agrees (count : Nat) (quads : Partitions Quad) :
    (∀ groups : List (String × List Triple), groups.Perm (groupByGraph count quads).flatten →
      Dataset.empty.insertAll groups = Dataset.ofQuads quads.flatten) ∧
    Partitions.Gathered (·.graph.key) (·.toTriple) quads.flatten
      (Dataset.ofQuads quads.flatten).toList ∧
    (∀ g ∈ (groupByGraph count quads).flatten, g.2 ≠ []) ∧
    ((groupByGraph count quads).flatten.map (·.1)).Nodup := by
  have hgroups := groupByGraph_gathers count quads
  have hquads := Dataset.ofQuads_gathers quads.flatten
  refine ⟨fun groups hperm => ?_, hquads, hgroups.nonempty, hgroups.nodup⟩
  have hadded : (Dataset.empty.insertAll groups).toList.Perm groups := by
    have h := @Dataset.toList_insertAll_perm groups Dataset.empty
      ((hperm.map Prod.fst).nodup_iff.mpr hgroups.nodup) fun _ _ => rfl
    rwa [show Dataset.empty.toList = [] from rfl, List.append_nil] at h
  exact Dataset.eq_of_gathered (hgroups.of_perm (hadded.trans hperm)) hquads

/-- Three statements in one graph, two of them alike, and one between them in the default graph. -/
theorem groupByGraph_agrees_interleaved :
    let about (object : String) : Triple := ⟨.iri "x:s", "x:p", .iri object⟩
    let g : GraphName := .iri "x:g"
    let quads : Partitions Quad := ⟨[[(about "x:b").inGraph g, (about "x:c").inGraph .default], [],
      [(about "x:b").inGraph g, (about "x:a").inGraph g]]⟩
    let groups := (groupByGraph 3 quads).flatten
    groups.reverse ≠ groups ∧
    (Dataset.empty.insertAll groups.reverse).toList =
      [("", [about "x:c"]), ("x:g", [about "x:b", about "x:b", about "x:a"])] := by
  intro about g quads groups
  have hagrees := (groupByGraph_agrees 3 quads).1 groups.reverse groups.reverse_perm
  refine ⟨by decide +kernel, ?_⟩
  rw [hagrees]
  decide +kernel

end LinkedQueries
