import LinkedQueries.Bgp.Graph
import Mathlib.Data.List.Induction
import Mathlib.Data.List.Nodup
import Mathlib.Data.Option.Basic

/-!
# The join graph represents its patterns

A join graph keeps four things in step: the vertices, the index that finds them, the edges and the
degrees. `Represents` says that it stands for a list of triple patterns, and adding a pattern
preserves that.

* `Indexed`: no two vertices have one term, and the index finds each term where its vertex is.
* `Denotes`: the vertices of an edge are those of the distinct terms of its pattern, in order of
  first occurrence.

Results:
* `represents_addPattern`: one more pattern is represented after it has been added.
* `represents_ofPatterns`: the graph that is built from some patterns represents them.
* **`ofPatterns_exact`**: so its patterns, vertices, index, edges and degrees are what the patterns
  say.
-/

namespace LinkedQueries

/-! ## Distinct elements in order of first occurrence -/

section FirstOccurrence

variable {α : Type} [DecidableEq α]

theorem eraseDups_concat (xs : List α) (x : α) :
    (xs ++ [x]).eraseDups = if x ∈ xs then xs.eraseDups else xs.eraseDups ++ [x] := by
  rw [List.eraseDups_append]
  by_cases hx : x ∈ xs
  · simp [List.removeAll, hx]
  · simp [List.removeAll, hx, List.eraseDups_cons]

theorem nodup_eraseDups (xs : List α) : xs.eraseDups.Nodup := by
  induction xs using List.reverseRecOn with
  | nil => exact List.nodup_nil
  | append_singleton xs x ih =>
    rw [eraseDups_concat]
    split
    · exact ih
    · rename_i hx
      rw [← List.concat_eq_append]
      exact ih.concat fun h => hx (List.mem_eraseDups.mp h)

end FirstOccurrence

namespace JoinGraph

variable {g g' : JoinGraph} {p : TriplePattern} {ps : List TriplePattern}
  {ts : List TermPattern} {connected : List Nat}

/-- The terms of the vertices, in order. -/
def terms (g : JoinGraph) : List TermPattern := g.vertices.map (·.term)

/-- The terms of the vertices are distinct, and the index finds each of them where it is. -/
structure Indexed (g : JoinGraph) : Prop where
  nodup : g.terms.Nodup
  lookup : ∀ t i, g.indexOf? t = some i ↔ g.terms[i]? = some t

/-- The vertices at the indices are those of the distinct terms, in order of first occurrence. -/
def Denotes (g : JoinGraph) (indices : List Nat) (ts : List TermPattern) : Prop :=
  indices.map (g.terms[·]?) = ts.eraseDups.map some

theorem length_terms (g : JoinGraph) : g.terms.length = g.vertices.length := List.length_map _

theorem indexed_empty : empty.Indexed :=
  ⟨List.nodup_nil, fun t i => by simp [indexOf?, empty, terms]⟩

/-- A term that the index does not find has no vertex. -/
theorem Indexed.not_mem (hg : g.Indexed) {t : TermPattern} (h : g.indexOf? t = none) :
    t ∉ g.terms := by
  intro ht
  obtain ⟨i, hi⟩ := List.mem_iff_getElem?.mp ht
  rw [(hg.lookup t i).mpr hi] at h
  exact absurd h (by simp)

/-- Equal terms are the term of one vertex. -/
theorem Indexed.index_inj (hg : g.Indexed) {i j : Nat} {t : TermPattern}
    (hi : g.terms[i]? = some t) (hj : g.terms[j]? = some t) : i = j := by
  have h := (hg.lookup t i).mpr hi
  rw [(hg.lookup t j).mpr hj] at h
  exact (Option.some.inj h).symm

/-! ## What the indices of an edge denote -/

theorem Denotes.mem_iff (hd : g.Denotes connected ts) (hg : g.Indexed) {i : Nat}
    {t : TermPattern} (hi : g.terms[i]? = some t) : i ∈ connected ↔ t ∈ ts := by
  constructor
  · intro h
    have hm : some t ∈ ts.eraseDups.map some := hd ▸ List.mem_map.mpr ⟨i, h, hi⟩
    obtain ⟨u, hu, he⟩ := List.mem_map.mp hm
    exact Option.some.inj he ▸ List.mem_eraseDups.mp hu
  · intro h
    have hm : some t ∈ connected.map (g.terms[·]?) :=
      hd ▸ List.mem_map.mpr ⟨t, List.mem_eraseDups.mpr h, rfl⟩
    obtain ⟨j, hj, he⟩ := List.mem_map.mp hm
    exact hg.index_inj hi he ▸ hj

theorem Denotes.lt_length (hd : g.Denotes connected ts) {i : Nat} (hi : i ∈ connected) :
    i < g.vertices.length := by
  have hm : g.terms[i]? ∈ ts.eraseDups.map some := hd ▸ List.mem_map.mpr ⟨i, hi, rfl⟩
  obtain ⟨t, -, ht⟩ := List.mem_map.mp hm
  rw [← length_terms]
  exact (List.getElem?_eq_some_iff.mp ht.symm).1

theorem Denotes.nodup (hd : g.Denotes connected ts) : connected.Nodup := by
  have h : (ts.eraseDups.map some).Nodup :=
    (nodup_eraseDups ts).map (Option.some_injective _)
  rw [← hd] at h
  exact List.Nodup.of_map _ h

/-- Vertices that are added at the end leave what the indices denote as it is. -/
theorem Denotes.mono (hd : g.Denotes connected ts) (h : g.terms <+: g'.terms) :
    g'.Denotes connected ts := by
  obtain ⟨more, hm⟩ := h
  unfold Denotes
  rw [← hd]
  refine List.map_congr_left fun i hi => ?_
  have hlt : i < g.terms.length := by
    rw [length_terms]
    exact hd.lt_length hi
  rw [← hm, List.getElem?_append_left hlt]

/-! ## The vertex of a term -/

theorem terms_withVertex (g : JoinGraph) (t : TermPattern) :
    (g.withVertex t).terms = g.terms ++ [t] := by
  unfold terms withVertex
  rw [List.map_append, List.map_singleton]

theorem getElem?_terms_withVertex (g : JoinGraph) (t u : TermPattern) (i : Nat) :
    (g.withVertex t).terms[i]? = some u ↔
      g.terms[i]? = some u ∨ (i = g.vertices.length ∧ u = t) := by
  rw [terms_withVertex, List.getElem?_append, ← length_terms]
  split
  · rename_i hlt
    simp [Nat.ne_of_lt hlt]
  · rename_i hge
    have hnone : g.terms[i]? = none := List.getElem?_eq_none (Nat.le_of_not_lt hge)
    rw [hnone, List.getElem?_singleton]
    split
    · rename_i h0
      have hi : i = g.terms.length := by omega
      simp [hi, eq_comm]
    · rename_i h0
      have hi : i ≠ g.terms.length := by omega
      simp [hi]

theorem indexed_withVertex (hg : g.Indexed) {t : TermPattern} (ht : t ∉ g.terms) :
    (g.withVertex t).Indexed := by
  refine ⟨?_, fun u i => ?_⟩
  · rw [terms_withVertex, ← List.concat_eq_append]
    exact hg.nodup.concat ht
  · rw [getElem?_terms_withVertex, ← hg.lookup u i]
    unfold indexOf? withVertex
    rw [List.lookup_cons]
    by_cases hu : u = t
    · have hnone : g.index.lookup u ≠ some i := fun h =>
        ht (hu ▸ List.mem_of_getElem? ((hg.lookup u i).mp h))
      simp [hu ▸ hnone, hu, eq_comm]
    · simp [hu, beq_eq_false_iff_ne.mpr hu]

/-- What asking for the vertex of a term leaves and gives: the term is added at the end unless it
has a vertex, and the index given is that of its vertex. -/
theorem vertexFor_spec (hg : g.Indexed) (t : TermPattern) :
    (g.vertexFor t).1.Indexed ∧
    (g.vertexFor t).1.terms = (if t ∈ g.terms then g.terms else g.terms ++ [t]) ∧
    (g.vertexFor t).1.terms[(g.vertexFor t).2]? = some t := by
  unfold vertexFor
  split
  · rename_i i hi
    have ht := (hg.lookup t i).mp hi
    exact ⟨hg, by rw [if_pos (List.mem_of_getElem? ht)], ht⟩
  · rename_i hnone
    have ht := hg.not_mem hnone
    exact ⟨indexed_withVertex hg ht, by rw [if_neg ht, terms_withVertex],
      (getElem?_terms_withVertex g t t _).mpr (Or.inr ⟨rfl, rfl⟩)⟩

/-- Asking for a vertex adds vertices without edges only. -/
theorem vertexFor_vertices (g : JoinGraph) (t : TermPattern) :
    ∃ new, (g.vertexFor t).1.vertices = g.vertices ++ new ∧ ∀ v ∈ new, v.degree = 0 := by
  unfold vertexFor
  split
  · exact ⟨[], (List.append_nil _).symm, fun v h => absurd h List.not_mem_nil⟩
  · exact ⟨_, rfl, fun v h => by rw [List.mem_singleton.mp h]⟩

theorem vertexFor_edges (g : JoinGraph) (t : TermPattern) : (g.vertexFor t).1.edges = g.edges := by
  unfold vertexFor
  split <;> rfl

/-! ## The terms of a pattern -/

/-- **One more term of a pattern.** The term has a vertex then, and the connected vertices denote
one more term. -/
theorem connect_spec (hg : g.Indexed) (hd : g.Denotes connected ts) (t : TermPattern) :
    (g.connect connected t).1.Indexed ∧
    (g.connect connected t).1.terms = (if t ∈ g.terms then g.terms else g.terms ++ [t]) ∧
    (g.connect connected t).1.Denotes (g.connect connected t).2 (ts ++ [t]) := by
  obtain ⟨hg', hterms, ht⟩ := vertexFor_spec hg t
  have hpre : g.terms <+: (g.vertexFor t).1.terms := by
    rw [hterms]
    split
    · exact List.prefix_refl _
    · exact List.prefix_append _ _
  have hd' := hd.mono hpre
  refine ⟨hg', hterms, ?_⟩
  show (g.vertexFor t).1.Denotes
    (if connected.contains (g.vertexFor t).2 then connected
      else connected ++ [(g.vertexFor t).2]) (ts ++ [t])
  unfold Denotes
  rw [eraseDups_concat]
  by_cases hm : t ∈ ts
  · have hc : connected.contains (g.vertexFor t).2 = true :=
      List.contains_iff_mem.mpr ((hd'.mem_iff hg' ht).mpr hm)
    rw [if_pos hc, if_pos hm]
    exact hd'
  · have hc : ¬ connected.contains (g.vertexFor t).2 = true := fun h =>
      hm ((hd'.mem_iff hg' ht).mp (List.contains_iff_mem.mp h))
    rw [if_neg hc, if_neg hm, List.map_append, List.map_append, List.map_singleton,
      List.map_singleton, ht]
    exact congrArg (· ++ [some t]) hd'

theorem connectAll_concat (g : JoinGraph) (ts : List TermPattern) (t : TermPattern) :
    g.connectAll (ts ++ [t]) = (g.connectAll ts).1.connect (g.connectAll ts).2 t := by
  unfold connectAll
  rw [List.foldl_append]
  rfl

/-- The terms of a pattern leave the edges alone and add vertices without edges only. -/
theorem connectAll_frame (g : JoinGraph) (ts : List TermPattern) :
    (g.connectAll ts).1.edges = g.edges ∧
    ∃ new, (g.connectAll ts).1.vertices = g.vertices ++ new ∧ ∀ v ∈ new, v.degree = 0 := by
  induction ts using List.reverseRecOn with
  | nil => exact ⟨rfl, [], (List.append_nil _).symm, fun v h => absurd h List.not_mem_nil⟩
  | append_singleton ts t ih =>
    obtain ⟨he, new, hv, hnew⟩ := ih
    obtain ⟨more, hv', hmore⟩ := vertexFor_vertices (g.connectAll ts).1 t
    rw [connectAll_concat]
    refine ⟨(vertexFor_edges _ t).trans he, new ++ more, ?_, fun v h => ?_⟩
    · rw [← List.append_assoc, ← hv]
      exact hv'
    · rcases List.mem_append.mp h with h | h
      · exact hnew v h
      · exact hmore v h

/-- **All terms of a pattern.** Each has a vertex then, and the connected vertices denote the
distinct ones among them. -/
theorem connectAll_spec (hg : g.Indexed) {us : List TermPattern} (hu : g.terms = us.eraseDups)
    (ts : List TermPattern) :
    (g.connectAll ts).1.Indexed ∧ (g.connectAll ts).1.terms = (us ++ ts).eraseDups ∧
    (g.connectAll ts).1.Denotes (g.connectAll ts).2 ts := by
  induction ts using List.reverseRecOn with
  | nil => exact ⟨hg, by rw [List.append_nil]; exact hu, rfl⟩
  | append_singleton ts t ih =>
    obtain ⟨hg', hterms, hd⟩ := ih
    obtain ⟨h1, h2, h3⟩ := connect_spec hg' hd t
    rw [connectAll_concat]
    refine ⟨h1, ?_, h3⟩
    rw [h2, hterms, ← List.append_assoc, eraseDups_concat]
    simp only [List.mem_eraseDups]

/-! ## Degrees -/

theorem getElem?_raise (vs : List JoinVertex) (i j : Nat) :
    (raise vs i)[j]? =
      vs[j]?.map fun v => if i = j then { v with degree := v.degree + 1 } else v := by
  unfold raise
  rw [List.getElem?_modify]
  rfl

/-- Raising distinct vertices raises each of them once and leaves the others. -/
theorem getElem?_foldl_raise : ∀ (indices : List Nat) (vs : List JoinVertex) (j : Nat),
    indices.Nodup → (indices.foldl raise vs)[j]? =
      vs[j]?.map fun v => if j ∈ indices then { v with degree := v.degree + 1 } else v
  | [], vs, j, _ => by simp
  | i :: indices, vs, j, h => by
    obtain ⟨hi, hnodup⟩ := List.nodup_cons.mp h
    rw [List.foldl_cons, getElem?_foldl_raise indices _ j hnodup, getElem?_raise, Option.map_map]
    congr 1
    funext v
    by_cases hij : i = j
    · subst hij
      simp [hi]
    · simp [hij, Ne.symm hij]

theorem map_term_foldl_raise (indices : List Nat) (vs : List JoinVertex) (h : indices.Nodup) :
    (indices.foldl raise vs).map (·.term) = vs.map (·.term) := by
  refine List.ext_getElem? fun j => ?_
  rw [List.getElem?_map, List.getElem?_map, getElem?_foldl_raise indices vs j h, Option.map_map]
  congr 1
  funext v
  simp only [Function.comp]
  split <;> rfl

/-! ## The patterns of the graph -/

/-- **What it is for a graph to stand for patterns.** The vertices are those of the distinct terms
in order of first occurrence, the edges are the patterns with the vertices of their terms, and the
degree of a vertex is the number of edges at it. -/
structure Represents (g : JoinGraph) (ps : List TriplePattern) : Prop where
  indexed : g.Indexed
  terms : g.terms = (ps.flatMap TriplePattern.terms).eraseDups
  patterns : g.patterns = ps
  edges : ∀ e ∈ g.edges, g.Denotes e.vertices e.pattern.terms
  degrees : ∀ i v, g.vertices[i]? = some v → v.degree = g.edges.countP (i ∈ ·.vertices)

theorem represents_empty : empty.Represents [] :=
  ⟨indexed_empty, rfl, rfl, fun e h => absurd h List.not_mem_nil, fun i v h => by
    simp [empty] at h⟩

/-- **One more pattern** is represented after it has been added. -/
theorem represents_addPattern (h : g.Represents ps) (p : TriplePattern) :
    (g.addPattern p).Represents (ps ++ [p]) := by
  obtain ⟨hg, hterms, hd⟩ := connectAll_spec h.indexed h.terms p.terms
  obtain ⟨hedges, new, hvs, hnew⟩ := connectAll_frame g p.terms
  have hpre : g.terms <+: (g.connectAll p.terms).1.terms := by
    unfold JoinGraph.terms
    rw [hvs, List.map_append]
    exact List.prefix_append _ _
  have hsame : (g.addPattern p).terms = (g.connectAll p.terms).1.terms :=
    map_term_foldl_raise _ _ hd.nodup
  have hadd : (g.addPattern p).edges = g.edges ++ [⟨p, (g.connectAll p.terms).2⟩] := by
    rw [← hedges]
    rfl
  refine ⟨⟨?_, fun t i => ?_⟩, ?_, ?_, fun e he => ?_, fun i v hv => ?_⟩
  · rw [hsame]
    exact hg.nodup
  · rw [hsame]
    exact hg.lookup t i
  · rw [hsame, hterms, List.flatMap_append, List.flatMap_singleton]
  · unfold patterns
    rw [hadd, List.map_append, List.map_singleton]
    exact congrArg (· ++ [p]) h.patterns
  · rw [hadd] at he
    rcases List.mem_append.mp he with he | he
    · exact (h.edges e he).mono (hsame ▸ hpre)
    · rw [List.mem_singleton.mp he]
      exact hd.mono (hsame ▸ List.prefix_refl _)
  · -- a vertex that was there has its old degree, a new one none; the new edge adds one
    rw [hadd, List.countP_append, List.countP_singleton]
    have hv' : ((g.connectAll p.terms).2.foldl raise (g.connectAll p.terms).1.vertices)[i]? =
        some v := hv
    rw [getElem?_foldl_raise _ _ _ hd.nodup, hvs] at hv'
    obtain ⟨w, hw, rfl⟩ := Option.map_eq_some_iff.mp hv'
    have hold : w.degree = g.edges.countP (i ∈ ·.vertices) := by
      rw [List.getElem?_append] at hw
      split at hw
      · exact h.degrees i w hw
      · rename_i hge
        rw [hnew w (List.mem_of_getElem? hw), eq_comm, List.countP_eq_zero]
        intro e he hi
        exact hge ((h.edges e he).lt_length (of_decide_eq_true hi))
    by_cases hi : i ∈ (g.connectAll p.terms).2
    · simp [hi, hold]
    · simp [hi, hold]

/-- **The whole run.** The graph that is built from some patterns represents them. -/
theorem represents_ofPatterns (ps : List TriplePattern) : (ofPatterns ps).Represents ps := by
  induction ps using List.reverseRecOn with
  | nil => exact represents_empty
  | append_singleton ps p ih =>
    unfold ofPatterns
    rw [List.foldl_append]
    exact represents_addPattern ih p

/-! ## Reading a graph that represents patterns -/

theorem Represents.mem_terms_iff (h : g.Represents ps) {t : TermPattern} :
    t ∈ g.terms ↔ ∃ p ∈ ps, t ∈ p.terms := by
  rw [h.terms, List.mem_eraseDups, List.mem_flatMap]

theorem getElem?_terms (g : JoinGraph) (i : Nat) (t : TermPattern) :
    g.terms[i]? = some t ↔ ∃ v, g.vertices[i]? = some v ∧ v.term = t := by
  unfold terms
  rw [List.getElem?_map, Option.map_eq_some_iff]

/-- The degree of a vertex is the number of patterns in which its term occurs. -/
theorem Represents.degree_eq (h : g.Represents ps) {i : Nat} {v : JoinVertex}
    (hv : g.vertices[i]? = some v) : v.degree = ps.countP (v.term ∈ ·.terms) := by
  have ht : g.terms[i]? = some v.term := (getElem?_terms g i v.term).mpr ⟨v, hv, rfl⟩
  rw [h.degrees i v hv, ← h.patterns]
  unfold JoinGraph.patterns
  rw [List.countP_map]
  refine List.countP_congr fun e he => ?_
  simp only [Function.comp, decide_eq_true_eq]
  exact (h.edges e he).mem_iff h.indexed ht

theorem Represents.degree_pos (h : g.Represents ps) {i : Nat} {v : JoinVertex}
    (hv : g.vertices[i]? = some v) : 1 ≤ v.degree := by
  have ht : v.term ∈ g.terms := List.mem_map_of_mem (List.mem_of_getElem? hv)
  obtain ⟨p, hp, hm⟩ := h.mem_terms_iff.mp ht
  rw [h.degree_eq hv]
  exact List.countP_pos_iff.mpr ⟨p, hp, decide_eq_true hm⟩

/-- A term has a vertex iff it occurs. -/
theorem Represents.vertex?_isSome_iff (h : g.Represents ps) {t : TermPattern} :
    (g.vertex? t).isSome ↔ ∃ p ∈ ps, t ∈ p.terms := by
  rw [← h.mem_terms_iff]
  unfold vertex?
  constructor
  · intro hs
    cases hi : g.indexOf? t with
    | none =>
      rw [hi] at hs
      exact absurd hs (by simp)
    | some i => exact List.mem_of_getElem? ((h.indexed.lookup t i).mp hi)
  · intro ht
    obtain ⟨i, hi⟩ := List.mem_iff_getElem?.mp ht
    obtain ⟨v, hv, -⟩ := (getElem?_terms g i t).mp hi
    rw [(h.indexed.lookup t i).mpr hi, Option.bind_some, hv]
    rfl

/-- The edge of the `i`-th pattern and what its vertices are. -/
theorem Represents.edge (h : g.Represents ps) {i : Nat} {p : TriplePattern}
    (hp : ps[i]? = some p) :
    ∃ e, g.edges[i]? = some e ∧ e.pattern = p ∧ (∀ j ∈ e.vertices, j < g.vertices.length) ∧
      e.vertices.Nodup ∧
      e.vertices.map (fun j => g.vertices[j]?.map (·.term)) = p.terms.eraseDups.map some := by
  rw [← h.patterns] at hp
  unfold JoinGraph.patterns at hp
  rw [List.getElem?_map] at hp
  obtain ⟨e, he, rfl⟩ := Option.map_eq_some_iff.mp hp
  have hd := h.edges e (List.mem_of_getElem? he)
  refine ⟨e, he, rfl, fun j hj => hd.lt_length hj, hd.nodup, ?_⟩
  rw [← hd]
  refine List.map_congr_left fun j _ => ?_
  unfold JoinGraph.terms
  rw [List.getElem?_map]

/-- **The graph of some patterns is exact.** It gives the patterns back; its vertices have the
distinct terms in order of first occurrence; the index finds a term where its vertex is, and a
vertex for exactly the terms that occur; the edge of a pattern connects distinct vertices, those of
its distinct terms in order; and the degree of a vertex is positive, the number of edges at it and
the number of patterns with its term. -/
theorem ofPatterns_exact (ps : List TriplePattern) :
    let g := ofPatterns ps
    g.patterns = ps ∧
    g.vertices.map (·.term) = (ps.flatMap TriplePattern.terms).eraseDups ∧
    (g.vertices.map (·.term)).Nodup ∧
    (∀ t i, g.indexOf? t = some i ↔ ∃ v, g.vertices[i]? = some v ∧ v.term = t) ∧
    (∀ t, (g.vertex? t).isSome ↔ ∃ p ∈ ps, t ∈ p.terms) ∧
    (∀ (i : Nat) (p : TriplePattern), ps[i]? = some p →
      ∃ e : Hyperedge, g.edges[i]? = some e ∧ e.pattern = p ∧
        (∀ j ∈ e.vertices, j < g.vertices.length) ∧ e.vertices.Nodup ∧
        e.vertices.map (fun j => g.vertices[j]?.map (·.term)) = p.terms.eraseDups.map some) ∧
    (∀ (i : Nat) (v : JoinVertex), g.vertices[i]? = some v →
      1 ≤ v.degree ∧ v.degree = g.edges.countP (i ∈ ·.vertices) ∧
        v.degree = ps.countP (v.term ∈ ·.terms)) := by
  intro g
  have h : g.Represents ps := represents_ofPatterns ps
  refine ⟨h.patterns, h.terms, h.indexed.nodup, fun t i => ?_, fun t => h.vertex?_isSome_iff,
    fun i p hp => h.edge hp, fun i v hv => ⟨h.degree_pos hv, h.degrees i v hv, h.degree_eq hv⟩⟩
  rw [h.indexed.lookup t i, getElem?_terms]

end JoinGraph

end LinkedQueries
