import LinkedQueries.Proofs.Bgp.Statistics
import LinkedQueries.Sparql.Scope
import Mathlib.Data.Set.Function

/-!
# Join graphs under other names

Which variable names and which blank node labels a basic graph pattern uses, and in which order it
lists its triple patterns, is of no importance for its joins. Other names change the terms, at every
depth of quoted triple patterns, but as long as they keep different names apart they change neither
which terms are equal nor in how many patterns a term occurs.

* `Renaming`: other names for variables and other labels for blank nodes.
* `Renaming.Separates`: names, or labels, that differ in some patterns differ afterwards.

Results:
* `TermPattern.rename_inj`: terms that have the same new form are the same.
* `occurrences_rename`: the new form of a term occurs in as many of the new patterns.
* `degrees_rename`: the degrees are the same up to order.
* **`statistics_rename`**: the figures are the same, and so is the degree of each term.
-/

namespace LinkedQueries

/-- Other names for variables and other labels for blank nodes. -/
structure Renaming where
  name : String → String
  label : String → String

/-- The name under a renaming. -/
def NamePattern.rename (ρ : Renaming) : NamePattern → NamePattern
  | .iri i => .iri i
  | .variable v => .variable (ρ.name v)

/-- The term under a renaming. -/
def TermPattern.rename (ρ : Renaming) : TermPattern → TermPattern
  | .iri i => .iri i
  | .blank l => .blank (ρ.label l)
  | .literal l => .literal l
  | .variable v => .variable (ρ.name v)
  | .triple s p o => .triple (s.rename ρ) (p.rename ρ) (o.rename ρ)

/-- The triple pattern under a renaming. -/
def TriplePattern.rename (ρ : Renaming) (t : TriplePattern) : TriplePattern :=
  ⟨t.subject.rename ρ, t.predicate.rename ρ, t.object.rename ρ⟩

/-- The blank node labels of a term. -/
def TermPattern.labels : TermPattern → List String
  | .iri _ | .literal _ | .variable _ => []
  | .blank l => [l]
  | .triple s _ o => s.labels ++ o.labels

/-- The blank node labels of a triple pattern. -/
def TriplePattern.labels (t : TriplePattern) : List String :=
  t.subject.labels ++ t.object.labels

/-- The renaming keeps apart what the patterns tell apart: no two of their variable names become one,
and no two of their labels. -/
structure Renaming.Separates (ρ : Renaming) (ps : List TriplePattern) : Prop where
  name : Set.InjOn ρ.name {v | ∃ p ∈ ps, v ∈ p.variables}
  label : Set.InjOn ρ.label {l | ∃ p ∈ ps, l ∈ p.labels}

/-! ## Terms -/

section Terms

variable {ρ : Renaming}

theorem NamePattern.term_rename (ρ : Renaming) (p : NamePattern) :
    (p.rename ρ).term = p.term.rename ρ := by
  cases p <;> rfl

theorem TriplePattern.terms_rename (ρ : Renaming) (t : TriplePattern) :
    (t.rename ρ).terms = t.terms.map (TermPattern.rename ρ) := by
  simp only [terms, rename, NamePattern.term_rename, List.map_cons, List.map_nil]

/-- The variables and labels of a term of a pattern are among those of the pattern. -/
theorem TriplePattern.subset_of_mem_terms (p : TriplePattern) {t : TermPattern} (h : t ∈ p.terms) :
    t.variables ⊆ p.variables ∧ t.labels ⊆ p.labels := by
  obtain ⟨s, name, o⟩ := p
  have hterms : t = s ∨ t = name.term ∨ t = o := by simpa [terms] using h
  rcases hterms with rfl | rfl | rfl
  · simp [TriplePattern.variables, labels]
  · cases name <;> simp [TriplePattern.variables, labels, NamePattern.term, NamePattern.variables,
      TermPattern.variables, TermPattern.labels]
  · simp [TriplePattern.variables, labels]

/-- The variables and labels of a term are among the given ones. -/
def TermPattern.Over (V L : Set String) (t : TermPattern) : Prop :=
  (∀ v ∈ t.variables, v ∈ V) ∧ ∀ l ∈ t.labels, l ∈ L

theorem NamePattern.rename_inj {V : Set String} (hV : V.InjOn ρ.name) {p q : NamePattern}
    (hp : ∀ v ∈ p.variables, v ∈ V) (hq : ∀ v ∈ q.variables, v ∈ V)
    (h : p.rename ρ = q.rename ρ) : p = q := by
  cases p with
  | iri i => cases q <;> simp_all [rename]
  | «variable» v =>
    cases q with
    | iri i => simp [rename] at h
    | «variable» w =>
      rw [rename, rename, NamePattern.variable.injEq] at h
      rw [hV (hp v (List.mem_singleton.mpr rfl)) (hq w (List.mem_singleton.mpr rfl)) h]

theorem TermPattern.Over.parts {V L : Set String} {s o : TermPattern} {p : NamePattern}
    (h : (TermPattern.triple s p o).Over V L) :
    s.Over V L ∧ (∀ v ∈ p.variables, v ∈ V) ∧ o.Over V L := by
  obtain ⟨hV, hL⟩ := h
  simp only [TermPattern.variables, labels, List.mem_append] at hV hL
  exact ⟨⟨fun v hv => hV v (.inl (.inl hv)), fun l hl => hL l (.inl hl)⟩,
    fun v hv => hV v (.inl (.inr hv)),
    ⟨fun v hv => hV v (.inr hv), fun l hl => hL l (.inr hl)⟩⟩

/-- **Terms with the same new form** are the same, at every depth. -/
theorem TermPattern.rename_inj {V L : Set String} (hV : V.InjOn ρ.name) (hL : L.InjOn ρ.label) :
    ∀ {t u : TermPattern}, t.Over V L → u.Over V L → t.rename ρ = u.rename ρ → t = u
  | .iri i, u, _, _, h => by cases u <;> simp_all [rename]
  | .literal l, u, _, _, h => by cases u <;> simp_all [rename]
  | .blank l, u, ht, hu, h => by
    cases u with
    | blank k =>
      rw [rename, rename, TermPattern.blank.injEq] at h
      rw [hL (ht.2 l (List.mem_singleton.mpr rfl)) (hu.2 k (List.mem_singleton.mpr rfl)) h]
    | _ => simp [rename] at h
  | .variable v, u, ht, hu, h => by
    cases u with
    | «variable» w =>
      rw [rename, rename, TermPattern.variable.injEq] at h
      rw [hV (ht.1 v (List.mem_singleton.mpr rfl)) (hu.1 w (List.mem_singleton.mpr rfl)) h]
    | _ => simp [rename] at h
  | .triple s p o, u, ht, hu, h => by
    cases u with
    | triple s' p' o' =>
      rw [rename, rename, TermPattern.triple.injEq] at h
      obtain ⟨hs, hp, ho⟩ := h
      obtain ⟨hts, htp, hto⟩ := ht.parts
      obtain ⟨hus, hup, huo⟩ := hu.parts
      rw [rename_inj hV hL hts hus hs, NamePattern.rename_inj hV htp hup hp,
        rename_inj hV hL hto huo ho]
    | _ => simp [rename] at h

end Terms

namespace JoinGraph

/-! ## Patterns -/

variable {ρ : Renaming} {ps qs : List TriplePattern}

theorem over_of_mem {t : TermPattern} (h : t ∈ ps.flatMap TriplePattern.terms) :
    t.Over {v | ∃ p ∈ ps, v ∈ p.variables} {l | ∃ p ∈ ps, l ∈ p.labels} := by
  obtain ⟨p, hp, ht⟩ := List.mem_flatMap.mp h
  obtain ⟨hvariables, hlabels⟩ := p.subset_of_mem_terms ht
  exact ⟨fun v hv => ⟨p, hp, hvariables hv⟩, fun l hl => ⟨p, hp, hlabels hl⟩⟩

/-- The terms of the patterns are told apart by their new forms. -/
theorem injOn_rename (hρ : ρ.Separates ps) :
    Set.InjOn (TermPattern.rename ρ) {t | t ∈ ps.flatMap TriplePattern.terms} :=
  fun _ ht _ hu h => TermPattern.rename_inj hρ.name hρ.label (over_of_mem ht) (over_of_mem hu) h

theorem flatMap_terms_rename (ρ : Renaming) (ps : List TriplePattern) :
    (ps.map (TriplePattern.rename ρ)).flatMap TriplePattern.terms =
      (ps.flatMap TriplePattern.terms).map (TermPattern.rename ρ) := by
  rw [List.flatMap_map, List.map_flatMap]
  exact List.flatMap_congr fun p _ => p.terms_rename ρ

/-- **Occurrences.** The new form of a term occurs in as many of the new patterns, in whichever
order these are. -/
theorem occurrences_rename (hρ : ρ.Separates ps) (h : qs.Perm ps) {t : TermPattern}
    (ht : t ∈ ps.flatMap TriplePattern.terms) :
    occurrences (qs.map (TriplePattern.rename ρ)) (t.rename ρ) = occurrences ps t := by
  unfold occurrences
  rw [(h.map _).countP_eq, List.countP_map]
  refine List.countP_congr fun p hp => ?_
  simp only [Function.comp, decide_eq_true_eq]
  rw [p.terms_rename]
  constructor
  · intro hm
    obtain ⟨u, hu, heq⟩ := List.mem_map.mp hm
    exact injOn_rename hρ (List.mem_flatMap.mpr ⟨p, hp, hu⟩) ht heq ▸ hu
  · exact fun hm => List.mem_map_of_mem hm

/-- The distinct new terms are the new forms of the distinct terms. -/
theorem eraseDups_rename (hρ : ρ.Separates ps) (h : qs.Perm ps) :
    ((qs.map (TriplePattern.rename ρ)).flatMap TriplePattern.terms).eraseDups.Perm
      ((ps.flatMap TriplePattern.terms).eraseDups.map (TermPattern.rename ρ)) := by
  have hnodup : ((ps.flatMap TriplePattern.terms).eraseDups.map (TermPattern.rename ρ)).Nodup :=
    (nodup_eraseDups _).map_on fun t ht u hu =>
      injOn_rename hρ (List.mem_eraseDups.mp ht) (List.mem_eraseDups.mp hu)
  refine (List.perm_ext_iff_of_nodup (nodup_eraseDups _) hnodup).mpr fun t => ?_
  rw [List.mem_eraseDups, flatMap_terms_rename, ((h.flatMap_right _).map _).mem_iff, List.mem_map,
    List.mem_map]
  simp only [List.mem_eraseDups]

/-- **The degrees** are the same up to order. -/
theorem degrees_rename (hρ : ρ.Separates ps) (h : qs.Perm ps) :
    ((ofPatterns (qs.map (TriplePattern.rename ρ))).vertices.map (·.degree)).Perm
      ((ofPatterns ps).vertices.map (·.degree)) := by
  rw [degrees_ofPatterns, degrees_ofPatterns]
  refine ((eraseDups_rename hρ h).map _).trans (List.Perm.of_eq ?_)
  rw [List.map_map]
  exact List.map_congr_left fun t ht => occurrences_rename hρ h (List.mem_eraseDups.mp ht)

/-- The vertex of a term that occurs. -/
theorem vertex?_ofPatterns {t : TermPattern} (ht : t ∈ ps.flatMap TriplePattern.terms) :
    (ofPatterns ps).vertex? t = some ⟨t, occurrences ps t⟩ := by
  have hrep := represents_ofPatterns ps
  obtain ⟨i, hi⟩ := List.mem_iff_getElem?.mp (hrep.mem_terms_iff.mpr (List.mem_flatMap.mp ht))
  obtain ⟨v, hv, rfl⟩ := (getElem?_terms _ i t).mp hi
  rw [vertex?, (hrep.indexed.lookup _ i).mpr hi, Option.bind_some, hv, occurrences,
    ← hrep.degree_eq hv]

/-- **The figures depend on the joins only.** If the patterns are listed in another order and their
variables and blank nodes have other names, no two of which fall together, the graph has the same
figures, and the new form of each term has a vertex of the same degree. -/
theorem statistics_rename (hρ : ρ.Separates ps) (h : qs.Perm ps) :
    let g := ofPatterns ps
    let g' := ofPatterns (qs.map (TriplePattern.rename ρ))
    g'.statistics = g.statistics ∧
    ∀ p ∈ ps, ∀ t ∈ p.terms, ∃ v v', g.vertex? t = some v ∧ v.term = t ∧
      g'.vertex? (t.rename ρ) = some v' ∧ v'.term = t.rename ρ ∧ v'.degree = v.degree := by
  intro g g'
  have hedges : g'.edges.length = g.edges.length := by
    rw [length_edges_ofPatterns, length_edges_ofPatterns, List.length_map, h.length_eq]
  refine ⟨statistics_congr hedges (degrees_rename hρ h), fun p hp t ht => ?_⟩
  have hmem : t ∈ ps.flatMap TriplePattern.terms := List.mem_flatMap.mpr ⟨p, hp, ht⟩
  have hmem' : t.rename ρ ∈ (qs.map (TriplePattern.rename ρ)).flatMap TriplePattern.terms := by
    rw [flatMap_terms_rename]
    exact List.mem_map_of_mem ((h.flatMap_right _).mem_iff.mpr hmem)
  exact ⟨_, _, vertex?_ofPatterns hmem, rfl, vertex?_ofPatterns hmem', rfl,
    occurrences_rename hρ h hmem⟩

/-- Two patterns in the other order, whose variables have exchanged their names, also in a quoted
triple pattern. -/
theorem statistics_rename_exchanged :
    let quoted : TermPattern := .triple (.variable "a") (.variable "b") (.blank "n")
    let first : TriplePattern := ⟨.variable "a", .iri "http://example.org/p", .blank "n"⟩
    let second : TriplePattern := ⟨quoted, .variable "b", .variable "a"⟩
    let ρ : Renaming := ⟨fun v => if v = "a" then "b" else "a", fun _ => "m"⟩
    let g := ofPatterns [first, second]
    let g' := ofPatterns ([second, first].map (TriplePattern.rename ρ))
    ρ.Separates [first, second] ∧ [second, first].Perm [first, second] ∧
    g'.statistics = g.statistics ∧
    ∃ v v', g.vertex? quoted = some v ∧ g'.vertex? (quoted.rename ρ) = some v' ∧
      v'.degree = v.degree := by
  intro quoted first second ρ g g'
  have hnames : ∀ v, (∃ p ∈ [first, second], v ∈ p.variables) → v = "a" ∨ v = "b" := by
    grind [TriplePattern.variables, TermPattern.variables, NamePattern.variables]
  have hlabels : ∀ l, (∃ p ∈ [first, second], l ∈ p.labels) → l = "n" := by
    simp [first, second, quoted, TriplePattern.labels, TermPattern.labels]
  have hρ : ρ.Separates [first, second] := by
    refine ⟨fun v hv w hw h => ?_, fun l hl k hk _ => (hlabels l hl).trans (hlabels k hk).symm⟩
    rcases hnames v hv with rfl | rfl
    · rcases hnames w hw with rfl | rfl
      · rfl
      · exact absurd h (show "b" ≠ "a" by decide)
    · rcases hnames w hw with rfl | rfl
      · exact absurd h (show "a" ≠ "b" by decide)
      · rfl
  have hperm : [second, first].Perm [first, second] := List.Perm.swap ..
  obtain ⟨hfigures, hdegree⟩ := statistics_rename hρ hperm
  obtain ⟨v, v', hv, -, hv', -, hsame⟩ :=
    hdegree second (by simp) quoted (by simp [second, TriplePattern.terms])
  exact ⟨hρ, hperm, hfigures, v, v', hv, hv', hsame⟩

end JoinGraph

end LinkedQueries
