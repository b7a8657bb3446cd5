import LinkedQueries.Proofs.View.Agreement

/-!
# Groups of triples

Triples are grouped by the key of one of their terms, so a group is the triples that share the term
wherever keys identify terms. An IRI in the scheme of literals or of quoted triples may share its
key with one of these; such IRIs apart, no two resources are mixed up.

Results:
* `Term.graphKey_eq_iff`: without such IRIs, well-formed terms with one key are the same.
* `TripleGrouping.group_eq_filter`: the triples of a group are all those that share the term.
* **`groups_share_term`**: what groups hold, which triples share one, and what groups depend on.
-/

namespace LinkedQueries

/-! ## Keys that identify terms -/

/-- An IRI in a scheme in which literals or quoted triples name their graphs. -/
def Term.IsSchemed : Term → Prop
  | .iri i => literalScheme.toList <+: i.toList ∨ quotedScheme.toList <+: i.toList
  | _ => False

theorem Term.Shadows.isSchemed {t u : Term} (h : t.Shadows u) : t.IsSchemed := by
  cases h with
  | literal rest l => exact .inl ⟨rest.toList, String.toList_append.symm⟩
  | triple rest s p o => exact .inr ⟨rest.toList, String.toList_append.symm⟩

/-- **Keys identify terms** that are well-formed and in neither of the schemes. -/
theorem Term.graphKey_eq_iff {t u : Term} (ht : t.WellFormed) (hu : u.WellFormed)
    (ht' : ¬ t.IsSchemed) (hu' : ¬ u.IsSchemed) : t.graphKey = u.graphKey ↔ t = u := by
  refine ⟨fun h => ?_, congrArg Term.graphKey⟩
  rcases Term.eq_or_shadows ht hu h with heq | hshadows | hshadows
  · exact heq
  · exact absurd hshadows.isSchemed ht'
  · exact absurd hshadows.isSchemed hu'

/-! ## Groups -/

namespace TripleGrouping

variable {by_ : TripleGrouping} {count : Nat} {triples : Partitions Triple}
  {g : String × List Triple} {t : Triple}

/-- A group holds the triples of its key, in order. -/
theorem group_eq_filter_key (hg : g ∈ (by_.group count triples).flatten) :
    g.2 = triples.flatten.filter (by_.key · = g.1) := by
  rw [(by_.group_gathers count triples).group g hg, List.map_id]

/-- A triple is in the group of its key. -/
theorem exists_group (ht : t ∈ triples.flatten) :
    ∃ g ∈ (by_.group count triples).flatten, t ∈ g.2 := by
  obtain ⟨g, hg, hkey⟩ :=
    List.mem_map.mp ((by_.group_gathers count triples).covered t ht)
  refine ⟨g, hg, ?_⟩
  rw [group_eq_filter_key hg]
  exact List.mem_filter.mpr ⟨ht, decide_eq_true hkey.symm⟩

variable (hterms : ∀ t ∈ triples.flatten, (by_.term t).WellFormed)
  (hschemes : ∀ t ∈ triples.flatten, ¬ (by_.term t).IsSchemed)
include hterms hschemes

theorem key_eq_iff {u : Triple} (ht : t ∈ triples.flatten) (hu : u ∈ triples.flatten) :
    by_.key t = by_.key u ↔ by_.term t = by_.term u := by
  rw [key_eq, key_eq]
  exact Term.graphKey_eq_iff (hterms t ht) (hterms u hu) (hschemes t ht) (hschemes u hu)

/-- **The triples of a group** are all those that share the term, in order. -/
theorem group_eq_filter (hg : g ∈ (by_.group count triples).flatten) (ht : t ∈ g.2) :
    g.2 = triples.flatten.filter (by_.term · = by_.term t) := by
  have hgroup := group_eq_filter_key hg
  rw [hgroup] at ht
  obtain ⟨ht, hkey⟩ := List.mem_filter.mp ht
  rw [hgroup, ← of_decide_eq_true hkey]
  exact List.filter_congr fun u hu => decide_eq_decide.mpr (key_eq_iff hterms hschemes hu ht)

/-- Triples are in one group iff they share the term. -/
theorem exists_common_group_iff {u : Triple} (ht : t ∈ triples.flatten)
    (hu : u ∈ triples.flatten) :
    (∃ g ∈ (by_.group count triples).flatten, t ∈ g.2 ∧ u ∈ g.2) ↔ by_.term t = by_.term u := by
  have hmem : ∀ g ∈ (by_.group count triples).flatten, t ∈ g.2 →
      (u ∈ g.2 ↔ by_.term u = by_.term t) := by
    intro g hg htg
    rw [group_eq_filter hterms hschemes hg htg, List.mem_filter, decide_eq_true_iff]
    exact and_iff_right hu
  constructor
  · rintro ⟨g, hg, htg, hug⟩
    exact ((hmem g hg htg).mp hug).symm
  · intro heq
    obtain ⟨g, hg, htg⟩ := exists_group ht
    exact ⟨g, hg, htg, (hmem g hg htg).mpr heq.symm⟩

end TripleGrouping

/-- **Triples share a group iff they share the term.** Groups of triples have names of their own and
together hold all triples, with their repetitions. If the terms by which triples are grouped are
well-formed, and none of them is an IRI in the scheme of literals or of quoted triples, then a group
is the triples with one term, in order. However the triples are cut into partitions and over however
many partitions the groups are spread, the groups are the same. -/
theorem groups_share_term (by_ : TripleGrouping) (count : Nat) (triples : Partitions Triple)
    (hterms : ∀ t ∈ triples.flatten, (by_.term t).WellFormed) :
    let groups := (by_.group count triples).flatten
    (groups.map (·.1)).Nodup ∧
    (groups.flatMap (·.2)).Perm triples.flatten ∧
    ((∀ t ∈ triples.flatten, ¬ (by_.term t).IsSchemed) →
      (∀ t ∈ triples.flatten, ∀ u ∈ triples.flatten,
        (∃ g ∈ groups, t ∈ g.2 ∧ u ∈ g.2) ↔ by_.term t = by_.term u) ∧
      ∀ g ∈ groups, ∀ t ∈ g.2, g.2 = triples.flatten.filter (by_.term · = by_.term t)) ∧
    ∀ (others : Partitions Triple) (count' : Nat), others.flatten = triples.flatten →
      (by_.group count' others).flatten.Perm groups := by
  intro groups
  have hgroups := by_.group_gathers count triples
  refine ⟨hgroups.nodup, ?_, fun hschemes => ⟨fun t ht u hu => ?_, fun g hg t ht => ?_⟩,
    fun others count' hothers => ?_⟩
  · simpa using hgroups.perm fun _ t => t
  · exact TripleGrouping.exists_common_group_iff hterms hschemes ht hu
  · exact TripleGrouping.group_eq_filter hterms hschemes hg ht
  · have hother := by_.group_gathers count' others
    rw [hothers] at hother
    exact hother.perm_gathered.trans hgroups.perm_gathered.symm

/-- Triples with a literal, an IRI of the same text, a blank node and a quoted triple as objects.
The first and the third share the literal. -/
theorem groups_share_term_mixed :
    let about (subject : String) (object : Term) : Triple := ⟨.iri subject, "x:p", object⟩
    let a : Term := .literal (.simple "x:a")
    let quoted : Term := .triple (.iri "x:a") "x:p" a
    let triples : Partitions Triple := ⟨[[about "x:s" a, about "x:s" (.iri "x:a")], [],
      [about "x:t" a, about "x:s" (.blank "a"), about "x:s" quoted]]⟩
    let groups := (TripleGrouping.objects.group 3 triples).flatten
    (∃ g ∈ groups, about "x:s" a ∈ g.2 ∧ about "x:t" a ∈ g.2) ∧
    (¬ ∃ g ∈ groups, about "x:s" a ∈ g.2 ∧ about "x:s" (.iri "x:a") ∈ g.2) ∧
    groups.length = 4 ∧
    (TripleGrouping.objects.group 0 ⟨[triples.flatten]⟩).flatten.Perm groups := by
  intro about a quoted triples groups
  have hiri : ∀ i ∈ ["x:a", "x:p"], IsIri i := by unfold IsIri; decide +kernel
  have hflatten : triples.flatten = [about "x:s" a, about "x:s" (.iri "x:a"), about "x:t" a,
      about "x:s" (.blank "a"), about "x:s" quoted] := rfl
  have hterms : ∀ t ∈ triples.flatten, (TripleGrouping.objects.term t).WellFormed := by
    have hlabel : isBlankLabel "a".toList = true := by decide +kernel
    have hquoted : quoted.WellFormed := ⟨hiri _ (by simp), hiri _ (by simp), trivial⟩
    rw [hflatten]
    simp only [List.forall_mem_cons]
    exact ⟨trivial, hiri _ (by simp), trivial, hlabel, hquoted, nofun⟩
  have hschemes : ∀ t ∈ triples.flatten, ¬ (TripleGrouping.objects.term t).IsSchemed := by
    have hunschemed : ¬ (literalScheme.toList <+: "x:a".toList ∨
        quotedScheme.toList <+: "x:a".toList) := by decide +kernel
    rw [hflatten]
    simp only [List.forall_mem_cons]
    exact ⟨id, hunschemed, id, id, id, nofun⟩
  obtain ⟨-, -, hshared, hothers⟩ := groups_share_term .objects 3 triples hterms
  obtain ⟨hshared, -⟩ := hshared hschemes
  refine ⟨(hshared _ (by decide) _ (by decide)).mpr rfl, fun h => ?_, by decide +kernel,
    hothers _ 0 (by decide)⟩
  exact absurd ((hshared _ (by decide) _ (by decide)).mp h) (by decide)

end LinkedQueries
