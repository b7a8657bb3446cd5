import LinkedQueries.Proofs.Rdf.TermText
import LinkedQueries.Proofs.Text.FormCoding
import LinkedQueries.Rdf.GraphKey

/-!
# Graph keys identify terms

IRIs are their own keys, so one that begins with the scheme of literals or of quoted triples may
have the key of a literal or of a quoted triple. No other two well-formed terms share a key.

Results:
* **`graphKey_identifies`**: terms with one key are the same, unless one of them is such an IRI.
* `GraphName.ofKey?_key`: the name of a graph is found again from its key.
-/

namespace LinkedQueries

namespace Term

/-- An IRI, as opposed to the terms that have other texts. -/
def isIri : Term → Bool
  | .iri _ => true
  | _ => false

/-- An IRI in the scheme in which the other term, a literal or a quoted triple, names its graph. -/
inductive Shadows : Term → Term → Prop where
  | literal (rest : String) (l : Literal) : Shadows (.iri (literalScheme ++ rest)) (.literal l)
  | triple (rest : String) (s : Term) (p : String) (o : Term) :
      Shadows (.iri (quotedScheme ++ rest)) (.triple s p o)

theorem Shadows.isIri_ne {t u : Term} (h : Shadows t u) : t.isIri ≠ u.isIri := by
  cases h <;> simp [isIri]

/-- What is behind a scheme is told by the whole. -/
theorem encoded_inj {scheme : String} {t u : Term} (ht : t.WellFormed) (hu : u.WellFormed)
    (h : scheme ++ String.ofList (formEncode t.chars) =
      scheme ++ String.ofList (formEncode u.chars)) : t = u := by
  have hchars := congrArg String.toList h
  simp only [String.toList_append, String.toList_ofList, List.append_cancel_left_eq] at hchars
  exact chars_inj ht hu (formEncode_injective hchars)

/-- The key of a blank node begins with an underscore. -/
theorem toList_graphKey_blank (l : String) :
    (Term.blank l).graphKey.toList = '_' :: ':' :: l.toList :=
  String.toList_append

theorem toList_graphKey_literal (l : Literal) :
    (Term.literal l).graphKey.toList = literalScheme.toList ++ formEncode l.chars := by
  rw [graphKey, String.toList_append, String.toList_ofList]

theorem toList_graphKey_triple (s : Term) (p : String) (o : Term) :
    (Term.triple s p o).graphKey.toList =
      quotedScheme.toList ++ formEncode (Term.triple s p o).chars := by
  rw [graphKey, String.toList_append, String.toList_ofList]

/-- An IRI begins with a letter, a blank node does not. -/
theorem graphKey_iri_ne_blank {i : String} (hi : IsIri i) (l : String) :
    (Term.iri i).graphKey ≠ (Term.blank l).graphKey := by
  intro h
  obtain ⟨c, more, hc, hletter⟩ := hi.first
  have hchars := congrArg String.toList h
  rw [toList_graphKey_blank, show (Term.iri i).graphKey.toList = i.toList from rfl, hc] at hchars
  rw [(List.cons.inj hchars).1] at hletter
  exact absurd hletter (by decide)

theorem graphKey_blank_ne_literal (l : String) (k : Literal) :
    (Term.blank l).graphKey ≠ (Term.literal k).graphKey := by
  intro h
  have hchars := congrArg String.toList h
  rw [toList_graphKey_blank, toList_graphKey_literal] at hchars
  exact absurd (List.cons.inj hchars).1 (by decide)

theorem graphKey_blank_ne_triple (l : String) (s : Term) (p : String) (o : Term) :
    (Term.blank l).graphKey ≠ (Term.triple s p o).graphKey := by
  intro h
  have hchars := congrArg String.toList h
  rw [toList_graphKey_blank, toList_graphKey_triple] at hchars
  exact absurd (List.cons.inj hchars).1 (by decide)

/-- The two schemes differ in their third characters. -/
theorem graphKey_literal_ne_triple (l : Literal) (s : Term) (p : String) (o : Term) :
    (Term.literal l).graphKey ≠ (Term.triple s p o).graphKey := by
  intro h
  have hchars := congrArg (fun key : String => key.toList[2]?) h
  simp only [toList_graphKey_literal, toList_graphKey_triple] at hchars
  exact absurd hchars (by simp [literalScheme, quotedScheme])

theorem graphKey_blank_inj {l k : String} (h : (Term.blank l).graphKey = (Term.blank k).graphKey) :
    l = k := by
  have hchars := congrArg String.toList h
  rw [toList_graphKey_blank, toList_graphKey_blank] at hchars
  exact String.toList_inj.mp (List.cons.inj (List.cons.inj hchars).2).2

/-- Terms with one key are the same, or one shadows the other. -/
theorem eq_or_shadows {t u : Term} (ht : t.WellFormed) (hu : u.WellFormed)
    (h : t.graphKey = u.graphKey) : t = u ∨ t.Shadows u ∨ u.Shadows t := by
  cases t with
  | iri i =>
    have hi : i = u.graphKey := h
    cases u with
    | iri j => exact .inl (congrArg Term.iri hi)
    | blank l => exact absurd h (graphKey_iri_ne_blank ht l)
    | literal l => exact .inr (.inl (hi ▸ .literal _ l))
    | triple s p o => exact .inr (.inl (hi ▸ .triple _ s p o))
  | blank l =>
    cases u with
    | iri j => exact absurd h.symm (graphKey_iri_ne_blank hu l)
    | blank k => exact .inl (congrArg Term.blank (graphKey_blank_inj h))
    | literal k => exact absurd h (graphKey_blank_ne_literal l k)
    | triple s p o => exact absurd h (graphKey_blank_ne_triple l s p o)
  | literal l =>
    cases u with
    | iri j =>
      have hj : j = (Term.literal l).graphKey := h.symm
      exact .inr (.inr (hj ▸ .literal _ l))
    | blank k => exact absurd h.symm (graphKey_blank_ne_literal k l)
    | literal k => exact .inl (encoded_inj ht hu h)
    | triple s p o => exact absurd h (graphKey_literal_ne_triple l s p o)
  | triple s p o =>
    cases u with
    | iri j =>
      have hj : j = (Term.triple s p o).graphKey := h.symm
      exact .inr (.inr (hj ▸ .triple _ s p o))
    | blank k => exact absurd h.symm (graphKey_blank_ne_triple k s p o)
    | literal k => exact absurd h.symm (graphKey_literal_ne_triple k s p o)
    | triple s' p' o' => exact .inl (encoded_inj ht hu h)

/-- **Graph keys identify terms.** Well-formed terms with one key are the same, unless one is an IRI
in the scheme of literals and the other a literal, or one is an IRI in the scheme of quoted triples
and the other a quoted triple. So no two IRIs share a key, and no two terms that are no IRIs. -/
theorem graphKey_identifies {t u : Term} (ht : t.WellFormed) (hu : u.WellFormed)
    (h : t.graphKey = u.graphKey) :
    (t = u ∨ t.Shadows u ∨ u.Shadows t) ∧ (t.isIri = u.isIri → t = u) := by
  have hcases := eq_or_shadows ht hu h
  refine ⟨hcases, fun hkind => ?_⟩
  rcases hcases with heq | hshadow | hshadow
  · exact heq
  · exact absurd hkind hshadow.isIri_ne
  · exact absurd hkind.symm hshadow.isIri_ne

/-- A statement about a statement, whose object is in some language. -/
def statedIn (tag : String) : Term :=
  .triple (.triple (.blank "b") "x:says" (.literal (.tagged "<\">" tag))) "x:since"
    (.literal (.simple ""))

/-- An IRI shares its key with the literal `"a"`; quoted triples that differ in a tag have two
keys. -/
theorem graphKey_identifies_shadowed_and_stated :
    ((Term.iri "x-literal:%22a%22").graphKey = (Term.literal (.simple "a")).graphKey ∧
      (Term.iri "x-literal:%22a%22").Shadows (.literal (.simple "a"))) ∧
    (statedIn "en").graphKey ≠ (statedIn "de").graphKey := by
  have hiri : IsIri "x-literal:%22a%22" := by unfold IsIri; decide +kernel
  have hshadow : (Term.iri "x-literal:%22a%22").WellFormed := hiri
  have hsubject : isBlankLabel "b".toList = true := by decide +kernel
  have hsays : IsIri "x:says" := by unfold IsIri; decide +kernel
  have hsince : IsIri "x:since" := by unfold IsIri; decide +kernel
  have hstated : ∀ tag, LanguageTag.isTag tag.toList = true → (statedIn tag).WellFormed :=
    fun tag htag => ⟨⟨hsubject, hsays, htag⟩, hsince, trivial⟩
  have hsimple : (Term.literal (.simple "a")).WellFormed := trivial
  have hkey : (Term.iri "x-literal:%22a%22").graphKey = (Term.literal (.simple "a")).graphKey := by
    decide +kernel
  refine ⟨⟨hkey, ?_⟩, fun h => ?_⟩
  · rcases (graphKey_identifies hshadow hsimple hkey).1 with h | h | h
    · cases h
    · exact h
    · cases h
  · have heq := (graphKey_identifies (hstated "en" (by decide +kernel))
      (hstated "de" (by decide +kernel)) h).2 rfl
    exact absurd heq (by decide)

end Term

/-! ## Names of graphs -/

/-- The IRI or the label is legal. -/
def GraphName.WellFormed : GraphName → Prop
  | .default => True
  | .iri i => IsIri i
  | .blank l => isBlankLabel l.toList = true

/-- **The name of a graph** is found again from its key. -/
theorem GraphName.ofKey?_key {g : GraphName} (h : g.WellFormed) :
    GraphName.ofKey? g.key = .ok g := by
  unfold GraphName.ofKey?
  cases g with
  | default => rfl
  | iri i =>
    obtain ⟨c, more, hc, hletter⟩ := IsIri.first h
    have hne : c ≠ '_' := by
      rintro rfl
      exact absurd hletter (by decide)
    have hchars : GraphName.ofKeyChars i.toList = .ok (.iri i) := by
      have hok : Iri.checkAbsolute i.toList = .ok () := h
      unfold GraphName.ofKeyChars
      split
      · next hnil => simp [hnil] at hc
      · next hblank =>
        rw [hblank] at hc
        exact absurd (List.cons.inj hc).1.symm hne
      · rw [hok, String.ofList_toList]
    rw [show (GraphName.iri i).key = i from rfl, hchars]
    rfl
  | blank l =>
    have hlabel : isBlankLabel l.toList = true := h
    have hkey : (GraphName.blank l).key.toList = '_' :: ':' :: l.toList := String.toList_append
    rw [hkey, GraphName.ofKeyChars, if_pos hlabel, String.ofList_toList]
    rfl

end LinkedQueries
