import LinkedQueries.Proofs.Rdf.GraphTerm
import LinkedQueries.Proofs.Regroup.Writing

/-!
# Names of graphs and their keys

A name has one key, and a key names one graph or none: the empty one the default graph, a legal label
behind `_:` a blank node, and an IRI itself. The key of a term always names a graph.

Results:
* `GraphName.ofKey?_eq_ok_iff`: a key names the graph whose key it is, if that has a legal name.
* `GraphName.isKey_iff`: which texts are keys.
* **`graphKeys_decode`**: names, keys and terms are told by each other.
-/

namespace LinkedQueries

namespace GraphName

/-! ## Keys that name a graph -/

theorem ofKeyChars_eq_ok {cs : List Char} {g : GraphName} (h : ofKeyChars cs = .ok g) :
    g.WellFormed ∧ g.key.toList = cs := by
  unfold ofKeyChars at h
  split at h
  · cases h
    exact ⟨trivial, rfl⟩
  · split at h
    · next label hlabel =>
      cases h
      refine ⟨?_, ?_⟩
      · show isBlankLabel (String.ofList label).toList = true
        rwa [String.toList_ofList]
      · rw [key, String.toList_append]
        exact congrArg ('_' :: ':' :: ·) String.toList_ofList
    · cases h
  · split at h
    · next hiri =>
      cases h
      refine ⟨?_, String.toList_ofList⟩
      show Iri.checkAbsolute (String.ofList cs).toList = .ok ()
      rwa [String.toList_ofList]
    · cases h

/-- **A key names a graph** iff it is the key of a legal name. -/
theorem ofKey?_eq_ok_iff {key : String} {g : GraphName} :
    ofKey? key = .ok g ↔ g.WellFormed ∧ g.key = key := by
  refine ⟨fun h => ?_, ?_⟩
  · unfold ofKey? at h
    cases hchars : ofKeyChars key.toList with
    | error fault => simp [hchars, Except.mapError] at h
    | ok g' =>
      rw [hchars] at h
      obtain rfl : g' = g := Except.ok.inj h
      obtain ⟨hg, hkey⟩ := ofKeyChars_eq_ok hchars
      exact ⟨hg, String.toList_inj.mp hkey⟩
  · rintro ⟨hg, rfl⟩
    exact ofKey?_key hg

/-- The error of a key that names no graph is about that key. -/
theorem key_of_ofKey?_eq_error {key : String} {e : InvalidGraphKey} (h : ofKey? key = .error e) :
    e.key = key := by
  unfold ofKey? at h
  cases hchars : ofKeyChars key.toList with
  | ok g => simp [hchars, Except.mapError] at h
  | error fault =>
    rw [hchars] at h
    cases h
    rfl

theorem key_inj {g h : GraphName} (hg : g.WellFormed) (hh : h.WellFormed) (hkey : g.key = h.key) :
    g = h := by
  have hfound := ofKey?_key hg
  rw [hkey, ofKey?_key hh] at hfound
  exact (Except.ok.inj hfound).symm

/-- A key that names a graph: it is empty, a legal label behind `_:`, or an IRI. -/
inductive IsKey : String → Prop where
  | default : IsKey ""
  | blank (label : String) : isBlankLabel label.toList = true → IsKey ("_:" ++ label)
  | iri (i : String) : IsIri i → IsKey i

theorem isKey_key {g : GraphName} (h : g.WellFormed) : IsKey g.key := by
  cases g with
  | default => exact .default
  | iri i => exact .iri i h
  | blank l => exact .blank l h

/-- **A key** is what names a graph. -/
theorem isKey_iff {key : String} : IsKey key ↔ ∃ g, ofKey? key = .ok g := by
  constructor
  · rintro (_ | ⟨label, hlabel⟩ | ⟨i, hi⟩)
    · exact ⟨.default, rfl⟩
    · exact ⟨.blank label, @ofKey?_key (.blank label) hlabel⟩
    · exact ⟨.iri _, @ofKey?_key (.iri _) hi⟩
  · rintro ⟨g, hg⟩
    obtain ⟨hlegal, rfl⟩ := ofKey?_eq_ok_iff.mp hg
    exact isKey_key hlegal

theorem ofKey?_nameOfKey {key : String} (h : IsKey key) : ofKey? key = .ok (nameOfKey key) := by
  obtain ⟨g, hg⟩ := isKey_iff.mp h
  rw [nameOfKey, hg]
  rfl

theorem key_nameOfKey {key : String} (h : IsKey key) : (nameOfKey key).key = key :=
  (ofKey?_eq_ok_iff.mp (ofKey?_nameOfKey h)).2

end GraphName

theorem Term.ofKey?_graphKey {t : Term} (h : t.WellFormed) :
    GraphName.ofKey? t.graphKey = .ok t.graphName := by
  rw [← t.key_graphName]
  exact GraphName.ofKey?_key (Term.graphName_wellFormed h)

theorem Term.isName_graphKey {t : Term} (h : t.WellFormed) : GraphWriter.IsName t.graphKey :=
  ⟨t.graphName, Term.graphName_wellFormed h, t.key_graphName⟩

/-- The name under which a file keeps the graph of a term. -/
theorem GraphWriter.graphOf_graphKey {t : Term} (h : t.WellFormed) (w : GraphWriter) :
    w.graphOf t.graphKey = if w.format.hasGraphs then t.graphName else .default := by
  rw [graphOf, ← t.key_graphName, nameOfKey_key (Term.graphName_wellFormed h)]

/-- **Keys of graphs are read back.** The key of a legal name gives that name, so legal names with
one key are the same, and the empty key is that of the default graph alone. A key that gives a name
is the key of that name. The key of a well-formed term gives a name with that key, so a dataset of a
graph under it gives its quads, and no writer refuses such a graph because of its name. -/
theorem graphKeys_decode :
    (∀ g : GraphName, g.WellFormed → GraphName.ofKey? g.key = .ok g) ∧
    (∀ g h : GraphName, g.WellFormed → h.WellFormed → g.key = h.key → g = h) ∧
    (∀ g : GraphName, g.WellFormed → g.key = GraphName.default.key → g = .default) ∧
    (∀ key g, GraphName.ofKey? key = .ok g → g.WellFormed ∧ g.key = key) ∧
    ∀ t : Term, t.WellFormed → ∃ g : GraphName,
      GraphName.ofKey? t.graphKey = .ok g ∧ g.key = t.graphKey ∧
      (∀ triples, (Dataset.ofGraph t.graphKey triples).toQuads? =
        .ok (triples.map (·.inGraph g))) ∧
      ∀ w : GraphWriter,
        w.graphName? t.graphKey = .ok (if w.format.hasGraphs then g else .default) := by
  refine ⟨fun g hg => GraphName.ofKey?_key hg, fun g h hg hh => GraphName.key_inj hg hh,
    fun g hg => GraphName.key_inj hg trivial, fun key g => GraphName.ofKey?_eq_ok_iff.mp,
    fun t ht => ⟨t.graphName, Term.ofKey?_graphKey ht, t.key_graphName, fun triples => ?_,
      fun w => ?_⟩⟩
  · rw [← t.key_graphName]
    exact Dataset.toQuads?_ofGraph (Term.graphName_wellFormed ht) triples
  · rw [GraphWriter.graphName?_eq w (Term.isName_graphKey ht), GraphWriter.graphOf_graphKey ht]

/-- A blank node, an IRI, and a statement about a literal with a line break and a quote. -/
theorem graphKeys_decode_stated :
    let g : GraphName := .blank "b"
    let h : GraphName := .iri "x:g"
    let t : Term := .triple (.blank "b") "x:says" (.literal (.simple "\n\"é"))
    (GraphName.ofKey? "_:b" = .ok g ∧ GraphName.ofKey? "x:g" = .ok h ∧ g.key ≠ h.key ∧
      g.key ≠ GraphName.default.key) ∧
    ∃ name : GraphName, GraphName.ofKey? t.graphKey = .ok name ∧ name.key =
      "x-rdfstar:%3C%3C_%3Ab+%3Cx%3Asays%3E+%22%5Cn%5C%22%C3%A9%22%3E%3E" := by
  intro g h t
  obtain ⟨hback, hinj, hdefault, hkey, hterm⟩ := graphKeys_decode
  have hg : g.WellFormed := by
    show isBlankLabel "b".toList = true
    decide +kernel
  have hh : h.WellFormed := by
    show IsIri "x:g"
    unfold IsIri
    decide +kernel
  have ht : t.WellFormed := by
    have hsays : IsIri "x:says" := by unfold IsIri; decide +kernel
    exact ⟨hg, hsays, trivial⟩
  obtain ⟨name, hname, -, -⟩ := hterm t ht
  have htext : t.graphKey =
      "x-rdfstar:%3C%3C_%3Ab+%3Cx%3Asays%3E+%22%5Cn%5C%22%C3%A9%22%3E%3E" := by decide +kernel
  have hdiffer : g ≠ h ∧ g ≠ .default := by decide
  exact ⟨⟨hback g hg, hback h hh, fun he => hdiffer.1 (hinj g h hg hh he),
    fun he => hdiffer.2 (hdefault g hg he)⟩, name, hname, (hkey _ _ hname).2.trans htext⟩

end LinkedQueries
