import LinkedQueries.Rdf.GraphKey
import Mathlib.Data.List.Lex

/-!
# Keys of patterns

A pattern names the graph of the term that it denotes. It denotes none if it is a variable, or if a
triple quoted in it has a variable, or a literal as its subject. Each such node is found at an
address: the way down to it, as the numbers of the terms that are entered (a subject is 0, a
predicate 1, an object 2). Addresses are ordered from left to right, and the first offending node is
the one that is reported. Variables and literals have nothing inside, so it makes no difference
whether a node counts before its inside or after it.

* `TermPattern.quotedTriples`: the triples that are quoted in a pattern, at any depth.
* `TermPattern.Offends`: a node that keeps a pattern from denoting a term, with its address.

Results:
* `ground?_eq_ok_iff`: a pattern denotes the term whose image it is.
* `exists_ground?_iff`: which patterns denote a term, told by the quoted triples.
* `ground?_eq_error_iff`: the node that is reported is the first that offends, by induction on the
  pattern.
* **`graphKey?_exact`**: keys of patterns agree with keys of terms, and all others are reported.
-/

namespace LinkedQueries

/-- No quoted triple has a literal as its subject. -/
def Term.LegalSubjects : Term → Prop
  | .triple s _ o => (∀ l, s ≠ .literal l) ∧ s.LegalSubjects ∧ o.LegalSubjects
  | _ => True

/-- A variable, as opposed to the nodes that denote something. -/
def TermPattern.IsVariable (p : TermPattern) : Prop :=
  ∃ v, p = .variable v

/-- Neither is a term of the triple a variable, nor its subject a literal. -/
structure TriplePattern.Legal (t : TriplePattern) : Prop where
  noVariable : ∀ p ∈ t.terms, ¬ p.IsVariable
  noLiteral : ∀ l, t.subject ≠ .literal l

namespace TermPattern

/-- The triples that are quoted in a pattern, at any depth; the pattern itself, if it is one, comes
first. -/
def quotedTriples : TermPattern → List TriplePattern
  | .triple s p o => ⟨s, p, o⟩ :: (s.quotedTriples ++ o.quotedTriples)
  | _ => []

/-! ## Nodes that offend -/

/-- A node of a pattern, at an address, that keeps the pattern from denoting a term. -/
inductive Offends : TermPattern → List Nat → TermPattern → Prop
  | variable (v : String) : Offends (.variable v) [] (.variable v)
  | literal (l : Literal) (p : NamePattern) (o : TermPattern) :
      Offends (.triple (.literal l) p o) [0] (.literal l)
  | subject {s node : TermPattern} {address : List Nat} (p : NamePattern) (o : TermPattern) :
      Offends s address node → Offends (.triple s p o) (0 :: address) node
  | predicate (s : TermPattern) (v : String) (o : TermPattern) :
      Offends (.triple s (.variable v) o) [1] (.variable v)
  | object {o node : TermPattern} {address : List Nat} (s : TermPattern) (p : NamePattern) :
      Offends o address node → Offends (.triple s p o) (2 :: address) node

/-- The node offends, and no other that does is to the left of it. -/
def OffendsFirst (p node : TermPattern) : Prop :=
  ∃ address, p.Offends address node ∧ ∀ other node', p.Offends other node' → address ≤ other

/-- There is one node at an address. -/
theorem Offends.node_eq {p node node' : TermPattern} {address : List Nat}
    (h : p.Offends address node) (h' : p.Offends address node') : node = node' := by
  induction h with
  | «variable» v => cases h'; rfl
  | literal l p o =>
    cases h' with
    | literal => rfl
    | subject _ _ h' => cases h'
  | subject p o h ih =>
    cases h' with
    | literal => cases h
    | subject _ _ h' => exact ih h'
  | predicate s v o => cases h'; rfl
  | object s p h ih =>
    cases h' with
    | object _ _ h' => exact ih h'

theorem OffendsFirst.node_eq {p node node' : TermPattern} (h : p.OffendsFirst node)
    (h' : p.OffendsFirst node') : node = node' := by
  obtain ⟨address, hoffends, hfirst⟩ := h
  obtain ⟨address', hoffends', hfirst'⟩ := h'
  obtain rfl : address = address' :=
    le_antisymm (hfirst _ _ hoffends') (hfirst' _ _ hoffends)
  exact hoffends.node_eq hoffends'

/-! ## One level -/

theorem asSubject_eq_ok {t u : Term} : t.asSubject = .ok u ↔ (∀ l, t ≠ .literal l) ∧ t = u := by
  cases t <;> simp [Term.asSubject]

theorem asSubject_eq_error {t : Term} {node : TermPattern} :
    t.asSubject = .error node ↔ ∃ l, t = .literal l ∧ node = .literal l := by
  cases t <;> simp [Term.asSubject, eq_comm]

variable {s o : TermPattern} {p : NamePattern}

/-- A quoted triple denotes a term if its terms do, its subject none that is a literal. -/
theorem ground?_triple_eq_ok {t : Term} :
    (TermPattern.triple s p o).ground? = .ok t ↔
      ∃ subject i object, s.ground? = .ok subject ∧ (∀ l, subject ≠ .literal l) ∧ p = .iri i ∧
        o.ground? = .ok object ∧ t = .triple subject i object := by
  rw [ground?]
  cases hs : s.ground? with
  | error node => simp [bind, Except.bind]
  | ok subject =>
    cases hsubject : subject.asSubject with
    | error node =>
      obtain ⟨l, rfl, -⟩ := asSubject_eq_error.mp hsubject
      simp [bind, Except.bind, hsubject]
    | ok named =>
      obtain ⟨hliteral, rfl⟩ := asSubject_eq_ok.mp hsubject
      cases p with
      | «variable» v => simp [bind, Except.bind, hsubject, NamePattern.ground?]
      | iri i =>
        cases o.ground? with
        | error node => simp [bind, Except.bind, hsubject, NamePattern.ground?]
        | ok object =>
          simp [bind, Except.bind, pure, Except.pure, hsubject, NamePattern.ground?, hliteral,
            eq_comm]

/-- What is reported for a quoted triple: something in its subject, its subject, its predicate, or
something in its object; each only if all before it denotes something. -/
theorem ground?_triple_eq_error {node : TermPattern}
    (h : (TermPattern.triple s p o).ground? = .error node) :
    s.ground? = .error node ∨
    (∃ l, s.ground? = .ok (.literal l) ∧ node = .literal l) ∨
    ∃ subject, s.ground? = .ok subject ∧ (∀ l, subject ≠ .literal l) ∧
      ((∃ v, p = .variable v ∧ node = .variable v) ∨
        (∃ i, p = .iri i) ∧ o.ground? = .error node) := by
  rw [ground?] at h
  cases hs : s.ground? with
  | error first =>
    rw [hs] at h
    exact .inl h
  | ok subject =>
    rw [hs] at h
    cases hsubject : subject.asSubject with
    | error first =>
      obtain ⟨l, rfl, rfl⟩ := asSubject_eq_error.mp hsubject
      obtain rfl := Except.error.inj h
      exact .inr (.inl ⟨l, rfl, rfl⟩)
    | ok named =>
      obtain ⟨hliteral, rfl⟩ := asSubject_eq_ok.mp hsubject
      refine .inr (.inr ⟨subject, rfl, hliteral, ?_⟩)
      simp only [bind, Except.bind, hsubject] at h
      cases p with
      | «variable» v =>
        obtain rfl := Except.error.inj h
        exact .inl ⟨v, rfl, rfl⟩
      | iri i =>
        refine .inr ⟨⟨i, rfl⟩, ?_⟩
        cases ho : o.ground? with
        | error first =>
          rw [ho] at h
          exact h
        | ok object =>
          rw [ho] at h
          cases h

/-! ## Patterns and terms -/

/-- **A pattern denotes a term** iff it is the image of the term. -/
theorem ground?_eq_ok_iff {p : TermPattern} {t : Term} :
    p.ground? = .ok t ↔ t.LegalSubjects ∧ t.pattern = p := by
  constructor
  · intro h
    induction p generalizing t with
    | iri i => cases h; exact ⟨trivial, rfl⟩
    | blank l => cases h; exact ⟨trivial, rfl⟩
    | literal l => cases h; exact ⟨trivial, rfl⟩
    | «variable» v => cases h
    | triple s p o ihs iho =>
      obtain ⟨subject, i, object, hs, hliteral, rfl, ho, rfl⟩ := ground?_triple_eq_ok.mp h
      obtain ⟨hslegal, rfl⟩ := ihs hs
      obtain ⟨holegal, rfl⟩ := iho ho
      exact ⟨⟨hliteral, hslegal, holegal⟩, rfl⟩
  · rintro ⟨hlegal, rfl⟩
    induction t with
    | iri i => rfl
    | blank l => rfl
    | literal l => rfl
    | triple s i o ihs iho =>
      obtain ⟨hliteral, hs, ho⟩ := hlegal
      exact ground?_triple_eq_ok.mpr ⟨s, i, o, ihs hs, hliteral, rfl, iho ho, rfl⟩

theorem ground?_eq_literal_iff {p : TermPattern} {l : Literal} :
    p.ground? = .ok (.literal l) ↔ p = .literal l :=
  ⟨fun h => (ground?_eq_ok_iff.mp h).2.symm, fun h => h ▸ rfl⟩

/-- **Which patterns denote a term**: those that are no variable, if all triples quoted in them are
legal. -/
theorem exists_ground?_iff {p : TermPattern} :
    (∃ t, p.ground? = .ok t) ↔ ¬ p.IsVariable ∧ ∀ t ∈ p.quotedTriples, t.Legal := by
  induction p with
  | iri i => simp [ground?, IsVariable, quotedTriples]
  | blank l => simp [ground?, IsVariable, quotedTriples]
  | literal l => simp [ground?, IsVariable, quotedTriples]
  | «variable» v => simp [ground?, IsVariable]
  | triple s p o ihs iho =>
    rw [quotedTriples, List.forall_mem_cons, List.forall_mem_append]
    constructor
    · rintro ⟨t, ht⟩
      obtain ⟨subject, i, object, hs, hliteral, rfl, ho, -⟩ := ground?_triple_eq_ok.mp ht
      obtain ⟨hsvariable, hslegal⟩ := ihs.mp ⟨subject, hs⟩
      obtain ⟨hovariable, holegal⟩ := iho.mp ⟨object, ho⟩
      refine ⟨nofun, ⟨?_, ?_⟩, hslegal, holegal⟩
      · simp only [TriplePattern.terms, List.forall_mem_cons]
        exact ⟨hsvariable, nofun, hovariable, nofun⟩
      · rintro l rfl
        exact hliteral l (Except.ok.inj hs).symm
    · rintro ⟨-, hlegal, hslegal, holegal⟩
      obtain ⟨hvariable, hliteral⟩ := hlegal
      simp only [TriplePattern.terms, List.forall_mem_cons] at hvariable
      obtain ⟨hsvariable, hpvariable, hovariable, -⟩ := hvariable
      obtain ⟨subject, hs⟩ := ihs.mpr ⟨hsvariable, hslegal⟩
      obtain ⟨object, ho⟩ := iho.mpr ⟨hovariable, holegal⟩
      cases p with
      | «variable» v => exact absurd ⟨v, rfl⟩ hpvariable
      | iri i =>
        refine ⟨_, ground?_triple_eq_ok.mpr ⟨subject, i, object, hs, ?_, rfl, ho, rfl⟩⟩
        rintro l rfl
        exact hliteral l (ground?_eq_literal_iff.mp hs)

/-! ## The node that is reported -/

/-- A pattern that denotes a term has no offending node. -/
theorem not_offends {p node : TermPattern} {address : List Nat} {t : Term}
    (h : p.ground? = .ok t) : ¬ p.Offends address node := by
  intro hoffends
  induction hoffends generalizing t with
  | «variable» v => cases h
  | literal l p o =>
    obtain ⟨subject, i, object, hs, hliteral, -⟩ := ground?_triple_eq_ok.mp h
    exact hliteral l (Except.ok.inj hs).symm
  | subject p o _ ih =>
    obtain ⟨subject, i, object, hs, -⟩ := ground?_triple_eq_ok.mp h
    exact ih hs
  | predicate s v o =>
    obtain ⟨subject, i, object, -, -, hp, -⟩ := ground?_triple_eq_ok.mp h
    cases hp
  | object s p _ ih =>
    obtain ⟨subject, i, object, -, -, -, ho, -⟩ := ground?_triple_eq_ok.mp h
    exact ih ho

theorem offendsFirst_of_ground? {p node : TermPattern} (h : p.ground? = .error node) :
    p.OffendsFirst node := by
  induction p with
  | iri i => cases h
  | blank l => cases h
  | literal l => cases h
  | «variable» v =>
    cases h
    refine ⟨[], .variable v, fun other node' h' => ?_⟩
    cases h'
    exact le_rfl
  | triple s p o ihs iho =>
    have left {i j : Nat} {below below' : List Nat} (hij : i < j) :
        i :: below ≤ j :: below' := le_of_lt (List.Lex.rel hij)
    obtain hs | ⟨l, hs, rfl⟩ | ⟨subject, hs, hliteral, ⟨v, rfl, rfl⟩ | ⟨⟨i, rfl⟩, ho⟩⟩ :=
      ground?_triple_eq_error h
    · obtain ⟨address, hoffends, hfirst⟩ := ihs hs
      refine ⟨0 :: address, .subject p o hoffends, fun other node' h' => ?_⟩
      cases h' with
      | literal l => cases hs
      | subject _ _ h' => exact List.cons_le_cons _ (hfirst _ _ h')
      | predicate => exact left (by decide)
      | object => exact left (by decide)
    · obtain rfl := ground?_eq_literal_iff.mp hs
      refine ⟨[0], .literal l p o, fun other node' h' => ?_⟩
      cases h' with
      | literal => exact le_rfl
      | subject _ _ h' => cases h'
      | predicate => exact left (by decide)
      | object => exact left (by decide)
    · refine ⟨[1], .predicate s v o, fun other node' h' => ?_⟩
      cases h' with
      | literal l => exact absurd (Except.ok.inj hs).symm (hliteral l)
      | subject _ _ h' => exact absurd h' (not_offends hs)
      | predicate => exact le_rfl
      | object => exact left (by decide)
    · obtain ⟨address, hoffends, hfirst⟩ := iho ho
      refine ⟨2 :: address, .object s _ hoffends, fun other node' h' => ?_⟩
      cases h' with
      | literal l => exact absurd (Except.ok.inj hs).symm (hliteral l)
      | subject _ _ h' => exact absurd h' (not_offends hs)
      | object _ _ h' => exact List.cons_le_cons _ (hfirst _ _ h')

/-- **The node that is reported** is the first that offends. -/
theorem ground?_eq_error_iff {p node : TermPattern} :
    p.ground? = .error node ↔ p.OffendsFirst node := by
  refine ⟨offendsFirst_of_ground?, fun hfirst => ?_⟩
  cases hground : p.ground? with
  | error reported => rw [(offendsFirst_of_ground? hground).node_eq hfirst]
  | ok t =>
    obtain ⟨address, hoffends, -⟩ := hfirst
    exact absurd hoffends (not_offends hground)

/-! ## Keys -/

theorem graphKey?_eq_ok {p : TermPattern} {key : String} :
    p.graphKey? = .ok key ↔ ∃ t, p.ground? = .ok t ∧ t.graphKey = key := by
  unfold graphKey?
  cases p.ground? <;> simp

theorem graphKey?_eq_error {p : TermPattern} {e : UnnamedNode} :
    p.graphKey? = .error e ↔ p.ground? = .error e.node := by
  obtain ⟨node⟩ := e
  unfold graphKey?
  cases p.ground? <;> simp

/-- **Keys of patterns agree with keys of terms.** A pattern has a key iff it is no variable and no
triple quoted in it, at whatever depth, has a variable as one of its terms or a literal as its
subject. It is then the image of a term and has the key of the term. The image of every term has a
key, that of the term, if no literal is the subject of a triple quoted in the term. The error about
any other pattern is about its first node that offends. -/
theorem graphKey?_exact (p : TermPattern) :
    ((∃ key, p.graphKey? = .ok key) ↔ ¬ p.IsVariable ∧ ∀ t ∈ p.quotedTriples, t.Legal) ∧
    (∀ key, p.graphKey? = .ok key →
      ∃ t : Term, t.LegalSubjects ∧ t.pattern = p ∧ t.graphKey = key) ∧
    (∀ t : Term, t.LegalSubjects → t.pattern.graphKey? = .ok t.graphKey) ∧
    ∀ e, p.graphKey? = .error e ↔ p.OffendsFirst e.node := by
  refine ⟨?_, fun key h => ?_, fun t ht => ?_, fun e => ?_⟩
  · rw [← exists_ground?_iff]
    constructor
    · rintro ⟨key, h⟩
      obtain ⟨t, ht, -⟩ := graphKey?_eq_ok.mp h
      exact ⟨t, ht⟩
    · rintro ⟨t, ht⟩
      exact ⟨t.graphKey, graphKey?_eq_ok.mpr ⟨t, ht, rfl⟩⟩
  · obtain ⟨t, ht, hkey⟩ := graphKey?_eq_ok.mp h
    obtain ⟨hlegal, himage⟩ := ground?_eq_ok_iff.mp ht
    exact ⟨t, hlegal, himage, hkey⟩
  · exact graphKey?_eq_ok.mpr ⟨t, ground?_eq_ok_iff.mpr ⟨ht, rfl⟩, rfl⟩
  · rw [graphKey?_eq_error, ground?_eq_error_iff]

/-- A statement about a statement, with literals as objects; and a pattern with four offending
nodes, of which the literal is two levels down and the variable beside it comes after it. -/
theorem graphKey?_exact_nested :
    let stated : Term :=
      .triple (.triple (.blank "b") "x:says" (.literal (.simple "a"))) "x:in"
        (.literal (.simple ""))
    let faulty : TermPattern :=
      .triple (.triple (.literal (.simple "a")) (.variable "p") (.iri "x:o")) (.variable "q")
        (.variable "o")
    (stated.LegalSubjects ∧ stated.pattern.graphKey? = .ok stated.graphKey) ∧
    faulty.OffendsFirst (.literal (.simple "a")) ∧
    ¬ ∀ t ∈ faulty.quotedTriples, t.Legal := by
  intro stated faulty
  have hstated : stated.LegalSubjects := ⟨nofun, ⟨nofun, trivial, trivial⟩, trivial⟩
  obtain ⟨hkey, -, hterm, herror⟩ := graphKey?_exact faulty
  refine ⟨⟨hstated, hterm stated hstated⟩, (herror ⟨.literal (.simple "a")⟩).mp rfl,
    fun hlegal => ?_⟩
  obtain ⟨key, hok⟩ := hkey.mpr ⟨nofun, hlegal⟩
  cases hok

end TermPattern

end LinkedQueries
