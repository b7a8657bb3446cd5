import LinkedQueries.Bgp.Features
import LinkedQueries.Proofs.Bgp.Incidence

/-!
# The features of a query are those of its leaves

A part of a pattern is found at an address: the way from the whole pattern down to the part, as the
numbers of the parts that are entered. Addresses are ordered from left to right. The leaves of a
pattern are the nonempty basic graph patterns at its addresses; what stands in expressions, property
paths and inline data has no address.

Results:
* `exists_located`: the leaves are listed once each in the order of their addresses, by induction on
  the parts.
* `Alike.leaves_eq`: patterns that differ only beside their leaves have the same leaves.
* `features_eq_iff`: queries have equal features iff they have the same leaves.
* **`features_of_leaves`**: the features of any query, its counts, and what they depend on.
-/

namespace LinkedQueries.Sparql

namespace GraphPattern

/-! ## Addresses -/

/-- The patterns that a pattern is made of, from left to right. -/
def parts : GraphPattern → List GraphPattern
  | .join left right | .leftJoin left right _ | .union left right | .minus left right =>
    [left, right]
  | .filter _ inner | .graph _ inner | .extend inner _ _ | .orderBy inner _ | .project inner _
  | .distinct inner | .reduced inner | .slice inner _ _ | .group inner _ _ | .service _ inner _ =>
    [inner]
  | .bgp _ | .path .. | .values .. => []

/-- The part at an address. -/
def at? : List Nat → GraphPattern → Option GraphPattern
  | [], p => some p
  | i :: address, p => p.parts[i]?.bind (at? address)

/-- There is a leaf at an address. -/
def HasLeaf (p : GraphPattern) (address : List Nat) (leaf : List TriplePattern) : Prop :=
  leaf ≠ [] ∧ p.at? address = some (.bgp leaf)

/-- A leaf with its address. -/
abbrev Located := List Nat × List TriplePattern

/-- The leaves of a pattern with their addresses, from left to right. -/
structure Locates (p : GraphPattern) (located : List Located) : Prop where
  ascending : (located.map (·.1)).Pairwise (· < ·)
  mem_iff : ∀ x, x ∈ located ↔ p.HasLeaf x.1 x.2
  leaves : located.map (·.2) = p.leaves

/-- **Induction on the parts.** The leaves of all patterns but the basic ones are those of their
parts. -/
theorem parts_induction {motive : GraphPattern → Prop} (bgp : ∀ ps, motive (.bgp ps))
    (parts : ∀ p : GraphPattern, (∀ ps, p ≠ .bgp ps) → p.leaves = p.parts.flatMap leaves →
      (∀ q ∈ p.parts, motive q) → motive p) : ∀ p, motive p
  | .bgp ps => bgp ps
  | .path .. | .values .. => parts _ nofun (by rw [leaves]; rfl) nofun
  | .join left right | .leftJoin left right _ | .union left right | .minus left right =>
    parts _ nofun (by rw [leaves]; simp [GraphPattern.parts]) <|
      List.forall_mem_cons.mpr ⟨parts_induction bgp parts left,
        List.forall_mem_singleton.mpr (parts_induction bgp parts right)⟩
  | .filter _ inner | .graph _ inner | .extend inner _ _ | .orderBy inner _ | .project inner _
  | .distinct inner | .reduced inner | .slice inner _ _ | .group inner _ _ | .service _ inner _ =>
    parts _ nofun (by rw [leaves]; simp [GraphPattern.parts]) <|
      List.forall_mem_singleton.mpr (parts_induction bgp parts inner)

theorem hasLeaf_bgp {ps leaf : List TriplePattern} {address : List Nat} :
    (GraphPattern.bgp ps).HasLeaf address leaf ↔ leaf ≠ [] ∧ address = [] ∧ ps = leaf := by
  cases address with
  | nil => simp [HasLeaf, at?]
  | cons i address => simp [HasLeaf, at?, parts]

/-- A leaf of a pattern that is not basic is one of its parts. -/
theorem hasLeaf_iff {p : GraphPattern} (h : ∀ ps, p ≠ .bgp ps) {address : List Nat}
    {leaf : List TriplePattern} :
    p.HasLeaf address leaf ↔
      ∃ i below q, address = i :: below ∧ p.parts[i]? = some q ∧ q.HasLeaf below leaf := by
  cases address with
  | nil => simp [HasLeaf, at?, h]
  | cons i below =>
    unfold HasLeaf
    rw [at?]
    constructor
    · rintro ⟨hleaf, hat⟩
      obtain ⟨q, hq, hat⟩ := Option.bind_eq_some_iff.mp hat
      exact ⟨i, below, q, rfl, hq, hleaf, hat⟩
    · rintro ⟨i, below, q, haddress, hq, hleaf, hat⟩
      obtain ⟨rfl, rfl⟩ := List.cons.inj haddress
      exact ⟨hleaf, Option.bind_eq_some_iff.mpr ⟨q, hq, hat⟩⟩

/-- The leaf of a part that is the `i`-th from the left. -/
def Located.under (i : Nat) (x : Located) : Located := (i :: x.1, x.2)

/-- The leaves of some parts, the first of which is the `n`-th. -/
theorem exists_located_parts : ∀ (qs : List GraphPattern) (n : Nat),
    (∀ q ∈ qs, ∃ located, q.Locates located) → ∃ located : List Located,
      (located.map (·.1)).Pairwise (· < ·) ∧
      (∀ x, x ∈ located ↔
        ∃ i below q, x.1 = (n + i) :: below ∧ qs[i]? = some q ∧ q.HasLeaf below x.2) ∧
      located.map (·.2) = qs.flatMap leaves
  | [], n, _ => ⟨[], .nil, by simp, rfl⟩
  | q :: qs, n, h => by
    obtain ⟨hq, hqs⟩ := List.forall_mem_cons.mp h
    obtain ⟨first, hfirst⟩ := hq
    obtain ⟨rest, hascending, hmem, hleaves⟩ := exists_located_parts qs (n + 1) hqs
    refine ⟨first.map (Located.under n) ++ rest, ?_, fun x => ?_, ?_⟩
    · rw [List.map_append, List.pairwise_append, List.map_map]
      refine ⟨?_, hascending, fun a ha b hb => ?_⟩
      · have hunder : (fun x : Located => x.1) ∘ Located.under n = (n :: ·) ∘ (·.1) := rfl
        rw [hunder, ← List.map_map, List.pairwise_map]
        exact hfirst.ascending.imp fun hlt => List.cons_lt_cons_self.mpr hlt
      · obtain ⟨x, -, rfl⟩ := List.mem_map.mp ha
        obtain ⟨y, hy, rfl⟩ := List.mem_map.mp hb
        obtain ⟨i, below, q', hyi, -⟩ := (hmem y).mp hy
        rw [hyi]
        exact List.Lex.rel (by omega)
    · rw [List.mem_append, List.mem_map, hmem]
      constructor
      · rintro (⟨y, hy, rfl⟩ | ⟨i, below, q', hx, hq', hleaf⟩)
        · exact ⟨0, y.1, q, rfl, rfl, (hfirst.mem_iff y).mp hy⟩
        · exact ⟨i + 1, below, q', by rw [hx]; congr 1; omega, hq', hleaf⟩
      · rintro ⟨i, below, q', hx, hq', hleaf⟩
        cases i with
        | zero =>
          obtain rfl := Option.some.inj hq'
          refine .inl ⟨(below, x.2), (hfirst.mem_iff _).mpr hleaf, ?_⟩
          rw [Located.under, ← Nat.add_zero n, ← hx]
        | succ i => exact .inr ⟨i, below, q', by rw [hx]; congr 1; omega, hq', hleaf⟩
    · rw [List.map_append, List.map_map, List.flatMap_cons, hleaves, ← hfirst.leaves]
      rfl

/-- **The leaves** of a pattern, each once, in the order of their addresses. -/
theorem exists_located (p : GraphPattern) : ∃ located, p.Locates located := by
  induction p using parts_induction with
  | bgp ps =>
    by_cases hps : ps = []
    · subst hps
      refine ⟨[], .nil, fun x => ?_, by rw [leaves]; rfl⟩
      rw [hasLeaf_bgp]
      constructor
      · nofun
      · rintro ⟨hleaf, -, heq⟩
        exact absurd heq.symm hleaf
    · refine ⟨[([], ps)], List.pairwise_singleton .., fun x => ?_, by simp [leaves, hps]⟩
      rw [hasLeaf_bgp, List.mem_singleton, Prod.ext_iff]
      constructor
      · rintro ⟨haddress, hleaf⟩
        exact ⟨by rwa [hleaf], haddress, hleaf.symm⟩
      · rintro ⟨-, haddress, hleaf⟩
        exact ⟨haddress, hleaf.symm⟩
  | parts p hp hleaves ih =>
    obtain ⟨located, hascending, hmem, hlocated⟩ := exists_located_parts p.parts 0 ih
    refine ⟨located, hascending, fun x => ?_, hlocated.trans hleaves.symm⟩
    rw [hmem, hasLeaf_iff hp]
    simp only [Nat.zero_add]

/-! ## Patterns with the same leaves -/

/-- The patterns differ only beside their leaves: in expressions, names, solution modifiers, property
paths and inline data, and in empty basic graph patterns that stand on one side of an operator. -/
inductive Alike : GraphPattern → GraphPattern → Prop where
  | bgp (ps : List TriplePattern) : Alike (.bgp ps) (.bgp ps)
  | path (s s' : TermPattern) (p p' : Path) (o o' : TermPattern) :
    Alike (.path s p o) (.path s' p' o')
  | values (xs xs' : List String) (rows rows' : List (List (Option GroundTerm))) :
    Alike (.values xs rows) (.values xs' rows')
  | join {l l' r r' : GraphPattern} : Alike l l' → Alike r r' → Alike (.join l r) (.join l' r')
  | leftJoin {l l' r r' : GraphPattern} (c c' : Option Expression) :
    Alike l l' → Alike r r' → Alike (.leftJoin l r c) (.leftJoin l' r' c')
  | union {l l' r r' : GraphPattern} : Alike l l' → Alike r r' → Alike (.union l r) (.union l' r')
  | minus {l l' r r' : GraphPattern} : Alike l l' → Alike r r' → Alike (.minus l r) (.minus l' r')
  | filter {p p' : GraphPattern} (c c' : Expression) :
    Alike p p' → Alike (.filter c p) (.filter c' p')
  | graph {p p' : GraphPattern} (n n' : NamePattern) :
    Alike p p' → Alike (.graph n p) (.graph n' p')
  | extend {p p' : GraphPattern} (x x' : String) (e e' : Expression) :
    Alike p p' → Alike (.extend p x e) (.extend p' x' e')
  | orderBy {p p' : GraphPattern} (keys keys' : List (SortOrder × Expression)) :
    Alike p p' → Alike (.orderBy p keys) (.orderBy p' keys')
  | project {p p' : GraphPattern} (xs xs' : List String) :
    Alike p p' → Alike (.project p xs) (.project p' xs')
  | distinct {p p' : GraphPattern} : Alike p p' → Alike (.distinct p) (.distinct p')
  | reduced {p p' : GraphPattern} : Alike p p' → Alike (.reduced p) (.reduced p')
  | slice {p p' : GraphPattern} (start start' : Nat) (length length' : Option Nat) :
    Alike p p' → Alike (.slice p start length) (.slice p' start' length')
  | group {p p' : GraphPattern} (xs xs' : List String) (as as' : List (String × Aggregate)) :
    Alike p p' → Alike (.group p xs as) (.group p' xs' as')
  | service {p p' : GraphPattern} (n n' : NamePattern) (silent silent' : Bool) :
    Alike p p' → Alike (.service n p silent) (.service n' p' silent')
  | insertBefore {p q : GraphPattern} : q.parts = [.bgp [], p] → Alike p q
  | insertBehind {p q : GraphPattern} : q.parts = [p, .bgp []] → Alike p q
  | symm {p q : GraphPattern} : Alike p q → Alike q p
  | trans {p q r : GraphPattern} : Alike p q → Alike q r → Alike p r

/-- A pattern with parts has the leaves of these parts. -/
theorem leaves_of_parts {p : GraphPattern} {qs : List GraphPattern} (h : p.parts = qs)
    (hqs : qs ≠ []) : p.leaves = qs.flatMap leaves := by
  subst h
  induction p using parts_induction with
  | bgp ps => exact absurd rfl hqs
  | parts p _ hleaves _ => exact hleaves

theorem leaves_empty : (GraphPattern.bgp []).leaves = [] := by
  rw [leaves]
  rfl

/-- Alike patterns have the same leaves. -/
theorem Alike.leaves_eq {p q : GraphPattern} (h : p.Alike q) : p.leaves = q.leaves := by
  induction h with
  | bgp ps => rfl
  | path | values => rw [leaves, leaves]
  | join _ _ ihl ihr | leftJoin _ _ _ _ ihl ihr | union _ _ ihl ihr | minus _ _ ihl ihr =>
    rw [leaves, leaves, ihl, ihr]
  | filter _ _ _ ih | graph _ _ _ ih | extend _ _ _ _ _ ih | orderBy _ _ _ ih | project _ _ _ ih
  | distinct _ ih | reduced _ ih | slice _ _ _ _ _ ih | group _ _ _ _ _ ih
  | service _ _ _ _ _ ih =>
    rw [leaves, leaves, ih]
  | insertBefore hq | insertBehind hq =>
    rw [leaves_of_parts hq nofun]
    simp [leaves_empty]
  | symm _ ih => exact ih.symm
  | trans _ _ ihp ihq => exact ihp.trans ihq

end GraphPattern

/-! ## Features -/

/-- Queries have equal features iff they have the same leaves. -/
theorem Query.features_eq_iff {q q' : Query} :
    q.features = q'.features ↔ q.pattern.leaves = q'.pattern.leaves := by
  have hinj : Function.Injective JoinGraph.ofPatterns :=
    Function.LeftInverse.injective fun ps => (JoinGraph.represents_ofPatterns ps).patterns
  unfold features
  rw [Features.mk.injEq, List.map_inj_right fun _ _ h => hinj h]

/-- **The features of a query are a function of its leaves alone.** They are the join graphs of the
nonempty basic graph patterns at the addresses of its pattern, each once, from left to right, and
they count these patterns, their triple patterns and their join vertices. So two queries have equal
features iff they have the same leaves in the same order, as they do if their patterns differ only
beside the leaves, whatever their forms, datasets and base IRIs. -/
theorem features_of_leaves (q : Query) :
    (∃ located : List GraphPattern.Located,
      (located.map (·.1)).Pairwise (· < ·) ∧
      (∀ x, x ∈ located ↔ x.2 ≠ [] ∧ q.pattern.at? x.1 = some (.bgp x.2)) ∧
      q.features.graphs = located.map (JoinGraph.ofPatterns ·.2) ∧
      q.features.graphs.length = located.length ∧
      q.features.patternCount = total (located.map (·.2.length)) ∧
      q.features.joinVertexCount =
        total (located.map fun x => (JoinGraph.ofPatterns x.2).joinVertices.length)) ∧
    (∀ q' : Query, q.features = q'.features ↔ q.pattern.leaves = q'.pattern.leaves) ∧
    ∀ q' : Query, q.pattern.Alike q'.pattern → q.features = q'.features := by
  refine ⟨?_, fun q' => Query.features_eq_iff, fun q' h => Query.features_eq_iff.mpr h.leaves_eq⟩
  obtain ⟨located, hlocated⟩ := q.pattern.exists_located
  have hgraphs : q.features.graphs = located.map (JoinGraph.ofPatterns ·.2) := by
    unfold Query.features
    rw [← hlocated.leaves, List.map_map]
    rfl
  have hedges : ∀ ps, (JoinGraph.ofPatterns ps).edges.length = ps.length := fun ps => by
    have hpatterns := congrArg List.length (JoinGraph.represents_ofPatterns ps).patterns
    rwa [JoinGraph.patterns, List.length_map] at hpatterns
  refine ⟨located, hlocated.ascending, hlocated.mem_iff, hgraphs, ?_, ?_, ?_⟩
  · rw [hgraphs, List.length_map]
  · unfold Features.patternCount
    rw [hgraphs, List.map_map]
    exact congrArg total (List.map_congr_left fun x _ => hedges x.2)
  · unfold Features.joinVertexCount
    rw [hgraphs, List.map_map]
    rfl

end LinkedQueries.Sparql
