import LinkedQueries.Proofs.Bgp.Incidence
import Mathlib.Algebra.BigOperators.Group.Finset.Piecewise
import Mathlib.Algebra.Group.Action.Defs
import Mathlib.Algebra.Order.BigOperators.Group.Finset
import Mathlib.Algebra.Ring.Nat
import Mathlib.Data.List.Dedup
import Mathlib.Data.List.Sort
import Mathlib.Data.Multiset.Count
import Mathlib.Data.Multiset.Filter

/-!
# The figures about the joins

The figures of a join graph are computed from the degrees of its vertices. Here they are said of the
patterns alone: how many distinct terms there are, how many of them occur in two patterns or more,
and what mean and median the numbers of these patterns have.

* `occurrences`, `distinctTerms`, `sharedTerms`, `sharing`: the counts, as sets and multisets.
* `IsLowerMedian`: an element with enough elements on either side, of which there is only one.
* `statistics?`: the figures by a division and an access that can fail.

Results:
* `vertices_ofPatterns`: the vertices are the distinct terms with the numbers of their patterns.
* `statistics_congr`: the figures depend on the degrees up to order.
* `isLowerMedian_lowerMedian`: the element in the middle of the sorted list is the lower median.
* `sum_occurrences_le`: a pattern adds at most three occurrences.
* **`statistics_exact`**: the figures of the graph of some patterns meet their definitions.
-/

namespace LinkedQueries

theorem total_eq_sum (xs : List Nat) : total xs = xs.sum := by
  induction xs with
  | nil => rfl
  | cons n rest ih => rw [total, List.sum_cons, ih]

namespace JoinGraph

/-! ## Medians -/

/-- An element of some numbers at or below which there are at least half of them, rounded up, and at
or above which there are more than half, rounded down. -/
structure IsLowerMedian (D : Multiset Nat) (m : Nat) : Prop where
  mem : m ∈ D
  below : (D.card + 1) / 2 ≤ D.countP (· ≤ m)
  above : D.card / 2 + 1 ≤ D.countP (m ≤ ·)

/-- The elements up to one number and those from a greater one on are different ones. -/
theorem countP_add_countP_le (D : Multiset Nat) {m n : Nat} (h : m < n) :
    D.countP (· ≤ m) + D.countP (n ≤ ·) ≤ D.card := by
  have habove : D.countP (n ≤ ·) ≤ D.countP (¬ · ≤ m) := by
    rw [Multiset.countP_eq_card_filter, Multiset.countP_eq_card_filter]
    exact Multiset.card_le_card (Multiset.monotone_filter_right D fun x hx => by omega)
  rw [D.card_eq_countP_add_countP (· ≤ m)]
  exact Nat.add_le_add_left habove _

/-- There is at most one lower median. -/
theorem IsLowerMedian.unique {D : Multiset Nat} {m n : Nat} (hm : IsLowerMedian D m)
    (hn : IsLowerMedian D n) : m = n := by
  rcases Nat.lt_trichotomy m n with hlt | heq | hlt
  · have hcount := countP_add_countP_le D hlt
    have hbelow := hm.below
    have habove := hn.above
    omega
  · exact heq
  · have hcount := countP_add_countP_le D hlt
    have hbelow := hn.below
    have habove := hm.above
    omega

section Sorted

variable {xs : List Nat} (hsorted : xs.Pairwise (· ≤ ·)) {i : Nat} (hi : i < xs.length)
include hsorted

/-- In a sorted list the elements up to a place are at most the one there. -/
theorem lt_countP_le : i < xs.countP (· ≤ xs[i]) := by
  have htake : (xs.take (i + 1)).countP (· ≤ xs[i]) = (xs.take (i + 1)).length := by
    refine List.countP_eq_length.mpr fun x hx => decide_eq_true ?_
    obtain ⟨j, hj, rfl⟩ := List.mem_take_iff_getElem.mp hx
    rcases Nat.lt_or_eq_of_le (Nat.le_of_lt_succ (Nat.lt_of_lt_of_le hj (Nat.min_le_left ..))) with
      hlt | rfl
    · exact List.pairwise_iff_getElem.mp hsorted j i _ hi hlt
    · exact Nat.le_refl _
  have hle := (List.take_sublist (i + 1) xs).countP_le (p := (· ≤ xs[i]))
  rw [htake, List.length_take] at hle
  omega

/-- In a sorted list the elements from a place on are at least the one there. -/
theorem sub_le_countP_ge : xs.length - i ≤ xs.countP (xs[i] ≤ ·) := by
  have hdrop : (xs.drop i).countP (xs[i] ≤ ·) = (xs.drop i).length := by
    refine List.countP_eq_length.mpr fun x hx => decide_eq_true ?_
    obtain ⟨j, hj, rfl⟩ := List.mem_drop_iff_getElem.mp hx
    rcases Nat.eq_zero_or_pos j with rfl | hpos
    · exact Nat.le_refl _
    · exact List.pairwise_iff_getElem.mp hsorted i (i + j) hi _ (by omega)
  rw [← List.length_drop, ← hdrop]
  exact (List.drop_sublist i xs).countP_le

end Sorted

theorem lowerMedian_nil : lowerMedian [] = 0 := by
  rw [lowerMedian, List.mergeSort_nil]
  rfl

/-- **The element in the middle** of the sorted list is the lower median. -/
theorem isLowerMedian_lowerMedian {xs : List Nat} (h : xs ≠ []) :
    IsLowerMedian xs (lowerMedian xs) := by
  have hperm : (xs.mergeSort (· ≤ ·)).Perm xs := List.mergeSort_perm xs _
  have hsorted : (xs.mergeSort (· ≤ ·)).Pairwise (· ≤ ·) := List.pairwise_mergeSort' (· ≤ ·) xs
  have hpos := List.length_pos_iff.mpr h
  have hi : (xs.length - 1) / 2 < (xs.mergeSort (· ≤ ·)).length := by
    rw [hperm.length_eq]
    omega
  have hmedian : lowerMedian xs = (xs.mergeSort (· ≤ ·))[(xs.length - 1) / 2] :=
    (List.getElem_eq_getD 0).symm
  rw [hmedian, ← Multiset.coe_eq_coe.mpr hperm]
  refine ⟨List.getElem_mem hi, ?_, ?_⟩
  · have hbelow := lt_countP_le hsorted hi
    rw [Multiset.coe_card, Multiset.coe_countP, hperm.length_eq]
    omega
  · have habove := sub_le_countP_ge hsorted hi
    rw [hperm.length_eq] at habove
    rw [Multiset.coe_card, Multiset.coe_countP, hperm.length_eq]
    omega

/-! ## Figures that depend on the degrees -/

theorem joinDegrees_eq (g : JoinGraph) :
    g.joinDegrees = (g.vertices.map (·.degree)).filter (2 ≤ ·) := by
  rw [List.filter_map]
  rfl

theorem length_joinDegrees (g : JoinGraph) : g.joinDegrees.length = g.joinVertices.length :=
  List.length_map _

theorem average_perm {xs ys : List Nat} (h : xs.Perm ys) : average xs = average ys := by
  unfold average
  rw [total_eq_sum, total_eq_sum, h.sum_eq, h.length_eq]

theorem lowerMedian_perm {xs ys : List Nat} (h : xs.Perm ys) : lowerMedian xs = lowerMedian ys := by
  by_cases hxs : xs = []
  · subst hxs
    rw [h.nil_eq]
  · have hys : ys ≠ [] := fun hnil => hxs (hnil ▸ h).eq_nil
    have hx := isLowerMedian_lowerMedian hxs
    rw [Multiset.coe_eq_coe.mpr h] at hx
    exact hx.unique (isLowerMedian_lowerMedian hys)

/-- **The figures** depend on the number of patterns and on the degrees, in whichever order. -/
theorem statistics_congr {g g' : JoinGraph} (hedges : g.edges.length = g'.edges.length)
    (hdegrees : (g.vertices.map (·.degree)).Perm (g'.vertices.map (·.degree))) :
    g.statistics = g'.statistics := by
  have hjoin : g.joinDegrees.Perm g'.joinDegrees := by
    rw [joinDegrees_eq, joinDegrees_eq]
    exact hdegrees.filter _
  have hvertices : g.vertices.length = g'.vertices.length := by
    simpa only [List.length_map] using hdegrees.length_eq
  unfold statistics
  rw [hedges, hvertices, ← length_joinDegrees, hjoin.length_eq, length_joinDegrees,
    average_perm hjoin, lowerMedian_perm hjoin]

/-- The quotient of two numbers; there is none by 0. -/
def quotient? (m n : Nat) : Option Nat :=
  if n = 0 then none else some (m / n)

/-- The figures about the joins, if no division is by 0 and no access is beyond the end. -/
def statistics? (g : JoinGraph) : Option JoinStatistics := do
  let degrees := g.joinDegrees
  let average ← if degrees.isEmpty then some 0 else quotient? (total degrees) degrees.length
  let median ←
    if degrees.isEmpty then some 0
    else (degrees.mergeSort (· ≤ ·))[(degrees.length - 1) / 2]?
  return ⟨g.edges.length, g.vertices.length, g.joinVertices.length, average, median⟩

/-- **No division is by 0** and no access is beyond the end. -/
theorem statistics?_eq (g : JoinGraph) : g.statistics? = some g.statistics := by
  unfold statistics? statistics average lowerMedian quotient?
  cases hdegrees : g.joinDegrees with
  | nil => simp [total]
  | cons d rest =>
    have hi : ((d :: rest).length - 1) / 2 < ((d :: rest).mergeSort (· ≤ ·)).length := by
      rw [List.length_mergeSort, List.length_cons]
      omega
    have hlength : (d :: rest).length ≠ 0 := Nat.succ_ne_zero rest.length
    simp only [List.isEmpty_cons, Bool.false_eq_true, if_false, hlength, Option.bind_eq_bind,
      Option.bind_some, List.getElem?_eq_getElem hi, List.getD_eq_getElem?_getD, Option.getD_some,
      Option.pure_def]

/-! ## Counting patterns -/

/-- The number of patterns in which a term occurs. -/
def occurrences (ps : List TriplePattern) (t : TermPattern) : Nat :=
  ps.countP (t ∈ ·.terms)

/-- The terms that occur in some patterns. -/
def distinctTerms (ps : List TriplePattern) : Finset TermPattern :=
  (ps.flatMap TriplePattern.terms).toFinset

/-- The terms that occur in at least two of some patterns. -/
def sharedTerms (ps : List TriplePattern) : Finset TermPattern :=
  (distinctTerms ps).filter (2 ≤ occurrences ps ·)

/-- The numbers of patterns in which the shared terms occur, one for each term. -/
def sharing (ps : List TriplePattern) : Multiset Nat :=
  (sharedTerms ps).val.map (occurrences ps)

theorem occurrences_pos {ps : List TriplePattern} {t : TermPattern} (h : t ∈ distinctTerms ps) :
    1 ≤ occurrences ps t := by
  obtain ⟨p, hp, ht⟩ := List.mem_flatMap.mp (List.mem_toFinset.mp h)
  exact List.countP_pos_iff.mpr ⟨p, hp, decide_eq_true ht⟩

/-- **Three at most.** Counted over any terms, each pattern has at most three occurrences. -/
theorem sum_occurrences_le (T : Finset TermPattern) (ps : List TriplePattern) :
    ∑ t ∈ T, occurrences ps t ≤ 3 * ps.length := by
  induction ps with
  | nil => simp [occurrences]
  | cons p ps ih =>
    have hcons : ∀ t, occurrences (p :: ps) t =
        occurrences ps t + if t ∈ p.terms then 1 else 0 := fun t => by
      simp [occurrences, List.countP_cons]
    have hp : (T.filter (· ∈ p.terms)).card ≤ 3 :=
      calc (T.filter (· ∈ p.terms)).card
        _ ≤ p.terms.toFinset.card := Finset.card_le_card fun t ht =>
          List.mem_toFinset.mpr (Finset.mem_filter.mp ht).2
        _ ≤ p.terms.length := List.toFinset_card_le _
        _ = 3 := rfl
    simp only [hcons]
    rw [Finset.sum_add_distrib, ← Finset.card_filter, List.length_cons]
    omega

/-! ## The vertices of the graph of some patterns -/

theorem distinctTerms_val (ps : List TriplePattern) :
    (distinctTerms ps).val = (ps.flatMap TriplePattern.terms).eraseDups := by
  unfold distinctTerms
  rw [List.toFinset_val, Multiset.coe_eq_coe,
    List.perm_ext_iff_of_nodup (List.nodup_dedup _) (nodup_eraseDups _)]
  exact fun t => by rw [List.mem_dedup, List.mem_eraseDups]

/-- **The vertices** are the distinct terms, each with the number of its patterns. -/
theorem vertices_ofPatterns (ps : List TriplePattern) :
    (ofPatterns ps).vertices =
      (ps.flatMap TriplePattern.terms).eraseDups.map fun t => ⟨t, occurrences ps t⟩ := by
  have h := represents_ofPatterns ps
  rw [← h.terms, terms, List.map_map]
  refine (List.map_id _).symm.trans (List.map_congr_left fun v hv => ?_)
  obtain ⟨i, hi⟩ := List.mem_iff_getElem?.mp hv
  show v = ⟨v.term, occurrences ps v.term⟩
  rw [occurrences, ← h.degree_eq hi]

theorem length_edges_ofPatterns (ps : List TriplePattern) :
    (ofPatterns ps).edges.length = ps.length := by
  have hpatterns := congrArg List.length (represents_ofPatterns ps).patterns
  rwa [patterns, List.length_map] at hpatterns

theorem degrees_ofPatterns (ps : List TriplePattern) :
    (ofPatterns ps).vertices.map (·.degree) =
      (ps.flatMap TriplePattern.terms).eraseDups.map (occurrences ps) := by
  rw [vertices_ofPatterns, List.map_map]
  rfl

/-- The degrees of the join vertices are the numbers of patterns of the shared terms. -/
theorem joinDegrees_ofPatterns (ps : List TriplePattern) :
    ((ofPatterns ps).joinDegrees : Multiset Nat) = sharing ps := by
  unfold sharing sharedTerms
  rw [joinDegrees_eq, degrees_ofPatterns, Finset.filter_val, distinctTerms_val, List.filter_map]
  rfl

/-! ## The figures together -/

section Figures

variable (ps : List TriplePattern)

theorem card_sharing : (sharing ps).card = (sharedTerms ps).card :=
  Multiset.card_map _ _

theorem vertexCount_ofPatterns :
    (ofPatterns ps).statistics.vertexCount = (distinctTerms ps).card := by
  show (ofPatterns ps).vertices.length = (distinctTerms ps).val.card
  rw [vertices_ofPatterns, distinctTerms_val, List.length_map, Multiset.coe_card]

theorem joinVertexCount_ofPatterns :
    (ofPatterns ps).statistics.joinVertexCount = (sharedTerms ps).card := by
  show (ofPatterns ps).joinVertices.length = _
  rw [← length_joinDegrees, ← Multiset.coe_card, joinDegrees_ofPatterns, card_sharing]

theorem averageDegree_ofPatterns :
    (ofPatterns ps).statistics.averageDegree = (sharing ps).sum / (sharedTerms ps).card := by
  show total (ofPatterns ps).joinDegrees / (ofPatterns ps).joinDegrees.length = _
  rw [total_eq_sum, ← Multiset.sum_coe, ← Multiset.coe_card, joinDegrees_ofPatterns, card_sharing]

theorem medianDegree_ofPatterns (h : (sharedTerms ps).card ≠ 0) :
    IsLowerMedian (sharing ps) (ofPatterns ps).statistics.medianDegree := by
  rw [← joinDegrees_ofPatterns]
  refine isLowerMedian_lowerMedian fun hnil => h ?_
  rw [← card_sharing, ← joinDegrees_ofPatterns, hnil]
  rfl

/-- Each shared term occurs in two patterns at least, and in all of them at most. -/
theorem mem_sharing {m : Nat} (h : m ∈ sharing ps) : 2 ≤ m ∧ m ≤ ps.length := by
  obtain ⟨t, ht, rfl⟩ := Multiset.mem_map.mp h
  have hshared : t ∈ sharedTerms ps := ht
  exact ⟨(Finset.mem_filter.mp hshared).2, List.countP_le_length⟩

theorem two_mul_card_le_sum : 2 * (sharedTerms ps).card ≤ (sharing ps).sum := by
  have h := Multiset.card_nsmul_le_sum (s := sharing ps) (a := 2) fun m hm => (mem_sharing ps hm).1
  rwa [smul_eq_mul, card_sharing, Nat.mul_comm] at h

theorem sum_le_card_mul : (sharing ps).sum ≤ (sharedTerms ps).card * ps.length := by
  have h := Multiset.sum_le_card_nsmul (sharing ps) ps.length fun m hm => (mem_sharing ps hm).2
  rwa [smul_eq_mul, card_sharing] at h

end Figures

/-- **The figures of the graph of some patterns** meet their definitions, and are computed without a
division by 0 or an access beyond the end. There are as many patterns, vertices and join vertices as
there are patterns, distinct terms and terms that two patterns share. If there are shared terms, the
numbers of their patterns have the mean, rounded down, and the lower median that the figures say,
and both are between 2 and the number of patterns; otherwise both figures are 0. There are at most
three vertices to a pattern, and at most three join vertices to two patterns. -/
theorem statistics_exact (ps : List TriplePattern) :
    let figures := (ofPatterns ps).statistics
    let n := (sharedTerms ps).card
    (ofPatterns ps).statistics? = some figures ∧
    figures.patternCount = ps.length ∧
    figures.vertexCount = (distinctTerms ps).card ∧
    figures.joinVertexCount = n ∧
    figures.averageDegree = (sharing ps).sum / n ∧
    (n ≠ 0 → ∀ m, IsLowerMedian (sharing ps) m ↔ m = figures.medianDegree) ∧
    (n = 0 → figures.averageDegree = 0 ∧ figures.medianDegree = 0) ∧
    figures.vertexCount ≤ 3 * figures.patternCount ∧
    2 * figures.joinVertexCount ≤ 3 * figures.patternCount ∧
    (n ≠ 0 → 2 ≤ figures.averageDegree ∧ figures.averageDegree ≤ figures.patternCount ∧
      2 ≤ figures.medianDegree ∧ figures.medianDegree ≤ figures.patternCount) := by
  intro figures n
  have hpatterns : figures.patternCount = ps.length := length_edges_ofPatterns ps
  have hvertices : figures.vertexCount = (distinctTerms ps).card := vertexCount_ofPatterns ps
  have hjoin : figures.joinVertexCount = n := joinVertexCount_ofPatterns ps
  have hmean : figures.averageDegree = (sharing ps).sum / n := averageDegree_ofPatterns ps
  have hmedian : n ≠ 0 → IsLowerMedian (sharing ps) figures.medianDegree :=
    medianDegree_ofPatterns ps
  refine ⟨statistics?_eq _, hpatterns, hvertices, hjoin, hmean, fun hn m => ?_, fun hn => ?_, ?_,
    ?_, fun hn => ?_⟩
  · constructor
    · exact fun hm => hm.unique (hmedian hn)
    · rintro rfl
      exact hmedian hn
  · have hnil : (ofPatterns ps).joinDegrees = [] := by
      rw [← List.length_eq_zero_iff, length_joinDegrees]
      exact hjoin.trans hn
    have hzero : figures.medianDegree = lowerMedian [] := congrArg lowerMedian hnil
    rw [hmean, hn, Nat.div_zero, hzero]
    exact ⟨rfl, lowerMedian_nil⟩
  · rw [hvertices, hpatterns]
    calc (distinctTerms ps).card
      _ = ∑ t ∈ distinctTerms ps, 1 := Finset.card_eq_sum_ones _
      _ ≤ ∑ t ∈ distinctTerms ps, occurrences ps t :=
        Finset.sum_le_sum fun t ht => occurrences_pos ht
      _ ≤ 3 * ps.length := sum_occurrences_le _ ps
  · rw [hjoin, hpatterns]
    exact (two_mul_card_le_sum ps).trans (sum_occurrences_le (sharedTerms ps) ps)
  · obtain ⟨htwo, hall⟩ := mem_sharing ps (hmedian hn).mem
    have hpos : 0 < n := Nat.pos_of_ne_zero hn
    rw [hmean, hpatterns]
    exact ⟨(Nat.le_div_iff_mul_le hpos).mpr (two_mul_card_le_sum ps),
      Nat.div_le_of_le_mul (sum_le_card_mul ps), htwo, hall⟩

end JoinGraph

end LinkedQueries
