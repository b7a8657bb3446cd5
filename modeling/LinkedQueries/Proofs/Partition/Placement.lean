import LinkedQueries.Proofs.Partition.Gathering
import Mathlib.Data.List.Forall2

/-!
# What aggregation by key gives, and where

Nothing is assumed about the functions that begin, extend and merge results. The result of a key is
then determined by the elements of that key and by where the partitions are cut: each partition that
has the key folds its own elements of it, in order, and these results are merged from the first to
the last partition.

* `partialResults`, `result`: the results of a key in the partitions that have it, and their merge.
* `Walks`: the results of each partition and the merged ones are walked in any order, as the
  entries of hash tables are.

Results:
* `lookup_combined_eq_result`: the merged results hold the result of each key.
* `mem_parts_combineByKey`: which results are in which partition.
* `Walks.perm`: the order of walking does not matter, by induction on the partitions.
* **`combineByKey_exact`**: all of this about aggregation, and grouping as its case.
-/

namespace LinkedQueries

namespace Combine

variable {α γ : Type}

theorem isSome_sequential (create : α → γ) (add : γ → α → γ) (xs : List α) :
    (sequential create add xs).isSome ↔ xs ≠ [] := by
  cases xs <;> simp [sequential]

theorem foldl_joinOption_some (mergeResults : γ → γ → γ) : ∀ (partials : List (Option γ)) (c : γ),
    partials.foldl (joinOption mergeResults) (some c) =
      some ((partials.filterMap id).foldl mergeResults c)
  | [], _ => rfl
  | none :: partials, c => foldl_joinOption_some mergeResults partials c
  | some d :: partials, c => foldl_joinOption_some mergeResults partials (mergeResults c d)

/-- Merging results that may be missing is merging those that are there. -/
theorem foldl_joinOption_none (mergeResults : γ → γ → γ) : ∀ partials : List (Option γ),
    partials.foldl (joinOption mergeResults) none =
      sequential id mergeResults (partials.filterMap id)
  | [] => rfl
  | none :: partials => foldl_joinOption_none mergeResults partials
  | some c :: partials => foldl_joinOption_some mergeResults partials c

end Combine

namespace Partitions

open Combine

/-! ## Spread results -/

section Spread

variable {κ γ : Type} [PartitionKey κ]

theorem length_parts_spread (count : Nat) (pairs : List (κ × γ)) :
    (spread count pairs).parts.length = max count 1 := by
  rw [parts_spread, List.length_map, List.length_range]

theorem mem_parts_spread {count i : Nat} {pairs part : List (κ × γ)}
    (h : (spread count pairs).parts[i]? = some part) (pair : κ × γ) :
    pair ∈ part ↔ i = partitionOf pair.1 count ∧ pair ∈ pairs := by
  rw [parts_spread, List.getElem?_map] at h
  obtain ⟨j, hj, rfl⟩ := Option.map_eq_some_iff.mp h
  obtain ⟨-, rfl⟩ := List.getElem?_eq_some_iff.mp hj
  rw [List.mem_filter, List.getElem_range, decide_eq_true_eq, and_comm, eq_comm]

/-- Results in another order are spread over the same partitions, each in another order. -/
theorem spread_order {pairs pairs' : List (κ × γ)} (h : pairs.Perm pairs')
    (count : Nat) : List.Forall₂ List.Perm (spread count pairs).parts (spread count pairs').parts := by
  rw [parts_spread, parts_spread, List.forall₂_map_left_iff, List.forall₂_map_right_iff,
    List.forall₂_same]
  exact fun i _ => h.filter _

end Spread

variable {α κ γ : Type} [DecidableEq κ] (key : α → κ) (create : α → γ) (add : γ → α → γ)
  (mergeResults : γ → γ → γ)

/-! ## The result of a key -/

/-- The results of a key in the partitions that have it, from the first to the last. -/
def partialResults (p : Partitions α) (k : κ) : List γ :=
  p.parts.filterMap fun xs => sequential create add (xs.filter (key · = k))

/-- The result of a key: the results of the partitions that have it, merged in order. There is none
without elements of the key. -/
def result (p : Partitions α) (k : κ) : Option γ :=
  sequential id mergeResults (p.partialResults key create add k)

theorem isSome_result (p : Partitions α) (k : κ) :
    (p.result key create add mergeResults k).isSome ↔ ∃ x ∈ p.flatten, key x = k := by
  have hpart : ∀ xs : List α, ¬ sequential create add (xs.filter (key · = k)) = none ↔
      ∃ x ∈ xs, key x = k := fun xs => by
    rw [← Ne, ← Option.isSome_iff_ne_none, isSome_sequential, Ne, List.filter_eq_nil_iff]
    simp
  have hpartial : p.partialResults key create add k ≠ [] ↔
      ∃ xs ∈ p.parts, ∃ x ∈ xs, key x = k := by
    unfold partialResults
    rw [Ne, List.filterMap_eq_nil_iff]
    simp only [not_forall, exists_prop, hpart]
  rw [result, isSome_sequential, hpartial]
  constructor
  · rintro ⟨xs, hxs, x, hx, hkey⟩
    exact ⟨x, List.mem_flatten.mpr ⟨xs, hxs, hx⟩, hkey⟩
  · rintro ⟨x, hx, hkey⟩
    obtain ⟨xs, hxs, hx⟩ := List.mem_flatten.mp hx
    exact ⟨xs, hxs, x, hx, hkey⟩

/-- **The merged results** hold the result of each key. -/
theorem lookup_combined_eq_result (p : Partitions α) (k : κ) :
    (p.combined key create add mergeResults).lookup k = p.result key create add mergeResults k := by
  rw [lookup_combined, foldl_joinOption_none, List.filterMap_map]
  rfl

-- merging need not be commutative: the results 1 and 8 of the odd numbers are merged in this order
example : (⟨[[1], [2], [3, 4, 5]]⟩ : Partitions Nat).result (· % 2) id (· + ·) (10 * · + ·) 1 =
    some 18 := by decide

/-! ## The partition of a key -/

/-- **Placement.** The result of a key is in the partition of the key and in no other. -/
theorem mem_parts_combineByKey [PartitionKey κ] {p : Partitions α} {count i : Nat}
    {part : List (κ × γ)}
    (h : (p.combineByKey key create add mergeResults count).parts[i]? = some part) (k : κ) (c : γ) :
    (k, c) ∈ part ↔
      i = partitionOf k count ∧ p.result key create add mergeResults k = some c := by
  rw [mem_parts_spread h, mem_iff_lookup (nodup_combined key create add mergeResults p),
    lookup_combined_eq_result]

/-- Each key has one result, in one place. -/
theorem nodup_combineByKey [PartitionKey κ] (p : Partitions α) (count : Nat) :
    (keys (p.combineByKey key create add mergeResults count).flatten).Nodup :=
  ((spread_perm count _).map _).nodup_iff.mpr (nodup_combined key create add mergeResults p)

theorem mem_keys_combineByKey [PartitionKey κ] (p : Partitions α) (count : Nat) (k : κ) :
    k ∈ keys (p.combineByKey key create add mergeResults count).flatten ↔
      ∃ x ∈ p.flatten, key x = k := by
  rw [← isSome_result key create add mergeResults, ← lookup_combined_eq_result,
    Option.isSome_iff_exists]
  have hnodup := nodup_combined key create add mergeResults p
  unfold keys combineByKey
  rw [((spread_perm count _).map _).mem_iff, List.mem_map]
  constructor
  · rintro ⟨pair, hpair, rfl⟩
    exact ⟨pair.2, (mem_iff_lookup hnodup).mp hpair⟩
  · rintro ⟨c, hc⟩
    exact ⟨(k, c), (mem_iff_lookup hnodup).mpr hc, rfl⟩

/-! ## The order in which results are walked -/

/-- The merged results, each partition's results and the merged ones themselves walked in any
order. -/
def Walks (partials : List (List (κ × γ))) (merged : List (κ × γ)) : Prop :=
  ∃ walked, List.Forall₂ List.Perm walked partials ∧
    merged.Perm (walked.foldl (merge mergeResults) [])

/-- **No order of walking** makes a difference for the merged results. -/
theorem Walks.perm {p : Partitions α} {merged : List (κ × γ)}
    (h : Walks mergeResults (p.parts.map (fold key create add)) merged) :
    merged.Perm (p.combined key create add mergeResults) := by
  obtain ⟨walked, hwalked, hmerged⟩ := h
  refine hmerged.trans (combined_order mergeResults hwalked (fun right hright => ?_)
    List.nodup_nil (List.Perm.refl []))
  obtain ⟨i, hi, rfl⟩ := List.mem_iff_getElem.mp hright
  have hlength := hwalked.length_eq
  have hperm := hwalked.get hi (hlength ▸ hi)
  refine (hperm.map _).nodup_iff.mpr ?_
  simp only [List.get_eq_getElem, List.getElem_map]
  exact nodup_fold key create add _

/-! ## Aggregating -/

/-- **Aggregation, exactly.** Whatever the functions do, the results are in as many partitions as
asked for, and in one if none is asked for. Each key of the elements has one result, in the
partition of the key: the merge, from the first to the last partition of the elements, of what each
partition with the key makes of its own elements of it. No order in which tables are walked changes
more than the order inside the partitions. Grouping gives each key its elements, in order and with
all repetitions. -/
theorem combineByKey_exact [PartitionKey κ] (p : Partitions α) (count : Nat) :
    let results := p.combineByKey key create add mergeResults count
    results.parts.length = max count 1 ∧
    (∀ k : κ, partitionOf k count < max count 1) ∧
    (keys results.flatten).Nodup ∧
    (∀ k, k ∈ keys results.flatten ↔ ∃ x ∈ p.flatten, key x = k) ∧
    (∀ (i : Nat) (part : List (κ × γ)), results.parts[i]? = some part → ∀ k c,
      (k, c) ∈ part ↔
        i = partitionOf k count ∧ p.result key create add mergeResults k = some c) ∧
    (∀ merged, Walks mergeResults (p.parts.map (fold key create add)) merged →
      List.Forall₂ List.Perm (spread count merged).parts results.parts) ∧
    ∀ (i : Nat) (part : List (κ × List α)), (p.groupBy key count).parts[i]? = some part →
      ∀ k group, (k, group) ∈ part ↔
        i = partitionOf k count ∧ group ≠ [] ∧ group = p.flatten.filter (key · = k) := by
  intro results
  refine ⟨length_parts_spread count _, fun k => partitionOf_lt k count,
    nodup_combineByKey key create add mergeResults p count,
    mem_keys_combineByKey key create add mergeResults p count,
    fun i part h => mem_parts_combineByKey key create add mergeResults h,
    fun merged h => spread_order (Walks.perm key create add mergeResults h) count,
    fun i part h k group => ?_⟩
  have hlawful : Lawful (fun x => [x]) (fun xs x => xs ++ [x]) (fun xs ys : List α => xs ++ ys) :=
    ⟨List.append_assoc, fun _ _ => rfl⟩
  have hlist : ∀ xs : List α, sequential (fun x => [x]) (fun ys x => ys ++ [x]) xs =
      if xs = [] then none else some xs := fun xs =>
    (sequential_list id xs).trans (by rw [List.map_id])
  rw [mem_parts_combineByKey key _ _ _ h, ← lookup_combined_eq_result,
    lookup_combined_eq_sequential key hlawful, hlist]
  refine and_congr_right fun _ => ?_
  split
  · next hnil =>
    rw [hnil]
    exact ⟨nofun, fun hgroup => absurd hgroup.2 hgroup.1⟩
  · next hne =>
    rw [Option.some.injEq, eq_comm]
    exact ⟨fun hgroup => ⟨hgroup ▸ hne, hgroup⟩, fun hgroup => hgroup.2⟩

end Partitions

end LinkedQueries
