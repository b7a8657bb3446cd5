import LinkedQueries.Partition.Combine
import Mathlib.Data.List.Nodup
import Mathlib.Data.List.Perm.Basic

/-!
# Aggregation by key does not see the partitions

Results under keys are read through `List.lookup`. Folding a partition and merging the results of
two are both runs of `update`, and each says under one key what it does to the elements of that key
alone.

* `sequential`: the result of the elements of one key, taken one after the other.
* `lookup_combined`: for arbitrary functions, the result of a key is the merge, in order, of the
  sequential results of the partitions that have the key.
* `combined_order`: the order in which the results of a partition are merged does not matter.

Results:
* `spread_perm`: spreading results over partitions loses, adds and changes nothing.
* `lookup_combined_eq_sequential`: if merging is associative and adding an element is merging the
  result that it begins, the result of a key is the sequential one of all its elements.
* **`combineByKey_eq_sequential`**: the results then depend on the elements in order only, and if
  merging is commutative too, not on their order either.
-/

namespace LinkedQueries

namespace Combine

variable {α β κ γ : Type} [DecidableEq κ]

/-- The keys of some results. -/
def keys (results : List (κ × γ)) : List κ := results.map (·.1)

/-! ## Results under one key -/

theorem lookup_update (key k : κ) (f : Option γ → γ) : ∀ results : List (κ × γ),
    (update key f results).lookup k =
      if k = key then some (f (results.lookup key)) else results.lookup k
  | [] => by
    unfold update
    by_cases hk : k = key
    · simp [hk]
    · simp [hk, List.lookup_cons, beq_eq_false_iff_ne.mpr hk]
  | (k', c) :: rest => by
    unfold update
    by_cases hkey : k' = key
    · rw [if_pos hkey, hkey, List.lookup_cons_self, List.lookup_cons, List.lookup_cons]
      by_cases hk : k = key
      · simp [hk]
      · simp [hk, beq_eq_false_iff_ne.mpr hk]
    · have hb : (key == k') = false := beq_eq_false_iff_ne.mpr (Ne.symm hkey)
      rw [if_neg hkey, List.lookup_cons, lookup_update key k f rest, List.lookup_cons,
        List.lookup_cons, hb]
      by_cases hk : k = key
      · simp [hk, hb]
      · simp [hk]

theorem keys_update (key : κ) (f : Option γ → γ) : ∀ results : List (κ × γ),
    keys (update key f results) =
      if key ∈ keys results then keys results else keys results ++ [key]
  | [] => rfl
  | (k, c) :: rest => by
    have ih := keys_update key f rest
    unfold keys at ih ⊢
    unfold update
    by_cases hk : k = key
    · simp [hk]
    · rw [if_neg hk, List.map_cons, List.map_cons, ih]
      simp only [List.mem_cons, Ne.symm hk, false_or]
      split <;> rfl

theorem nodup_update {results : List (κ × γ)} (h : (keys results).Nodup) (key : κ)
    (f : Option γ → γ) : (keys (update key f results)).Nodup := by
  rw [keys_update]
  split
  · exact h
  · rename_i hk
    rw [← List.concat_eq_append]
    exact h.concat hk

theorem mem_iff_lookup {results : List (κ × γ)} (h : (keys results).Nodup) {k : κ} {c : γ} :
    (k, c) ∈ results ↔ results.lookup k = some c := by
  induction results with
  | nil => simp
  | cons pair rest ih =>
    obtain ⟨k', c'⟩ := pair
    obtain ⟨hk', hrest⟩ := List.nodup_cons.mp h
    rw [List.mem_cons, List.lookup_cons, ih hrest]
    by_cases hk : k = k'
    · subst hk
      have hnone : rest.lookup k ≠ some c := fun hl =>
        hk' (List.mem_map.mpr ⟨(k, c), (ih hrest).mpr hl, rfl⟩)
      simp [hnone, eq_comm]
    · simp [hk, beq_eq_false_iff_ne.mpr hk]

/-- Results without repeated keys are the same up to order if each key has the same result. -/
theorem perm_of_lookup {left right : List (κ × γ)} (hl : (keys left).Nodup)
    (hr : (keys right).Nodup) (h : ∀ k, left.lookup k = right.lookup k) : left.Perm right := by
  refine (List.perm_ext_iff_of_nodup hl.of_map hr.of_map).mpr fun pair => ?_
  rw [mem_iff_lookup hl, mem_iff_lookup hr, h]

theorem lookup_of_perm {left right : List (κ × γ)} (hl : (keys left).Nodup)
    (h : left.Perm right) (k : κ) : left.lookup k = right.lookup k := by
  have hr : (keys right).Nodup := (h.map _).nodup_iff.mp hl
  refine Option.ext fun c => ?_
  rw [← mem_iff_lookup hl, ← mem_iff_lookup hr, h.mem_iff]

/-! ## Runs of updates -/

/-- A run of updates does under a key what its elements of that key do, in order. -/
theorem lookup_foldl_update (key : β → κ) (step : Option γ → β → γ) (k : κ) :
    ∀ (xs : List β) (results : List (κ × γ)),
      (xs.foldl (fun results x => update (key x) (step · x) results) results).lookup k =
        (xs.filter (key · = k)).foldl (fun c x => some (step c x)) (results.lookup k)
  | [], _ => rfl
  | x :: xs, results => by
    rw [List.foldl_cons, lookup_foldl_update key step k xs, lookup_update]
    by_cases hk : k = key x
    · rw [if_pos hk, List.filter_cons_of_pos (by simp [hk]), List.foldl_cons, hk]
    · rw [if_neg hk, List.filter_cons_of_neg (by simpa using Ne.symm hk)]

theorem nodup_foldl_update (key : β → κ) (step : Option γ → β → γ) :
    ∀ (xs : List β) (results : List (κ × γ)), (keys results).Nodup →
      (keys (xs.foldl (fun results x => update (key x) (step · x) results) results)).Nodup
  | [], _, h => h
  | x :: xs, _, h => nodup_foldl_update key step xs _ (nodup_update h (key x) _)

/-! ## Folding a partition and merging two -/

/-- The result of the elements of one key, taken one after the other; there is none without
elements. -/
def sequential (create : α → γ) (add : γ → α → γ) : List α → Option γ
  | [] => none
  | x :: rest => some (rest.foldl add (create x))

/-- The merge of two results of a key, each of which may be missing. -/
def joinOption (mergeResults : γ → γ → γ) : Option γ → Option γ → Option γ
  | known, none => known
  | known, some c => some (join mergeResults known c)

theorem foldl_absorb (create : α → γ) (add : γ → α → γ) (c : γ) : ∀ xs : List α,
    xs.foldl (fun c x => some (absorb create add c x)) (some c) = some (xs.foldl add c)
  | [] => rfl
  | x :: xs => foldl_absorb create add (add c x) xs

/-- The results of a partition are the sequential ones of the elements of each key. -/
theorem lookup_fold (key : α → κ) (create : α → γ) (add : γ → α → γ) (xs : List α) (k : κ) :
    (fold key create add xs).lookup k = sequential create add (xs.filter (key · = k)) := by
  unfold fold
  rw [lookup_foldl_update, List.lookup_nil]
  cases xs.filter (key · = k) with
  | nil => rfl
  | cons x rest => exact foldl_absorb create add (create x) rest

theorem nodup_fold (key : α → κ) (create : α → γ) (add : γ → α → γ) (xs : List α) :
    (keys (fold key create add xs)).Nodup :=
  nodup_foldl_update key _ xs [] List.nodup_nil

theorem filter_key_eq (k : κ) : ∀ {results : List (κ × γ)}, (keys results).Nodup →
    results.filter (·.1 = k) = (results.lookup k).toList.map (k, ·)
  | [], _ => rfl
  | (k', c) :: rest, h => by
    obtain ⟨hk', hrest⟩ := List.nodup_cons.mp h
    rw [List.lookup_cons]
    by_cases hk : k' = k
    · subst hk
      have hnone : rest.filter (·.1 = k') = [] :=
        List.filter_eq_nil_iff.mpr fun pair hp he =>
          hk' (List.mem_map.mpr ⟨pair, hp, of_decide_eq_true he⟩)
      simp [hnone]
    · rw [List.filter_cons_of_neg (by simpa using hk), filter_key_eq k hrest,
        beq_eq_false_iff_ne.mpr (Ne.symm hk)]

/-- Merging results merges those of each key. -/
theorem lookup_merge (mergeResults : γ → γ → γ) (left : List (κ × γ)) {right : List (κ × γ)}
    (h : (keys right).Nodup) (k : κ) :
    (merge mergeResults left right).lookup k =
      joinOption mergeResults (left.lookup k) (right.lookup k) := by
  unfold merge
  rw [lookup_foldl_update, filter_key_eq k h]
  cases right.lookup k <;> rfl

theorem nodup_merge (mergeResults : γ → γ → γ) {left : List (κ × γ)} (right : List (κ × γ))
    (h : (keys left).Nodup) : (keys (merge mergeResults left right)).Nodup :=
  nodup_foldl_update _ _ right left h

/-- **Order of merging.** The results of a partition may be merged in any order. -/
theorem merge_order (mergeResults : γ → γ → γ) {left left' right right' : List (κ × γ)}
    (hl : (keys left).Nodup) (hr : (keys right).Nodup) (hleft : left.Perm left')
    (hright : right.Perm right') :
    (merge mergeResults left right).Perm (merge mergeResults left' right') := by
  have hl' : (keys left').Nodup := (hleft.map _).nodup_iff.mp hl
  have hr' : (keys right').Nodup := (hright.map _).nodup_iff.mp hr
  refine perm_of_lookup (nodup_merge _ _ hl) (nodup_merge _ _ hl') fun k => ?_
  rw [lookup_merge _ _ hr, lookup_merge _ _ hr', lookup_of_perm hl hleft, lookup_of_perm hr hright]

/-! ## Merging that is associative -/

/-- Merging is associative, and adding an element is merging the result that it begins. -/
structure Lawful (create : α → γ) (add : γ → α → γ) (mergeResults : γ → γ → γ) : Prop where
  assoc : ∀ a b c, mergeResults (mergeResults a b) c = mergeResults a (mergeResults b c)
  add_eq : ∀ c x, add c x = mergeResults c (create x)

section Lawful

variable {create : α → γ} {add : γ → α → γ} {mergeResults : γ → γ → γ}

theorem Lawful.merge_foldl (h : Lawful create add mergeResults) (c : γ) :
    ∀ (ys : List α) (d : γ), mergeResults c (ys.foldl add d) = ys.foldl add (mergeResults c d)
  | [], _ => rfl
  | y :: ys, d => by
    rw [List.foldl_cons, h.merge_foldl c ys, List.foldl_cons, h.add_eq, h.add_eq, h.assoc]

/-- The results of two lists merge into that of the lists joined. -/
theorem Lawful.joinOption_sequential (h : Lawful create add mergeResults) (xs ys : List α) :
    joinOption mergeResults (sequential create add xs) (sequential create add ys) =
      sequential create add (xs ++ ys) := by
  cases ys with
  | nil => rw [List.append_nil]; rfl
  | cons y ys =>
    cases xs with
    | nil => rfl
    | cons x xs =>
      simp only [sequential, joinOption, join, List.cons_append, List.foldl_append,
        List.foldl_cons]
      rw [h.merge_foldl, h.add_eq]

/-- The results of some lists merge into that of all of them joined. -/
theorem Lawful.foldl_joinOption (h : Lawful create add mergeResults) :
    ∀ (lists : List (List α)) (xs : List α),
      (lists.map (sequential create add)).foldl (joinOption mergeResults)
        (sequential create add xs) = sequential create add (xs ++ lists.flatten)
  | [], xs => by rw [List.flatten_nil, List.append_nil]; rfl
  | ys :: lists, xs => by
    rw [List.map_cons, List.foldl_cons, h.joinOption_sequential, h.foldl_joinOption lists,
      List.flatten_cons, List.append_assoc]

/-- If merging is commutative as well, the order of the elements does not matter. -/
theorem Lawful.sequential_perm (h : Lawful create add mergeResults)
    (hcomm : ∀ a b, mergeResults a b = mergeResults b a) {xs ys : List α} (hp : xs.Perm ys) :
    sequential create add xs = sequential create add ys := by
  induction hp with
  | nil => rfl
  | @cons x xs ys _ ih =>
    have hx := h.joinOption_sequential [x]
    rw [← List.singleton_append, ← hx, ih, hx, List.singleton_append]
  | swap x y xs =>
    simp only [sequential, List.foldl_cons]
    rw [h.add_eq, h.add_eq, hcomm]
  | trans _ _ ih₁ ih₂ => exact ih₁.trans ih₂

end Lawful

end Combine

namespace Partitions

open Combine

variable {α κ γ : Type} [DecidableEq κ] (key : α → κ) (create : α → γ) (add : γ → α → γ)
  (mergeResults : γ → γ → γ)

/-! ## The results of all partitions -/

theorem nodup_foldl_merge : ∀ (partials : List (List (κ × γ))) (results : List (κ × γ)),
    (keys results).Nodup → (keys (partials.foldl (merge mergeResults) results)).Nodup
  | [], _, h => h
  | right :: partials, _, h =>
    nodup_foldl_merge partials _ (nodup_merge mergeResults right h)

theorem nodup_combined (p : Partitions α) :
    (keys (p.combined key create add mergeResults)).Nodup :=
  nodup_foldl_merge mergeResults _ [] List.nodup_nil

theorem lookup_foldl_merge (k : κ) : ∀ (parts : List (List α)) (results : List (κ × γ)),
    ((parts.map (fold key create add)).foldl (merge mergeResults) results).lookup k =
      (parts.map fun xs => sequential create add (xs.filter (key · = k))).foldl
        (joinOption mergeResults) (results.lookup k)
  | [], _ => rfl
  | xs :: parts, results => by
    rw [List.map_cons, List.foldl_cons, lookup_foldl_merge k parts,
      lookup_merge mergeResults results (nodup_fold key create add xs), lookup_fold]
    rfl

/-- **Arbitrary functions.** The result of a key is the merge, in the order of the partitions, of
the sequential results of its elements in each of them. -/
theorem lookup_combined (p : Partitions α) (k : κ) :
    (p.combined key create add mergeResults).lookup k =
      (p.parts.map fun xs => sequential create add (xs.filter (key · = k))).foldl
        (joinOption mergeResults) none :=
  lookup_foldl_merge key create add mergeResults k p.parts []

/-- **Any order.** The results of each partition may be merged in any order. -/
theorem combined_order {partials parts : List (List (κ × γ))}
    (h : List.Forall₂ List.Perm partials parts) :
    ∀ {results results' : List (κ × γ)}, (∀ right ∈ partials, (keys right).Nodup) →
      (keys results).Nodup → results.Perm results' →
        (partials.foldl (merge mergeResults) results).Perm
          (parts.foldl (merge mergeResults) results') := by
  induction h with
  | nil => exact fun _ _ hp => hp
  | @cons right _ _ _ hr _ ih =>
    intro results results' hn h hp
    rw [List.foldl_cons, List.foldl_cons]
    exact ih (fun r hm => hn r (List.mem_cons_of_mem right hm)) (nodup_merge mergeResults right h)
      (merge_order mergeResults h (hn right List.mem_cons_self) hp hr)

/-- **Lawful functions.** The result of a key is the sequential one of all its elements. -/
theorem lookup_combined_eq_sequential {create : α → γ} {add : γ → α → γ}
    {mergeResults : γ → γ → γ} (h : Lawful create add mergeResults) (p : Partitions α) (k : κ) :
    (p.combined key create add mergeResults).lookup k =
      sequential create add (p.flatten.filter (key · = k)) := by
  have hparts := h.foldl_joinOption (p.parts.map (List.filter (key · = k))) []
  rw [List.map_map, List.nil_append, ← List.filter_flatten] at hparts
  rw [lookup_combined]
  exact hparts

/-! ## Spreading the results -/

section Places

variable {β ι : Type} [DecidableEq ι]

/-- A single element is at its place and at no other. -/
theorem flatMap_filter_singleton (place : β → ι) (x : β) : ∀ {places : List ι}, places.Nodup →
    (places.flatMap fun i => [x].filter (place · = i)) = if place x ∈ places then [x] else []
  | [], _ => rfl
  | i :: places, h => by
    obtain ⟨hi, hplaces⟩ := List.nodup_cons.mp h
    rw [List.flatMap_cons, flatMap_filter_singleton place x hplaces]
    by_cases hx : place x = i
    · subst hx
      simp [hi]
    · simp [hx]

/-- Elements that are sorted into their places are all there. -/
theorem flatMap_filter_perm (place : β → ι) {places : List ι} (hn : places.Nodup) :
    ∀ xs : List β, (∀ x ∈ xs, place x ∈ places) →
      (places.flatMap fun i => xs.filter (place · = i)).Perm xs
  | [], _ => by simp
  | x :: xs, h => by
    have ih := flatMap_filter_perm place hn xs fun y hy => h y (List.mem_cons_of_mem x hy)
    have hx := flatMap_filter_singleton place x hn
    rw [if_pos (h x List.mem_cons_self)] at hx
    have hsplit := List.flatMap_append_perm places (fun i => [x].filter (place · = i))
      (fun i => xs.filter (place · = i))
    simp only [← List.filter_append, List.singleton_append, hx] at hsplit
    exact hsplit.symm.trans (ih.cons x)

end Places

omit [DecidableEq κ] in
/-- The partition of some number holds the pairs whose keys belong there. -/
theorem parts_spread [PartitionKey κ] (count : Nat) (pairs : List (κ × γ)) :
    (spread count pairs).parts = (List.range (max count 1)).map fun i =>
      pairs.filter (partitionOf ·.1 count = i) := by
  unfold spread
  refine List.map_congr_left fun i _ => ?_
  rw [List.filterMap_map, ← List.filterMap_eq_filter]
  refine List.filterMap_congr fun pair _ => ?_
  simp [Option.guard, eq_comm]

omit [DecidableEq κ] in
/-- **Spreading** loses, adds and changes nothing. -/
theorem spread_perm [PartitionKey κ] (count : Nat) (pairs : List (κ × γ)) :
    (spread count pairs).flatten.Perm pairs := by
  unfold flatten
  rw [parts_spread, ← List.flatMap_def]
  exact flatMap_filter_perm _ List.nodup_range pairs fun pair _ =>
    List.mem_range.mpr (partitionOf_lt pair.1 count)

/-! ## Aggregating -/

/-- **Aggregation does not see the partitions.** For lawful functions each key has exactly one
result, the sequential one of all its elements, in whichever way they are cut into partitions and
over however many partitions the results are spread; if merging is commutative as well, in
whichever order the elements come. -/
theorem combineByKey_eq_sequential [PartitionKey κ] {create : α → γ} {add : γ → α → γ}
    {mergeResults : γ → γ → γ} (h : Lawful create add mergeResults) :
    (∀ (p : Partitions α) (count : Nat),
      let results := (p.combineByKey key create add mergeResults count).flatten
      (keys results).Nodup ∧ ∀ k c, (k, c) ∈ results ↔
        sequential create add (p.flatten.filter (key · = k)) = some c) ∧
    (∀ (p q : Partitions α) (m n : Nat), p.flatten = q.flatten →
      (p.combineByKey key create add mergeResults m).flatten.Perm
        (q.combineByKey key create add mergeResults n).flatten) ∧
    ((∀ a b, mergeResults a b = mergeResults b a) →
      ∀ (p q : Partitions α) (m n : Nat), p.flatten.Perm q.flatten →
        (p.combineByKey key create add mergeResults m).flatten.Perm
          (q.combineByKey key create add mergeResults n).flatten) := by
  have hperm : ∀ (p : Partitions α) (count : Nat),
      (p.combineByKey key create add mergeResults count).flatten.Perm
        (p.combined key create add mergeResults) := fun p count => spread_perm count _
  have hnodup := nodup_combined key create add mergeResults
  -- two aggregations agree as soon as the sequential results of every key do
  have hsame : ∀ (p q : Partitions α) (m n : Nat),
      (∀ k, sequential create add (p.flatten.filter (key · = k)) =
        sequential create add (q.flatten.filter (key · = k))) →
      (p.combineByKey key create add mergeResults m).flatten.Perm
        (q.combineByKey key create add mergeResults n).flatten := by
    intro p q m n hk
    have hpq : (p.combined key create add mergeResults).Perm
        (q.combined key create add mergeResults) := by
      refine perm_of_lookup (hnodup p) (hnodup q) fun k => ?_
      rw [lookup_combined_eq_sequential key h, lookup_combined_eq_sequential key h, hk]
    exact (hperm p m).trans (hpq.trans (hperm q n).symm)
  refine ⟨fun p count => ⟨((hperm p count).map _).nodup_iff.mpr (hnodup p), fun k c => ?_⟩,
    fun p q m n hf => hsame p q m n fun k => by rw [hf],
    fun hcomm p q m n hf => hsame p q m n fun k => h.sequential_perm hcomm (hf.filter _)⟩
  rw [(hperm p count).mem_iff, mem_iff_lookup (hnodup p), lookup_combined_eq_sequential key h]

/-- Lists are gathered in order however the elements are cut, and sums in any order. -/
theorem combineByKey_eq_sequential_parity :
    (∀ k c, (k, c) ∈ (combineByKey (· % 2) (fun x => [x]) (fun xs x => xs ++ [x]) (· ++ ·) 3
        (⟨[[4, 1], [], [3]]⟩ : Partitions Nat)).flatten ↔
      sequential (fun x => [x]) (fun xs x => xs ++ [x]) ([4, 1, 3].filter (· % 2 = k)) = some c) ∧
    (combineByKey (· % 2) id (· + ·) (· + ·) 3 (⟨[[4, 1], [], [3]]⟩ : Partitions Nat)).flatten.Perm
      (combineByKey (· % 2) id (· + ·) (· + ·) 0 (⟨[[3, 4], [1]]⟩ : Partitions Nat)).flatten :=
  ⟨((combineByKey_eq_sequential (· % 2)
      ⟨List.append_assoc, fun _ _ => rfl⟩).1 ⟨[[4, 1], [], [3]]⟩ 3).2,
    (combineByKey_eq_sequential (· % 2) ⟨Nat.add_assoc, fun _ _ => rfl⟩).2.2 Nat.add_comm
      ⟨[[4, 1], [], [3]]⟩ ⟨[[3, 4], [1]]⟩ 3 0 (by decide)⟩

end Partitions

end LinkedQueries
