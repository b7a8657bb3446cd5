import LinkedQueries.Proofs.Partition.Aggregation
import Mathlib.Data.List.Dedup

/-!
# Gathering keeps every element

Cutting a list into partitions and working on its elements one by one leaves it as it is. Gathering
the elements of each key gives every key one group, and each element is in the group of its key.

Results:
* `flatten_chunked`: a list is cut, and nothing else.
* `combineByKey_gathers`: aggregation into lists gathers the elements.
* `Gathered.perm_gathered`: there is one way to gather them, up to the order of the groups.
* **`Gathered.perm`**: the groups together are the elements, up to order.
-/

namespace LinkedQueries

namespace Partitions

open Combine

variable {α β κ δ : Type}

/-! ## Cutting -/

theorem flatten_pieces (size : Nat) (xs : List α) : (pieces size xs).flatten = xs := by
  fun_induction pieces size xs with
  | case1 => rfl
  | case2 xs _ ih => rw [List.flatten_cons, ih, List.take_append_drop]

/-- **Cutting** loses, adds and moves nothing. -/
theorem flatten_chunked (size : Nat) (xs : List α) : (chunked size xs).flatten = xs :=
  flatten_pieces size xs

theorem flatten_map (f : α → β) (p : Partitions α) : (p.map f).flatten = p.flatten.map f :=
  List.map_flatten.symm

/-! ## Gathering -/

variable [DecidableEq κ] {key : α → κ} {value : α → β} {xs : List α}

/-- Some groups hold, under the key of each element, what the elements of that key are mapped to, in
order; no group is empty. -/
structure Gathered (key : α → κ) (value : α → β) (xs : List α) (groups : List (κ × List β)) :
    Prop where
  nodup : (keys groups).Nodup
  group : ∀ g ∈ groups, g.2 = (xs.filter (key · = g.1)).map value
  nonempty : ∀ g ∈ groups, g.2 ≠ []
  covered : ∀ x ∈ xs, key x ∈ keys groups

/-- The groups hold the elements key by key, whatever is made of each. -/
theorem Gathered.flatMap_eq {groups : List (κ × List β)} (h : Gathered key value xs groups)
    (f : κ → β → δ) :
    (groups.flatMap fun g => g.2.map (f g.1)) =
      ((keys groups).flatMap fun k => xs.filter (key · = k)).map fun x => f (key x) (value x) := by
  have hgroup : ∀ g ∈ groups, g.2.map (f g.1) =
      (xs.filter (key · = g.1)).map fun x => f (key x) (value x) := by
    intro g hg
    rw [h.group g hg, List.map_map]
    refine List.map_congr_left fun x hx => ?_
    rw [← of_decide_eq_true (List.mem_filter.mp hx).2]
    rfl
  rw [List.flatMap_congr hgroup, List.map_flatMap, keys, List.flatMap_map]

/-- **The groups together** are the elements, up to order, whatever is made of each. -/
theorem Gathered.perm {groups : List (κ × List β)} (h : Gathered key value xs groups)
    (f : κ → β → δ) :
    (groups.flatMap fun g => g.2.map (f g.1)).Perm (xs.map fun x => f (key x) (value x)) := by
  rw [h.flatMap_eq]
  exact (flatMap_filter_perm key h.nodup xs h.covered).map _

/-- The order of the groups does not matter. -/
theorem Gathered.of_perm {groups groups' : List (κ × List β)} (h : Gathered key value xs groups)
    (hperm : groups'.Perm groups) : Gathered key value xs groups' where
  nodup := (hperm.map Prod.fst).nodup_iff.mpr h.nodup
  group g hg := h.group g (hperm.mem_iff.mp hg)
  nonempty g hg := h.nonempty g (hperm.mem_iff.mp hg)
  covered x hx := (hperm.map Prod.fst).mem_iff.mpr (h.covered x hx)

/-- Each group is that of some element. -/
theorem Gathered.exists_of_mem {groups : List (κ × List β)} (h : Gathered key value xs groups)
    {g : κ × List β} (hg : g ∈ groups) : ∃ x ∈ xs, key x = g.1 := by
  have hne := h.nonempty g hg
  rw [h.group g hg] at hne
  obtain ⟨x, hx⟩ := List.exists_mem_of_ne_nil _ fun hnil => hne (List.map_eq_nil_iff.mpr hnil)
  obtain ⟨hx, hkey⟩ := List.mem_filter.mp hx
  exact ⟨x, hx, of_decide_eq_true hkey⟩

/-- A group for each key, in the order in which the keys occur last, with its elements in order. -/
def gathered (key : α → κ) (value : α → β) (xs : List α) : List (κ × List β) :=
  (xs.map key).dedup.map fun k => (k, (xs.filter (key · = k)).map value)

/-- **The groups** are determined by the elements, up to order. -/
theorem Gathered.perm_gathered {groups : List (κ × List β)} (h : Gathered key value xs groups) :
    groups.Perm (gathered key value xs) := by
  have hgroups : groups = (keys groups).map fun k => (k, (xs.filter (key · = k)).map value) := by
    unfold keys
    rw [List.map_map]
    refine (List.map_id groups).symm.trans (List.map_congr_left fun g hg => ?_)
    exact Prod.ext rfl (h.group g hg)
  have hkeys : (keys groups).Perm (xs.map key).dedup := by
    refine (List.perm_ext_iff_of_nodup h.nodup (List.nodup_dedup _)).mpr fun k => ?_
    rw [List.mem_dedup, List.mem_map]
    constructor
    · intro hk
      obtain ⟨g, hg, rfl⟩ := List.mem_map.mp hk
      exact h.exists_of_mem hg
    · rintro ⟨x, hx, rfl⟩
      exact h.covered x hx
  conv_lhs => rw [hgroups]
  exact hkeys.map _

/-- Elements may be mapped before they are gathered. -/
theorem Gathered.map {ε : Type} {f : ε → α} {ys : List ε} {groups : List (κ × List β)}
    (h : Gathered (key ∘ f) (value ∘ f) ys groups) : Gathered key value (ys.map f) groups where
  nodup := h.nodup
  group g hg := by
    rw [h.group g hg, List.filter_map, List.map_map]
    rfl
  nonempty := h.nonempty
  covered x hx := by
    obtain ⟨y, hy, rfl⟩ := List.mem_map.mp hx
    exact h.covered y hy

/-- Taking elements into a list one after the other. -/
theorem sequential_list (value : α → β) : ∀ xs : List α,
    sequential (fun x => [value x]) (fun ys x => ys ++ [value x]) xs =
      if xs = [] then none else some (xs.map value)
  | [] => rfl
  | x :: xs => by
    have hfold : ∀ (xs : List α) (ys : List β),
        xs.foldl (fun ys x => ys ++ [value x]) ys = ys ++ xs.map value := by
      intro xs
      induction xs with
      | nil => exact fun ys => (List.append_nil ys).symm
      | cons x xs ih => exact fun ys => by rw [List.foldl_cons, ih]; simp
    rw [sequential, hfold, if_neg (List.cons_ne_nil x xs)]
    rfl

/-- **Aggregation into lists** gathers the elements, however they are cut and however many
partitions the groups are spread over. -/
theorem combineByKey_gathers [PartitionKey κ] (key : α → κ) (value : α → β) (count : Nat)
    (p : Partitions α) :
    Gathered key value p.flatten
      (p.combineByKey key (fun x => [value x]) (fun ys x => ys ++ [value x]) (· ++ ·) count).flatten
      := by
  have hlawful : Lawful (fun x => [value x]) (fun ys x => ys ++ [value x])
      (fun xs ys : List β => xs ++ ys) := ⟨List.append_assoc, fun _ _ => rfl⟩
  have hperm := spread_perm count
    (p.combined key (fun x => [value x]) (fun ys x => ys ++ [value x]) (· ++ ·))
  have hnodup := nodup_combined key (fun x => [value x]) (fun ys x => ys ++ [value x])
    (fun xs ys : List β => xs ++ ys) p
  have hmem : ∀ g, g ∈ p.combined key (fun x => [value x]) (fun ys x => ys ++ [value x]) (· ++ ·) ↔
      p.flatten.filter (key · = g.1) ≠ [] ∧ g.2 = (p.flatten.filter (key · = g.1)).map value := by
    intro g
    rw [mem_iff_lookup hnodup, lookup_combined_eq_sequential key hlawful, sequential_list]
    split
    · next h => simp [h]
    · next h =>
      rw [Option.some.injEq]
      exact ⟨fun he => ⟨h, he.symm⟩, fun he => he.2.symm⟩
  refine ⟨(hperm.map _).nodup_iff.mpr hnodup, fun g hg => ?_, fun g hg => ?_, fun x hx => ?_⟩
  · exact ((hmem g).mp (hperm.mem_iff.mp hg)).2
  · obtain ⟨hne, hg⟩ := (hmem g).mp (hperm.mem_iff.mp hg)
    rw [hg]
    exact fun hnil => hne (List.map_eq_nil_iff.mp hnil)
  · refine List.mem_map.mpr ⟨(key x, (p.flatten.filter (key · = key x)).map value), ?_, rfl⟩
    refine hperm.mem_iff.mpr ((hmem _).mpr ⟨?_, rfl⟩)
    exact List.ne_nil_of_mem (List.mem_filter.mpr ⟨hx, decide_eq_true rfl⟩)

end Partitions

end LinkedQueries
