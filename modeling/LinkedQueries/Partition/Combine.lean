import LinkedQueries.Partition.Basic
import LinkedQueries.Partition.KeyHash

/-!
# Aggregation by key

The elements of each partition are folded by key, and the results of the partitions are merged in
their order. The merged results are then spread over new partitions by the hashes of their keys.

* `Partitions.combineByKey` aggregates with arbitrary functions.
* `Partitions.groupBy` keeps the elements of each key, in order.
-/

namespace LinkedQueries

namespace Combine

variable {κ γ : Type} [DecidableEq κ]

/-- The results with that of one key replaced by what `f` makes of it; a new key goes to the end. -/
def update (key : κ) (f : Option γ → γ) : List (κ × γ) → List (κ × γ)
  | [] => [(key, f none)]
  | (k, c) :: rest => if k = key then (k, f (some c)) :: rest else (k, c) :: update key f rest

/-- What an element makes of the result of its key; the first element of a key begins it. -/
def absorb {α : Type} (create : α → γ) (add : γ → α → γ) : Option γ → α → γ
  | none, x => create x
  | some c, x => add c x

/-- What a result makes of the known result of its key; the first one of a key is taken as it is. -/
def join (mergeResults : γ → γ → γ) : Option γ → γ → γ
  | none, c => c
  | some known, c => mergeResults known c

/-- The results of one partition. -/
def fold {α : Type} (key : α → κ) (create : α → γ) (add : γ → α → γ) (xs : List α) :
    List (κ × γ) :=
  xs.foldl (fun results x => update (key x) (absorb create add · x) results) []

/-- The results of two groups of partitions, merged. -/
def merge (mergeResults : γ → γ → γ) (left right : List (κ × γ)) : List (κ × γ) :=
  right.foldl (fun results pair => update pair.1 (join mergeResults · pair.2) results) left

end Combine

namespace Partitions

variable {α κ γ : Type} [DecidableEq κ]

/-- The results of all elements by key, in the order in which the keys occur first. -/
def combined (key : α → κ) (create : α → γ) (add : γ → α → γ) (mergeResults : γ → γ → γ)
    (p : Partitions α) : List (κ × γ) :=
  (p.parts.map (Combine.fold key create add)).foldl (Combine.merge mergeResults) []

/-- Pairs, spread over partitions by the hashes of their keys. -/
def spread [PartitionKey κ] (count : Nat) (pairs : List (κ × γ)) : Partitions (κ × γ) :=
  let placed := pairs.map fun pair => (partitionOf pair.1 count, pair)
  ⟨(List.range (max count 1)).map fun i =>
    placed.filterMap fun (j, pair) => if i = j then some pair else none⟩

/-- Aggregates the elements by key: `create` begins a result with an element, `add` takes in one
more and `mergeResults` joins the results of two partitions. -/
def combineByKey [PartitionKey κ] (key : α → κ) (create : α → γ) (add : γ → α → γ)
    (mergeResults : γ → γ → γ) (count : Nat) (p : Partitions α) : Partitions (κ × γ) :=
  spread count (p.combined key create add mergeResults)

/-- The elements of each key, in order. -/
def groupBy [PartitionKey κ] (key : α → κ) (count : Nat) (p : Partitions α) :
    Partitions (κ × List α) :=
  p.combineByKey key (fun x => [x]) (fun xs x => xs ++ [x]) (· ++ ·) count

end Partitions

end LinkedQueries
