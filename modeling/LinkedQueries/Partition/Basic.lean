import LinkedQueries.Total

/-!
# Partitioned collections

A list cut into partitions that are worked on one by one. `flatten` is the list; every operation
here is an operation on it that leaves the cuts where they are, or moves them only.

* `chunked` cuts a list into partitions of one size, the last of which may be shorter.
-/

namespace LinkedQueries

/-- A list in partitions. -/
structure Partitions (α : Type) where
  parts : List (List α)
  deriving DecidableEq, Repr

namespace Partitions

variable {α β ε : Type}

/-- The number of elements of a partition if nothing else is said. -/
def defaultSize : Nat := 8192

/-- No partitions. -/
def empty : Partitions α := ⟨[]⟩

/-- The list that the partitions make up. -/
def flatten (p : Partitions α) : List α :=
  p.parts.flatten

/-- The number of elements. -/
def size (p : Partitions α) : Nat :=
  total (p.parts.map List.length)

/-- Whether there are no elements. -/
def isEmpty (p : Partitions α) : Bool :=
  p.parts.all List.isEmpty

/-! ## Cutting -/

/-- The pieces of a list: each but the last has the size, and the last is not empty. -/
def pieces (size : Nat) (xs : List α) : List (List α) :=
  if _h : xs = [] then []
  else xs.take (max size 1) :: pieces size (xs.drop (max size 1))
termination_by xs.length
decreasing_by
  simp only [List.length_drop]
  have := List.length_pos_iff.2 _h
  omega

/-- A list in partitions of one size; a size of 0 counts as 1. -/
def chunked (size : Nat) (xs : List α) : Partitions α :=
  ⟨pieces size xs⟩

/-- A list in partitions of the default size. -/
def ofList (xs : List α) : Partitions α :=
  chunked defaultSize xs

/-- The same list in partitions of another size. -/
def repartition (size : Nat) (p : Partitions α) : Partitions α :=
  chunked size p.flatten

/-- The partitions of one collection behind those of another. -/
def append (p q : Partitions α) : Partitions α :=
  ⟨p.parts ++ q.parts⟩

/-! ## Transforming -/

/-- Every partition, transformed as a whole. -/
def mapParts (f : List α → List β) (p : Partitions α) : Partitions β :=
  ⟨p.parts.map f⟩

/-- Every element, transformed. -/
def map (f : α → β) (p : Partitions α) : Partitions β :=
  p.mapParts (List.map f)

/-- Every element, replaced by some elements. -/
def flatMap (f : α → List β) (p : Partitions α) : Partitions β :=
  p.mapParts (List.flatMap f)

/-- Every element, transformed or left out. -/
def filterMap (f : α → Option β) (p : Partitions α) : Partitions β :=
  p.mapParts (List.filterMap f)

/-- Every element, transformed, or the first error in order. -/
def tryMap (f : α → Except ε β) (p : Partitions α) : Except ε (Partitions β) :=
  (p.parts.mapM (List.mapM f)).map Partitions.mk

end Partitions

end LinkedQueries
