import LinkedQueries.Proofs.Lists
import LinkedQueries.Proofs.Partition.Gathering
import Mathlib.Logic.Function.Iterate

/-!
# A list in partitions is a list

Whoever works on the elements does not see where the cuts are: each operation on a list in
partitions is the operation of its kind on the list. The elements can be walked through one by one,
across the cuts and past partitions without elements. Cutting is determined by the size, so a list
that is cut anew does not tell how it was cut before.

* `Cursor`: a walk through the partitions, one call for each element.
* `IsCut`: the partitions are those that a size asks for.

Results:
* `answer_eq_getElem?`: the calls give the elements of the list in order, and nothing after them.
* `flatten_mapParts`, `flatten_tryMap`: transforming partitions is transforming the list.
* `isCut_iff`: there is one way to cut a list to a size.
* **`refines_list`**: all operations on partitions, as operations on lists.
-/

namespace LinkedQueries

/-- A walk through partitions: what is left of the partition that it is in, and the partitions
behind that one. -/
structure Cursor (α : Type) where
  current : List α
  behind : List (List α)

namespace Cursor

variable {α : Type}

/-- The next element, if there is one, and the walk behind it. A partition in which nothing is left
gives way to the one behind it. -/
def advance : List α → List (List α) → Option α × Cursor α
  | x :: rest, behind => (some x, ⟨rest, behind⟩)
  | [], part :: behind => advance part behind
  | [], [] => (none, ⟨[], []⟩)

/-- One call. -/
def next (c : Cursor α) : Option α × Cursor α :=
  advance c.current c.behind

/-- The walk after some calls. -/
def afterCalls (c : Cursor α) (n : Nat) : Cursor α :=
  (fun c => c.next.2)^[n] c

/-- The elements that the walk has not come to yet. -/
def owed (c : Cursor α) : List α :=
  c.current ++ c.behind.flatten

theorem advance_owed : ∀ (current : List α) (behind : List (List α)),
    (advance current behind).1 = (owed ⟨current, behind⟩).head? ∧
    (advance current behind).2.owed = (owed ⟨current, behind⟩).tail
  | x :: rest, behind => by
    rw [advance]
    exact ⟨rfl, rfl⟩
  | [], part :: behind => advance_owed part behind
  | [], [] => ⟨rfl, rfl⟩

/-- **One call** gives the first element that is owed, and still owes the others. -/
theorem next_owed (c : Cursor α) : c.next.1 = c.owed.head? ∧ c.next.2.owed = c.owed.tail :=
  advance_owed c.current c.behind

theorem owed_afterCalls (c : Cursor α) (n : Nat) : (c.afterCalls n).owed = c.owed.drop n := by
  induction n with
  | zero => rfl
  | succ n ih =>
    rw [afterCalls, Function.iterate_succ_apply', (next_owed _).2, ← afterCalls, ih, List.tail_drop]

end Cursor

namespace Partitions

variable {α β ε : Type}

/-! ## Walking through -/

/-- The walk through a list in partitions, from its beginning. -/
def cursor (p : Partitions α) : Cursor α := ⟨[], p.parts⟩

/-- What the `n`-th call gives, from 0 on. -/
def answer (p : Partitions α) (n : Nat) : Option α :=
  (p.cursor.afterCalls n).next.1

/-- **The calls** give the elements of the list in order, and nothing after them. -/
theorem answer_eq_getElem? (p : Partitions α) (n : Nat) : p.answer n = p.flatten[n]? := by
  rw [answer, (Cursor.next_owed _).1, Cursor.owed_afterCalls, List.head?_drop]
  rfl

-- partitions without elements are passed
example : (List.range 4).map (Partitions.mk [[], [7], [], [8], []]).answer =
    [some 7, some 8, none, none] := by decide

theorem size_eq_length (p : Partitions α) : p.size = p.flatten.length := by
  unfold size flatten
  induction p.parts with
  | nil => rfl
  | cons part parts ih => rw [List.map_cons, total, ih, List.flatten_cons, List.length_append]

theorem isEmpty_iff (p : Partitions α) : p.isEmpty = true ↔ p.flatten = [] := by
  rw [isEmpty, flatten, List.all_eq_true, List.flatten_eq_nil_iff]
  exact forall₂_congr fun part _ => List.isEmpty_iff

theorem flatten_append (p q : Partitions α) : (p.append q).flatten = p.flatten ++ q.flatten :=
  List.flatten_append

/-! ## Transforming -/

/-- The sizes of the partitions, which say where the cuts are. -/
def sizes (p : Partitions α) : List Nat :=
  p.parts.map List.length

/-- **Transforming the partitions** is transforming the list, if joined lists may be transformed
one by one. -/
theorem flatten_mapParts {f : List α → List β} (happend : ∀ xs ys, f (xs ++ ys) = f xs ++ f ys)
    (p : Partitions α) : (p.mapParts f).flatten = f p.flatten := by
  have hnil : f [] = [] := by simpa using happend [] []
  unfold mapParts flatten
  induction p.parts with
  | nil => exact hnil.symm
  | cons part parts ih => rw [List.map_cons, List.flatten_cons, ih, List.flatten_cons, happend]

theorem length_mapParts (f : List α → List β) (p : Partitions α) :
    (p.mapParts f).parts.length = p.parts.length :=
  List.length_map f

theorem sizes_map (f : α → β) (p : Partitions α) : (p.map f).sizes = p.sizes := by
  unfold map mapParts sizes
  rw [List.map_map]
  exact List.map_congr_left fun part _ => List.length_map f

section Failing

variable {f : α → Except ε β}

/-- **Transforming with failures** meets the elements in the order of the list. -/
theorem flatten_tryMap (p : Partitions α) : (p.tryMap f).map flatten = p.flatten.mapM f := by
  unfold tryMap flatten
  induction p.parts with
  | nil => rfl
  | cons part parts ih =>
    rw [List.flatten_cons, List.mapM_append, ← ih, List.mapM_cons]
    cases part.mapM f <;> cases parts.mapM (List.mapM f) <;> rfl

/-- Transforming succeeds if it does on each element; the cuts stay. -/
theorem tryMap_eq_ok {p : Partitions α} {r : Partitions β} (h : p.tryMap f = .ok r) :
    List.Forall₂ (fun x y => f x = .ok y) p.flatten r.flatten ∧ r.sizes = p.sizes := by
  obtain ⟨parts, hparts, rfl⟩ := map_eq_ok.mp h
  simp only [mapM_eq_ok] at hparts
  refine ⟨List.rel_flatten hparts, ?_⟩
  have hsizes : List.Forall₂ (fun xs ys => ys.length = xs.length) p.parts parts :=
    hparts.imp fun _ _ hpart => hpart.length_eq.symm
  rw [sizes, sizes, ← List.forall₂_eq_eq_eq, List.forall₂_map_left_iff, List.forall₂_map_right_iff]
  exact hsizes.flip

theorem exists_tryMap_iff (p : Partitions α) :
    (∃ r, p.tryMap f = .ok r) ↔ ∀ x ∈ p.flatten, ∃ y, f x = .ok y := by
  have hmap := flatten_tryMap (f := f) p
  constructor
  · rintro ⟨r, hr⟩
    rw [hr] at hmap
    exact exists_of_mapM_eq_ok hmap.symm
  · intro h
    cases hr : p.tryMap f with
    | ok r => exact ⟨r, rfl⟩
    | error e =>
      rw [hr] at hmap
      obtain ⟨n, ⟨x, hx, hfails⟩, -⟩ := mapM_eq_error.mp hmap.symm
      obtain ⟨y, hy⟩ := h x (List.mem_of_getElem? hx)
      cases hfails.symm.trans hy

/-- Transforming fails as the first element does that fails. -/
theorem tryMap_eq_error {p : Partitions α} {e : ε} : p.tryMap f = .error e ↔
    ∃ n : Nat, (∃ x, p.flatten[n]? = some x ∧ f x = .error e) ∧
      ∀ m < n, ∀ x, p.flatten[m]? = some x → ∃ y, f x = .ok y := by
  rw [← mapM_eq_error, ← flatten_tryMap, map_eq_error]

end Failing

/-! ## Cutting -/

/-- The partitions are those of a size: each but the last has as many elements, and the last has
some, but no more. A size of 0 counts as 1. -/
structure IsCut (size : Nat) (p : Partitions α) : Prop where
  full : ∀ part ∈ p.parts.dropLast, part.length = max size 1
  nonempty : ∀ part ∈ p.parts.getLast?, part ≠ []
  atMost : ∀ part ∈ p.parts.getLast?, part.length ≤ max size 1

section Cutting

variable {size : Nat} {part next : List α} {parts : List (List α)}

theorem isCut_nil : IsCut size (⟨[]⟩ : Partitions α) :=
  ⟨nofun, nofun, nofun⟩

theorem isCut_singleton :
    IsCut size ⟨[part]⟩ ↔ part ≠ [] ∧ part.length ≤ max size 1 := by
  constructor
  · intro h
    exact ⟨h.nonempty part rfl, h.atMost part rfl⟩
  · rintro ⟨hne, hle⟩
    exact ⟨nofun, fun _ h => Option.some.inj h ▸ hne, fun _ h => Option.some.inj h ▸ hle⟩

theorem isCut_cons_cons :
    IsCut size ⟨part :: next :: parts⟩ ↔
      part.length = max size 1 ∧ IsCut size ⟨next :: parts⟩ := by
  constructor
  · intro h
    obtain ⟨hpart, hfull⟩ := List.forall_mem_cons.mp h.full
    exact ⟨hpart, hfull, h.nonempty, h.atMost⟩
  · rintro ⟨hpart, h⟩
    exact ⟨List.forall_mem_cons.mpr ⟨hpart, h.full⟩, h.nonempty, h.atMost⟩

theorem pieces_nil : pieces size ([] : List α) = [] := by
  rw [pieces, dif_pos rfl]

theorem pieces_of_ne_nil {xs : List α} (h : xs ≠ []) :
    pieces size xs = xs.take (max size 1) :: pieces size (xs.drop (max size 1)) := by
  rw [pieces, dif_neg h]

/-- A list that is not longer than the size stays in one piece. -/
theorem pieces_of_le (hne : part ≠ []) (hle : part.length ≤ max size 1) :
    pieces size part = [part] := by
  rw [pieces_of_ne_nil hne, List.take_of_length_le hle, List.drop_of_length_le hle, pieces_nil]

/-- As many elements as the size says are one piece. -/
theorem pieces_append (h : part.length = max size 1) (rest : List α) :
    pieces size (part ++ rest) = part :: pieces size rest := by
  have hne : part ++ rest ≠ [] := by
    refine List.append_ne_nil_of_left_ne_nil (List.ne_nil_of_length_pos ?_) rest
    omega
  rw [pieces_of_ne_nil hne, List.take_left' h, List.drop_left' h]

theorem isCut_pieces (size : Nat) (xs : List α) : IsCut size ⟨pieces size xs⟩ := by
  fun_induction pieces size xs with
  | case1 => exact isCut_nil
  | case2 xs hne ih =>
    by_cases hle : xs.length ≤ max size 1
    · rw [List.take_of_length_le hle, List.drop_of_length_le hle, pieces_nil]
      exact isCut_singleton.mpr ⟨hne, hle⟩
    · -- more is left than one piece, so this piece is not the last one
      have hrest : xs.drop (max size 1) ≠ [] := by
        rw [Ne, List.drop_eq_nil_iff]
        exact hle
      rw [pieces_of_ne_nil hrest] at ih ⊢
      refine isCut_cons_cons.mpr ⟨?_, ih⟩
      rw [List.length_take]
      omega

theorem pieces_flatten : ∀ {parts : List (List α)}, IsCut size ⟨parts⟩ →
    pieces size parts.flatten = parts
  | [], _ => pieces_nil
  | [part], h => by
    obtain ⟨hne, hle⟩ := isCut_singleton.mp h
    rw [List.flatten_cons, List.flatten_nil, List.append_nil, pieces_of_le hne hle]
  | part :: next :: parts, h => by
    obtain ⟨hpart, hrest⟩ := isCut_cons_cons.mp h
    rw [List.flatten_cons, pieces_append hpart, pieces_flatten hrest]

/-- **One way to cut**: the partitions are those of a size iff cutting the list to that size gives
them. -/
theorem isCut_iff {p : Partitions α} : p.IsCut size ↔ p.repartition size = p := by
  constructor
  · exact fun h => congrArg Partitions.mk (pieces_flatten h)
  · exact fun h => h ▸ isCut_pieces size p.flatten

theorem isCut_chunked (size : Nat) (xs : List α) : (chunked size xs).IsCut size :=
  isCut_pieces size xs

theorem repartition_congr {p q : Partitions α} (h : p.flatten = q.flatten) (size : Nat) :
    p.repartition size = q.repartition size :=
  congrArg (chunked size) h

end Cutting

/-! ## All operations -/

/-- **A list in partitions is a list.** Its elements are transformed, replaced or left out as those
of the list, and there are as many partitions as before. A transformation that may fail succeeds iff
it does on each element, with the cuts where they were, and fails as the first element of the list
does that fails. Partitions that are put behind others are lists that are joined. Calls for the
elements, their number and whether there are any tell of the list alone. Cutting to a size changes
nothing but the cuts, which are where the size asks for them; so it makes no difference if a list
has been cut before, and partitions that have the size already stay as they are. -/
theorem refines_list (p q : Partitions α) (xs : List α) (size : Nat) :
    (∀ f : α → β, (p.map f).flatten = p.flatten.map f ∧
      (p.map f).parts.length = p.parts.length ∧ (p.map f).sizes = p.sizes) ∧
    (∀ f : α → List β, (p.flatMap f).flatten = p.flatten.flatMap f ∧
      (p.flatMap f).parts.length = p.parts.length) ∧
    (∀ f : α → Option β, (p.filterMap f).flatten = p.flatten.filterMap f ∧
      (p.filterMap f).parts.length = p.parts.length) ∧
    (∀ f : α → Except ε β,
      ((∃ r, p.tryMap f = .ok r) ↔ ∀ x ∈ p.flatten, ∃ y, f x = .ok y) ∧
      (∀ r, p.tryMap f = .ok r →
        List.Forall₂ (fun x y => f x = .ok y) p.flatten r.flatten ∧ r.sizes = p.sizes) ∧
      ∀ e, p.tryMap f = .error e ↔
        ∃ n : Nat, (∃ x, p.flatten[n]? = some x ∧ f x = .error e) ∧
          ∀ m < n, ∀ x, p.flatten[m]? = some x → ∃ y, f x = .ok y) ∧
    (p.append q).flatten = p.flatten ++ q.flatten ∧
    (∀ n, p.answer n = p.flatten[n]?) ∧
    p.size = p.flatten.length ∧
    (p.isEmpty = true ↔ p.flatten = []) ∧
    ((chunked size xs).flatten = xs ∧ (chunked size xs).IsCut size) ∧
    ((p.repartition size).flatten = p.flatten ∧ (p.repartition size).IsCut size) ∧
    (∀ other, (p.repartition other).repartition size = p.repartition size) ∧
    (chunked size xs).repartition size = chunked size xs ∧
    (p.IsCut size ↔ p.repartition size = p) := by
  have hmap (f : α → β) : (p.map f).parts.length = p.parts.length := length_mapParts _ p
  have hflatMap (f : α → List β) : (p.flatMap f).flatten = p.flatten.flatMap f :=
    flatten_mapParts (fun _ _ => List.flatMap_append) p
  have hfilterMap (f : α → Option β) : (p.filterMap f).flatten = p.flatten.filterMap f :=
    flatten_mapParts (fun _ _ => List.filterMap_append) p
  exact ⟨fun f => ⟨flatten_map f p, hmap f, sizes_map f p⟩,
    fun f => ⟨hflatMap f, length_mapParts _ p⟩,
    fun f => ⟨hfilterMap f, length_mapParts _ p⟩,
    fun f => ⟨exists_tryMap_iff p, fun _ => tryMap_eq_ok, fun _ => tryMap_eq_error⟩,
    flatten_append p q, answer_eq_getElem? p, size_eq_length p, isEmpty_iff p,
    ⟨flatten_chunked size xs, isCut_chunked size xs⟩,
    ⟨flatten_chunked size p.flatten, isCut_chunked size p.flatten⟩,
    fun other => repartition_congr (flatten_chunked other p.flatten) size,
    isCut_iff.mp (isCut_chunked size xs), isCut_iff⟩

end Partitions

end LinkedQueries
