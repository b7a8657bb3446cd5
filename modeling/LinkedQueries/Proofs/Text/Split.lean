import LinkedQueries.Text.Split
import Mathlib.Data.List.Basic
import Mathlib.Data.Set.Function

/-!
# Pieces between separators

A separator ends an empty piece, any other element goes to the piece behind it. If each element but
the separators is replaced by others that are no separators, the pieces are where they were.

* `cuts`: the places of an element, each told by what stands before and behind it.

Results:
* `exists_piece`: what is no separator is in a piece.
* `splitAt_intercalate`, `splitAt_ended`: lists without the separator, joined by it or each ended by
  it, are the pieces of the whole.
* `splitWhere_flatMap`, `bijOn_cuts`: pieces and places of separators after a replacement.
-/

namespace LinkedQueries

variable {α : Type}

section Pieces

variable (isSeparator : α → Bool)

theorem splitWhere_ne_nil : ∀ xs : List α, splitWhere isSeparator xs ≠ []
  | [] => List.cons_ne_nil _ _
  | x :: rest => by
    unfold splitWhere
    split
    · exact List.cons_ne_nil _ _
    · split <;> exact List.cons_ne_nil _ _

theorem splitWhere_cons_of_pos {x : α} (h : isSeparator x = true) (xs : List α) :
    splitWhere isSeparator (x :: xs) = [] :: splitWhere isSeparator xs := if_pos h

/-- An element that is no separator goes to the piece behind it. -/
theorem splitWhere_cons_of_neg {x : α} (h : ¬ isSeparator x = true) (xs : List α) :
    ∃ piece pieces, splitWhere isSeparator xs = piece :: pieces ∧
      splitWhere isSeparator (x :: xs) = (x :: piece) :: pieces := by
  cases hs : splitWhere isSeparator xs with
  | nil => exact absurd hs (splitWhere_ne_nil isSeparator xs)
  | cons piece pieces =>
    refine ⟨piece, pieces, rfl, ?_⟩
    rw [splitWhere, if_neg h, hs]

/-- What is no separator is in a piece. -/
theorem exists_piece {x : α} (hx : ¬ isSeparator x = true) :
    ∀ {xs : List α}, x ∈ xs → ∃ piece ∈ splitWhere isSeparator xs, x ∈ piece
  | y :: xs, h => by
    by_cases hy : isSeparator y = true
    · rw [splitWhere_cons_of_pos isSeparator hy]
      have hne : x ≠ y := fun he => hx (he ▸ hy)
      obtain ⟨piece, hp, hxp⟩ := exists_piece hx ((List.mem_cons.mp h).resolve_left hne)
      exact ⟨piece, List.mem_cons_of_mem _ hp, hxp⟩
    · obtain ⟨piece, pieces, hs, hs'⟩ := splitWhere_cons_of_neg isSeparator hy xs
      rw [hs']
      rcases List.mem_cons.mp h with rfl | h
      · exact ⟨x :: piece, List.mem_cons_self, List.mem_cons_self⟩
      · obtain ⟨p, hp, hxp⟩ := exists_piece hx h
        rw [hs] at hp
        rcases List.mem_cons.mp hp with rfl | hp
        · exact ⟨y :: p, List.mem_cons_self, List.mem_cons_of_mem _ hxp⟩
        · exact ⟨p, List.mem_cons_of_mem _ hp, hxp⟩

/-- What is in a piece is in the list. -/
theorem mem_of_piece {x : α} {piece : List α} (hx : x ∈ piece) :
    ∀ {xs : List α}, piece ∈ splitWhere isSeparator xs → x ∈ xs
  | [], h => absurd (List.mem_singleton.mp h ▸ hx) List.not_mem_nil
  | y :: xs, h => by
    by_cases hy : isSeparator y = true
    · rw [splitWhere_cons_of_pos isSeparator hy] at h
      rcases List.mem_cons.mp h with rfl | h
      · exact absurd hx List.not_mem_nil
      · exact List.mem_cons_of_mem _ (mem_of_piece hx h)
    · obtain ⟨first, pieces, hs, hs'⟩ := splitWhere_cons_of_neg isSeparator hy xs
      rw [hs'] at h
      rcases List.mem_cons.mp h with rfl | h
      · rcases List.mem_cons.mp hx with rfl | hx
        · exact List.mem_cons_self
        · exact List.mem_cons_of_mem _ (mem_of_piece hx (hs ▸ List.mem_cons_self))
      · exact List.mem_cons_of_mem _ (mem_of_piece hx (hs ▸ List.mem_cons_of_mem _ h))

/-- Elements that are no separators go to the piece behind them. -/
theorem splitWhere_append {front : List α} (h : ∀ x ∈ front, ¬ isSeparator x = true)
    {xs piece : List α} {pieces : List (List α)}
    (hxs : splitWhere isSeparator xs = piece :: pieces) :
    splitWhere isSeparator (front ++ xs) = (front ++ piece) :: pieces := by
  induction front with
  | nil => exact hxs
  | cons x front ih =>
    rw [List.cons_append, splitWhere, if_neg (h x List.mem_cons_self),
      ih fun y hy => h y (List.mem_cons_of_mem x hy)]
    rfl

/-- A list without separators is one piece. -/
theorem splitWhere_eq_singleton {piece : List α} (h : ∀ x ∈ piece, ¬ isSeparator x = true) :
    splitWhere isSeparator piece = [piece] := by
  have hnil : splitWhere isSeparator [] = [[]] := rfl
  have hpiece := splitWhere_append isSeparator h hnil
  rwa [List.append_nil] at hpiece

/-- The first piece goes up to the first separator. -/
theorem splitWhere_piece {piece : List α} (h : ∀ x ∈ piece, ¬ isSeparator x = true) {s : α}
    (hs : isSeparator s = true) (rest : List α) :
    splitWhere isSeparator (piece ++ s :: rest) = piece :: splitWhere isSeparator rest := by
  rw [splitWhere_append isSeparator h (splitWhere_cons_of_pos isSeparator hs rest),
    List.append_nil]

/-- **Pieces after a replacement** that keeps the separators and brings in no others. -/
theorem splitWhere_flatMap {f : α → List α} (hsep : ∀ x, isSeparator x = true → f x = [x])
    (hother : ∀ x, ¬ isSeparator x = true → ∀ y ∈ f x, ¬ isSeparator y = true) :
    ∀ xs : List α, splitWhere isSeparator (xs.flatMap f) =
      (splitWhere isSeparator xs).map (List.flatMap f)
  | [] => rfl
  | x :: xs => by
    have ih := splitWhere_flatMap hsep hother xs
    by_cases hx : isSeparator x = true
    · rw [List.flatMap_cons, hsep x hx, List.singleton_append, splitWhere_cons_of_pos _ hx,
        splitWhere_cons_of_pos _ hx, ih]
      rfl
    · obtain ⟨piece, pieces, hs, hs'⟩ := splitWhere_cons_of_neg isSeparator hx xs
      rw [hs, List.map_cons] at ih
      rw [List.flatMap_cons, splitWhere_append isSeparator (hother x hx) ih, hs', List.map_cons,
        List.flatMap_cons]

end Pieces

/-- What is in joined lists is the separator or in one of them. -/
theorem mem_intercalate {separator x : α} : ∀ {pieces : List (List α)},
    x ∈ [separator].intercalate pieces → x = separator ∨ ∃ piece ∈ pieces, x ∈ piece
  | [piece], h => by
    rw [List.intercalate_singleton] at h
    exact .inr ⟨piece, List.mem_cons_self, h⟩
  | piece :: next :: pieces, h => by
    rw [List.intercalate_cons_cons, List.append_assoc, List.mem_append, List.mem_append] at h
    rcases h with h | h | h
    · exact .inr ⟨piece, List.mem_cons_self, h⟩
    · exact .inl (List.mem_singleton.mp h)
    · rcases mem_intercalate h with h | ⟨p, hp, h⟩
      · exact .inl h
      · exact .inr ⟨p, List.mem_cons_of_mem _ hp, h⟩

/-- Lists without the separator, joined by it, are the pieces of the whole. -/
theorem splitAt_intercalate [BEq α] [LawfulBEq α] {separator : α} :
    ∀ {pieces : List (List α)}, pieces ≠ [] → (∀ piece ∈ pieces, separator ∉ piece) →
      splitAt separator ([separator].intercalate pieces) = pieces
  | [piece], _, h => by
    have hp : ∀ x ∈ piece, ¬ (x == separator) = true := fun x hx he =>
      h piece List.mem_cons_self (beq_iff_eq.mp he ▸ hx)
    rw [List.intercalate_singleton]
    exact splitWhere_eq_singleton _ hp
  | piece :: next :: pieces, _, h => by
    have hp : ∀ x ∈ piece, ¬ (x == separator) = true := fun x hx he =>
      h piece List.mem_cons_self (beq_iff_eq.mp he ▸ hx)
    have ih := splitAt_intercalate (List.cons_ne_nil next pieces) fun p hm =>
      h p (List.mem_cons_of_mem piece hm)
    rw [List.intercalate_cons_cons, List.append_assoc, List.singleton_append]
    exact (splitWhere_piece _ hp (beq_self_eq_true separator) _).trans (congrArg (piece :: ·) ih)

/-- Lists without the separator, each ended by it, are the pieces of the whole before an empty
one. -/
theorem splitAt_ended [BEq α] [LawfulBEq α] {separator : α} : ∀ {pieces : List (List α)},
    (∀ piece ∈ pieces, separator ∉ piece) →
      splitAt separator (pieces.flatMap (· ++ [separator])) = pieces ++ [[]]
  | [], _ => rfl
  | piece :: pieces, h => by
    have hp : ∀ x ∈ piece, ¬ (x == separator) = true := fun x hx he =>
      h piece List.mem_cons_self (beq_iff_eq.mp he ▸ hx)
    have ih := splitAt_ended fun p hm => h p (List.mem_cons_of_mem piece hm)
    rw [List.flatMap_cons, List.append_assoc, List.singleton_append]
    exact (splitWhere_piece _ hp (beq_self_eq_true separator) _).trans (congrArg (piece :: ·) ih)

/-! ## Places -/

section Cuts

/-- The places of an element in a list, each told by what stands before and behind it. -/
def cuts (s : α) (xs : List α) : Set (List α × List α) :=
  {cut | xs = cut.1 ++ s :: cut.2}

variable {f : α → List α} {s : α}

/-- A later place of the element is later after a replacement, too. -/
theorem length_flatMap_lt (hs : f s = [s]) {xs : List α} {cut cut' : List α × List α}
    (h : cut ∈ cuts s xs) (h' : cut' ∈ cuts s xs) (hlt : cut.1.length < cut'.1.length) :
    (cut.1.flatMap f).length < (cut'.1.flatMap f).length := by
  have hwhole : cut.1 ++ [s] ++ cut.2 = xs := by rw [List.append_assoc, List.singleton_append, ← h]
  have hprefix : cut.1 ++ [s] <+: cut'.1 := by
    refine List.prefix_of_prefix_length_le ⟨cut.2, hwhole⟩ ⟨s :: cut'.2, h'.symm⟩ ?_
    rw [List.length_append]
    exact hlt
  obtain ⟨rest, hrest⟩ := hprefix
  rw [← hrest, List.flatMap_append, List.flatMap_append, List.flatMap_singleton, hs]
  simp only [List.length_append, List.length_singleton]
  omega

/-- A place after a replacement that brings the element in nowhere is one from before. -/
theorem exists_cut (hs : f s = [s]) (hother : ∀ x, x ≠ s → s ∉ f x) : ∀ {xs before after : List α},
    xs.flatMap f = before ++ s :: after →
      ∃ cut ∈ cuts s xs, cut.1.flatMap f = before ∧ cut.2.flatMap f = after
  | [], before, after, h => by
    rw [List.flatMap_nil] at h
    exact absurd h.symm (List.append_ne_nil_of_right_ne_nil _ (List.cons_ne_nil _ _))
  | x :: xs, before, after, h => by
    rw [List.flatMap_cons] at h
    -- the place is behind the replacement of the first element, or within it
    rcases List.append_eq_append_iff.mp h with ⟨more, rfl, hmore⟩ | ⟨more, hx, hmore⟩
    · obtain ⟨cut, hcut, rfl, rfl⟩ := exists_cut hs hother hmore
      exact ⟨(x :: cut.1, cut.2), congrArg (x :: ·) hcut, List.flatMap_cons, rfl⟩
    · cases more with
      | nil =>
        have hrest : xs.flatMap f = [] ++ s :: after := hmore.symm
        obtain ⟨cut, hcut, hbefore, rfl⟩ := exists_cut hs hother hrest
        refine ⟨(x :: cut.1, cut.2), congrArg (x :: ·) hcut, ?_, rfl⟩
        rw [List.flatMap_cons, hbefore, hx, List.append_nil, List.append_nil]
      | cons y more =>
        obtain ⟨rfl, hafter⟩ := List.cons.inj hmore
        have hxs : x = s := Classical.byContradiction fun hne => hother x hne (by simp [hx])
        subst hxs
        rw [hs] at hx
        obtain ⟨rfl, rfl⟩ : before = [] ∧ more = [] := by
          cases before with
          | nil => exact ⟨rfl, (List.cons.inj hx).2.symm⟩
          | cons z before => simp at hx
        exact ⟨([], xs), rfl, rfl, hafter.symm⟩

/-- **Places after a replacement** that keeps the element and brings it in nowhere are those from
before. -/
theorem bijOn_cuts (hs : f s = [s]) (hother : ∀ x, x ≠ s → s ∉ f x) (xs : List α) :
    Set.BijOn (Prod.map (List.flatMap f) (List.flatMap f)) (cuts s xs) (cuts s (xs.flatMap f)) := by
  refine ⟨fun cut h => ?_, fun cut h cut' h' heq => ?_, fun cut h => ?_⟩
  · show xs.flatMap f = cut.1.flatMap f ++ s :: cut.2.flatMap f
    conv_lhs => rw [show xs = cut.1 ++ s :: cut.2 from h]
    rw [List.flatMap_append, List.flatMap_cons, hs]
    rfl
  · have hbefore : cut.1.flatMap f = cut'.1.flatMap f := congrArg Prod.fst heq
    have hlength : cut.1.length = cut'.1.length := by
      rcases Nat.lt_trichotomy cut.1.length cut'.1.length with hlt | heq | hgt
      · exact absurd (congrArg List.length hbefore) (length_flatMap_lt hs h h' hlt).ne
      · exact heq
      · exact absurd (congrArg List.length hbefore) (length_flatMap_lt hs h' h hgt).ne'
    obtain ⟨hfirst, hsecond⟩ := List.append_inj (h.symm.trans h') hlength
    exact Prod.ext hfirst (List.cons.inj hsecond).2
  · obtain ⟨cut', hcut', hbefore, hafter⟩ := exists_cut hs hother h
    exact ⟨cut', hcut', Prod.ext hbefore hafter⟩

end Cuts

end LinkedQueries
