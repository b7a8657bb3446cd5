import Mathlib.Data.List.Forall2
import Mathlib.Logic.Function.Basic

/-!
# Mapping, sorting and mixing lists

Results:
* `mapM_eq_pure`: mapping a list in a monad where no element has an effect.
* `mapM_eq_error`: mapping a list fails as its first element does that fails.
* `filter_flatMap_filter`: a list that is sorted into places keeps the order within each.
* `eq_of_filter_eq`: an ordered list is told by what each class has of it.
* `shuffle_own`, `shuffle_filter`: a list whose elements are labelled is mixed from what each label
  has, and so is what is picked out of it.
-/

namespace LinkedQueries

section Mapping

variable {m : Type → Type} [Monad m] [LawfulMonad m] {α β : Type} {f : α → m β} {xs : List α}

/-- Mapping depends on the elements of the list only. -/
theorem mapM_congr {g : α → m β} (h : ∀ x ∈ xs, f x = g x) : xs.mapM f = xs.mapM g := by
  induction xs with
  | nil => rw [List.mapM_nil, List.mapM_nil]
  | cons x xs ih =>
    obtain ⟨hx, hxs⟩ := List.forall_mem_cons.mp h
    rw [List.mapM_cons, List.mapM_cons, hx, ih hxs]

/-- Mapping without effects, on the elements of the list. -/
theorem mapM_eq_pure {g : α → β} (h : ∀ x ∈ xs, f x = pure (g x)) :
    xs.mapM f = pure (xs.map g) :=
  (mapM_congr h).trans List.mapM_pure

end Mapping

/-! ## Mapping with failures -/

/-- Related lists are related place by place. -/
theorem getElem?_of_forall₂ {α β : Type} {R : α → β → Prop} {xs : List α} {ys : List β}
    (h : List.Forall₂ R xs ys) : ∀ {n : Nat} {x : α}, xs[n]? = some x →
      ∃ y, ys[n]? = some y ∧ R x y := by
  induction h with
  | nil => nofun
  | cons hxy _ ih =>
    intro n x hx
    cases n with
    | zero => exact ⟨_, rfl, Option.some.inj hx ▸ hxy⟩
    | succ n => exact ih hx

section Failing

variable {ε α β : Type} {f : α → Except ε β}

theorem map_eq_ok {g : α → β} {x : Except ε α} {y : β} :
    x.map g = .ok y ↔ ∃ z, x = .ok z ∧ g z = y := by
  cases x <;> simp [Except.map]

theorem map_eq_error {g : α → β} {x : Except ε α} {e : ε} : x.map g = .error e ↔ x = .error e := by
  cases x <;> simp [Except.map]

/-- Mapping succeeds if it does on each element. -/
theorem mapM_eq_ok : ∀ {xs : List α} {ys : List β},
    xs.mapM f = .ok ys ↔ List.Forall₂ (fun x y => f x = .ok y) xs ys
  | [], ys => by
    rw [List.mapM_nil, List.forall₂_nil_left_iff]
    exact ⟨fun h => (Except.ok.inj h).symm, fun h => congrArg Except.ok h.symm⟩
  | x :: xs, ys => by
    rw [List.mapM_cons, List.forall₂_cons_left_iff]
    cases hx : f x with
    | error e =>
      constructor
      · nofun
      · rintro ⟨_, _, ⟨⟩, _⟩
    | ok y =>
      cases hxs : xs.mapM f with
      | error e =>
        constructor
        · nofun
        · rintro ⟨_, _, -, htail, -⟩
          rw [← mapM_eq_ok, hxs] at htail
          cases htail
      | ok tail =>
        constructor
        · intro h
          exact ⟨y, tail, rfl, mapM_eq_ok.mp hxs, (Except.ok.inj h).symm⟩
        · rintro ⟨y', tail', hy, htail, rfl⟩
          obtain rfl := Except.ok.inj hy
          obtain rfl := Except.ok.inj (hxs.symm.trans (mapM_eq_ok.mpr htail))
          rfl

theorem exists_of_mapM_eq_ok {xs : List α} {ys : List β} (h : xs.mapM f = .ok ys) :
    ∀ x ∈ xs, ∃ y, f x = .ok y := by
  intro x hx
  obtain ⟨n, hn⟩ := List.mem_iff_getElem?.mp hx
  obtain ⟨y, -, hy⟩ := getElem?_of_forall₂ (mapM_eq_ok.mp h) hn
  exact ⟨y, hy⟩

/-- **Mapping fails** as the first element does that fails. -/
theorem mapM_eq_error {e : ε} : ∀ {xs : List α}, xs.mapM f = .error e ↔
    ∃ n : Nat, (∃ x, xs[n]? = some x ∧ f x = .error e) ∧
      ∀ m < n, ∀ x, xs[m]? = some x → ∃ y, f x = .ok y
  | [] => by simp [List.mapM_nil, pure, Except.pure]
  | x :: xs => by
    rw [List.mapM_cons]
    cases hx : f x with
    | error e' =>
      constructor
      · intro h
        cases h
        exact ⟨0, ⟨x, rfl, hx⟩, nofun⟩
      · rintro ⟨n, ⟨x', hx', hfails⟩, hbefore⟩
        cases n with
        | zero =>
          obtain rfl := Option.some.inj hx'
          obtain rfl := Except.error.inj (hx.symm.trans hfails)
          rfl
        | succ n =>
          obtain ⟨y, hy⟩ := hbefore 0 n.succ_pos x rfl
          cases hx.symm.trans hy
    | ok y =>
      have htail : (do let ys ← xs.mapM f; pure (y :: ys) : Except ε (List β)) = .error e ↔
          xs.mapM f = .error e := by
        cases xs.mapM f <;> simp [bind, Except.bind, pure, Except.pure]
      refine htail.trans (mapM_eq_error.trans ⟨?_, ?_⟩)
      · rintro ⟨n, hfails, hbefore⟩
        refine ⟨n + 1, hfails, fun m hm x' hx' => ?_⟩
        cases m with
        | zero => exact ⟨y, Option.some.inj hx' ▸ hx⟩
        | succ m => exact hbefore m (Nat.lt_of_succ_lt_succ hm) x' hx'
      · rintro ⟨n, ⟨x', hx', hfails⟩, hbefore⟩
        cases n with
        | zero =>
          obtain rfl := Option.some.inj hx'
          cases hx.symm.trans hfails
        | succ n =>
          exact ⟨n, ⟨x', hx', hfails⟩, fun m hm => hbefore (m + 1) (Nat.succ_lt_succ hm)⟩

end Failing

/-! ## Sorting into places -/

section Places

variable {ι α : Type}

/-- One place alone has something. -/
theorem flatMap_eq_of_nodup {f : ι → List α} {i : ι} : ∀ {places : List ι}, places.Nodup →
    i ∈ places → (∀ j ∈ places, j ≠ i → f j = []) → places.flatMap f = f i
  | j :: places, hn, hi, h => by
    obtain ⟨hj, hn⟩ := List.nodup_cons.mp hn
    obtain ⟨hfirst, hrest⟩ := List.forall_mem_cons.mp h
    rw [List.flatMap_cons]
    rcases List.mem_cons.mp hi with rfl | hi
    · have hnil : places.flatMap f = [] :=
        List.flatMap_eq_nil_iff.mpr fun k hk => hrest k hk fun heq => hj (heq ▸ hk)
      rw [hnil, List.append_nil]
    · rw [hfirst fun heq => hj (heq ▸ hi), flatMap_eq_of_nodup hn hi hrest, List.nil_append]

/-- **Sorting into places is stable**: what is picked out of one place is in the order in which it
was. -/
theorem filter_flatMap_filter [DecidableEq ι] {place : α → ι} {places : List ι} {xs : List α}
    (hn : places.Nodup) (hplaces : ∀ x ∈ xs, place x ∈ places) {i : ι} {p : α → Bool}
    (hp : ∀ x ∈ xs, p x = true → place x = i) :
    (places.flatMap fun j => xs.filter (place · = j)).filter p = xs.filter p := by
  have hpart : ∀ j, (xs.filter (place · = j)).filter p = xs.filter fun x => p x && (j = i) := by
    intro j
    rw [List.filter_filter]
    refine List.filter_congr fun x hx => ?_
    cases hpx : p x with
    | false => simp
    | true => simp [hp x hx hpx, eq_comm]
  rw [List.filter_flatMap]
  simp only [hpart]
  by_cases hi : i ∈ places
  · rw [flatMap_eq_of_nodup hn hi fun j _ hj => by simp [hj]]
    simp
  · have hnone : xs.filter p = [] := List.filter_eq_nil_iff.mpr fun x hx hpx =>
      hi (hp x hx hpx ▸ hplaces x hx)
    rw [hnone]
    refine List.flatMap_eq_nil_iff.mpr fun j hj => List.filter_eq_nil_iff.mpr fun x hx => ?_
    have hne : j ≠ i := fun heq => hi (heq ▸ hj)
    simp [hne]

/-- Ordered lists are told by what each class has of them, if only elements of one class are ordered
both ways. -/
theorem eq_of_filter_eq {γ : Type} [DecidableEq γ] {R : α → α → Prop} {cls : α → γ} :
    ∀ {xs ys : List α}, xs.Pairwise R → ys.Pairwise R →
      (∀ x ∈ xs, ∀ y ∈ ys, R x y → R y x → cls x = cls y) →
      (∀ c, xs.filter (cls · = c) = ys.filter (cls · = c)) → xs = ys
  | [], [], _, _, _, _ => rfl
  | [], y :: ys, _, _, _, h => by
    have hy := h (cls y)
    simp at hy
  | x :: xs, [], _, _, _, h => by
    have hx := h (cls x)
    simp at hx
  | x :: xs, y :: ys, hxxs, hyys, hcls, h => by
    obtain ⟨hx, hxs⟩ := List.pairwise_cons.mp hxxs
    obtain ⟨hy, hys⟩ := List.pairwise_cons.mp hyys
    have hmem : ∀ z, z ∈ x :: xs ↔ z ∈ y :: ys := by
      intro z
      have hz := congrArg (z ∈ ·) (h (cls z))
      simpa only [List.mem_filter, decide_true, and_true, eq_iff_iff] using hz
    have hhead : x = y := by
      rcases List.mem_cons.mp ((hmem x).mp List.mem_cons_self) with heq | hxys
      · exact heq
      · rcases List.mem_cons.mp ((hmem y).mpr List.mem_cons_self) with heq | hyxs
        · exact heq.symm
        · have hsame := hcls x List.mem_cons_self y List.mem_cons_self (hx y hyxs) (hy x hxys)
          have hfilter := h (cls x)
          rw [List.filter_cons_of_pos (by simp), List.filter_cons_of_pos (by simp [hsame])]
            at hfilter
          exact (List.cons.inj hfilter).1
    subst hhead
    refine congrArg (x :: ·) (eq_of_filter_eq hxs hys (fun x' hx' y' hy' =>
      hcls x' (List.mem_cons_of_mem _ hx') y' (List.mem_cons_of_mem _ hy')) fun c => ?_)
    have hc := h c
    by_cases hxc : cls x = c
    · simpa [hxc] using hc
    · simpa [hxc] using hc

end Places

/-! ## Mixing lists -/

/-- The lists are mixed into one: its first element is the first of one of them, and so on. -/
inductive Shuffle {ι α : Type} [DecidableEq ι] : (ι → List α) → List α → Prop where
  | nil : Shuffle (fun _ => []) []
  | cons (i : ι) (x : α) {parts : ι → List α} {whole : List α} :
      Shuffle parts whole → Shuffle (Function.update parts i (x :: parts i)) (x :: whole)

section Own

variable {ι α : Type} [DecidableEq ι]

/-- What is labelled with some `i`. -/
def own (i : ι) (labelled : List (ι × α)) : List α :=
  (labelled.filter (·.1 = i)).map (·.2)

theorem own_concat (i j : ι) (x : α) (labelled : List (ι × α)) :
    own i (labelled ++ [(j, x)]) = own i labelled ++ if j = i then [x] else [] := by
  unfold own
  rw [List.filter_append, List.map_append]
  by_cases h : j = i <;> simp [h]

/-- A list with labels is mixed from what each label has. -/
theorem shuffle_own (labelled : List (ι × α)) :
    Shuffle (fun i => own i labelled) (labelled.map (·.2)) := by
  induction labelled with
  | nil => exact .nil
  | cons y labelled ih =>
    obtain ⟨i, x⟩ := y
    have hown : (fun j => own j ((i, x) :: labelled)) =
        Function.update (fun j => own j labelled) i (x :: own i labelled) := by
      funext j
      unfold own
      by_cases h : j = i
      · subst h
        simp
      · simp [h, Ne.symm h]
    rw [hown]
    exact ih.cons i x

/-- The same holds for what is picked out of the list and read off. -/
theorem shuffle_filter {β : Type} (p : α → Bool) (f : α → β) (labelled : List (ι × α)) :
    Shuffle (fun i => ((own i labelled).filter p).map f)
      (((labelled.map (·.2)).filter p).map f) := by
  have h := shuffle_own ((labelled.filter fun x => p x.2).map fun x => (x.1, f x.2))
  have hown : (fun i => own i ((labelled.filter fun x => p x.2).map fun x => (x.1, f x.2))) =
      fun i => ((own i labelled).filter p).map f := by
    funext i
    unfold own
    simp only [List.filter_map, List.filter_filter, List.map_map, Function.comp_def, Bool.and_comm]
  rw [hown, List.map_map] at h
  rw [List.filter_map, List.map_map]
  exact h

theorem mem_own {i : ι} {x : α} {labelled : List (ι × α)} :
    x ∈ own i labelled ↔ (i, x) ∈ labelled := by
  unfold own
  simp

end Own

end LinkedQueries
