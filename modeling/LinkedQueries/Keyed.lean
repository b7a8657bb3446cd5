/-!
# Keyed collections

Values kept under texts, in strictly ascending order of the texts. The order is that of code points,
which is also the order of the UTF-8 bytes. The only way to write is `alter`, which sees the value
that a key already has.

* `find?_alter`: altering a key is seen under that key and under no other.
* `size_alter`: altering a key adds it if it was not there.
* `entries_alter_perm`: a key that was not there is added, and nothing else.
* `ascending`: the keys are strictly ascending, so no key occurs twice.
-/

namespace LinkedQueries

namespace Entries

variable {α : Type}

/-- The entries with the value of one key replaced by what `f` makes of it. -/
def alter (key : String) (f : Option α → α) : List (String × α) → List (String × α)
  | [] => [(key, f none)]
  | (k, v) :: rest =>
    if key < k then (key, f none) :: (k, v) :: rest
    else if key = k then (k, f (some v)) :: rest
    else (k, v) :: alter key f rest

/-- The first value of a key. -/
def find? (key : String) : List (String × α) → Option α
  | [] => none
  | (k, v) :: rest => if key = k then some v else find? key rest

/-- The keys are strictly ascending. -/
def Ascending (entries : List (String × α)) : Prop :=
  entries.Pairwise fun a b => a.1 < b.1

theorem mem_alter {key : String} {f : Option α → α} {entry : String × α} :
    ∀ {entries : List (String × α)},
      entry ∈ alter key f entries → entry.1 = key ∨ entry ∈ entries
  | [], h => by
    simp only [alter, List.mem_singleton] at h
    exact .inl (by rw [h])
  | (k, v) :: rest, h => by
    simp only [alter] at h
    split at h
    · rcases List.mem_cons.1 h with rfl | h
      · exact .inl rfl
      · exact .inr h
    · split at h
      · next heq =>
        rcases List.mem_cons.1 h with rfl | h
        · exact .inl heq.symm
        · exact .inr (List.mem_cons_of_mem _ h)
      · rcases List.mem_cons.1 h with rfl | h
        · exact .inr List.mem_cons_self
        · exact (mem_alter h).imp id (List.mem_cons_of_mem _)

theorem Ascending.alter {key : String} {f : Option α → α} :
    ∀ {entries : List (String × α)}, Ascending entries → Ascending (alter key f entries)
  | [], _ => List.pairwise_singleton _ _
  | (k, v) :: rest, h => by
    obtain ⟨hk, hrest⟩ := List.pairwise_cons.1 h
    simp only [Entries.alter]
    split
    · next hlt =>
      refine List.pairwise_cons.2 ⟨fun e he => ?_, h⟩
      rcases List.mem_cons.1 he with rfl | he
      · exact hlt
      · exact String.lt_trans hlt (hk e he)
    · split
      · exact List.pairwise_cons.2 ⟨hk, hrest⟩
      · next hlt hne =>
        refine List.pairwise_cons.2 ⟨fun e he => ?_, Ascending.alter hrest⟩
        rcases mem_alter he with heq | he
        · rw [heq]
          exact (Std.lt_trichotomy key k).resolve_left hlt |>.resolve_left hne
        · exact hk e he

theorem find?_eq_none_of_lt {key : String} :
    ∀ {entries : List (String × α)}, (∀ e ∈ entries, key < e.1) → find? key entries = none
  | [], _ => rfl
  | (k, v) :: rest, h => by
    have hk : key < k := h (k, v) List.mem_cons_self
    have hne : key ≠ k := fun heq => String.lt_irrefl k (heq ▸ hk)
    simp only [find?, hne, if_false]
    exact find?_eq_none_of_lt fun e he => h e (List.mem_cons_of_mem _ he)

/-- A key below the first one has no value. -/
theorem Ascending.find?_of_lt {key k : String} {v : α} {rest : List (String × α)}
    (h : Ascending ((k, v) :: rest)) (hlt : key < k) : find? key ((k, v) :: rest) = none := by
  obtain ⟨hk, -⟩ := List.pairwise_cons.1 h
  refine find?_eq_none_of_lt fun e he => ?_
  rcases List.mem_cons.1 he with rfl | he
  · exact hlt
  · exact String.lt_trans hlt (hk e he)

/-- The value of an entry is that of its key. -/
theorem Ascending.find?_of_mem {key : String} {value : α} :
    ∀ {entries : List (String × α)}, Ascending entries → (key, value) ∈ entries →
      find? key entries = some value
  | (k, v) :: rest, h, hm => by
    obtain ⟨hk, hrest⟩ := List.pairwise_cons.1 h
    rw [find?]
    rcases List.mem_cons.1 hm with he | hm
    · cases he
      exact if_pos rfl
    · have hne : key ≠ k := fun he => String.lt_irrefl k (he ▸ hk _ hm)
      rw [if_neg hne]
      exact find?_of_mem hrest hm

theorem mem_of_find? {key : String} {value : α} :
    ∀ {entries : List (String × α)}, find? key entries = some value → (key, value) ∈ entries
  | (k, v) :: rest, h => by
    rw [find?] at h
    split at h
    · next heq =>
      obtain rfl := Option.some.inj h
      exact heq ▸ List.mem_cons_self
    · exact List.mem_cons_of_mem _ (mem_of_find? h)

theorem find?_alter {key : String} {f : Option α → α} (other : String) :
    ∀ {entries : List (String × α)}, Ascending entries →
      find? other (alter key f entries) =
        if other = key then some (f (find? key entries)) else find? other entries
  | [], _ => by simp only [alter, find?]
  | (k, v) :: rest, h => by
    obtain ⟨-, hrest⟩ := List.pairwise_cons.1 h
    simp only [alter]
    split
    · next hlt =>
      rw [h.find?_of_lt hlt]
      simp only [find?]
    · split
      · next heq =>
        subst heq
        simp only [find?, if_true]
        split <;> rfl
      · next hne =>
        simp only [find?, hne, if_false]
        rw [find?_alter other hrest]
        by_cases ho : other = k
        · have : other ≠ key := fun e => hne (e ▸ ho)
          simp [ho, Ne.symm hne]
        · simp [ho]

theorem length_alter {key : String} {f : Option α → α} :
    ∀ {entries : List (String × α)}, Ascending entries →
      (alter key f entries).length =
        entries.length + if (find? key entries).isSome then 0 else 1
  | [], _ => rfl
  | (k, v) :: rest, h => by
    obtain ⟨-, hrest⟩ := List.pairwise_cons.1 h
    simp only [alter]
    split
    · next hlt =>
      rw [h.find?_of_lt hlt]
      rfl
    · split
      · next heq => simp [find?, heq]
      · next hne =>
        simp only [find?, hne, if_false, List.length_cons]
        rw [length_alter hrest, Nat.add_right_comm]

theorem alter_perm {key : String} {f : Option α → α} :
    ∀ {entries : List (String × α)}, find? key entries = none →
      (alter key f entries).Perm ((key, f none) :: entries)
  | [], _ => .refl _
  | (k, v) :: rest, h => by
    rw [find?] at h
    split at h
    · cases h
    · next hne =>
      rw [alter, if_neg hne]
      split
      · exact .refl _
      · exact ((alter_perm h).cons (k, v)).trans (.swap ..)

theorem find?_isSome_iff {key : String} :
    ∀ {entries : List (String × α)}, (find? key entries).isSome ↔ key ∈ entries.map (·.1)
  | [] => by simp [find?]
  | (k, v) :: rest => by
    have ih := @find?_isSome_iff key rest
    by_cases h : key = k
    · simp [find?, h]
    · simpa [find?, h] using ih

end Entries

/-- Values under texts, in strictly ascending order of the texts. -/
structure Keyed (α : Type) where
  entries : List (String × α)
  ascending : Entries.Ascending entries

namespace Keyed

variable {α : Type}

/-- No entries. -/
def empty : Keyed α := ⟨[], List.Pairwise.nil⟩

instance : Inhabited (Keyed α) := ⟨empty⟩

/-- The collection with the value of one key replaced by what `f` makes of it. -/
def alter (m : Keyed α) (key : String) (f : Option α → α) : Keyed α :=
  ⟨Entries.alter key f m.entries, m.ascending.alter⟩

/-- The value of a key. -/
def find? (m : Keyed α) (key : String) : Option α :=
  Entries.find? key m.entries

/-- Whether a key has a value. -/
def contains (m : Keyed α) (key : String) : Bool :=
  (m.find? key).isSome

/-- The keys, ascending. -/
def keys (m : Keyed α) : List String :=
  m.entries.map (·.1)

/-- The number of keys. -/
def size (m : Keyed α) : Nat :=
  m.entries.length

@[ext] theorem ext {m n : Keyed α} (h : m.entries = n.entries) : m = n := by
  cases m; cases n; cases h; rfl

/-- Altering a key is seen under that key and under no other. -/
theorem find?_alter (m : Keyed α) (key other : String) (f : Option α → α) :
    (m.alter key f).find? other = if other = key then some (f (m.find? key)) else m.find? other :=
  Entries.find?_alter other m.ascending

/-- Altering a key adds it if it was not there. -/
theorem size_alter (m : Keyed α) (key : String) (f : Option α → α) :
    (m.alter key f).size = m.size + if m.contains key then 0 else 1 :=
  Entries.length_alter m.ascending

theorem mem_entries_iff (m : Keyed α) {key : String} {value : α} :
    (key, value) ∈ m.entries ↔ m.find? key = some value :=
  ⟨m.ascending.find?_of_mem, Entries.mem_of_find?⟩

/-- A key that was not there is added, and nothing else. -/
theorem entries_alter_perm (m : Keyed α) {key : String} (h : m.find? key = none)
    (f : Option α → α) : (m.alter key f).entries.Perm ((key, f none) :: m.entries) :=
  Entries.alter_perm h

/-- The keys are those that have a value. -/
theorem mem_keys_iff (m : Keyed α) (key : String) : key ∈ m.keys ↔ m.contains key = true :=
  Entries.find?_isSome_iff.symm

theorem keys_ascending (m : Keyed α) : m.keys.Pairwise (· < ·) :=
  List.pairwise_map.2 m.ascending

theorem nodup_keys (m : Keyed α) : m.keys.Nodup := by
  refine m.keys_ascending.imp ?_
  intro a b hlt he
  exact String.lt_irrefl _ (he ▸ hlt)

theorem length_keys (m : Keyed α) : m.keys.length = m.size :=
  List.length_map _

theorem find?_empty (key : String) : (empty : Keyed α).find? key = none := rfl

end Keyed

end LinkedQueries
