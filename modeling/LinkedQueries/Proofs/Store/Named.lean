import LinkedQueries.Proofs.Store.Merging

/-!
# Records that are named by their texts

The records of a store are named by their texts if each is stored under its hash and that is the
fingerprint of its text. Such a store is seen hash by hash through the texts and the executions of
its records.

Results:
* `Merged.text?`, `Merged.executions`: merging sets the text of a hash that had none, and adds the
  executions at the end.
* **`Merged.named`**: merging a record that is named by its text leaves all records so.
-/

namespace LinkedQueries.RecordStore

/-- The text of the record with a hash. -/
def text? (s : RecordStore) (hash : String) : Option String :=
  (s.get? hash).bind (·.text)

/-- The remote executions of the record with a hash, none if there is no record. -/
def executions (s : RecordStore) (hash : String) : List RemoteExecution :=
  (s.get? hash).elim [] (·.remoteExecutions)

theorem executions_of_get? {s : RecordStore} {hash : String} {r : QueryRecord}
    (h : s.get? hash = some r) : s.executions hash = r.remoteExecutions := by
  unfold executions
  rw [h]
  rfl

/-- Every record is stored under its hash, which is the fingerprint of its text. -/
def Named (s : RecordStore) : Prop :=
  ∀ hash r, s.get? hash = some r →
    r.hash = some hash ∧ ∃ text, r.text = some text ∧ fingerprint text = hash

variable {s s' : RecordStore} {hash : String} {r : QueryRecord}

theorem named_empty : Named empty := by
  intro hash r h
  exact absurd h (by simp [get?, empty, Keyed.find?_empty])

theorem Named.wellKeyed (h : s.Named) : s.WellKeyed :=
  fun hash r hr => (h hash r hr).1

theorem Named.fingerprint_eq (h : s.Named) {text : String} (ht : s.text? hash = some text) :
    fingerprint text = hash := by
  obtain ⟨r, hr, htext⟩ := Option.bind_eq_some_iff.mp ht
  obtain ⟨-, text', htext', hhash⟩ := h hash r hr
  cases htext.symm.trans htext'
  exact hhash

/-- A store knows a hash iff it has a text for it. -/
theorem Named.contains_eq (h : s.Named) (hash : String) :
    s.contains hash = (s.text? hash).isSome := by
  show (s.get? hash).isSome = _
  unfold text?
  cases hr : s.get? hash with
  | none => rfl
  | some r =>
    obtain ⟨-, text, htext, -⟩ := h hash r hr
    simp [htext]

/-! ## Merging -/

theorem Merged.text? (hs : s.Named) (h : Merged s hash r s') (other : String) :
    s'.text? other = (s.text? other <|> if other = hash then r.text else none) := by
  unfold RecordStore.text?
  rw [h.get?]
  by_cases ho : other = hash
  · subst ho
    rw [if_pos rfl, if_pos rfl]
    cases hk : s.get? other with
    | none => rfl
    | some k =>
      obtain ⟨-, text, htext, -⟩ := hs other k hk
      simp [filled, QueryRecord.fill, htext]
  · simp [ho]

theorem Merged.executions (h : Merged s hash r s') (other : String) :
    s'.executions other = s.executions other ++ if other = hash then r.remoteExecutions else [] := by
  unfold RecordStore.executions
  rw [h.get?]
  by_cases ho : other = hash
  · subst ho
    rw [if_pos rfl, if_pos rfl]
    cases s.get? other <;> rfl
  · rw [if_neg ho, if_neg ho, List.append_nil]

/-- A merge forgets no hash. -/
theorem Merged.contains (h : Merged s hash r s') (other : String) :
    s'.contains other = (s.contains other || other == hash) := by
  show (s'.get? other).isSome = ((s.get? other).isSome || _)
  rw [h.get?]
  by_cases ho : other = hash <;> simp [ho]

/-- **Merging a record that is named by its text.** -/
theorem Merged.named (hs : s.Named) (h : Merged s hash r s') {text : String}
    (htext : r.text = some text) (hhash : fingerprint text = hash) : s'.Named := by
  intro other k hk
  refine ⟨h.wellKeyed other k hk, ?_⟩
  have hk' : s'.text? other = k.text := by
    unfold RecordStore.text?
    rw [hk]
    rfl
  rw [h.text? hs] at hk'
  by_cases ho : other = hash
  · subst ho
    rw [if_pos rfl, htext] at hk'
    cases ht : s.text? other with
    | none => exact ⟨text, by simpa [ht] using hk'.symm, hhash⟩
    | some known => exact ⟨known, by simpa [ht] using hk'.symm, hs.fingerprint_eq ht⟩
  · rw [h.get?, if_neg ho] at hk
    exact (hs other k hk).2

end LinkedQueries.RecordStore
