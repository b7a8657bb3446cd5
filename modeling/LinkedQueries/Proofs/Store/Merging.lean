import LinkedQueries.Store

/-!
# Merging into the store

A store is reachable if it comes of merging records into the empty one. Every record of such a store
is stored under its own hash, so that merging a record with a hash never fails.

Results:
* `Reachable.wellKeyed`: the records of a reachable store have their keys as hashes.
* **`merge_spec`**: what merging a record does to the records and to their number.
-/

namespace LinkedQueries.RecordStore

/-- The stores that merging makes of the empty one. -/
inductive Reachable : RecordStore → Prop where
  | empty : Reachable empty
  | merge {s s' : RecordStore} {r : QueryRecord} :
      Reachable s → s.merge r = .ok s' → Reachable s'

/-- Every record is stored under its hash. -/
def WellKeyed (s : RecordStore) : Prop :=
  ∀ hash r, s.get? hash = some r → r.hash = some hash

/-! ## Records of one hash -/

theorem mismatch?_eq_none {k r : QueryRecord} (h : k.hash = r.hash) : k.mismatch? r = none := by
  unfold QueryRecord.mismatch?
  rw [h]
  cases r.hash with
  | none => rfl
  | some hash => exact if_pos rfl

theorem fill_hash {k : QueryRecord} {hash : String} (h : k.hash = some hash) (r : QueryRecord) :
    (k.fill r).hash = some hash := by
  unfold QueryRecord.fill
  simp [h]

/-- What a stored record, if any, is when a record of its hash has been merged into it. -/
def filled (known : Option QueryRecord) (r : QueryRecord) : QueryRecord :=
  known.elim r (·.fill r)

theorem merged_eq {known : Option QueryRecord} {r : QueryRecord}
    (h : ∀ k, known = some k → k.hash = r.hash) : merged known r = .ok (filled known r) := by
  cases known with
  | none => rfl
  | some k =>
    show k.merge r = _
    unfold QueryRecord.merge
    rw [mismatch?_eq_none (h k rfl)]
    rfl

theorem filled_hash {known : Option QueryRecord} {r : QueryRecord} {hash : String}
    (h : ∀ k, known = some k → k.hash = some hash) (hr : r.hash = some hash) :
    (filled known r).hash = some hash := by
  cases known with
  | none => exact hr
  | some k => exact fill_hash (h k rfl) r

/-! ## One merge -/

/-- What merging a record of some hash makes of a store: the record under that hash has taken it in,
no other record has changed, and there is one record more iff there was none of that hash. -/
structure Merged (s : RecordStore) (hash : String) (r : QueryRecord) (s' : RecordStore) : Prop where
  get? : ∀ other, s'.get? other = if other = hash then some (filled (s.get? hash) r) else s.get? other
  size : s'.size = s.size + if s.contains hash then 0 else 1
  wellKeyed : s'.WellKeyed

/-- **Merging** a record that has a hash succeeds. -/
theorem merge_spec {s : RecordStore} (hs : s.WellKeyed) {r : QueryRecord} {hash : String}
    (hr : r.hash = some hash) : ∃ s', s.merge r = .ok s' ∧ Merged s hash r s' := by
  have hknown : ∀ k, s.get? hash = some k → k.hash = some hash := fun k hk => hs hash k hk
  have hmerged : merged (s.get? hash) r = .ok (filled (s.get? hash) r) :=
    merged_eq fun k hk => (hknown k hk).trans hr.symm
  have hget : ∀ other, (s.records.alter hash fun _ => filled (s.get? hash) r).find? other =
      if other = hash then some (filled (s.get? hash) r) else s.get? other :=
    fun other => Keyed.find?_alter _ _ _ _
  refine ⟨⟨s.records.alter hash fun _ => filled (s.get? hash) r⟩, ?_, hget, ?_, ?_⟩
  · unfold merge
    rw [hr]
    dsimp only
    rw [hmerged]
  · exact Keyed.size_alter _ _ _
  · intro other k hk
    rw [RecordStore.get?, hget] at hk
    by_cases ho : other = hash
    · subst ho
      rw [if_pos rfl] at hk
      rw [← Option.some.inj hk]
      exact filled_hash hknown hr
    · rw [if_neg ho] at hk
      exact hs other k hk

/-- The records of a reachable store have their keys as hashes. -/
theorem Reachable.wellKeyed {s : RecordStore} (h : s.Reachable) : s.WellKeyed := by
  induction h with
  | empty => intro hash r h; exact absurd h (by simp [get?, RecordStore.empty, Keyed.find?_empty])
  | @merge s s' r _ hm ih =>
    cases hr : r.hash with
    | none =>
      unfold RecordStore.merge at hm
      rw [hr] at hm
      exact absurd hm (by simp)
    | some hash =>
      obtain ⟨s'', hm', hs''⟩ := merge_spec ih hr
      rw [hm] at hm'
      rw [Except.ok.inj hm']
      exact hs''.wellKeyed

end LinkedQueries.RecordStore
