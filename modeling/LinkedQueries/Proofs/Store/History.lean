import LinkedQueries.Proofs.Store.Merging
import Mathlib.Data.List.Induction

/-!
# The store as the fold of its history

A history is the records of some calls of `merge` on the empty store, in order; a call that fails
leaves the store as it was. What a history leaves under a hash is what its records of that hash
leave when they are merged into each other from the left.

Results:
* `afterCall_spec`: a call fails only for want of a hash.
* `get?_afterCalls`: the record under a hash is the fold over the records of that hash.
* `afterCalls_extends`: whatever is merged later, a record keeps its fields and its executions.
* **`history_exact`**: all of it, for every history.
-/

namespace LinkedQueries

namespace QueryRecord

/-- One record after another merged into the first; of no records there is none. -/
def mergeAll : List QueryRecord → Except HashMismatch (Option QueryRecord)
  | [] => .ok none
  | first :: rest => (rest.foldlM merge first).map some

/-- A record is still in another one: what it has is kept, and executions are added at the end. -/
structure Extends (r r' : QueryRecord) : Prop where
  text : ∀ v, r.text = some v → r'.text = some v
  hash : ∀ v, r.hash = some v → r'.hash = some v
  parseError : ∀ v, r.parseError = some v → r'.parseError = some v
  features : ∀ v, r.features = some v → r'.features = some v
  localExecutions : r.localExecutions <+: r'.localExecutions
  remoteExecutions : r.remoteExecutions <+: r'.remoteExecutions

theorem Extends.refl (r : QueryRecord) : r.Extends r :=
  ⟨fun _ h => h, fun _ h => h, fun _ h => h, fun _ h => h, List.prefix_rfl, List.prefix_rfl⟩

theorem Extends.trans {r r' r'' : QueryRecord} (h : r.Extends r') (h' : r'.Extends r'') :
    r.Extends r'' where
  text v hv := h'.text v (h.text v hv)
  hash v hv := h'.hash v (h.hash v hv)
  parseError v hv := h'.parseError v (h.parseError v hv)
  features v hv := h'.features v (h.features v hv)
  localExecutions := h.localExecutions.trans h'.localExecutions
  remoteExecutions := h.remoteExecutions.trans h'.remoteExecutions

theorem extends_fill (r other : QueryRecord) : r.Extends (r.fill other) where
  text v hv := by simp [fill, hv]
  hash v hv := by simp [fill, hv]
  parseError v hv := by simp [fill, hv]
  features v hv := by simp [fill, hv]
  localExecutions := List.prefix_append _ _
  remoteExecutions := List.prefix_append _ _

/-- One more record is merged into what the others have left. -/
theorem mergeAll_concat (records : List QueryRecord) (r : QueryRecord) :
    mergeAll (records ++ [r]) =
      (mergeAll records).bind fun known => (RecordStore.merged known r).map some := by
  cases records with
  | nil => rfl
  | cons first rest =>
    simp only [List.cons_append, mergeAll, List.foldlM_append]
    cases h : rest.foldlM merge first with
    | error e => rfl
    | ok k =>
      show ((k.merge r).bind pure).map some = (k.merge r).map some
      cases k.merge r <;> rfl

end QueryRecord

namespace RecordStore

open QueryRecord

/-! ## Calls -/

/-- The store after a call; one that fails leaves it as it was. -/
def afterCall (s : RecordStore) (r : QueryRecord) : RecordStore :=
  match s.merge r with
  | .ok s' => s'
  | .error _ => s

/-- The store after the calls of a history. -/
def afterCalls (records : List QueryRecord) : RecordStore :=
  records.foldl afterCall empty

theorem afterCalls_append (xs ys : List QueryRecord) :
    afterCalls (xs ++ ys) = ys.foldl afterCall (afterCalls xs) := List.foldl_append

theorem afterCalls_concat (records : List QueryRecord) (r : QueryRecord) :
    afterCalls (records ++ [r]) = (afterCalls records).afterCall r := by
  rw [afterCalls_append, List.foldl_cons, List.foldl_nil]

/-- What a call does: without a hash it fails and leaves the store alone, with one it succeeds. -/
inductive Called (s : RecordStore) (r : QueryRecord) : Prop where
  | failed (hash : r.hash = none) (result : s.merge r = .error .missingHash)
      (after : s.afterCall r = s)
  | merged (hash : String) (own : r.hash = some hash) (result : s.merge r = .ok (s.afterCall r))
      (after : Merged s hash r (s.afterCall r))

/-- **A call.** -/
theorem afterCall_spec {s : RecordStore} (hs : s.WellKeyed) (r : QueryRecord) : Called s r := by
  cases hr : r.hash with
  | none =>
    have hm : s.merge r = .error .missingHash := by
      unfold merge
      rw [hr]
    refine .failed hr hm ?_
    unfold afterCall
    rw [hm]
  | some hash =>
    obtain ⟨s', hm, hs'⟩ := merge_spec hs hr
    have he : s.afterCall r = s' := by
      unfold afterCall
      rw [hm]
    exact .merged hash hr (he ▸ hm) (he ▸ hs')

theorem wellKeyed_afterCall {s : RecordStore} (hs : s.WellKeyed) (r : QueryRecord) :
    (s.afterCall r).WellKeyed := by
  cases afterCall_spec hs r with
  | failed _ _ h => rw [h]; exact hs
  | merged _ _ _ h => exact h.wellKeyed

theorem wellKeyed_afterCalls (records : List QueryRecord) : (afterCalls records).WellKeyed := by
  induction records using List.reverseRecOn with
  | nil => exact Reachable.empty.wellKeyed
  | append_singleton records r ih =>
    rw [afterCalls_concat]
    exact wellKeyed_afterCall ih r

/-- **What a call does to one record**: it takes in the records of its own hash. -/
theorem get?_afterCall {s : RecordStore} (hs : s.WellKeyed) (r : QueryRecord) (hash : String) :
    (s.afterCall r).get? hash =
      if r.hash = some hash then some (filled (s.get? hash) r) else s.get? hash := by
  cases afterCall_spec hs r with
  | failed hr _ h => rw [h, hr, if_neg (by simp)]
  | merged own hr _ h =>
    rw [h.get?, hr]
    by_cases he : hash = own
    · rw [if_pos he, if_pos (by rw [he]), he]
    · rw [if_neg he, if_neg fun hs => he (Option.some.inj hs).symm]

/-! ## Histories -/

/-- The records of a history that have a hash. -/
def ofHash (hash : String) (records : List QueryRecord) : List QueryRecord :=
  records.filter (·.hash = some hash)

theorem ofHash_concat (hash : String) (records : List QueryRecord) (r : QueryRecord) :
    ofHash hash (records ++ [r]) =
      if r.hash = some hash then ofHash hash records ++ [r] else ofHash hash records := by
  unfold ofHash
  rw [List.filter_append]
  by_cases h : r.hash = some hash <;> simp [h]

/-- **The fold.** The record under a hash is what comes of merging the records of that hash into
each other, which never fails. -/
theorem get?_afterCalls (records : List QueryRecord) (hash : String) :
    mergeAll (ofHash hash records) = .ok ((afterCalls records).get? hash) := by
  induction records using List.reverseRecOn with
  | nil => rfl
  | append_singleton records r ih =>
    have hs := wellKeyed_afterCalls records
    rw [ofHash_concat, afterCalls_concat, get?_afterCall hs]
    by_cases hr : r.hash = some hash
    · have hmerged : merged ((afterCalls records).get? hash) r = .ok (filled _ r) :=
        merged_eq fun k hk => (hs hash k hk).trans hr.symm
      rw [if_pos hr, if_pos hr, mergeAll_concat, ih]
      show (merged _ r).map some = _
      rw [hmerged]
      rfl
    · rw [if_neg hr, if_neg hr, ih]

/-- There is a record under a hash iff the history has one of it. -/
theorem get?_eq_none_iff (records : List QueryRecord) (hash : String) :
    (afterCalls records).get? hash = none ↔ ∀ r ∈ records, r.hash ≠ some hash := by
  induction records using List.reverseRecOn with
  | nil => exact ⟨fun _ _ h => absurd h List.not_mem_nil, fun _ => rfl⟩
  | append_singleton records r ih =>
    rw [afterCalls_concat, get?_afterCall (wellKeyed_afterCalls records)]
    by_cases hr : r.hash = some hash
    · simp [hr]
    · rw [if_neg hr, ih, List.forall_mem_append, List.forall_mem_singleton]
      exact ⟨fun h => ⟨h, hr⟩, And.left⟩

/-- Executions of one kind are those of the records of the hash, in the order of the calls. -/
theorem executions_afterCalls {ε : Type} (executions : QueryRecord → List ε)
    (hfill : ∀ r other, executions (r.fill other) = executions r ++ executions other)
    (records : List QueryRecord) (hash : String) :
    ((afterCalls records).get? hash).toList.flatMap executions =
      (ofHash hash records).flatMap executions := by
  induction records using List.reverseRecOn with
  | nil => rfl
  | append_singleton records r ih =>
    rw [ofHash_concat, afterCalls_concat, get?_afterCall (wellKeyed_afterCalls records)]
    by_cases hr : r.hash = some hash
    · rw [if_pos hr, if_pos hr, List.flatMap_append, ← ih]
      cases (afterCalls records).get? hash with
      | none => simp [filled]
      | some k => simp [filled, hfill]
    · rw [if_neg hr, if_neg hr, ih]

/-- **Append-only.** Whatever is merged later, a record keeps what it has. -/
theorem afterCalls_extends {records : List QueryRecord} {hash : String} {k : QueryRecord}
    (hk : (afterCalls records).get? hash = some k) (more : List QueryRecord) :
    ∃ k', (afterCalls (records ++ more)).get? hash = some k' ∧ k.Extends k' := by
  induction more using List.reverseRecOn with
  | nil => exact ⟨k, by rw [List.append_nil, hk], .refl k⟩
  | append_singleton more r ih =>
    obtain ⟨k', hk', he⟩ := ih
    rw [← List.append_assoc, afterCalls_concat, get?_afterCall (wellKeyed_afterCalls _), hk']
    by_cases hr : r.hash = some hash
    · rw [if_pos hr]
      exact ⟨_, rfl, he.trans (extends_fill k' r)⟩
    · rw [if_neg hr]
      exact ⟨k', rfl, he⟩

/-- **The store is the fold of its history.** After any calls, a further one fails iff its record
has no hash, and then for that reason and without a change. Every record has its key as its hash.
Under a hash stands what comes of merging the records of that hash from the left, which never fails:
nothing iff there are none; each of their executions once and in order; and whatever is merged
later, no field that is present changes. The keys of the store are the hashes that have a record,
strictly ascending, and they are as many as the store is large. -/
theorem history_exact (records : List QueryRecord) :
    let s := afterCalls records
    (∀ r, ((∃ e, s.merge r = .error e) ↔ r.hash = none) ∧
      ∀ e, s.merge r = .error e → e = .missingHash ∧ afterCalls (records ++ [r]) = s) ∧
    (∀ hash k, s.get? hash = some k → k.hash = some hash) ∧
    (∀ hash, (s.get? hash = none ↔ ∀ r ∈ records, r.hash ≠ some hash) ∧
      mergeAll (ofHash hash records) = .ok (s.get? hash)) ∧
    (∀ hash k, s.get? hash = some k →
      k.localExecutions = (ofHash hash records).flatMap (·.localExecutions) ∧
      k.remoteExecutions = (ofHash hash records).flatMap (·.remoteExecutions) ∧
      ∀ more, ∃ k', (afterCalls (records ++ more)).get? hash = some k' ∧ k.Extends k') ∧
    (∀ hash, s.contains hash = (s.get? hash).isSome) ∧
    (∀ hash, hash ∈ s.hashes ↔ (s.get? hash).isSome) ∧
    s.hashes.Pairwise (· < ·) ∧ s.size = s.hashes.length := by
  intro s
  have hs : s.WellKeyed := wellKeyed_afterCalls records
  refine ⟨fun r => ?_, hs,
    fun hash => ⟨get?_eq_none_iff records hash, get?_afterCalls records hash⟩,
    fun hash k hk => ⟨?_, ?_, afterCalls_extends hk⟩, fun _ => rfl,
    fun hash => Keyed.mem_keys_iff s.records hash, Keyed.keys_ascending _,
    (Keyed.length_keys _).symm⟩
  · rw [afterCalls_concat]
    cases afterCall_spec hs r with
    | failed hr hm hafter =>
      exact ⟨⟨fun _ => hr, fun _ => ⟨_, hm⟩⟩, fun e he => ⟨by simpa [hm] using he.symm, hafter⟩⟩
    | merged hash hr hm _ =>
      exact ⟨⟨fun ⟨e, he⟩ => by simp [hm] at he, fun h => by simp [hr] at h⟩,
        fun e he => by simp [hm] at he⟩
  · have h := executions_afterCalls (·.localExecutions) (fun _ _ => rfl) records hash
    rwa [show (afterCalls records).get? hash = some k from hk, Option.toList_some,
      List.flatMap_singleton] at h
  · have h := executions_afterCalls (·.remoteExecutions) (fun _ _ => rfl) records hash
    rwa [show (afterCalls records).get? hash = some k from hk, Option.toList_some,
      List.flatMap_singleton] at h

end RecordStore

end LinkedQueries
