import LinkedQueries.Record

/-!
# Merging records in any grouping

A record is consistent if its hash is the fingerprint of its text or both are absent. Among such
records merging is a partial operation that is associative and has the empty record as identity: it
fails for records of different texts, and however some records are grouped into partial merges, all
groupings fail or all give the same record.

Results:
* `mergeInPlace_eq`: assigning the fields one after the other is merging; if the hashes differ,
  nothing has been assigned yet.
* `merge_assoc`, `merge_assoc_of_match`: associativity; two groupings of three records also fail for
  the same reason, unless the middle one differs from both others.
* `Grouping.merged?_eq_foldlM`: every grouping gives what merging from the left gives.
* **`merge_grouping`**: all laws together.
-/

namespace LinkedQueries.QueryRecord

/-- The hash is the fingerprint of the text, or both are absent. -/
def Consistent (r : QueryRecord) : Prop :=
  r.hash = r.text.map fingerprint

theorem consistent_empty : empty.Consistent := rfl

theorem consistent_ofText (text : String) : (ofText text).Consistent := rfl

/-- The text is absent iff the hash is. -/
theorem Consistent.isNone_eq {r : QueryRecord} (h : r.Consistent) :
    r.text.isNone = r.hash.isNone := by
  rw [h, Option.isNone_map]

/-! ## One merge -/

section One

variable {a b c : QueryRecord}

theorem mismatch?_eq_some_iff {e : HashMismatch} :
    a.mismatch? b = some e ↔ a.hash = some e.expected ∧ b.hash = some e.found ∧
      e.expected ≠ e.found := by
  unfold mismatch?
  cases a.hash with
  | none => simp
  | some h =>
    cases b.hash with
    | none => simp
    | some k =>
      by_cases he : h = k
      · simp only [if_pos he, reduceCtorEq, Option.some.injEq, false_iff]
        rintro ⟨rfl, rfl, hne⟩
        exact hne he
      · simp only [if_neg he, Option.some.injEq]
        constructor
        · rintro rfl
          exact ⟨rfl, rfl, he⟩
        · rintro ⟨rfl, rfl, -⟩
          rfl

theorem merge_of_mismatch {e : HashMismatch} (h : a.mismatch? b = some e) :
    a.merge b = .error e := by
  unfold merge
  rw [h]

theorem merge_of_match (h : a.mismatch? b = none) : a.merge b = .ok (a.fill b) := by
  unfold merge
  rw [h]

/-- Merging fails iff both records have a hash and the hashes differ. -/
theorem merge_fails_iff (a b : QueryRecord) :
    (∃ e, a.merge b = .error e) ↔ ∃ h k, a.hash = some h ∧ b.hash = some k ∧ h ≠ k := by
  constructor
  · rintro ⟨e, he⟩
    cases hm : a.mismatch? b with
    | none => simp [merge_of_match hm] at he
    | some e' =>
      obtain ⟨ha, hb, hne⟩ := mismatch?_eq_some_iff.mp hm
      exact ⟨_, _, ha, hb, hne⟩
  · rintro ⟨h, k, ha, hb, hne⟩
    exact ⟨⟨h, k⟩, merge_of_mismatch (mismatch?_eq_some_iff.mpr ⟨ha, hb, hne⟩)⟩

theorem eq_fill_of_merge {r : QueryRecord} (h : a.merge b = .ok r) : r = a.fill b := by
  cases hm : a.mismatch? b with
  | none => exact (Except.ok.inj ((merge_of_match hm).symm.trans h)).symm
  | some e => simp [merge_of_mismatch hm] at h

theorem empty_merge (r : QueryRecord) : empty.merge r = .ok r := rfl

theorem merge_empty (r : QueryRecord) : r.merge empty = .ok r := by
  have hmatch : r.mismatch? empty = none := by
    unfold mismatch?
    cases r.hash <;> rfl
  rw [merge_of_match hmatch]
  obtain ⟨text, hash, parseError, features, locals, remotes⟩ := r
  cases text <;> cases hash <;> simp [fill, empty]

/-- Text and hash are taken together, so they stay consistent. -/
theorem Consistent.fill (ha : a.Consistent) (hb : b.Consistent) : (a.fill b).Consistent := by
  unfold Consistent QueryRecord.fill
  dsimp only
  split
  · exact hb
  · exact ha

theorem Consistent.merge (ha : a.Consistent) (hb : b.Consistent) {r : QueryRecord}
    (h : a.merge b = .ok r) : r.Consistent :=
  eq_fill_of_merge h ▸ ha.fill hb

/-- In a consistent record each field is filled on its own. -/
theorem Consistent.fill_eq (ha : a.Consistent) (b : QueryRecord) :
    a.fill b =
      { text := a.text <|> b.text
        hash := a.hash <|> b.hash
        parseError := a.parseError <|> b.parseError
        features := a.features <|> b.features
        localExecutions := a.localExecutions ++ b.localExecutions
        remoteExecutions := a.remoteExecutions ++ b.remoteExecutions } := by
  have htext : (if a.text.isNone && a.hash.isNone then b.text else a.text) =
      (a.text <|> b.text) := by
    rw [← ha.isNone_eq]
    cases a.text <;> simp
  have hhash : (if a.text.isNone && a.hash.isNone then b.hash else a.hash) =
      (a.hash <|> b.hash) := by
    rw [ha.isNone_eq]
    cases a.hash <;> simp
  unfold QueryRecord.fill
  rw [htext, hhash]

/-! ### In place -/

/-- Merging as an update of the record itself: the hashes are compared before anything is assigned,
then each field that is absent is assigned and the executions are added. -/
def mergeInPlace (other : QueryRecord) : EStateM HashMismatch QueryRecord Unit := do
  if let some e := (← get).mismatch? other then throw e
  if (← get).text.isNone && (← get).hash.isNone then
    modify fun r => { r with text := other.text, hash := other.hash }
  if (← get).parseError.isNone then modify fun r => { r with parseError := other.parseError }
  if (← get).features.isNone then modify fun r => { r with features := other.features }
  modify fun r => { r with
    localExecutions := r.localExecutions ++ other.localExecutions
    remoteExecutions := r.remoteExecutions ++ other.remoteExecutions }

/-- In place, merging gives the same record; if it fails, the record is what it was. -/
theorem mergeInPlace_eq (r other : QueryRecord) :
    (mergeInPlace other).run r =
      match r.merge other with
      | .ok merged => .ok () merged
      | .error e => .error e r := by
  rw [mergeInPlace, merge, EStateM.run_bind, EStateM.run_get]
  dsimp only
  cases hm : r.mismatch? other with
  | some e => rfl
  | none =>
    obtain ⟨text, hash, parseError, features, locals, remotes⟩ := r
    cases text <;> cases hash <;> cases parseError <;> cases features <;> rfl

end One

/-! ## Three records -/

section Three

variable {a b c : QueryRecord}

theorem fill_assoc (ha : a.Consistent) (hb : b.Consistent) (c : QueryRecord) :
    (a.fill b).fill c = a.fill (b.fill c) := by
  rw [(ha.fill hb).fill_eq, ha.fill_eq, ha.fill_eq, hb.fill_eq]
  simp only [Option.orElse_eq_orElse, Option.orElse_eq_or, Option.or_assoc, List.append_assoc]

/-- What a filled record mismatches, one of the two mismatched before. -/
theorem mismatch?_fill_left (ha : a.Consistent) (h : a.mismatch? b = none) (c : QueryRecord) :
    (a.fill b).mismatch? c = (a.mismatch? c <|> b.mismatch? c) := by
  unfold mismatch? at h ⊢
  rw [ha.fill_eq]
  dsimp only
  cases ha' : a.hash <;> cases hb : b.hash <;> cases hc : c.hash <;> simp_all

theorem mismatch?_fill_right (hb : b.Consistent) (h : b.mismatch? c = none) (a : QueryRecord) :
    a.mismatch? (b.fill c) = (a.mismatch? b <|> a.mismatch? c) := by
  unfold mismatch? at h ⊢
  rw [hb.fill_eq]
  dsimp only
  cases ha : a.hash <;> cases hb : b.hash <;> cases hc : c.hash <;> simp_all

/-- Records that match do not mismatch a third one in two ways. -/
theorem mismatch?_orElse_of_match (h : a.mismatch? b = none) {e : HashMismatch}
    (hbc : b.mismatch? c = some e) : (a.mismatch? c <|> b.mismatch? c) = some e := by
  cases hac : a.mismatch? c with
  | none => exact hbc
  | some e' =>
    obtain ⟨expected, found⟩ := e
    obtain ⟨expected', found'⟩ := e'
    obtain ⟨ha, hc, -⟩ := mismatch?_eq_some_iff.mp hac
    obtain ⟨hb, hc', -⟩ := mismatch?_eq_some_iff.mp hbc
    obtain rfl : found' = found := Option.some.inj (hc.symm.trans hc')
    have hexpected : expected' = expected := Decidable.byContradiction fun hne => by
      have hab : a.mismatch? b = some ⟨expected', expected⟩ :=
        mismatch?_eq_some_iff.mpr ⟨ha, hb, hne⟩
      cases h.symm.trans hab
    rw [hexpected]
    rfl

/-- Associativity with the reason of a failure, unless the middle record mismatches both. -/
theorem merge_assoc_of_match (ha : a.Consistent) (hb : b.Consistent) (c : QueryRecord)
    (h : a.mismatch? b = none ∨ b.mismatch? c = none) :
    (a.merge b).bind (·.merge c) = (b.merge c).bind a.merge := by
  cases hab : a.mismatch? b with
  | some e =>
    have hbc : b.mismatch? c = none := h.resolve_left (by simp [hab])
    have hright : a.mismatch? (b.fill c) = some e := by
      rw [mismatch?_fill_right hb hbc, hab]
      rfl
    rw [merge_of_mismatch hab, merge_of_match hbc]
    exact (merge_of_mismatch hright).symm
  | none =>
    rw [merge_of_match hab]
    change (a.fill b).merge c = _
    cases hbc : b.mismatch? c with
    | some e =>
      rw [merge_of_mismatch hbc]
      exact merge_of_mismatch
        ((mismatch?_fill_left ha hab c).trans (mismatch?_orElse_of_match hab hbc))
    | none =>
      have hright : a.mismatch? (b.fill c) = a.mismatch? c := by
        rw [mismatch?_fill_right hb hbc, hab]
        rfl
      rw [merge_of_match hbc]
      change _ = a.merge (b.fill c)
      unfold merge
      rw [mismatch?_fill_left ha hab, hright, hbc, Option.orElse_eq_orElse, Option.orElse_eq_or,
        Option.or_none, fill_assoc ha hb]

/-- Associativity as a partial operation: both ways fail or both give the same record. -/
theorem merge_assoc (ha : a.Consistent) (hb : b.Consistent) (c : QueryRecord) :
    ((a.merge b).bind (·.merge c)).toOption = ((b.merge c).bind a.merge).toOption := by
  cases hab : a.mismatch? b with
  | none => rw [merge_assoc_of_match ha hb c (.inl hab)]
  | some e =>
    cases hbc : b.mismatch? c with
    | none => rw [merge_assoc_of_match ha hb c (.inr hbc)]
    | some e' =>
      -- The two ways meet different mismatches first.
      rw [merge_of_mismatch hab, merge_of_mismatch hbc]
      rfl

end Three

/-! ## Any number of records -/

/-- The merged record, if the hashes agree. -/
def merge? (a b : QueryRecord) : Option QueryRecord :=
  (a.merge b).toOption

theorem merge?_empty (r : QueryRecord) : r.merge? empty = some r := by
  rw [merge?, merge_empty]
  rfl

theorem Consistent.merge? {a b : QueryRecord} (ha : a.Consistent) (hb : b.Consistent)
    {r : QueryRecord} (h : a.merge? b = some r) : r.Consistent := by
  cases hm : a.merge b with
  | error e => simp [QueryRecord.merge?, hm, Except.toOption] at h
  | ok r' =>
    obtain rfl : r' = r := by simpa [QueryRecord.merge?, hm, Except.toOption] using h
    exact ha.merge hb hm

theorem toOption_bind_merge (x : Except HashMismatch QueryRecord) (c : QueryRecord) :
    (x.bind (·.merge c)).toOption = x.toOption.bind (·.merge? c) := by
  cases x <;> rfl

theorem toOption_merge_bind (a : QueryRecord) (x : Except HashMismatch QueryRecord) :
    (x.bind a.merge).toOption = x.toOption.bind a.merge? := by
  cases x <;> rfl

theorem merge?_assoc {a b : QueryRecord} (ha : a.Consistent) (hb : b.Consistent) (c : QueryRecord) :
    (a.merge? b).bind (·.merge? c) = (b.merge? c).bind a.merge? :=
  calc (a.merge? b).bind (·.merge? c)
    _ = ((a.merge b).bind (·.merge c)).toOption := (toOption_bind_merge ..).symm
    _ = ((b.merge c).bind a.merge).toOption := merge_assoc ha hb c
    _ = (b.merge? c).bind a.merge? := toOption_merge_bind ..

/-- A way to merge records: some are merged first, then the results. -/
inductive Grouping where
  | nothing
  | one (r : QueryRecord)
  | both (left right : Grouping)

namespace Grouping

/-- The records from left to right. -/
def records : Grouping → List QueryRecord
  | nothing => []
  | one r => [r]
  | both left right => left.records ++ right.records

/-- What all merges give, if none of them fails. -/
def merged? : Grouping → Option QueryRecord
  | nothing => some empty
  | one r => some r
  | both left right => left.merged?.bind fun l => right.merged?.bind l.merge?

theorem merged?_consistent : ∀ {t : Grouping}, (∀ r ∈ t.records, r.Consistent) →
    ∀ {r : QueryRecord}, t.merged? = some r → r.Consistent
  | nothing, _, _, hr => by
    obtain rfl := Option.some.inj hr
    exact consistent_empty
  | one r, h, _, hr => by
    obtain rfl := Option.some.inj hr
    exact h r (by simp [records])
  | both left right, h, r, hr => by
    simp only [merged?, Option.bind_eq_some_iff] at hr
    obtain ⟨x, hx, y, hy, hxy⟩ := hr
    have hleft := merged?_consistent (fun r hr => h r (List.mem_append_left _ hr)) hx
    have hright := merged?_consistent (fun r hr => h r (List.mem_append_right _ hr)) hy
    exact hleft.merge? hright hxy

/-- Taking in a whole group is taking in its records one after the other. -/
theorem merge?_merged? : ∀ {t : Grouping}, (∀ r ∈ t.records, r.Consistent) →
    ∀ {a : QueryRecord}, a.Consistent → t.merged?.bind a.merge? = t.records.foldlM merge? a
  | nothing, _, a, _ => merge?_empty a
  | one r, _, a, _ => (bind_pure (m := Option) (a.merge? r)).symm
  | both left right, h, a, ha => by
    have hl : ∀ r ∈ left.records, r.Consistent := fun r hr => h r (List.mem_append_left _ hr)
    have hr : ∀ r ∈ right.records, r.Consistent := fun r hr => h r (List.mem_append_right _ hr)
    calc (left.merged?.bind fun l => right.merged?.bind l.merge?).bind a.merge?
      _ = left.merged?.bind fun l => (a.merge? l).bind fun al => right.merged?.bind al.merge? := by
        rw [Option.bind_assoc]
        refine Option.bind_congr fun l hx => ?_
        have hassoc : ∀ r, (l.merge? r).bind a.merge? = (a.merge? l).bind (·.merge? r) :=
          fun r => (merge?_assoc ha (merged?_consistent hl hx) r).symm
        rw [Option.bind_assoc, funext hassoc, Option.bind_comm]
      _ = left.merged?.bind fun l => (a.merge? l).bind (right.records.foldlM merge?) :=
        Option.bind_congr fun l hx => Option.bind_congr fun al hal =>
          merge?_merged? hr (ha.merge? (merged?_consistent hl hx) hal)
      _ = (left.merged?.bind a.merge?).bind (right.records.foldlM merge?) :=
        (Option.bind_assoc ..).symm
      _ = (left.records ++ right.records).foldlM merge? a := by
        rw [merge?_merged? hl ha, List.foldlM_append]
        rfl

/-- **Every grouping** gives what merging the records from left to right gives. -/
theorem merged?_eq_foldlM {t : Grouping} (h : ∀ r ∈ t.records, r.Consistent) :
    t.merged? = t.records.foldlM merge? empty := by
  rw [← merge?_merged? h consistent_empty]
  exact (Option.bind_fun_some t.merged?).symm

end Grouping

/-! ## The laws together -/

/-- **Merging in any grouping.** Among consistent records merging is an associative partial
operation with the empty record as identity, on both sides also with the same error unless the
middle record mismatches both others. It fails iff both records have a hash and the hashes differ,
and then the record that was to take in the other is what it was; otherwise the merged record is
consistent. Records that are grouped in two ways give the same record, or none, in both. -/
theorem merge_grouping {a b : QueryRecord} (ha : a.Consistent) (hb : b.Consistent) :
    (∀ c, ((a.merge b).bind (·.merge c)).toOption = ((b.merge c).bind a.merge).toOption) ∧
    (∀ c, a.mismatch? b = none ∨ b.mismatch? c = none →
      (a.merge b).bind (·.merge c) = (b.merge c).bind a.merge) ∧
    empty.merge a = .ok a ∧ a.merge empty = .ok a ∧
    ((∃ e, a.merge b = .error e) ↔ ∃ h k, a.hash = some h ∧ b.hash = some k ∧ h ≠ k) ∧
    (∀ e, a.merge b = .error e → (mergeInPlace b).run a = .error e a) ∧
    (∀ r, a.merge b = .ok r → (mergeInPlace b).run a = .ok () r ∧ r.Consistent) ∧
    ∀ t t' : Grouping, t.records = t'.records → (∀ r ∈ t.records, r.Consistent) →
      t.merged? = t'.merged? := by
  refine ⟨merge_assoc ha hb, merge_assoc_of_match ha hb, empty_merge a, merge_empty a,
    merge_fails_iff a b, fun e he => ?_, fun r hr => ⟨?_, ha.merge hb hr⟩, fun t t' heq ht => ?_⟩
  · rw [mergeInPlace_eq, he]
  · rw [mergeInPlace_eq, hr]
  · rw [Grouping.merged?_eq_foldlM ht, heq, Grouping.merged?_eq_foldlM (heq ▸ ht)]

/-- A record with a message only takes in one text, but not two. -/
theorem merge_grouping_message_and_texts :
    let unparsed := { empty with parseError := some "expected a query form" }
    let ask := ofText "ASK {}"
    let select := ofText "SELECT * {}"
    let fromLeft := Grouping.both (.both (.one unparsed) (.one ask)) (.one select)
    let fromRight := Grouping.both (.one unparsed) (.both (.one ask) (.one select))
    unparsed.Consistent ∧ ask.Consistent ∧ unparsed.mismatch? ask = none ∧
    (unparsed.merge ask).bind (·.merge select) = (ask.merge select).bind unparsed.merge ∧
    (∃ e, ask.merge select = .error e ∧ (mergeInPlace select).run ask = .error e ask) ∧
    fromLeft.merged? = fromRight.merged? := by
  intro unparsed ask select fromLeft fromRight
  have hunparsed : unparsed.Consistent := rfl
  have hask : ask.Consistent := consistent_ofText _
  have hselect : select.Consistent := consistent_ofText _
  have hmatch : unparsed.mismatch? ask = none := rfl
  have hne : fingerprint "ASK {}" ≠ fingerprint "SELECT * {}" := by decide +kernel
  obtain ⟨-, hassoc, -, -, -, -, -, hgroup⟩ := merge_grouping hunparsed hask
  obtain ⟨-, -, -, -, hfails, hsame, -⟩ := merge_grouping hask hselect
  obtain ⟨e, he⟩ := hfails.mpr ⟨_, _, rfl, rfl, hne⟩
  have hall : ∀ r ∈ fromLeft.records, r.Consistent := by
    simp [fromLeft, Grouping.records, hunparsed, hask, hselect]
  exact ⟨hunparsed, hask, hmatch, hassoc select (.inl hmatch), ⟨e, he, hsame e he⟩,
    hgroup fromLeft fromRight rfl hall⟩

end LinkedQueries.QueryRecord
