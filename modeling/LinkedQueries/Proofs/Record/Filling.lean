import LinkedQueries.Proofs.Record.Consistency
import LinkedQueries.Proofs.Store.Merging

/-!
# What a merge fills in

Message, features and executions are merged field by field. Text and hash are taken together: as
soon as a record has one of the two, neither is taken over. So a record that has lost its text, but
not its hash, does not get the text back from a record of the same hash.

* `FilledFrom`: each absent field is taken from the other record, whichever other fields are there.
* `Misses`: what the other record could have filled in and a merge does not.

Results:
* `filledFrom_fill_iff`: a merge fills in every field unless it misses one.
* `Torn.mergeAll`: no number of merges mends a record that has only one of text and hash.
* **`merge_fills_iff`**: what a merge fills in, in all states of both records; records that are not
  exposed miss nothing.
* `text_not_filled`: a text that gets lost.
-/

namespace LinkedQueries.QueryRecord

/-- Each absent field is taken from the other record, a present one is kept, and the executions of
the other record are added at the end. -/
structure FilledFrom (a b r : QueryRecord) : Prop where
  text : r.text = (a.text <|> b.text)
  hash : r.hash = (a.hash <|> b.hash)
  parseError : r.parseError = (a.parseError <|> b.parseError)
  features : r.features = (a.features <|> b.features)
  localExecutions : r.localExecutions = a.localExecutions ++ b.localExecutions
  remoteExecutions : r.remoteExecutions = a.remoteExecutions ++ b.remoteExecutions

/-- The record has one of text and hash only. -/
def Torn (r : QueryRecord) : Prop :=
  r.text.isSome ≠ r.hash.isSome

/-- The record has one of text and hash only, and the other record has the other one. -/
def Misses (r other : QueryRecord) : Prop :=
  r.Torn ∧ ((r.text = none ∧ other.text ≠ none) ∨ (r.hash = none ∧ other.hash ≠ none))

section One

variable {a b r : QueryRecord}

theorem Consistent.not_torn (h : r.Consistent) : ¬ r.Torn := by
  unfold Torn
  rw [h, Option.isSome_map]
  exact fun hne => hne rfl

/-- A record that is torn keeps its text and its hash as they are. -/
theorem Torn.fill (h : a.Torn) (b : QueryRecord) :
    (a.fill b).text = a.text ∧ (a.fill b).hash = a.hash := by
  obtain ⟨text, hash, _, _, _, _⟩ := a
  cases text with
  | none =>
    cases hash with
    | none => exact absurd rfl h
    | some hash => exact ⟨rfl, rfl⟩
  | some text => exact ⟨rfl, rfl⟩

/-- In a record that is not torn, text and hash are each filled on their own. -/
theorem filledFrom_fill_of_not_torn (h : ¬ a.Torn) (b : QueryRecord) :
    FilledFrom a b (a.fill b) := by
  have hboth : a.text.isSome = a.hash.isSome := Decidable.not_not.mp h
  obtain ⟨text, hash, _, _, _, _⟩ := a
  cases text with
  | none =>
    cases hash with
    | none => exact ⟨rfl, rfl, rfl, rfl, rfl, rfl⟩
    | some hash => cases hboth
  | some text =>
    cases hash with
    | none => cases hboth
    | some hash => exact ⟨rfl, rfl, rfl, rfl, rfl, rfl⟩

/-- A field that is kept as it is has been filled in unless only the other record has it. -/
theorem eq_orElse_iff {α : Type} {x y : Option α} : x = (x <|> y) ↔ ¬ (x = none ∧ y ≠ none) := by
  cases x <;> cases y <;> simp

/-- **All states of both records.** A merge fills in every field unless it misses one. -/
theorem filledFrom_fill_iff : FilledFrom a b (a.fill b) ↔ ¬ a.Misses b := by
  by_cases htorn : a.Torn
  · obtain ⟨htext, hhash⟩ := htorn.fill b
    have hkept : FilledFrom a b (a.fill b) ↔
        a.text = (a.text <|> b.text) ∧ a.hash = (a.hash <|> b.hash) :=
      ⟨fun h => ⟨htext.symm.trans h.text, hhash.symm.trans h.hash⟩,
        fun h => ⟨htext.trans h.1, hhash.trans h.2, rfl, rfl, rfl, rfl⟩⟩
    rw [hkept, eq_orElse_iff, eq_orElse_iff, ← not_or]
    exact not_congr ⟨fun h => ⟨htorn, h⟩, fun h => h.2⟩
  · exact ⟨fun _ hmisses => htorn hmisses.1, fun _ => filledFrom_fill_of_not_torn htorn b⟩

end One

/-- **Any number of merges** leaves text and hash of a torn record as they are. -/
theorem Torn.mergeAll : ∀ {a : QueryRecord} (others : List QueryRecord) {r : QueryRecord},
    a.Torn → others.foldlM merge a = .ok r → r.text = a.text ∧ r.hash = a.hash
  | _, [], _, _, hr => by
    obtain rfl := Except.ok.inj hr
    exact ⟨rfl, rfl⟩
  | a, b :: others, r, h, hr => by
    rw [List.foldlM_cons] at hr
    cases hm : a.merge b with
    | error e =>
      rw [hm] at hr
      cases hr
    | ok merged =>
      rw [hm] at hr
      obtain ⟨htext, hhash⟩ := eq_fill_of_merge hm ▸ h.fill b
      have hmerged : merged.Torn := by
        unfold Torn
        rw [htext, hhash]
        exact h
      obtain ⟨htext', hhash'⟩ := Torn.mergeAll others hmerged hr
      exact ⟨htext'.trans htext, hhash'.trans hhash⟩

/-- **What a merge fills in.** Whatever the two records are, a merge that succeeds overwrites no
field, fills in message and features and adds the executions; it fills in text and hash as well iff
it does not miss one of them. It misses none if text and hash are both there or both absent, as
they are in the records of a history that are not exposed. A record that has only one of them does
not get the other one, however many records it takes in. -/
theorem merge_fills_iff {a b r : QueryRecord} (h : a.merge b = .ok r) :
    (FilledFrom a b r ↔ ¬ a.Misses b) ∧
    (a.text ≠ none → r.text = a.text) ∧ (a.hash ≠ none → r.hash = a.hash) ∧
    r.parseError = (a.parseError <|> b.parseError) ∧ r.features = (a.features <|> b.features) ∧
    r.localExecutions = a.localExecutions ++ b.localExecutions ∧
    r.remoteExecutions = a.remoteExecutions ++ b.remoteExecutions ∧
    (a.text.isSome = a.hash.isSome → FilledFrom a b r) ∧
    (∀ {ι : Type} [DecidableEq ι] (operations : List (Operation ι)) (i : ι),
      exposed operations i = false → a = afterOperations operations i → FilledFrom a b r) ∧
    ∀ (others : List QueryRecord) (last : QueryRecord), a.Torn →
      others.foldlM merge r = .ok last → last.text = a.text ∧ last.hash = a.hash := by
  obtain rfl := eq_fill_of_merge h
  have hwhole : ¬ a.Torn → FilledFrom a b (a.fill b) := fun ht => filledFrom_fill_of_not_torn ht b
  refine ⟨filledFrom_fill_iff, fun htext => ?_, fun hhash => ?_, rfl, rfl, rfl, rfl,
    fun hboth => hwhole fun hne => hne hboth, fun operations i hi ha => hwhole ?_,
    fun others last ht hlast => ?_⟩
  · unfold fill
    rw [Option.isNone_eq_false_iff.mpr (Option.isSome_iff_ne_none.mpr htext)]
    rfl
  · unfold fill
    rw [Option.isNone_eq_false_iff.mpr (Option.isSome_iff_ne_none.mpr hhash), Bool.and_false]
    rfl
  · rw [ha]
    exact (afterOperations_consistent operations i hi).not_torn
  · have hall : (b :: others).foldlM merge a = .ok last := by
      rw [List.foldlM_cons, h]
      exact hlast
    exact ht.mergeAll (b :: others) hall

/-- A record that has lost its hash takes in the message of the other record, but not the hash. -/
theorem merge_fills_iff_lost_hash :
    let a := empty.withText (some "ASK {}")
    let b := (ofText "ASK {}").withParseError (some "expected a query form")
    let r := a.withParseError (some "expected a query form")
    a.merge b = .ok r ∧ a.Misses b ∧ ¬ FilledFrom a b r ∧ r.parseError = b.parseError := by
  intro a b r
  have hmerge : a.merge b = .ok r := rfl
  have hmisses : a.Misses b := ⟨nofun, .inr ⟨rfl, nofun⟩⟩
  obtain ⟨hiff, -, -, hmessage, -⟩ := merge_fills_iff hmerge
  exact ⟨hmerge, hmisses, fun hfilled => hiff.mp hfilled hmisses, hmessage⟩

/-- A text that gets lost: both records have the hash of the text, one has lost the text itself, and
it is not filled in from the other one. -/
theorem text_not_filled :
    let operations : List (Operation Bool) :=
      [.update false (.newOf "ASK {}"), .update false (.setText none),
        .update true (.newOf "ASK {}")]
    let a := afterOperations operations false
    let b := afterOperations operations true
    a.text = none ∧ b.text = some "ASK {}" ∧ a.hash = b.hash ∧
    ∃ r, a.merge b = .ok r ∧ r.text = none ∧ ¬ FilledFrom a b r := by
  intro operations a b
  have hhash : a.hash = b.hash := rfl
  have hmerge : a.merge b = .ok (a.fill b) := merge_of_match (RecordStore.mismatch?_eq_none hhash)
  refine ⟨rfl, rfl, hhash, a.fill b, hmerge, rfl, fun hfilled => ?_⟩
  cases hfilled.text

end LinkedQueries.QueryRecord
