import LinkedQueries.Proofs.Record.Consistency
import LinkedQueries.Sparql.Grammar.Queries

/-!
# What analyses find and what stays

An analysis parses the text of a record and keeps what comes of it: the features of the query, or
the message of the parser. A record only grows, so a finding stays when a later analysis comes to
the other one, after the text or the base IRI has changed. What is known about a record is therefore
told by all that the parser has said about it so far, and not by the last of it alone.

* `Step`: a record gets another text, or is analysed under a base IRI.
* `answers`: what the parser says in the course of some steps, without a look at the findings.

Results:
* `analyze_spec`: an analysis replaces the finding that the answer of the parser is about.
* `afterSteps_findings`: each finding is that of the last answer about it, by induction on steps.
* **`analyze_findings`**: what a record is found to be, directly after an analysis at any time.
* `features_beside_message`: a record with features and a message at once.
-/

namespace LinkedQueries.QueryRecord

/-- What a parser says about a text: the query, or a message if there is none. -/
abbrev Answer : Type := Except String Sparql.Query

namespace Answer

/-- The features of the query, if the text is one. -/
def features? (answer : Answer) : Option Features :=
  answer.toOption.map Sparql.Query.features

/-- The message, if the text is no query. -/
def message? : Answer → Option String
  | .ok _ => none
  | .error message => some message

end Answer

/-- A step in the life of a record. -/
inductive Step where
  | setQuery (text : String)
  | analyze (base : Option String)

section Steps

variable (parse : Option String → String → Answer)

/-- The record after a step. -/
def Step.run (r : QueryRecord) : Step → QueryRecord
  | setQuery text => r.withQuery text
  | analyze base => (r.analyze (parse base)).1

/-- The record after some steps. -/
def afterSteps (r : QueryRecord) (steps : List Step) : QueryRecord :=
  steps.foldl (Step.run parse) r

/-- What the parser says in the course of some steps, given the text at the beginning. -/
def answers : Option String → List Step → List Answer
  | _, [] => []
  | _, .setQuery text :: steps => answers (some text) steps
  | none, .analyze _ :: steps => answers none steps
  | some text, .analyze base :: steps => parse base text :: answers (some text) steps

/-- The last of some answers that says something of a kind, and what it says. -/
def last? {α : Type} (kind : Answer → Option α) (said : List Answer) : Option α :=
  (said.filterMap kind).getLast?

end Steps

/-! ## Answers -/

section Answers

variable {α : Type} {kind : Answer → Option α} {said : List Answer}

theorem last?_cons (answer : Answer) :
    last? kind (answer :: said) = (last? kind said).or (kind answer) := by
  unfold last?
  cases hkind : kind answer with
  | none => rw [List.filterMap_cons_none hkind, Option.or_none]
  | some x =>
    rw [List.filterMap_cons_some hkind, List.getLast?_cons]
    cases (said.filterMap kind).getLast? <;> rfl

theorem last?_eq_none_iff : last? kind said = none ↔ ∀ answer ∈ said, kind answer = none := by
  rw [last?, List.getLast?_eq_none_iff, List.filterMap_eq_nil_iff]

/-- There is no last message where every text was a query. -/
theorem last?_message?_eq_none_iff :
    last? Answer.message? said = none ↔ ∀ answer ∈ said, answer.isOk = true := by
  rw [last?_eq_none_iff]
  refine forall₂_congr fun answer _ => ?_
  cases answer <;> simp [Answer.message?, Except.isOk, Except.toBool]

/-- There are no last features where no text was a query. -/
theorem last?_features?_eq_none_iff :
    last? Answer.features? said = none ↔ ∀ answer ∈ said, answer.isOk = false := by
  rw [last?_eq_none_iff]
  refine forall₂_congr fun answer _ => ?_
  cases answer <;> simp [Answer.features?, Except.toOption, Except.isOk, Except.toBool]

end Answers

/-! ## Findings -/

section Analysis

variable {parse : String → Answer} {r : QueryRecord} {text : String}

theorem analyze_of_no_text (h : r.text = none) : r.analyze parse = (r, false) := by
  unfold analyze
  rw [h]

theorem analyze_of_ok {query : Sparql.Query} (h : r.text = some text)
    (hparse : parse text = .ok query) :
    r.analyze parse = (r.withFeatures query.features, true) := by
  unfold analyze
  rw [h]
  dsimp only
  rw [hparse, ← h]
  rfl

theorem analyze_of_error {message : String} (h : r.text = some text)
    (hparse : parse text = .error message) :
    r.analyze parse = (r.withParseError (some message), false) := by
  unfold analyze
  rw [h]
  dsimp only
  rw [hparse, ← h]
  rfl

/-- **An analysis** of a text replaces the finding that the answer is about and leaves the other. -/
theorem analyze_spec (h : r.text = some text) :
    (r.analyze parse).1.features = (parse text).features?.or r.features ∧
    (r.analyze parse).1.parseError = (parse text).message?.or r.parseError := by
  cases hparse : parse text with
  | ok query =>
    rw [analyze_of_ok h hparse]
    exact ⟨rfl, rfl⟩
  | error message =>
    rw [analyze_of_error h hparse]
    exact ⟨rfl, rfl⟩

end Analysis

section History

variable {parse : Option String → String → Answer}

theorem afterSteps_analyze (r : QueryRecord) (base : Option String) (steps : List Step) :
    afterSteps parse r (.analyze base :: steps) =
      afterSteps parse (r.analyze (parse base)).1 steps := rfl

/-- **The findings of a record** after some steps are those of the last answers about them, and
what was found at the beginning if there are none. -/
theorem afterSteps_findings : ∀ (steps : List Step) (r : QueryRecord),
    (afterSteps parse r steps).features =
      (last? Answer.features? (answers parse r.text steps)).or r.features ∧
    (afterSteps parse r steps).parseError =
      (last? Answer.message? (answers parse r.text steps)).or r.parseError
  | [], r => ⟨rfl, rfl⟩
  | .setQuery text :: steps, r => afterSteps_findings steps (r.withQuery text)
  | .analyze base :: steps, r => by
    rw [afterSteps_analyze]
    cases htext : r.text with
    | none =>
      have ih := afterSteps_findings steps r
      rw [htext] at ih
      rwa [analyze_of_no_text htext]
    | some text =>
      obtain ⟨hfeatures, hmessage⟩ := afterSteps_findings steps (r.analyze (parse base)).1
      rw [(Update.analyze_frame _ r).1, htext] at hfeatures hmessage
      rw [hfeatures, hmessage, (analyze_spec htext).1, (analyze_spec htext).2, answers,
        last?_cons, last?_cons, Option.or_assoc, Option.or_assoc]
      exact ⟨rfl, rfl⟩

/-- **What a record is found to be** directly after an analysis, whatever has been done with it
before, if it had no findings at the beginning. An analysis that succeeds leaves the features of the
text under that base IRI; a message is there only if an analysis failed before. An analysis that
fails on a text leaves the message about it; the features are those that the last successful
analysis has found, so there are none if there was none. A record without text stays as it is. -/
theorem analyze_findings {r : QueryRecord} (hfeatures : r.features = none)
    (hmessage : r.parseError = none) (earlier : List Step) (base : Option String) :
    let said := answers parse r.text earlier
    let before := afterSteps parse r earlier
    let after := before.analyze (parse base)
    (after.2 = true → ∃ text query, before.text = some text ∧ parse base text = .ok query ∧
      after.1 = before.withFeatures query.features ∧
      (∀ message, after.1.parseError = some message →
        last? Answer.message? said = some message) ∧
      ((∀ answer ∈ said, answer.isOk = true) → after.1.parseError = none)) ∧
    (∀ text, before.text = some text → after.2 = false →
      ∃ message, parse base text = .error message ∧
      after.1 = before.withParseError (some message) ∧
      after.1.features = last? Answer.features? said ∧
      (after.1.features = none ↔ ∀ answer ∈ said, answer.isOk = false)) ∧
    (before.text = none → after = (before, false)) := by
  intro said before after
  obtain ⟨hfound, hsaid⟩ : before.features = last? Answer.features? said ∧
      before.parseError = last? Answer.message? said := by
    have hfindings := @afterSteps_findings parse earlier r
    rwa [hfeatures, hmessage, Option.or_none, Option.or_none] at hfindings
  cases htext : before.text with
  | none =>
    have hafter : after = (before, false) := analyze_of_no_text htext
    rw [hafter]
    exact ⟨nofun, nofun, fun _ => rfl⟩
  | some text =>
    cases hparse : parse base text with
    | ok query =>
      have hafter : after = (before.withFeatures query.features, true) :=
        analyze_of_ok htext hparse
      have hkept : after.1.parseError = last? Answer.message? said := by rw [hafter, ← hsaid]; rfl
      refine ⟨fun _ => ⟨text, query, rfl, hparse, by rw [hafter], fun message h => ?_,
        fun hall => ?_⟩, fun _ _ hfails => ?_, nofun⟩
      · rw [← hkept, h]
      · rw [hkept]
        exact last?_message?_eq_none_iff.mpr hall
      · rw [hafter] at hfails
        cases hfails
    | error message =>
      have hafter : after = (before.withParseError (some message), false) :=
        analyze_of_error htext hparse
      have hkept : after.1.features = last? Answer.features? said := by rw [hafter, ← hfound]; rfl
      refine ⟨fun hsucceeds => ?_, fun text' htext' _ => ?_, nofun⟩
      · rw [hafter] at hsucceeds
        cases hsucceeds
      · obtain rfl := Option.some.inj htext'
        refine ⟨message, hparse, by rw [hafter], hkept, ?_⟩
        rw [hkept]
        exact last?_features?_eq_none_iff

/-- A query is analysed under a base IRI that is none, and then without one. -/
theorem analyze_findings_without_base :
    let parse := Sparql.Query.reader 0
    let before := afterSteps parse empty [.setQuery "ASK \x7b\x7d", .analyze (some "base")]
    (empty.features = none ∧ empty.parseError = none) ∧
    before.parseError =
      some "Invalid SPARQL base IRI provided: No scheme found in an absolute IRI" ∧
    (before.analyze (parse none)).2 = true ∧
    ∃ query, parse none "ASK \x7b\x7d" = .ok query ∧
      (before.analyze (parse none)).1 = before.withFeatures query.features := by
  intro parse before
  have hsucceeds : (before.analyze (parse none)).2 = true := by decide +kernel
  obtain ⟨hok, -⟩ := @analyze_findings parse empty rfl rfl
    [.setQuery "ASK \x7b\x7d", .analyze (some "base")] none
  obtain ⟨text, query, htext, hparse, hafter, -⟩ := hok hsucceeds
  obtain rfl : "ASK \x7b\x7d" = text := Option.some.inj htext
  exact ⟨⟨rfl, rfl⟩, by decide +kernel, hsucceeds, query, hparse, hafter⟩

/-- **A record with features and a message at once**: its text was a query, then another one that is
none. The features of the first stay when the second is analysed, and so does the message about the
second when the first comes back. -/
theorem features_beside_message :
    let parse := Sparql.Query.reader 0
    let there := [.setQuery "ASK \x7b\x7d", .analyze none, .setQuery "ASK"]
    let back := there ++ [.analyze none, .setQuery "ASK \x7b\x7d"]
    let failed := (afterSteps parse empty there).analyze (parse none)
    let succeeded := (afterSteps parse empty back).analyze (parse none)
    (failed.2 = false ∧ failed.1.text = some "ASK" ∧
      failed.1.parseError = some "error at " ∧ failed.1.features = some ⟨[]⟩) ∧
    (succeeded.2 = true ∧ succeeded.1.text = some "ASK \x7b\x7d" ∧
      succeeded.1.features = some ⟨[]⟩ ∧ succeeded.1.parseError = some "error at ") := by
  decide +kernel

end History

end LinkedQueries.QueryRecord
