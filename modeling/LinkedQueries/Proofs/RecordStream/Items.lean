import LinkedQueries.Proofs.RecordStream.Runs

/-!
# What a record stream gives

A stream gives the runs of the statements before the first event that ends it. If that event is an
error, the last run may be unfinished: the error comes in its place. `items` says this of the events
as a whole; a stream holds one statement ahead and takes the events one by one.

* `owed` is what a stream has still to give at some stage. A statement ahead counts as the first
  event.

Results:
* `items_gather`: gathering a record takes its statements off the events and leaves the items that
  follow it.
* `poll_delivers`: a poll gives the first of what is owed and leaves the others; what was skipped and
  what is still to be skipped stay in balance.
* `afterPolls_owed`: the same for any number of polls, by induction.
* **`answer_eq_items`**: the polls give the items in order and then the end, for any events.
-/

namespace LinkedQueries.RecordStream

/-! ## Events before the end -/

/-- The error with which an event ends the stream. -/
def failure? (failFast : Bool) : ReadEvent → Option StreamError
  | .statement _ => none
  | .malformed message => if failFast then some (.malformed message) else none
  | .failed failure => some (.acquisition failure)

/-- The events before the first one that ends the stream. -/
def before (failFast : Bool) (events : List ReadEvent) : List ReadEvent :=
  events.takeWhile fun e => (failure? failFast e).isNone

/-- The statements before the stream ends. -/
def accepted (failFast : Bool) (events : List ReadEvent) : List Quad :=
  (before failFast events).filterMap ReadEvent.quad?

/-- The number of malformed statements before the stream ends. -/
def skips (failFast : Bool) (events : List ReadEvent) : Nat :=
  (before failFast events).countP ReadEvent.isMalformed

/-- The error that ends the stream, if it does not reach the end of the events. -/
def ending? (failFast : Bool) (events : List ReadEvent) : Option StreamError :=
  events.findSome? (failure? failFast)

/-- What the records of some statements and the error that ends them make of a stream: an error
takes the place of the last record. -/
def finish (quads : List Quad) : Option StreamError → List (Except StreamError ResourceRecord)
  | none => (runs quads).map .ok
  | some e => (runs quads).dropLast.map .ok ++ [.error e]

/-- What a stream gives for some events. -/
def items (failFast : Bool) (events : List ReadEvent) : List (Except StreamError ResourceRecord) :=
  finish (accepted failFast events) (ending? failFast events)

variable {failFast : Bool} {events : List ReadEvent}

theorem accepted_statement (q : Quad) :
    accepted failFast (.statement q :: events) = q :: accepted failFast events := rfl

theorem ending?_statement (q : Quad) :
    ending? failFast (.statement q :: events) = ending? failFast events := rfl

theorem skips_statement (q : Quad) :
    skips failFast (.statement q :: events) = skips failFast events := by
  unfold skips before
  rw [List.takeWhile_cons_of_pos rfl, List.countP_cons_of_neg Bool.false_ne_true]

theorem accepted_failed (failure : Failure) : accepted failFast (.failed failure :: events) = [] :=
  rfl

theorem ending?_failed (failure : Failure) :
    ending? failFast (.failed failure :: events) = some (.acquisition failure) := rfl

theorem accepted_malformed (message : String) :
    accepted true (.malformed message :: events) = [] := rfl

theorem ending?_malformed (message : String) :
    ending? true (.malformed message :: events) = some (.malformed message) := rfl

theorem skips_skipped (message : String) :
    skips false (.malformed message :: events) = skips false events + 1 := by
  unfold skips before
  rw [List.takeWhile_cons_of_pos rfl, List.countP_cons_of_pos rfl]

/-! ## Finishing a run -/

/-- Without an end in sight a run is the record that is left; an error takes its place. -/
theorem finish_run {first : Quad} {more : List Quad} (h : ∀ q ∈ more, continues first q = true) :
    ∀ ending : Option StreamError, finish (first :: more) ending =
      match ending with
      | none => [.ok (record first more)]
      | some e => [.error e]
  | none => by unfold finish; rw [runs_eq_singleton h]; rfl
  | some e => by unfold finish; rw [runs_eq_singleton h]; rfl

/-- A run that is broken off is given whatever comes behind it. -/
theorem finish_append {first q : Quad} {more rest : List Quad}
    (h : ∀ q ∈ more, continues first q = true) (hq : ¬ continues first q = true) :
    ∀ ending : Option StreamError, finish (first :: (more ++ q :: rest)) ending =
      .ok (record first more) :: finish (q :: rest) ending
  | none => by unfold finish; rw [runs_append h hq]; rfl
  | some e => by
    unfold finish
    rw [runs_append h hq, List.dropLast_cons_of_ne_nil (runs_ne_nil q rest)]
    rfl

/-! ## One statement ahead -/

/-- The events that are still to be taken; the statement ahead comes first. -/
def waiting (ahead : Option Quad) (events : List ReadEvent) : List ReadEvent :=
  (ahead.map ReadEvent.statement).toList ++ events

/-- **Gathering** a record gives the first item and leaves the events of the others. The statements
taken so far continue the record. -/
theorem items_gather (failFast : Bool) (first : Quad) : ∀ (events : List ReadEvent)
    (taken : List Quad), (∀ q ∈ taken, continues first q = true) →
    finish (first :: (taken.reverse ++ accepted failFast events)) (ending? failFast events) =
      match (gather failFast first taken events).result with
      | .ok r => .ok r :: items failFast (waiting (gather failFast first taken events).ahead
          (gather failFast first taken events).events)
      | .error e => [.error e]
  | [], taken, h => by
    have hrun := finish_run (fun q hq => h q (List.mem_reverse.mp hq)) none
    simpa [accepted, before, ending?, gather, waiting, items, finish, runs] using hrun
  | .statement q :: events, taken, h => by
    rw [accepted_statement, ending?_statement]
    unfold gather
    by_cases hq : continues first q = true
    · rw [if_pos hq]
      have htaken : ∀ q' ∈ q :: taken, continues first q' = true := by
        intro q' hm
        rcases List.mem_cons.mp hm with rfl | hm
        · exact hq
        · exact h q' hm
      have ih := items_gather failFast first events (q :: taken) htaken
      rw [List.reverse_cons, List.append_assoc] at ih
      exact ih
    · rw [if_neg hq]
      exact finish_append (fun q hq => h q (List.mem_reverse.mp hq)) hq _
  | .failed failure :: events, taken, h => by
    rw [accepted_failed, ending?_failed, List.append_nil]
    exact finish_run (fun q hq => h q (List.mem_reverse.mp hq)) _
  | .malformed message :: events, taken, h => by
    cases failFast with
    | true =>
      rw [accepted_malformed, ending?_malformed, List.append_nil]
      exact finish_run (fun q hq => h q (List.mem_reverse.mp hq)) _
    | false => exact items_gather false first events taken h

/-- **Looking for a statement** skips malformed ones at most. -/
theorem items_advance (failFast : Bool) : ∀ events : List ReadEvent,
    items failFast events =
      match (advance failFast events).result with
      | .ok (some q) => items failFast (.statement q :: (advance failFast events).events)
      | .ok none => []
      | .error e => [.error e]
  | [] => by simp [advance, items, accepted, before, ending?, finish, runs]
  | .statement q :: events => rfl
  | .failed failure :: events => by
    simp [advance, items, accepted_failed, ending?_failed, finish, runs]
  | .malformed message :: events => by
    cases failFast with
    | true => simp [advance, items, accepted_malformed, ending?_malformed, finish, runs]
    | false => exact items_advance false events

/-! ### What is skipped -/

theorem skips_gather (failFast : Bool) (first : Quad) : ∀ (events : List ReadEvent)
    (taken : List Quad), skips failFast events = (gather failFast first taken events).skipped +
      match (gather failFast first taken events).result with
      | .ok _ => skips failFast (waiting (gather failFast first taken events).ahead
          (gather failFast first taken events).events)
      | .error _ => 0
  | [], _ => rfl
  | .statement q :: events, taken => by
    rw [skips_statement]
    unfold gather
    by_cases hq : continues first q = true
    · rw [if_pos hq]
      exact skips_gather failFast first events (q :: taken)
    · rw [if_neg hq]
      exact (skips_statement q).symm.trans (Nat.zero_add _).symm
  | .failed failure :: events, _ => rfl
  | .malformed message :: events, taken => by
    cases failFast with
    | true => rfl
    | false =>
      rw [skips_skipped, skips_gather false first events taken, Nat.add_right_comm]
      rfl

theorem skips_advance (failFast : Bool) : ∀ events : List ReadEvent,
    skips failFast events = (advance failFast events).skipped +
      match (advance failFast events).result with
      | .ok (some _) => skips failFast (advance failFast events).events
      | _ => 0
  | [] => rfl
  | .statement q :: events => (skips_statement q).trans (Nat.zero_add _).symm
  | .failed failure :: events => rfl
  | .malformed message :: events => by
    cases failFast with
    | true => rfl
    | false =>
      rw [skips_skipped, skips_advance false events, Nat.add_right_comm]
      rfl

/-! ## Polls -/

/-- What a stream has still to give, if its source has the events. -/
def owed (failFast : Bool) (events : List ReadEvent) :
    Stage → List (Except StreamError ResourceRecord)
  | .pending => items failFast events
  | .reading ahead rest => items failFast (waiting ahead rest)
  | .done => []

/-- How many malformed statements a stream has still to skip, if its source has the events. -/
def owedSkips (failFast : Bool) (events : List ReadEvent) : Stage → Nat
  | .pending => skips failFast events
  | .reading ahead rest => skips failFast (waiting ahead rest)
  | .done => 0

/-- What is right for a poll of a stream that has skipped some malformed statements and owes some
items and skips: it gives the first item, owes the others, and what it skips is counted. -/
structure Delivers (failFast : Bool) (source : List ReadEvent) (skipped : Nat)
    (due : List (Except StreamError ResourceRecord)) (dueSkips : Nat)
    (r : Stream × Option (Except StreamError ResourceRecord)) : Prop where
  answer : r.2 = due.head?
  owed : owed failFast source r.1.stage = due.tail
  counted : r.1.malformed + owedSkips failFast source r.1.stage = skipped + dueSkips
  ended : r.2 = none → r.1.stage = .done

theorem emit_delivers (failFast : Bool) (source : List ReadEvent) (s : Stream) (first : Quad)
    (events : List ReadEvent) :
    Delivers failFast source s.malformed (items failFast (.statement first :: events))
      (skips failFast (.statement first :: events)) (s.emit failFast first events) := by
  have hitems := items_gather failFast first events [] fun q h => absurd h List.not_mem_nil
  have hskips := skips_gather failFast first events []
  rw [← skips_statement first] at hskips
  rw [List.reverse_nil, List.nil_append, ← accepted_statement,
    ← @ending?_statement failFast _ first] at hitems
  rw [show items failFast (.statement first :: events) = _ from hitems, hskips]
  unfold Stream.emit
  dsimp only
  cases hr : (gather failFast first [] events).result with
  | ok r => exact ⟨rfl, rfl, Nat.add_assoc _ _ _, fun h => absurd h (by simp)⟩
  | error e => exact ⟨rfl, rfl, Nat.add_assoc _ _ _, fun h => absurd h (by simp)⟩

theorem pollReading_delivers (source : List ReadEvent) (s : Stream) (ahead : Option Quad)
    (events : List ReadEvent) :
    Delivers failFast source s.malformed (items failFast (waiting ahead events))
      (skips failFast (waiting ahead events)) (s.pollReading failFast ahead events) := by
  unfold Stream.pollReading
  cases ahead with
  | some first => exact emit_delivers failFast source s first events
  | none =>
    rw [show waiting none events = events from rfl, items_advance, skips_advance]
    dsimp only
    cases hr : (advance failFast events).result with
    | error e => exact ⟨rfl, rfl, Nat.add_assoc _ _ _, fun h => absurd h (by simp)⟩
    | ok next =>
      cases next with
      | none => exact ⟨rfl, rfl, Nat.add_assoc _ _ _, fun _ => rfl⟩
      | some first =>
        obtain ⟨h₁, h₂, h₃, h₄⟩ := emit_delivers failFast source
          { s with malformed := s.malformed + (advance failFast events).skipped } first
          (advance failFast events).events
        rw [skips_statement, Nat.add_assoc] at h₃
        exact ⟨h₁, h₂, h₃, h₄⟩

section Polls

variable {read : StatementReader} {options : StreamOptions} {input : Input}

/-- **A poll** of a stream over an opened source gives the first of what is owed. -/
theorem poll_delivers (read : StatementReader) (input : Input)
    (hbase : baseFault? options = none) (s : Stream) :
    Delivers options.failFast (read options.format options.base input) s.malformed
      (owed options.failFast (read options.format options.base input) s.stage)
      (owedSkips options.failFast (read options.format options.base input) s.stage)
      (poll read options (.ok input) s) := by
  unfold poll
  cases hs : s.stage with
  | done => exact ⟨rfl, by rw [hs]; rfl, by rw [hs], fun _ => hs⟩
  | reading ahead events => exact pollReading_delivers _ s ahead events
  | pending =>
    rw [hbase]
    exact pollReading_delivers _ { s with opened := s.opened + 1 } none _

/-- The stream after some polls. -/
def afterPolls (read : StatementReader) (options : StreamOptions) (source : Except Failure Input) :
    Nat → Stream
  | 0 => Stream.start
  | n + 1 => (poll read options source (afterPolls read options source n)).1

/-- The answer of the poll of some number, counted from 0. -/
def answer (read : StatementReader) (options : StreamOptions) (source : Except Failure Input)
    (n : Nat) : Option (Except StreamError ResourceRecord) :=
  (poll read options source (afterPolls read options source n)).2

/-- **The whole run.** After some polls the items behind those given are owed, and what has been
skipped and what has to be are as many as the events say. -/
theorem afterPolls_owed (hbase : baseFault? options = none) : ∀ n : Nat,
    let events := read options.format options.base input
    let s := afterPolls read options (.ok input) n
    owed options.failFast events s.stage = (items options.failFast events).drop n ∧
    s.malformed + owedSkips options.failFast events s.stage = skips options.failFast events
  | 0 => ⟨rfl, Nat.zero_add _⟩
  | n + 1 => by
    obtain ⟨ho, hs⟩ := afterPolls_owed hbase n
    have hd := poll_delivers read input hbase
      (afterPolls read options (.ok input) n)
    refine ⟨?_, hd.counted.trans hs⟩
    rw [← List.tail_drop, ← ho]
    exact hd.owed

theorem answer_eq_getElem? (hbase : baseFault? options = none) (n : Nat) :
    answer read options (.ok input) n =
      (items options.failFast (read options.format options.base input))[n]? := by
  unfold answer
  rw [(poll_delivers read input hbase _).answer, (afterPolls_owed hbase n).1, List.head?_drop]

/-- Once a stream has given its end, all that was malformed before has been counted. -/
theorem malformed_eq_skips (hbase : baseFault? options = none) {n : Nat}
    (h : answer read options (.ok input) n = none) :
    (afterPolls read options (.ok input) (n + 1)).malformed =
      skips options.failFast (read options.format options.base input) := by
  have hdone := (poll_delivers read input hbase
    (afterPolls read options (.ok input) n)).ended h
  rw [← (afterPolls_owed hbase (n + 1)).2]
  show _ = _ + owedSkips _ _ (poll read options (.ok input) _).1.stage
  rw [hdone]
  rfl

/-- A record that is given is one of the runs. -/
theorem mem_runs_of_answer (hbase : baseFault? options = none) {n : Nat} {r : ResourceRecord}
    (h : answer read options (.ok input) n = some (.ok r)) :
    r ∈ runs (accepted options.failFast (read options.format options.base input)) := by
  rw [answer_eq_getElem? hbase] at h
  have hm := List.mem_of_getElem? h
  unfold items at hm
  cases hend : ending? options.failFast (read options.format options.base input) with
  | none =>
    rw [hend] at hm
    obtain ⟨r', hr', he⟩ := List.mem_map.mp hm
    exact Except.ok.inj he ▸ hr'
  | some e =>
    rw [hend] at hm
    rcases List.mem_append.mp hm with hm | hm
    · obtain ⟨r', hr', he⟩ := List.mem_map.mp hm
      exact Except.ok.inj he ▸ List.dropLast_subset _ hr'
    · exact absurd (List.mem_singleton.mp hm) (by simp)

/-- Unless the stream fails fast, malformed statements might as well be left out. -/
theorem without_malformed : ∀ events : List ReadEvent,
    accepted false (events.filter (!·.isMalformed)) = accepted false events ∧
    ending? false (events.filter (!·.isMalformed)) = ending? false events
  | [] => ⟨rfl, rfl⟩
  | .statement q :: events => by
    obtain ⟨ha, he⟩ := without_malformed events
    exact ⟨congrArg (q :: ·) ha, he⟩
  | .failed failure :: events => ⟨rfl, rfl⟩
  | .malformed message :: events => without_malformed events

/-- **What a stream gives**, poll by poll, if its source has been opened. The statements before the
event that ends it have unique longest runs. If the events come to their end, the stream gives all
of them and then the end; if it is ended by an error, that error takes the place of the last one. A
record given is not empty and is about one resource. Malformed statements are skipped unless the
stream fails fast, change nothing else, and have all been counted when the stream gives its end. -/
theorem answer_eq_items (read : StatementReader) (options : StreamOptions) (input : Input)
    (hbase : baseFault? options = none) :
    let events := read options.format options.base input
    let quads := accepted options.failFast events
    let answers := answer read options (.ok input)
    (∀ records, AreRuns quads records ↔ records = runs quads) ∧
    (ending? options.failFast events = none → ∀ n, answers n = ((runs quads).map .ok)[n]?) ∧
    (∀ e, ending? options.failFast events = some e →
      ∀ n, answers n = ((runs quads).dropLast.map .ok ++ [.error e])[n]?) ∧
    (∀ n r, answers n = some (.ok r) →
      r.triples ≠ [] ∧ ∀ q ∈ r.quads, q.graph = r.graph ∧ resource q = r.resource) ∧
    (options.failFast = false →
      accepted false (events.filter (!·.isMalformed)) = quads ∧
      ending? false (events.filter (!·.isMalformed)) = ending? options.failFast events) ∧
    (∀ n, answers n = none → (afterPolls read options (.ok input) (n + 1)).malformed =
      skips options.failFast events) := by
  intro events quads answers
  have hitems : ∀ n, answers n = (finish quads (ending? options.failFast events))[n]? :=
    answer_eq_getElem? hbase
  refine ⟨fun records => areRuns_iff, fun hend n => ?_, fun e hend n => ?_, fun n r h => ?_,
    fun hff => ?_, fun n h => malformed_eq_skips hbase h⟩
  · rw [hitems, hend]
    rfl
  · rw [hitems, hend]
    rfl
  · have hm := mem_runs_of_answer hbase h
    have hruns := areRuns_runs quads
    exact ⟨hruns.nonempty r hm, hruns.about r hm⟩
  · unfold quads
    rw [hff]
    exact without_malformed events

end Polls

/-- A malformed statement does not break a run off; a failure takes the place of the last run. -/
theorem answer_eq_items_failed :
    let t (subject object : String) : Triple := ⟨.iri subject, "p", .iri object⟩
    let read : StatementReader := fun _ _ _ =>
      [.statement ((t "a" "x").inGraph .default), .malformed "faulty",
        .statement ((t "a" "y").inGraph .default), .statement ((t "b" "x").inGraph .default),
        .failed .missingFile]
    let answers := answer read ⟨.triG, none, false⟩ (.ok ⟨[], none⟩)
    answers 0 = some (.ok ⟨.iri "a", .default, [t "a" "x", t "a" "y"]⟩) ∧
    answers 1 = some (.error (.acquisition .missingFile)) ∧ answers 2 = none := by
  intro t read answers
  obtain ⟨-, -, herror, -⟩ := answer_eq_items read ⟨.triG, none, false⟩ ⟨[], none⟩ rfl
  have hruns : runs (accepted false (read .triG none ⟨[], none⟩)) =
      [⟨.iri "a", .default, [t "a" "x", t "a" "y"]⟩, ⟨.iri "b", .default, [t "b" "x"]⟩] := by
    have hmore : ∀ q ∈ [(t "a" "y").inGraph .default],
        continues ((t "a" "x").inGraph .default) q = true := by decide
    exact (runs_append hmore (by decide)).trans
      (congrArg _ (runs_eq_singleton fun q h => absurd h List.not_mem_nil))
  have hanswers := herror (.acquisition .missingFile) rfl
  rw [hruns] at hanswers
  exact ⟨hanswers 0, hanswers 1, hanswers 2⟩

end LinkedQueries.RecordStream
