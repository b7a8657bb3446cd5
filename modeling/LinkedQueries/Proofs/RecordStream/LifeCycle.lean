import LinkedQueries.Proofs.RecordStream.Items

/-!
# The life of a record stream

A stream opens its source at its first poll, gives records, then at most one error, and then nothing
but its end. The reader it has been given is let go when the error or the end is given, or when the
stream is dropped before.

* `Step` lists all that a poll can do.
* `Balanced` says of a stream that its source has been opened at most once, and that a reader is
  either held or has been let go.
* `Told` says of the answers so far that they are records, and then an error or nothing, and then
  ends.

Results:
* `poll_step`: a poll does one of these things.
* `Step.balanced`, `Balanced.drop`: polling and dropping keep the balance.
* `answers_told`: any number of polls, by induction.
* **`parseAfter_lifeCycle`**: all of it, for a stream that is dropped after any number of polls.
-/

namespace LinkedQueries.RecordStream

/-- What a poll answers: a record or an error, or the end. -/
abbrev Answer := Option (Except StreamError ResourceRecord)

/-! ## One poll -/

section Step

variable {options : StreamOptions} {source : Except Failure Input} {s : Stream}

/-- The stream has a reader: a new one if it was not polled before, else the one it had. The number
says how often it has opened its source then. -/
inductive Reads (options : StreamOptions) (source : Except Failure Input) (s : Stream) :
    Nat → Prop where
  | opens (input : Input) (hbase : baseFault? options = none) (hsource : source = .ok input)
      (hstage : s.stage = .pending) : Reads options source s (s.opened + 1)
  | goesOn (ahead : Option Quad) (events : List ReadEvent)
      (hstage : s.stage = .reading ahead events) : Reads options source s s.opened

/-- What a poll can do to a stream, and answer. -/
inductive Step (options : StreamOptions) (source : Except Failure Input) (s : Stream) :
    Stream × Answer → Prop where
  | ended (hstage : s.stage = .done) : Step options source s (s, none)
  | badBase (e : StreamError) (hbase : baseFault? options = some e) (hstage : s.stage = .pending) :
    Step options source s ({ s with stage := .done }, some (.error e))
  | notOpened (failure : Failure) (hbase : baseFault? options = none)
      (hsource : source = .error failure) (hstage : s.stage = .pending) :
    Step options source s
      ({ s with stage := .done, opened := s.opened + 1 }, some (.error (.acquisition failure)))
  | gives (r : ResourceRecord) (ahead : Option Quad) (events : List ReadEvent) (malformed : Nat)
      {opened : Nat} (hreads : Reads options source s opened) :
    Step options source s (⟨.reading ahead events, malformed, opened, s.dropped⟩, some (.ok r))
  | stops (answer : Answer) (hanswer : ∀ r, answer ≠ some (.ok r)) (malformed : Nat) {opened : Nat}
      (hreads : Reads options source s opened) :
    Step options source s (⟨.done, malformed, opened, s.dropped + 1⟩, answer)

theorem emit_step {o : Nat} (h : Reads options source s o) (failFast : Bool) (malformed : Nat)
    {stage : Stage} (first : Quad) (events : List ReadEvent) :
    Step options source s
      ((⟨stage, malformed, o, s.dropped⟩ : Stream).emit failFast first events) := by
  unfold Stream.emit
  dsimp only
  cases (gather failFast first [] events).result with
  | ok r => exact .gives r _ _ _ h
  | error e => exact .stops _ (by simp) _ h

theorem pollReading_step {o : Nat} (h : Reads options source s o) (failFast : Bool)
    (malformed : Nat) {stage : Stage} : ∀ (ahead : Option Quad) (events : List ReadEvent),
    Step options source s
      ((⟨stage, malformed, o, s.dropped⟩ : Stream).pollReading failFast ahead events)
  | some first, events => emit_step h failFast malformed first events
  | none, events => by
    unfold Stream.pollReading
    dsimp only
    cases (advance failFast events).result with
    | error e => exact .stops _ (by simp) _ h
    | ok next =>
      cases next with
      | none => exact .stops _ (by simp) _ h
      | some first => exact emit_step h failFast _ first _

/-- **One poll.** -/
theorem poll_step (read : StatementReader) (options : StreamOptions)
    (source : Except Failure Input) (s : Stream) :
    Step options source s (poll read options source s) := by
  unfold poll
  cases hstage : s.stage with
  | done => exact .ended hstage
  | reading ahead events =>
    exact pollReading_step (.goesOn ahead events hstage) options.failFast s.malformed ahead events
  | pending =>
    cases hbase : baseFault? options with
    | some e => exact .badBase e hbase hstage
    | none =>
      cases hsource : source with
      | error failure => exact .notOpened failure hbase rfl hstage
      | ok input =>
        exact pollReading_step (.opens input hbase rfl hstage) options.failFast s.malformed none _

theorem Step.not_pending {r : Stream × Answer} (h : Step options source s r) :
    r.1.stage ≠ .pending := by
  cases h with
  | ended hstage => simp [hstage]
  | _ => simp

/-- A stream gives something else than a record when it comes to its end, and only then. -/
theorem Step.done_iff {r : Stream × Answer} (h : Step options source s r) :
    r.1.stage = .done ↔ ∀ record, r.2 ≠ some (.ok record) := by
  cases h with
  | ended hstage => simp [hstage]
  | badBase => simp
  | notOpened => simp
  | gives => simp
  | stops answer hanswer => simpa using hanswer

/-- A stream that is done gives its end and stays as it is. -/
theorem Step.eq_of_done {r : Stream × Answer} (h : Step options source s r)
    (hdone : s.stage = .done) : r = (s, none) := by
  cases h with
  | ended => rfl
  | badBase e hbase hstage => cases hdone.symm.trans hstage
  | notOpened failure hbase hsource hstage => cases hdone.symm.trans hstage
  | gives r ahead events malformed hreads => cases hreads <;> simp_all
  | stops answer hanswer malformed hreads => cases hreads <;> simp_all

end Step

/-! ## The reader -/

/-- The readers that a stream holds. -/
def Stage.held : Stage → Nat
  | .reading _ _ => 1
  | _ => 0

/-- A stream has opened its source once at most, and not before its first poll or under a base IRI
that is at fault. A reader that it was given is held or has been let go. -/
structure Balanced (options : StreamOptions) (source : Except Failure Input) (s : Stream) :
    Prop where
  opened_le : s.opened ≤ 1
  pending : s.stage = .pending → s.opened = 0
  badBase : baseFault? options ≠ none → s.opened = 0
  reader : s.dropped + s.stage.held = if source.isOk then s.opened else 0

section Balance

variable {options : StreamOptions} {source : Except Failure Input} {s : Stream}

theorem Balanced.start (options : StreamOptions) (source : Except Failure Input) :
    Balanced options source Stream.start :=
  ⟨Nat.zero_le 1, fun _ => rfl, fun _ => rfl, by simp [Stream.start, Stage.held]⟩

theorem Reads.balanced {opened : Nat} (hs : Balanced options source s)
    (h : Reads options source s opened) :
    opened ≤ 1 ∧ (baseFault? options ≠ none → opened = 0) ∧
      s.dropped + 1 = if source.isOk then opened else 0 := by
  have hreader := hs.reader
  cases h with
  | opens input hbase hsource hstage =>
    rw [hstage, hs.pending hstage, ite_self] at hreader
    rw [hs.pending hstage, hsource, (Nat.add_eq_zero_iff.mp hreader).1]
    exact ⟨Nat.le_refl 1, fun h => absurd hbase h, rfl⟩
  | goesOn ahead events hstage =>
    rw [hstage] at hreader
    exact ⟨hs.opened_le, hs.badBase, hreader⟩

theorem Step.balanced {r : Stream × Answer} (hs : Balanced options source s)
    (h : Step options source s r) : Balanced options source r.1 := by
  cases h with
  | ended => exact hs
  | badBase e hbase hstage =>
    have hreader := hs.reader
    rw [hstage] at hreader
    exact ⟨hs.opened_le, fun h => absurd h (by simp), hs.badBase, hreader⟩
  | notOpened failure hbase hsource hstage =>
    have hreader := hs.reader
    rw [hstage, hs.pending hstage, ite_self] at hreader
    refine ⟨?_, fun h => absurd h (by simp), fun h => absurd hbase h, ?_⟩
    · exact Nat.le_of_eq (congrArg (· + 1) (hs.pending hstage))
    · rw [hsource]
      exact hreader
  | gives r ahead events malformed hreads =>
    obtain ⟨hle, hbad, hreader⟩ := hreads.balanced hs
    exact ⟨hle, fun h => absurd h (by simp), hbad, hreader⟩
  | stops answer hanswer malformed hreads =>
    obtain ⟨hle, hbad, hreader⟩ := hreads.balanced hs
    exact ⟨hle, fun h => absurd h (by simp), hbad, hreader⟩

theorem Balanced.drop (hs : Balanced options source s) : Balanced options source s.drop := by
  have hreader := hs.reader
  unfold Stream.drop
  cases hstage : s.stage with
  | reading ahead events =>
    rw [hstage] at hreader
    exact ⟨hs.opened_le, fun h => absurd h (by simp [Stream.close]), hs.badBase, hreader⟩
  | pending =>
    rw [hstage] at hreader
    exact ⟨hs.opened_le, fun h => absurd h (by simp), hs.badBase, hreader⟩
  | done =>
    rw [hstage] at hreader
    exact ⟨hs.opened_le, fun h => absurd h (by simp), hs.badBase, hreader⟩

theorem drop_stage (s : Stream) : s.drop.stage = .done := by
  unfold Stream.drop
  cases s.stage <;> rfl

end Balance

/-! ## The answers -/

/-- The answers of a stream that has given some records, then an error if there was one, and then
its end some times. -/
def telling (records : List ResourceRecord) (error : Option StreamError) (ends : Nat) :
    List Answer :=
  records.map (fun r => some (.ok r)) ++ (error.map fun e => some (.error e)).toList ++
    List.replicate ends none

/-- What the answers of a stream are when it is at some stage: only when it is done there has been
an error or an end. -/
inductive Told : Stage → List Answer → Prop where
  | going (records : List ResourceRecord) {stage : Stage} (h : stage ≠ .done) :
    Told stage (telling records none 0)
  | failed (records : List ResourceRecord) (e : StreamError) (ends : Nat) :
    Told .done (telling records (some e) ends)
  | ended (records : List ResourceRecord) (ends : Nat) :
    Told .done (telling records none (ends + 1))

theorem Told.eq_telling {stage : Stage} {answers : List Answer} (h : Told stage answers) :
    ∃ records error ends, answers = telling records error ends := by
  cases h with
  | going records h => exact ⟨records, none, 0, rfl⟩
  | failed records e ends => exact ⟨records, some e, ends, rfl⟩
  | ended records ends => exact ⟨records, none, ends + 1, rfl⟩

/-- An answer that is no record is the last thing before the end. -/
theorem Told.done_of_mem {stage : Stage} {answers : List Answer} {a : Answer}
    (h : Told stage answers) (ha : a ∈ answers) (hne : ∀ r, a ≠ some (.ok r)) :
    stage = .done := by
  cases h with
  | going records h =>
    unfold telling at ha
    simp only [Option.map_none, Option.toList_none, List.append_nil, List.replicate_zero,
      List.mem_map] at ha
    obtain ⟨r, -, rfl⟩ := ha
    exact absurd rfl (hne r)
  | failed records e ends => rfl
  | ended records ends => rfl

section Answers

variable {options : StreamOptions} {source : Except Failure Input} {s : Stream}

theorem telling_succ (records : List ResourceRecord) (error : Option StreamError) (ends : Nat) :
    telling records error ends ++ [none] = telling records error (ends + 1) := by
  unfold telling
  rw [List.replicate_succ', List.append_assoc]

/-- A poll goes on telling. -/
theorem Step.told {r : Stream × Answer} {answers : List Answer} (h : Told s.stage answers)
    (hr : Step options source s r) : Told r.1.stage (answers ++ [r.2]) := by
  generalize hstage : s.stage = stage at h
  cases h with
  | failed records e ends =>
    obtain rfl := hr.eq_of_done hstage
    rw [telling_succ, hstage]
    exact .failed records e (ends + 1)
  | ended records ends =>
    obtain rfl := hr.eq_of_done hstage
    rw [telling_succ, hstage]
    exact .ended records (ends + 1)
  | going records hgoing =>
    have hdone := hr.done_iff
    obtain ⟨s', answer⟩ := r
    rcases answer with _ | e | record
    · have htelling : telling records none 0 ++ [none] = telling records none 1 :=
        telling_succ records none 0
      rw [hdone.mpr fun _ h => nomatch h]
      exact htelling ▸ .ended records 0
    · rw [hdone.mpr fun _ h => nomatch h]
      have htelling : telling records none 0 ++ [some (.error e)] = telling records (some e) 0 := by
        simp [telling]
      exact htelling ▸ .failed records e 0
    · have htelling : telling records none 0 ++ [some (.ok record)] =
          telling (records ++ [record]) none 0 := by simp [telling]
      exact htelling ▸ .going _ fun h => hdone.mp h record rfl

end Answers

/-! ## Any number of polls -/

section Polls

variable (read : StatementReader) (options : StreamOptions) (source : Except Failure Input)

/-- The answers of some polls. -/
def answers (n : Nat) : List Answer :=
  (List.range n).map (answer read options source)

theorem answers_succ (n : Nat) :
    answers read options source (n + 1) =
      answers read options source n ++ [answer read options source n] := by
  unfold answers
  rw [List.range_succ, List.map_append]
  rfl

variable {read options source} in
theorem eq_answer_of_getElem? {polls n : Nat} {a : Answer}
    (h : (answers read options source polls)[n]? = some a) : a = answer read options source n := by
  unfold answers at h
  rw [List.getElem?_map, Option.map_eq_some_iff] at h
  obtain ⟨m, hm, rfl⟩ := h
  obtain ⟨_, hm⟩ := List.getElem?_eq_some_iff.mp hm
  rw [← hm, List.getElem_range]

theorem afterPolls_step (n : Nat) :
    Step options source (afterPolls read options source n)
      (afterPolls read options source (n + 1), answer read options source n) :=
  poll_step read options source _

theorem afterPolls_balanced : ∀ n, Balanced options source (afterPolls read options source n)
  | 0 => .start options source
  | n + 1 => (afterPolls_step read options source n).balanced (afterPolls_balanced n)

theorem answers_told : ∀ n,
    Told (afterPolls read options source n).stage (answers read options source n)
  | 0 => .going [] (by simp [afterPolls, Stream.start])
  | n + 1 => by
    rw [answers_succ]
    exact (afterPolls_step read options source n).told (answers_told n)

/-- Under a base IRI that is at fault the first answer is its fault. -/
theorem answer_badBase {e : StreamError} (h : baseFault? options = some e) :
    answer read options source 0 = some (.error e) := by
  unfold answer poll
  simp [afterPolls, Stream.start, h]

theorem answer_notOpened {failure : Failure} (h : baseFault? options = none) :
    answer read options (.error failure) 0 = some (.error (.acquisition failure)) := by
  unfold answer poll
  simp [afterPolls, Stream.start, h]

/-- A stream that gives an error first gives nothing but its end afterwards. -/
theorem answers_of_error {e : StreamError} (h : answer read options source 0 = some (.error e)) :
    ∀ n, (afterPolls read options source (n + 1)).stage = .done ∧
      answers read options source (n + 1) = telling [] (some e) n
  | 0 => by
    refine ⟨(afterPolls_step read options source 0).done_iff.mpr ?_, ?_⟩
    · simp [h]
    · rw [answers_succ, h]
      rfl
  | n + 1 => by
    obtain ⟨hdone, htelling⟩ := answers_of_error h n
    obtain ⟨hstream, hanswer⟩ :=
      Prod.mk.inj ((afterPolls_step read options source (n + 1)).eq_of_done hdone)
    refine ⟨hstream ▸ hdone, ?_⟩
    rw [answers_succ, htelling, hanswer]
    exact telling_succ ..

end Polls

/-! ## One parse -/

/-- What has become of one parse: its stream, what its polls were answered, and whether the stream
has been dropped. -/
structure Parse where
  stream : Stream
  answers : List Answer
  isDropped : Bool
  deriving DecidableEq

/-- A parse that has been polled some times, and then dropped or not. -/
def parseAfter (read : StatementReader) (options : StreamOptions) (source : Except Failure Input)
    (polls : Nat) (isDropped : Bool) : Parse where
  stream :=
    let s := afterPolls read options source polls
    if isDropped then s.drop else s
  answers := answers read options source polls
  isDropped := isDropped

/-- **The life of a parse.** Its source is opened once at most, and not before the first poll. Under
an invalid base IRI it is not opened, and if it cannot be opened that is the only item. There is one
error at most, behind all records, and then only the end. A reader is let go once at most, and has
been if there was an error or the end or if the stream has been dropped. -/
structure LifeCycle (options : StreamOptions) (source : Except Failure Input) (p : Parse) :
    Prop where
  opened_le : p.stream.opened ≤ 1
  opened_late : p.answers = [] → p.stream.opened = 0
  badBase : ∀ iri e, options.base = some iri → Iri.checkAbsolute iri.toList = .error e →
    p.stream.opened = 0 ∧
      (p.answers ≠ [] → ∃ ends, p.answers = telling [] (some (.baseIri iri e)) ends)
  notOpened : ∀ failure, source = .error failure → baseFault? options = none → p.answers ≠ [] →
    ∃ ends, p.answers = telling [] (some (.acquisition failure)) ends
  told : ∃ records error ends, p.answers = telling records error ends
  dropped_le : p.stream.dropped ≤ p.stream.opened
  dropped_ofReader : ∀ failure, source = .error failure → p.stream.dropped = 0
  released : ∀ input, source = .ok input →
    (p.isDropped = true ∨ ∃ a ∈ p.answers, ∀ r, a ≠ some (.ok r)) →
    p.stream.dropped = p.stream.opened

section LifeCycle

variable (read : StatementReader) (options : StreamOptions) (source : Except Failure Input)
  (polls : Nat) (isDropped : Bool)

theorem parseAfter_balanced :
    Balanced options source (parseAfter read options source polls isDropped).stream := by
  have h := afterPolls_balanced read options source polls
  cases isDropped with
  | false => exact h
  | true => exact h.drop

/-- A stream that has been dropped, or answered something else than a record, holds no reader. -/
theorem parseAfter_done (h : isDropped = true ∨
    ∃ a ∈ answers read options source polls, ∀ r, a ≠ some (.ok r)) :
    (parseAfter read options source polls isDropped).stream.stage = .done := by
  have hdrop : (afterPolls read options source polls).drop.stage = .done := drop_stage _
  rcases h with rfl | ⟨a, ha, hne⟩
  · exact hdrop
  · cases isDropped with
    | false => exact (answers_told read options source polls).done_of_mem ha hne
    | true => exact hdrop

/-- A parse that gives an error first gives nothing else. -/
theorem parseAfter_of_error {e : StreamError}
    (h : answer read options source 0 = some (.error e))
    (hne : (parseAfter read options source polls isDropped).answers ≠ []) :
    ∃ ends, (parseAfter read options source polls isDropped).answers =
      telling [] (some e) ends := by
  cases polls with
  | zero => exact absurd rfl hne
  | succ n => exact ⟨n, (answers_of_error read options source h n).2⟩

/-- **Every parse has such a life**, whatever its source and its reader are. -/
theorem parseAfter_lifeCycle :
    LifeCycle options source (parseAfter read options source polls isDropped) := by
  have hbalanced := parseAfter_balanced read options source polls isDropped
  have hreader := hbalanced.reader
  constructor
  case opened_le => exact hbalanced.opened_le
  case opened_late =>
    intro h
    cases polls with
    | zero => cases isDropped <;> rfl
    | succ n => exact absurd h (by simp [parseAfter, answers_succ])
  case badBase =>
    intro iri e hiri he
    have hbase : baseFault? options = some (.baseIri iri e) := by
      unfold baseFault?
      rw [hiri]
      dsimp only
      rw [he]
    exact ⟨hbalanced.badBase (by simp [hbase]),
      parseAfter_of_error _ _ _ _ _ (answer_badBase read options source hbase)⟩
  case notOpened =>
    rintro failure rfl hbase
    exact parseAfter_of_error _ _ _ _ _ (answer_notOpened read options hbase)
  case told => exact (answers_told read options source polls).eq_telling
  case dropped_le =>
    split at hreader <;> omega
  case dropped_ofReader =>
    rintro failure rfl
    exact (Nat.add_eq_zero_iff.mp hreader).1
  case released =>
    rintro input rfl h
    rw [parseAfter_done read options (.ok input) polls isDropped h] at hreader
    exact hreader

end LifeCycle

end LinkedQueries.RecordStream
