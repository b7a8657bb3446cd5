import LinkedQueries.Proofs.AccessLog.Interpretation
import Mathlib.Data.List.Forall2

/-!
# A defect of one field costs no other field

The fields of a line are interpreted each on its own: another time or another request changes what
it is understood as and what is noted about it, and nothing else of the entry. At most one thing is
noted about each of the two, and an entry becomes a sighting with everything that it holds.

* `DifferInTime`, `DifferInRequest`: lines that differ in one field.
* `Entry.SameButTime`, `Entry.SameButRequest`: entries that differ in what one field tells.

Results:
* `IsShortest.with_time`: another time leaves the other fields where they are.
* `Keeps.notes`: all that is noted.
* **`extract_fieldwise`**: how much of an entry a field decides.
-/

namespace LinkedQueries.AccessLog

/-! ## Lines that differ in one field -/

/-- Two lines are the same except for the time between the brackets. -/
inductive DifferInTime : List Char → List Char → Prop where
  | intro {d : Decomposition} {time : List Char} (grammatical : d.IsGrammatical)
      (class_time : IsTime time) : DifferInTime d.text { d with time }.text

/-- Two lines are the same except for their requests, and these hold no quotes. -/
inductive DifferInRequest : List Char → List Char → Prop where
  | intro {d : Decomposition} {request : List Char} (grammatical : d.IsGrammatical)
      (grammatical' : { d with request }.IsGrammatical) (quote : '"' ∉ d.request)
      (quote' : '"' ∉ request) : DifferInRequest d.text { d with request }.text

namespace Decomposition

variable {d d' : Decomposition} {cs : List Char} {time : List Char}

theorem IsGrammatical.with_time (h : d.IsGrammatical) (htime : IsTime time) :
    { d with time }.IsGrammatical :=
  { h with time := htime }

/-- Decompositions of one line are decompositions of another one too, with the time of that. -/
theorem IsGrammatical.text_with_time (h : d.IsGrammatical) (h' : d'.IsGrammatical)
    (htext : d.text = d'.text) : { d with time }.text = { d' with time }.text := by
  obtain ⟨hhost, hident, huser, -, hbody⟩ := h.same_head h' htext
  have hbody' : { d with time }.body = { d' with time }.body := hbody
  rw [text, text, hbody', hhost, hident, huser]

/-- **Another time** leaves the other fields where they are, also in a line whose request holds
quotes: what could close the request before can close it now. -/
theorem IsShortest.with_time (h : d.IsShortest cs) (htime : IsTime time) :
    { d with time }.IsShortest { d with time }.text where
  grammatical := h.grammatical.with_time htime
  text := rfl
  least := by
    intro d' h' htext
    have hd' : { d' with time := d.time }.IsGrammatical := h'.with_time h.grammatical.time
    have hback : { d' with time := d.time }.text = d.text :=
      @IsGrammatical.text_with_time d' { d with time } d.time h' (h.grammatical.with_time htime) htext
    exact h.least { d' with time := d.time } hd' (hback.trans h.text)

end Decomposition

/-! ## Entries that differ in one field -/

/-- All but what the time tells is the same. -/
structure Entry.SameButTime (e e' : Entry) : Prop where
  fields : e' = { e with
    rawTimestamp := e'.rawTimestamp
    timestamp := e'.timestamp
    diagnostics := e'.diagnostics }
  noted : e'.diagnostics.filter Diagnostic.isTarget = e.diagnostics.filter Diagnostic.isTarget

/-- All but what the request tells is the same. -/
structure Entry.SameButRequest (e e' : Entry) : Prop where
  fields : e' = { e with
    request := e'.request
    requestLine := e'.requestLine
    query := e'.query
    diagnostics := e'.diagnostics }
  noted : e'.diagnostics.filter (!·.isTarget) = e.diagnostics.filter (!·.isTarget)

variable {e e' : Entry} {line : Line} {cs cs' : List Char} {strict : Bool}

/-- What stands behind the request decides four fields. -/
theorem Entry.Keeps.same_response {line' : Line} (h : e.Keeps line) (h' : e'.Keeps line')
    (hsame : line'.response = line.response) : e'.response = e.response ∧
      e'.byteCount = e.byteCount ∧ e'.referer = e.referer ∧ e'.userAgent = e.userAgent := by
  have hcode := h'.response
  have hbytes := h'.byteCount
  rw [hsame] at hcode hbytes
  refine ⟨Option.some.inj (hcode.symm.trans h.response),
    Option.some.inj (hbytes.symm.trans h.byteCount), ?_, ?_⟩
  · rw [h'.referer, h.referer, hsame]
  · rw [h'.userAgent, h.userAgent, hsame]

theorem Entry.Keeps.sameButTime {time : List Char} (h : e.Keeps line)
    (h' : e'.Keeps { line with time }) : e.SameButTime e' := by
  obtain ⟨hresponse, hbytes, hreferer, hagent⟩ := h.same_response h' rfl
  have hrequestLine : e'.requestLine = e.requestLine := h'.requestLine.trans h.requestLine.symm
  have hquery : e'.query = e.query := by rw [h'.query, h.query, hrequestLine]
  constructor
  · rw [Entry.mk.injEq]
    exact ⟨h'.host.trans h.host.symm, h'.user.trans h.user.symm, rfl, rfl,
      h'.request.trans h.request.symm, hrequestLine, hresponse, hbytes, hreferer, hagent, hquery, rfl⟩
  · rw [h'.filter_diagnostics.1, h.filter_diagnostics.1, hrequestLine]

theorem Entry.Keeps.sameButRequest {request : List Char} (h : e.Keeps line)
    (h' : e'.Keeps { line with request }) : e.SameButRequest e' := by
  obtain ⟨hresponse, hbytes, hreferer, hagent⟩ := h.same_response h' rfl
  have hraw : e'.rawTimestamp = e.rawTimestamp := h'.rawTimestamp.trans h.rawTimestamp.symm
  have htimestamp : e'.timestamp = e.timestamp := h'.timestamp.trans h.timestamp.symm
  constructor
  · rw [Entry.mk.injEq]
    exact ⟨h'.host.trans h.host.symm, h'.user.trans h.user.symm, hraw, htimestamp, rfl, rfl,
      hresponse, hbytes, hreferer, hagent, rfl, rfl⟩
  · rw [h'.filter_diagnostics.2, h.filter_diagnostics.2, htimestamp, hraw]

/-! ## Reading both lines -/

/-- Whether a line is accepted depends on what stands behind its request only. -/
theorem Entry.Keeps.exists_extract (h : e.Keeps line) {d : Decomposition} (hd : d.IsShortest cs)
    (hresponse : d.line.response = line.response) : ∃ e', extract strict cs = .ok (some e') := by
  unfold extract
  rw [hd.ofChars?, Entry.ofLine?, hresponse, h.response, h.byteCount]
  exact ⟨_, rfl⟩

theorem DifferInTime.exists_sameButTime (h : DifferInTime cs cs')
    (he : extract strict cs = .ok (some e)) :
    ∃ e', extract strict cs' = .ok (some e') ∧ e.SameButTime e' := by
  cases h with
  | @intro d time hd htime =>
    -- the request of the parts may be longer than the one that is read
    obtain ⟨least, hleast⟩ := Decomposition.exists_isShortest hd rfl
    have htext : { least with time }.text = { d with time }.text :=
      hleast.grammatical.text_with_time hd hleast.text
    have hleast' := hleast.with_time htime
    rw [htext] at hleast'
    obtain ⟨e', he'⟩ : ∃ e', extract strict { d with time }.text = .ok (some e') :=
      (hleast.keeps he).exists_extract hleast' rfl
    exact ⟨e', he', (hleast.keeps he).sameButTime (hleast'.keeps he')⟩

theorem DifferInRequest.exists_sameButRequest (h : DifferInRequest cs cs')
    (he : extract strict cs = .ok (some e)) :
    ∃ e', extract strict cs' = .ok (some e') ∧ e.SameButRequest e' := by
  cases h with
  | @intro d request hd hd' hquote hquote' =>
    have hshortest := hd.isShortest rfl hquote
    have hshortest' := hd'.isShortest rfl hquote'
    obtain ⟨e', he'⟩ : ∃ e', extract strict { d with request }.text = .ok (some e') :=
      (hshortest.keeps he).exists_extract hshortest' rfl
    exact ⟨e', he', (hshortest.keeps he).sameButRequest (hshortest'.keeps he')⟩

/-! ## What is noted -/

/-- All that is noted of an entry: that it has no time, and then that the target of its request
forms no address and that there is no query for this. -/
structure Entry.Notes (e : Entry) (time target : List Diagnostic) : Prop where
  diagnostics : e.diagnostics = time ++ target
  time : (e.timestamp = none ∧ time = [.timestamp e.rawTimestamp]) ∨
    (e.timestamp ≠ none ∧ time = [])
  target : (∃ r error, FormsNoAddress e.requestLine r error ∧
      target = [.target (address r.path.toList) error] ∧ e.query = none) ∨
    ((∀ r error, ¬ FormsNoAddress e.requestLine r error) ∧ target = [])

theorem Entry.Keeps.notes (h : e.Keeps line) :
    e.Notes (timestampComplaint e.timestamp e.rawTimestamp) (targetComplaint e.requestLine) where
  diagnostics := h.diagnostics
  time := by
    cases e.timestamp with
    | none => exact .inl ⟨rfl, rfl⟩
    | some t => exact .inr ⟨Option.some_ne_none t, rfl⟩
  target := by
    rcases queryField_spec e.requestLine with hfine | ⟨r, error, hfault, hfield⟩
    · exact .inr hfine
    · refine .inl ⟨r, error, hfault, ?_, ?_⟩
      · rw [targetComplaint, hfield]
      · rw [h.query, hfield]

/-! ## Sightings -/

/-- A sighting has what an entry holds: its fields, the words of its request line or none of them,
and a text for each thing that is noted. -/
structure Entry.CarriedOver (e : Entry) (sequenceId : Option Nat) (x : RemoteExecution) : Prop where
  sequenceId : x.sequenceId = sequenceId
  host : x.host = e.host
  user : x.user = e.user
  atTime : x.atTime = e.timestamp
  requestLine :
    (e.requestLine = none ∧ x.verb = none ∧ x.path = none ∧ x.protocol = none) ∨
    ∃ r : RequestLine, e.requestLine = some r ∧ x.verb = some r.verb ∧ x.path = some r.path ∧
      x.protocol = some r.protocol
  response : x.response = some e.response
  byteCount : x.byteCount = some e.byteCount
  referer : x.referer = some e.referer
  userAgent : x.userAgent = e.userAgent
  diagnostics : List.Forall₂ (fun d text => text = d.message) e.diagnostics x.diagnostics

theorem Entry.carriedOver (e : Entry) (sequenceId : Option Nat) :
    e.CarriedOver sequenceId (e.toRemoteExecution sequenceId) where
  sequenceId := rfl
  host := rfl
  user := rfl
  atTime := rfl
  requestLine := by
    unfold toRemoteExecution
    cases e.requestLine with
    | none => exact .inl ⟨rfl, rfl, rfl, rfl⟩
    | some r => exact .inr ⟨r, rfl, rfl, rfl, rfl⟩
  response := rfl
  byteCount := rfl
  referer := rfl
  userAgent := rfl
  diagnostics := by
    rw [toRemoteExecution, List.forall₂_map_right_iff]
    exact List.forall₂_same.mpr fun _ _ => rfl

/-- **How much of an entry a field decides.** If a line is accepted, so is one that differs in the
time, and the entries are the same but for the time, what it is understood as and what is noted
about it. So is one that differs in the request if both requests hold no quotes, and the entries are
the same but for the request, what it is understood as, the query and what is noted about the
target. Of every entry all that is noted is, first and at most once, that it has no time, and at
most once that its target forms no address, and then it has no query. A sighting has all of an
entry. -/
theorem extract_fieldwise (strict : Bool) (cs : List Char) (e : Entry)
    (h : extract strict cs = .ok (some e)) :
    (∀ cs', DifferInTime cs cs' → ∃ e', extract strict cs' = .ok (some e') ∧ e.SameButTime e') ∧
    (∀ cs', DifferInRequest cs cs' →
      ∃ e', extract strict cs' = .ok (some e') ∧ e.SameButRequest e') ∧
    (∃ time target, e.Notes time target) ∧
    ∀ sequenceId : Option Nat, e.CarriedOver sequenceId (e.toRemoteExecution sequenceId) := by
  obtain ⟨line, hline⟩ := exists_keeps h
  exact ⟨fun _ hdiffer => hdiffer.exists_sameButTime h,
    fun _ hdiffer => hdiffer.exists_sameButRequest h, ⟨_, _, hline.notes⟩, e.carriedOver⟩

/-- Both fields are faulty, and each is repaired alone. -/
theorem extract_fieldwise_both_faulty :
    let d : Decomposition := ⟨"h".toList, "-".toList, "u".toList, "t +0000".toList,
      "GET :99999/?query=ASK H".toList, "200".toList, "1".toList, "r".toList, []⟩
    let dated : Decomposition := { d with time := "10/Oct/2020:13:55:36 -0700".toList }
    let addressed : Decomposition := { d with request := "GET /?query=ASK H".toList }
    ∃ e, extract true d.text = .ok (some e) ∧ e.diagnostics.length = 2 ∧
      (∃ e', extract true dated.text = .ok (some e') ∧ e.SameButTime e') ∧
      (∃ e', extract true addressed.text = .ok (some e') ∧ e.SameButRequest e') ∧
      ∃ time target, e.Notes time target := by
  intro d dated addressed
  let r : RequestLine := ⟨"GET", ":99999/?query=ASK", "H"⟩
  let e : Entry := ⟨"h", "u", "t +0000", none, "GET :99999/?query=ASK H", some r, 200, 1, "r", none,
    none, [.timestamp "t +0000", .target "http://example.org:99999/?query=ASK" .port]⟩
  have he : extract true d.text = .ok (some e) := by decide +kernel
  have hword {word : List Char} (h : word? (word ++ [' ']) = some (word, [])) : IsSolid word :=
    (word?_eq_some.mp h).1
  have htime {time : List Char} (h : time? ('[' :: (time ++ [']'])) = some (time, [])) :
      IsTime time := (time?_eq_some.mp h).1
  have hdigits {digits : List Char} (h : digits.all isDecimal = true) :
      ∀ c ∈ digits, isDecimal c = true := List.all_eq_true.mp h
  have hd : d.IsGrammatical := by
    refine ⟨hword ?_, hword ?_, hword ?_, htime ?_, ?_, ?_, ⟨rfl, hdigits ?_, ?_, hdigits ?_, ?_,
      ?_⟩⟩
    all_goals decide +kernel
  have haddressed : addressed.IsGrammatical :=
    { hd with request_ne := by decide, request := by decide }
  obtain ⟨htimes, hrequests, hnotes, -⟩ := extract_fieldwise true d.text e he
  exact ⟨e, he, rfl, htimes _ (.intro hd (htime (by decide +kernel))),
    hrequests _ (.intro hd haddressed (by decide) (by decide)), hnotes⟩

end LinkedQueries.AccessLog
