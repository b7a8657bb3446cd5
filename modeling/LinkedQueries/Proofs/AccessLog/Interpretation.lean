import LinkedQueries.Proofs.AccessLog.Grammar
import LinkedQueries.Proofs.AccessLog.QueryText

/-!
# What an entry keeps of its line

An entry has the texts of its line, its two numbers, and what the time and the request are
understood as. The time and the request are interpreted each on its own, and what cannot be
understood is noted: the time first, then the target of the request.

Results:
* `queryField_spec`: when the target of a request is noted.
* `Keeps.filter_diagnostics`: what is noted about the target, and what about the time.
* `IsShortest.keeps`, `exists_keeps`: an entry keeps the shortest decomposition of its line.
-/

namespace LinkedQueries.AccessLog

/-- What is noted about a time. -/
def timestampComplaint (timestamp : Option Timestamp) (raw : String) : List Diagnostic :=
  if timestamp.isNone then [.timestamp raw] else []

/-- What is noted about the target of a request. -/
def targetComplaint (requestLine : Option RequestLine) : List Diagnostic :=
  (queryField requestLine).2

/-- The target of a request and the site form no address. -/
def FormsNoAddress (requestLine : Option RequestLine) (r : RequestLine) (error : Url.UrlError) :
    Prop :=
  requestLine = some r ∧ Url.query (site.toList.drop 7 ++ escapeBraces r.path.toList) = .error error

/-- An entry has the parts of a line, interpreted. -/
structure Entry.Keeps (e : Entry) (line : Line) : Prop where
  host : e.host = String.ofList line.host
  user : e.user = String.ofList line.user
  rawTimestamp : e.rawTimestamp = String.ofList line.time
  timestamp : e.timestamp = Timestamp.ofLog? line.time
  request : e.request = String.ofList line.request
  requestLine : e.requestLine = RequestLine.ofChars? line.request
  response : decimalBelow? 0x10000 line.response.code = some e.response
  byteCount : decimalBelow? wordBound line.response.bytes = some e.byteCount
  referer : e.referer = String.ofList line.response.referer
  userAgent : e.userAgent = line.response.agent.map String.ofList
  query : e.query = (queryField e.requestLine).1
  diagnostics : e.diagnostics =
    timestampComplaint e.timestamp e.rawTimestamp ++ targetComplaint e.requestLine

/-! ## The two interpretations -/

theorem timestampField_eq (time : List Char) :
    timestampField time = (Timestamp.ofLog? time,
      timestampComplaint (Timestamp.ofLog? time) (String.ofList time)) := by
  unfold timestampField
  cases Timestamp.ofLog? time <;> rfl

theorem queryText?_eq_error {path : List Char} {error : Url.UrlError} :
    queryText? path = .error error ↔
      Url.query (site.toList.drop 7 ++ escapeBraces path) = .error error := by
  unfold queryText?
  cases Url.query (site.toList.drop 7 ++ escapeBraces path) with
  | ok query => exact ⟨nofun, nofun⟩
  | error found =>
    constructor
    · rintro ⟨⟩
      rfl
    · rintro ⟨⟩
      rfl

/-- **The target** of a request is noted if it forms no address, and then there is no query. -/
theorem queryField_spec (requestLine : Option RequestLine) :
    ((∀ r error, ¬ FormsNoAddress requestLine r error) ∧ targetComplaint requestLine = []) ∨
    ∃ r error, FormsNoAddress requestLine r error ∧
      queryField requestLine = (none, [.target (address r.path.toList) error]) := by
  unfold FormsNoAddress targetComplaint
  cases requestLine with
  | none => exact .inl ⟨nofun, rfl⟩
  | some r =>
    cases htext : queryText? r.path.toList with
    | ok query =>
      refine .inl ⟨fun r' error h => ?_, ?_⟩
      · obtain rfl := Option.some.inj h.1
        rw [← queryText?_eq_error, htext] at h
        cases h.2
      · rw [queryField, htext]
    | error error =>
      refine .inr ⟨r, error, ⟨rfl, queryText?_eq_error.mp htext⟩, ?_⟩
      rw [queryField, htext]

theorem filter_timestampComplaint (timestamp : Option Timestamp) (raw : String) :
    (timestampComplaint timestamp raw).filter Diagnostic.isTarget = [] ∧
    (timestampComplaint timestamp raw).filter (!·.isTarget) = timestampComplaint timestamp raw := by
  cases timestamp <;> exact ⟨rfl, rfl⟩

theorem filter_targetComplaint (requestLine : Option RequestLine) :
    (targetComplaint requestLine).filter Diagnostic.isTarget = targetComplaint requestLine ∧
    (targetComplaint requestLine).filter (!·.isTarget) = [] := by
  rcases queryField_spec requestLine with ⟨-, h⟩ | ⟨r, error, -, h⟩
  · rw [h]
    exact ⟨rfl, rfl⟩
  · rw [targetComplaint, h]
    exact ⟨rfl, rfl⟩

/-! ## Entries -/

variable {e : Entry} {line : Line} {cs : List Char} {strict : Bool}

theorem keeps_of_ofLine? (h : Entry.ofLine? line = .ok e) : e.Keeps line := by
  unfold Entry.ofLine? at h
  split at h
  · next response hresponse =>
    split at h
    · next byteCount hbyteCount =>
      obtain rfl := Except.ok.inj h
      refine ⟨rfl, rfl, rfl, ?_, rfl, rfl, hresponse, hbyteCount, rfl, rfl, rfl, ?_⟩
      · rw [timestampField_eq]
      · rw [timestampField_eq]
        rfl
    · cases h
  · cases h

/-- What is noted about the target, and what is noted about the time. -/
theorem Entry.Keeps.filter_diagnostics (h : e.Keeps line) :
    e.diagnostics.filter Diagnostic.isTarget = targetComplaint e.requestLine ∧
    e.diagnostics.filter (!·.isTarget) = timestampComplaint e.timestamp e.rawTimestamp := by
  rw [h.diagnostics, List.filter_append, List.filter_append, (filter_timestampComplaint _ _).1,
    (filter_timestampComplaint _ _).2, (filter_targetComplaint _).1, (filter_targetComplaint _).2,
    List.nil_append, List.append_nil]
  exact ⟨rfl, rfl⟩

/-- **An entry keeps its line**, read as its shortest decomposition says. -/
theorem Decomposition.IsShortest.keeps {d : Decomposition} (hd : d.IsShortest cs)
    (h : extract strict cs = .ok (some e)) : e.Keeps d.line :=
  keeps_of_ofLine? (hd.ofChars?.symm.trans (settle_eq_some h))

/-- Every line that is accepted is kept. -/
theorem exists_keeps (h : extract strict cs = .ok (some e)) : ∃ line, e.Keeps line := by
  have hchars : Entry.ofChars? cs = .ok e := settle_eq_some h
  unfold Entry.ofChars? at hchars
  split at hchars
  · next line hline => exact ⟨line, keeps_of_ofLine? hchars⟩
  · cases hchars

end LinkedQueries.AccessLog
