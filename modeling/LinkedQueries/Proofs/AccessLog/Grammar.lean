import Mathlib.Algebra.Order.Ring.Nat
import Mathlib.Order.WellFounded
import LinkedQueries.AccessLog.Entry
import LinkedQueries.Proofs.AccessLog.Fields

/-!
# The grammar of a log line is recognised exactly

A line may be decomposed in several ways, since its request may hold quotes. The decompositions
differ only from the request on, and a reader takes the one with the shortest request: its parts
are the fields of the entry. The line is skipped if it has no decomposition, or if the numbers of
that one are not written in ASCII digits or do not fit.

Results:
* `Decomposition.IsShortest.unique`: a line has at most one decomposition with the shortest request.
* `Line.ofChars?_eq_some`: that decomposition is read.
* **`extract_exact`**: the lines that have an entry, and the fields of that entry.
-/

namespace LinkedQueries.AccessLog

/-! ## Decompositions -/

/-- The parts of a line, without the blanks, brackets and quotes between them. -/
structure Decomposition where
  host : List Char
  ident : List Char
  user : List Char
  time : List Char
  request : List Char
  code : List Char
  bytes : List Char
  referer : List Char
  rest : List Char

namespace Decomposition

/-- The request, the quote that closes it and what follows that quote. -/
def body (d : Decomposition) : List Char :=
  d.request ++ '"' :: tailText d.code d.bytes d.referer d.rest

/-- The line that the parts compose. -/
def text (d : Decomposition) : List Char :=
  d.host ++ ' ' :: (d.ident ++ ' ' :: (d.user ++ ' ' :: '[' ::
    (d.time ++ ']' :: ' ' :: '"' :: d.body)))

/-- Each part has the class of its field. -/
structure IsGrammatical (d : Decomposition) : Prop where
  host : IsSolid d.host
  ident : IsSolid d.ident
  user : IsSolid d.user
  time : IsTime d.time
  request_ne : d.request ≠ []
  request : '\n' ∉ d.request
  tail : IsTail d.code d.bytes d.referer

/-- A decomposition of a line, and none has a shorter request. -/
structure IsShortest (d : Decomposition) (cs : List Char) : Prop where
  grammatical : d.IsGrammatical
  text : d.text = cs
  least : ∀ d' : Decomposition, d'.IsGrammatical → d'.text = cs →
    d.request.length ≤ d'.request.length

variable {d d' : Decomposition} {cs : List Char}

/-- Decompositions of one line differ only from the request on. -/
theorem IsGrammatical.same_head (h : d.IsGrammatical) (h' : d'.IsGrammatical)
    (htext : d.text = d'.text) : d.host = d'.host ∧ d.ident = d'.ident ∧ d.user = d'.user ∧
      d.time = d'.time ∧ d.body = d'.body := by
  obtain ⟨hhost, htext⟩ := h.host.unique h'.host htext
  obtain ⟨hident, htext⟩ := h.ident.unique h'.ident htext
  obtain ⟨huser, htext⟩ := h.user.unique h'.user htext
  obtain ⟨htime, htext⟩ := h.time.unique h'.time (List.cons.inj htext).2
  exact ⟨hhost, hident, huser, htime, by simpa using htext⟩

/-- A line has at most one decomposition with the shortest request. -/
theorem IsShortest.unique (h : d.IsShortest cs) (h' : d'.IsShortest cs) : d = d' := by
  obtain ⟨hhost, hident, huser, htime, hbody⟩ :=
    h.grammatical.same_head h'.grammatical (h.text.trans h'.text.symm)
  have hlength : d.request.length = d'.request.length :=
    Nat.le_antisymm (h.least d' h'.grammatical h'.text) (h'.least d h.grammatical h.text)
  obtain ⟨hrequest, htail⟩ := List.append_inj hbody hlength
  obtain ⟨hcode, hbytes, hreferer, hrest⟩ :=
    h.grammatical.tail.unique h'.grammatical.tail (List.cons.inj htail).2
  cases d
  cases d'
  simp_all only

theorem exists_isShortest (h : d.IsGrammatical) (htext : d.text = cs) :
    ∃ d : Decomposition, d.IsShortest cs := by
  have hwf : WellFounded fun d d' : Decomposition => d.request.length < d'.request.length :=
    (measure fun d : Decomposition => d.request.length).wf
  obtain ⟨least, ⟨hleast, hcs⟩, hmin⟩ :=
    hwf.has_min {d | d.IsGrammatical ∧ d.text = cs} ⟨d, h, htext⟩
  exact ⟨least, hleast, hcs, fun d' h' htext' => Nat.le_of_not_lt (hmin d' ⟨h', htext'⟩)⟩

/-- A request without quotes is the shortest. -/
theorem IsGrammatical.isShortest (h : d.IsGrammatical) (htext : d.text = cs)
    (hquote : '"' ∉ d.request) : d.IsShortest cs := by
  refine ⟨h, htext, fun d' h' htext' => ?_⟩
  obtain ⟨-, -, -, -, hbody⟩ := h.same_head h' (htext.trans htext'.symm)
  obtain ⟨more, hmore, -⟩ | ⟨more, hmore, hrest⟩ := List.append_eq_append_iff.mp hbody
  · rw [hmore, List.length_append]
    exact Nat.le_add_right _ _
  · cases more with
    | nil => rw [hmore, List.append_nil]
    | cons c more =>
      obtain ⟨rfl, -⟩ := List.cons.inj hrest
      exact absurd (hmore ▸ List.mem_append_right _ List.mem_cons_self) hquote

/-! ## Reading a line -/

/-- The fields that a reader keeps of a decomposition. -/
def line (d : Decomposition) : Line :=
  ⟨d.host, d.user, d.time, d.request, ⟨d.code, d.bytes, d.referer, agent? d.rest⟩⟩

/-- The request of a decomposition can be closed where it ends. -/
theorem IsGrammatical.closes (h : d.IsGrammatical) : Closes [] d.body d.request
    (tailText d.code d.bytes d.referer d.rest) d.line.response where
  text := rfl
  nonempty := .inr h.request_ne
  oneLine := h.request
  response := response?_eq_some.mpr ⟨d.rest, h.tail, rfl, rfl⟩

/-- Wherever a request can be closed behind the other fields, there is a decomposition. -/
theorem exists_of_closes {host ident user time body request tail : List Char} {r : Response}
    (hhost : IsSolid host) (hident : IsSolid ident) (huser : IsSolid user) (htime : IsTime time)
    (hcloses : Closes [] body request tail r) :
    ∃ d : Decomposition, d.IsGrammatical ∧ d.line = ⟨host, user, time, request, r⟩ ∧
      d.body = body ∧ d.text = host ++ ' ' :: (ident ++ ' ' :: (user ++ ' ' :: '[' ::
        (time ++ ']' :: ' ' :: '"' :: body))) := by
  obtain ⟨rest, htail, hagent, rfl⟩ := response?_eq_some.mp hcloses.response
  refine ⟨⟨host, ident, user, time, request, r.code, r.bytes, r.referer, rest⟩,
    ⟨hhost, hident, huser, htime, hcloses.nonempty.resolve_left (· rfl), hcloses.oneLine, htail⟩,
    ?_, hcloses.text.symm, ?_⟩
  · rw [line, ← hagent]
  · rw [hcloses.text]
    rfl

end Decomposition

open Decomposition

/-- The decomposition with the shortest request is read. -/
theorem Line.ofChars?_eq_some {cs : List Char} {line : Line} :
    Line.ofChars? cs = some line ↔ ∃ d : Decomposition, d.IsShortest cs ∧ d.line = line := by
  unfold Line.ofChars?
  simp only [Option.bind_eq_bind, Option.bind_eq_some_iff, Prod.exists, word?_eq_some,
    time?_eq_some, after?_eq_some, request?_eq_some, Option.pure_def, Option.some.injEq]
  constructor
  · rintro ⟨host, _, ⟨hhost, rfl⟩, ident, _, ⟨hident, rfl⟩, user, _, ⟨huser, rfl⟩, time, _,
      ⟨htime, rfl⟩, body, rfl, request, r, ⟨_, tail, hcloses, rfl, hleast⟩, rfl⟩
    obtain ⟨d, h, hline, rfl, htext⟩ := exists_of_closes hhost hident huser htime hcloses
    refine ⟨d, ⟨h, htext, fun d' h' htext' => ?_⟩, hline⟩
    obtain ⟨-, -, -, -, hbody⟩ := h.same_head h' (htext.trans htext'.symm)
    obtain rfl : d.request = request := congrArg Line.request hline
    exact hleast _ _ _ (hbody ▸ h'.closes)
  · rintro ⟨d, h, rfl⟩
    refine ⟨d.host, _, ⟨h.grammatical.host, h.text.symm⟩, d.ident, _, ⟨h.grammatical.ident, rfl⟩,
      d.user, _, ⟨h.grammatical.user, rfl⟩, d.time, _, ⟨h.grammatical.time, rfl⟩, d.body, rfl,
      d.request, _, ⟨d.request, _, h.grammatical.closes, rfl, fun request tail r hcloses => ?_⟩, rfl⟩
    obtain ⟨d', h', hline, -, htext⟩ := exists_of_closes h.grammatical.host h.grammatical.ident
      h.grammatical.user h.grammatical.time hcloses
    obtain rfl : d'.request = request := congrArg Line.request hline
    exact h.least d' h' (htext.trans h.text)

-- a quote inside the request does not close it, since no number follows
example : (Line.ofChars? "h i u [d:t +0000] \"GET \"x\" y\" 200 1 \"r\"".toList).map (·.request) =
    some "GET \"x\" y".toList := by decide +kernel

/-! ## Numbers -/

theorem decimalBelow?_eq_some {bound n : Nat} {digits : List Char} :
    decimalBelow? bound digits = some n ↔ digits ≠ [] ∧ (∀ c ∈ digits, c.isDigit = true) ∧
      Nat.ofDigitChars 10 digits 0 = n ∧ n < bound := by
  rw [decimalBelow?, Option.filter_eq_some_iff, decimal?, decide_eq_true_eq]
  constructor
  · rintro ⟨hsome, hbound⟩
    split at hsome
    · next hdigits =>
      simp only [Bool.and_eq_true, Bool.not_eq_true', List.isEmpty_eq_false_iff,
        List.all_eq_true] at hdigits
      exact ⟨hdigits.1, hdigits.2, Option.some.inj hsome, hbound⟩
    · cases hsome
  · rintro ⟨hne, hdigits, rfl, hbound⟩
    refine ⟨if_pos ?_, hbound⟩
    simp only [Bool.and_eq_true, Bool.not_eq_true', List.isEmpty_eq_false_iff, List.all_eq_true]
    exact ⟨hne, hdigits⟩

/-- Each digit adds one decimal place. -/
theorem ofDigitChars_lt : ∀ {digits : List Char} (n : Nat), (∀ c ∈ digits, c.isDigit = true) →
    Nat.ofDigitChars 10 digits n < (n + 1) * 10 ^ digits.length
  | [], n, _ => by simp [Nat.ofDigitChars]
  | c :: digits, n, h => by
    obtain ⟨hc, hdigits⟩ := List.forall_mem_cons.mp h
    simp only [Char.isDigit, Bool.and_eq_true, decide_eq_true_eq, UInt32.le_iff_toNat_le] at hc
    have hdigit : c.toNat - '0'.toNat < 10 :=
      Nat.sub_lt_left_of_lt_add hc.1 (Nat.lt_succ_of_le hc.2)
    calc Nat.ofDigitChars 10 digits (10 * n + (c.toNat - '0'.toNat))
        < (10 * n + (c.toNat - '0'.toNat) + 1) * 10 ^ digits.length := ofDigitChars_lt _ hdigits
      _ ≤ (n + 1) * 10 * 10 ^ digits.length := Nat.mul_le_mul_right _ (by omega)
      _ = (n + 1) * 10 ^ (c :: digits).length := by
        rw [List.length_cons, Nat.pow_succ', Nat.mul_assoc]

/-! ## The entry -/

namespace Decomposition

/-- The numbers are written in ASCII digits, and that of the bytes fits in a word of 64 bits. -/
structure IsNumeric (d : Decomposition) : Prop where
  code : ∀ c ∈ d.code, c.isDigit = true
  bytes : ∀ c ∈ d.bytes, c.isDigit = true
  bound : Nat.ofDigitChars 10 d.bytes 0 ≤ 2 ^ 64 - 1

/-- The fields of an entry are the parts of a decomposition. -/
structure Describes (d : Decomposition) (e : Entry) : Prop where
  host : e.host = String.ofList d.host
  user : e.user = String.ofList d.user
  rawTimestamp : e.rawTimestamp = String.ofList d.time
  request : e.request = String.ofList d.request
  response : e.response = Nat.ofDigitChars 10 d.code 0
  byteCount : e.byteCount = Nat.ofDigitChars 10 d.bytes 0
  referer : e.referer = String.ofList d.referer
  userAgent : ∀ a : String, e.userAgent = some a ↔
    '"' ∉ a.toList ∧ ∃ rest, d.rest = ' ' :: '"' :: (a.toList ++ '"' :: rest)

variable {d : Decomposition} {cs : List Char} {e : Entry}

/-- Three digits always fit. -/
theorem IsGrammatical.code_lt (h : d.IsGrammatical) (hcode : ∀ c ∈ d.code, c.isDigit = true) :
    Nat.ofDigitChars 10 d.code 0 < 0x10000 := by
  have hlt := ofDigitChars_lt 0 hcode
  rw [h.tail.length] at hlt
  exact hlt.trans (by decide)

theorem exists_ofLine? (h : d.IsGrammatical) (hnumeric : d.IsNumeric) :
    ∃ e, Entry.ofLine? d.line = .ok e := by
  have hcode_ne : d.code ≠ [] := List.ne_nil_of_length_eq_add_one h.tail.length
  have hcode : decimalBelow? 0x10000 d.line.response.code = some (Nat.ofDigitChars 10 d.code 0) :=
    decimalBelow?_eq_some.mpr ⟨hcode_ne, hnumeric.code, rfl, h.code_lt hnumeric.code⟩
  have hbytes : decimalBelow? wordBound d.line.response.bytes =
      some (Nat.ofDigitChars 10 d.bytes 0) :=
    decimalBelow?_eq_some.mpr ⟨h.tail.bytes_ne, hnumeric.bytes, rfl,
      Nat.lt_of_le_of_lt hnumeric.bound (by decide)⟩
  unfold Entry.ofLine?
  rw [hcode, hbytes]
  exact ⟨_, rfl⟩

/-- The agent of an entry is quoted in front of the rest of the line. -/
theorem map_agent?_eq_some {rest : List Char} {a : String} :
    (agent? rest).map String.ofList = some a ↔
      '"' ∉ a.toList ∧ ∃ tail, rest = ' ' :: '"' :: (a.toList ++ '"' :: tail) := by
  rw [← agent?_eq_some, Option.map_eq_some_iff]
  constructor
  · rintro ⟨agent, hagent, rfl⟩
    rwa [String.toList_ofList]
  · intro hagent
    exact ⟨_, hagent, String.ofList_toList⟩

theorem describes_of_ofLine? (h : Entry.ofLine? d.line = .ok e) : d.IsNumeric ∧ d.Describes e := by
  unfold Entry.ofLine? at h
  split at h
  · next code hcode =>
    split at h
    · next bytes hbytes =>
      obtain rfl := Except.ok.inj h
      obtain ⟨-, hcode, hcode_eq, -⟩ := decimalBelow?_eq_some.mp hcode
      obtain ⟨-, hbytes, hbytes_eq, hbound⟩ := decimalBelow?_eq_some.mp hbytes
      refine ⟨⟨hcode, hbytes, ?_⟩, rfl, rfl, rfl, rfl, hcode_eq.symm, hbytes_eq.symm, rfl,
        fun _ => map_agent?_eq_some⟩
      exact Nat.le_of_lt_succ (hbytes_eq ▸ hbound)
    · cases h
  · cases h

/-- A line is interpreted as its shortest decomposition says. -/
theorem IsShortest.ofChars? (h : d.IsShortest cs) : Entry.ofChars? cs = Entry.ofLine? d.line := by
  rw [Entry.ofChars?, Line.ofChars?_eq_some.mpr ⟨d, h, rfl⟩]

theorem IsShortest.extract_iff (h : d.IsShortest cs) :
    extract false cs = .ok (some e) ↔ Entry.ofLine? d.line = .ok e := by
  rw [extract, h.ofChars?]
  cases Entry.ofLine? d.line with
  | ok e => simp [settle]
  | error reason => simp [settle]

theorem exists_of_extract (h : extract false cs = .ok (some e)) :
    ∃ d : Decomposition, d.IsShortest cs := by
  cases hline : Line.ofChars? cs with
  | none =>
    rw [extract, Entry.ofChars?, hline] at h
    cases h
  | some line =>
    obtain ⟨d, hd, -⟩ := Line.ofChars?_eq_some.mp hline
    exact ⟨d, hd⟩

end Decomposition

/-- **The grammar is recognised exactly**, and a line that has it is composed of its fields.
Reading with leniency never fails. A line that can be decomposed has one decomposition with the
shortest request, and it has an entry if and only if the numbers of that decomposition are written
in ASCII digits and fit; the fields of the entry are the parts of that decomposition. Grammatical
parts with a request without quotes and with such numbers are found again in the line that they
compose. -/
theorem extract_exact (cs : List Char) :
    (∃ found, extract false cs = .ok found) ∧
    ((∃ d : Decomposition, d.IsGrammatical ∧ d.text = cs) →
      ∃! d : Decomposition, d.IsShortest cs) ∧
    ((∃ e, extract false cs = .ok (some e)) ↔
      (∃ d : Decomposition, d.IsGrammatical ∧ d.text = cs) ∧
        ∀ d : Decomposition, d.IsShortest cs → d.IsNumeric) ∧
    (∀ (d : Decomposition) (e : Entry), d.IsShortest cs → extract false cs = .ok (some e) →
      d.Describes e) ∧
    ∀ d : Decomposition, d.IsGrammatical → '"' ∉ d.request → d.IsNumeric → d.text = cs →
      ∃ e, extract false cs = .ok (some e) ∧ d.Describes e := by
  have hdescribes : ∀ (d : Decomposition) (e : Entry), d.IsShortest cs →
      extract false cs = .ok (some e) → d.IsNumeric ∧ d.Describes e := fun d e hd he =>
    describes_of_ofLine? (hd.extract_iff.mp he)
  have hfound : ∀ d : Decomposition, d.IsShortest cs → d.IsNumeric →
      ∃ e, extract false cs = .ok (some e) := by
    intro d hd hnumeric
    obtain ⟨e, he⟩ := exists_ofLine? hd.grammatical hnumeric
    exact ⟨e, hd.extract_iff.mpr he⟩
  refine ⟨?_, ?_, ⟨?_, ?_⟩, fun d e hd he => (hdescribes d e hd he).2, ?_⟩
  · rw [extract]
    cases Entry.ofChars? cs with
    | ok e => exact ⟨some e, rfl⟩
    | error reason => exact ⟨none, rfl⟩
  · rintro ⟨d, hd, htext⟩
    obtain ⟨least, hleast⟩ := exists_isShortest hd htext
    exact ⟨least, hleast, fun d' hd' => hd'.unique hleast⟩
  · rintro ⟨e, he⟩
    obtain ⟨d, hd⟩ := exists_of_extract he
    exact ⟨⟨d, hd.grammatical, hd.text⟩, fun d' hd' => (hdescribes d' e hd' he).1⟩
  · rintro ⟨⟨d, hd, htext⟩, hnumeric⟩
    obtain ⟨least, hleast⟩ := exists_isShortest hd htext
    exact hfound least hleast (hnumeric least hleast)
  · intro d hd hquote hnumeric htext
    have hshortest := hd.isShortest htext hquote
    obtain ⟨e, he⟩ := hfound d hshortest hnumeric
    exact ⟨e, he, (hdescribes d e hshortest he).2⟩

end LinkedQueries.AccessLog
