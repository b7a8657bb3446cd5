import LinkedQueries.Proofs.AccessLog.Interpretation

/-!
# The words of a request

A request line is looked for anywhere in a request: it is made of the first three words, and what
follows them is not looked at. So a request of more than three words has a request line as well,
and a query text with blanks is cut off at the first of them.

* `HasWords`: a text is made of words, with blanks around them.

Results:
* `hasWords_iff`: every text is made of words in one way, and they are found.
* **`requestLine_eq_some_iff`**: which requests have a request line, and which have just that.
* `requestLine_of_cut_query`: a query text that is cut off.
-/

namespace LinkedQueries.AccessLog

/-- A text is made of words: blanks may stand in front of them and stand behind each one, except
that the text may end with a word. -/
inductive HasWords : List Char → List (List Char) → Prop where
  | none {blanks : List Char} (blank : ∀ c ∈ blanks, isBlank c = true) : HasWords blanks []
  | last {blanks word : List Char} (blank : ∀ c ∈ blanks, isBlank c = true) (solid : IsSolid word) :
      HasWords (blanks ++ word) [word]
  | cons {blanks word rest : List Char} {gap : Char} {more : List (List Char)}
      (blank : ∀ c ∈ blanks, isBlank c = true) (solid : IsSolid word) (ends : isBlank gap = true)
      (behind : HasWords rest more) : HasWords (blanks ++ (word ++ gap :: rest)) (word :: more)

/-! ## Words are found -/

variable {cs word rest : List Char}

theorem words_cons_blank {c : Char} (h : isBlank c = true) (cs : List Char) :
    words (c :: cs) = words cs := by
  unfold words
  rw [splitWhere_cons_of_pos isBlank h, List.filter_cons_of_neg (by simp)]

theorem words_append_blanks {blanks : List Char} (h : ∀ c ∈ blanks, isBlank c = true)
    (cs : List Char) : words (blanks ++ cs) = words cs := by
  induction blanks with
  | nil => rfl
  | cons c blanks ih =>
    rw [List.cons_append, words_cons_blank (h c List.mem_cons_self)]
    exact ih fun d hd => h d (List.mem_cons_of_mem c hd)

theorem words_of_solid (h : IsSolid word) : words word = [word] := by
  unfold words
  rw [splitWhere_eq_singleton isBlank fun c hc => Bool.eq_false_iff.mp (h.2 c hc)]
  exact List.filter_cons_of_pos (by simpa using h.1)

/-- A blank ends a word. -/
theorem words_append_cons (h : IsSolid word) {gap : Char} (hgap : isBlank gap = true) :
    words (word ++ gap :: rest) = word :: words rest := by
  unfold words
  rw [splitWhere_piece isBlank (fun c hc => Bool.eq_false_iff.mp (h.2 c hc)) hgap]
  exact List.filter_cons_of_pos (by simpa using h.1)

theorem HasWords.words_eq {ws : List (List Char)} (h : HasWords cs ws) : words cs = ws := by
  induction h with
  | @none blanks blank =>
    rw [← List.append_nil blanks, words_append_blanks blank]
    rfl
  | last blank solid => rw [words_append_blanks blank, words_of_solid solid]
  | cons blank solid ends _ ih =>
    rw [words_append_blanks blank, words_append_cons solid ends, ih]

/-- A text is blanks, or blanks and a word, or blanks, a word and a blank that ends it. -/
theorem first_word (cs : List Char) : ∃ blanks, (∀ c ∈ blanks, isBlank c = true) ∧
    (cs = blanks ∨ ∃ word, IsSolid word ∧ (cs = blanks ++ word ∨
      ∃ gap rest, isBlank gap = true ∧ cs = blanks ++ (word ++ gap :: rest))) := by
  refine ⟨cs.takeWhile isBlank, fun c hc => List.mem_takeWhile_imp hc, ?_⟩
  have hsplit := List.takeWhile_append_dropWhile (p := isBlank) (l := cs)
  cases htail : cs.dropWhile isBlank with
  | nil =>
    rw [htail, List.append_nil] at hsplit
    exact .inl hsplit.symm
  | cons c tail =>
    have hc : isBlank c = false := by
      have hhead := List.head?_dropWhile_not isBlank cs
      rw [htail] at hhead
      exact hhead
    have hword := List.takeWhile_append_dropWhile (p := (!isBlank ·)) (l := c :: tail)
    refine .inr ⟨(c :: tail).takeWhile (!isBlank ·), ⟨?_, fun d hd => ?_⟩, ?_⟩
    · rw [List.takeWhile_cons_of_pos (by simpa using hc)]
      exact List.cons_ne_nil _ _
    · simpa using List.mem_takeWhile_imp hd
    · rw [htail, ← hword] at hsplit
      cases hrest : (c :: tail).dropWhile (!isBlank ·) with
      | nil =>
        rw [hrest, List.append_nil] at hsplit
        exact .inl hsplit.symm
      | cons gap rest =>
        have hhead := List.head?_dropWhile_not (!isBlank ·) (c :: tail)
        rw [hrest] at hhead hsplit
        exact .inr ⟨gap, rest, by simpa using hhead, hsplit.symm⟩

/-- Every text is made of words, by induction on its length. -/
theorem exists_hasWords (cs : List Char) : ∃ ws, HasWords cs ws := by
  obtain ⟨blanks, hblanks, hcs | ⟨word, hword, hcs | ⟨gap, rest, hgap, hcs⟩⟩⟩ := first_word cs
  · exact ⟨[], hcs ▸ .none hblanks⟩
  · exact ⟨[word], hcs ▸ .last hblanks hword⟩
  · obtain ⟨more, hmore⟩ := exists_hasWords rest
    exact ⟨word :: more, hcs ▸ .cons hblanks hword hgap hmore⟩
termination_by cs.length
decreasing_by
  subst hcs
  simp only [List.length_append, List.length_cons]
  omega

/-- **Every text is made of words in one way**, and these are found. -/
theorem hasWords_iff {ws : List (List Char)} : HasWords cs ws ↔ words cs = ws :=
  ⟨HasWords.words_eq, fun h => by
    obtain ⟨ws', hws⟩ := exists_hasWords cs
    rwa [← h, hws.words_eq]⟩

/-! ## Request lines -/

namespace RequestLine

/-- The words of a request line. -/
def parts (r : RequestLine) : List (List Char) :=
  [r.verb.toList, r.path.toList, r.protocol.toList]

/-- Three words or more begin with those of a request line. -/
theorem exists_parts_append_iff {ws : List (List Char)} :
    (∃ (r : RequestLine) (more : List (List Char)), ws = r.parts ++ more) ↔ 3 ≤ ws.length := by
  constructor
  · rintro ⟨r, more, rfl⟩
    rw [List.length_append]
    exact Nat.le_add_right 3 more.length
  · intro h
    match ws, h with
    | verb :: path :: protocol :: more, _ =>
      exact ⟨⟨String.ofList verb, String.ofList path, String.ofList protocol⟩, more,
        by simp [parts]⟩

theorem mk_eq_iff {verb path protocol : List Char} {r : RequestLine} :
    RequestLine.mk (String.ofList verb) (String.ofList path) (String.ofList protocol) = r ↔
      [verb, path, protocol] = r.parts := by
  obtain ⟨v, p, q⟩ := r
  simp [parts, ← String.toList_inj]

/-- **The first three words** of a request are its request line. -/
theorem ofChars?_eq_some {request : List Char} {r : RequestLine} :
    ofChars? request = some r ↔ ∃ more, words request = r.parts ++ more := by
  unfold ofChars?
  split
  · next verb path protocol rest hwords =>
    rw [Option.some.injEq, mk_eq_iff, hwords]
    constructor
    · intro h
      exact ⟨rest, congrArg (· ++ rest) h⟩
    · rintro ⟨more, h⟩
      have happend : [verb, path, protocol] ++ rest = r.parts ++ more := h
      exact (List.append_inj happend rfl).1
  · next hfew =>
    refine ⟨nofun, ?_⟩
    rintro ⟨more, h⟩
    exact absurd h (hfew _ _ _ more)

/-- A request of fewer than three words has no request line. -/
theorem ofChars?_eq_none {request : List Char} :
    ofChars? request = none ↔ (words request).length < 3 := by
  rw [← Nat.not_le, ← exists_parts_append_iff, not_exists, Option.eq_none_iff_forall_not_mem]
  exact forall_congr' fun r => not_congr ofChars?_eq_some

/-- The request line is all of a request unless that has more than three words. -/
theorem ofChars?_eq_whole_iff {request : List Char} :
    (∀ r, ofChars? request = some r ↔ words request = r.parts) ↔ (words request).length ≤ 3 := by
  constructor
  · intro hwhole
    by_contra hmore
    obtain ⟨r, more, hwords⟩ := exists_parts_append_iff.mpr (Nat.le_of_lt (Nat.not_le.mp hmore))
    rw [(hwhole r).mp (ofChars?_eq_some.mpr ⟨more, hwords⟩)] at hmore
    exact hmore (Nat.le_refl 3)
  · intro hlength r
    rw [ofChars?_eq_some]
    constructor
    · rintro ⟨more, hwords⟩
      rw [hwords, List.length_append] at hlength
      have hnone : more.length = 0 := Nat.le_zero.mp (Nat.le_of_add_le_add_left hlength)
      rw [hwords, List.eq_nil_of_length_eq_zero hnone, List.append_nil]
    · intro hwords
      exact ⟨[], by rw [hwords, List.append_nil]⟩

end RequestLine

/-- **Which requests have a request line**: those of three words or more, and it is made of the
first three. It is the whole request for every request that has at most three words, and for no
other. A request without a request line has no query, and nothing is noted about its target. -/
theorem requestLine_eq_some_iff {strict : Bool} {e : Entry}
    (h : extract strict cs = .ok (some e)) :
    (∀ r, e.requestLine = some r ↔ ∃ more, HasWords e.request.toList (r.parts ++ more)) ∧
    (e.requestLine = none ↔ ∃ ws, HasWords e.request.toList ws ∧ ws.length < 3) ∧
    ((∀ r, e.requestLine = some r ↔ HasWords e.request.toList r.parts) ↔
      ∃ ws, HasWords e.request.toList ws ∧ ws.length ≤ 3) ∧
    (e.requestLine = none → e.query = none ∧ ∀ d ∈ e.diagnostics, d.isTarget = false) := by
  obtain ⟨line, hline⟩ := exists_keeps h
  have hrequest : e.requestLine = RequestLine.ofChars? e.request.toList := by
    rw [hline.requestLine, hline.request, String.toList_ofList]
  simp only [hasWords_iff, exists_eq_left', hrequest]
  refine ⟨fun r => RequestLine.ofChars?_eq_some, RequestLine.ofChars?_eq_none,
    RequestLine.ofChars?_eq_whole_iff, fun hnone => ?_⟩
  have htarget := hline.filter_diagnostics.1
  rw [← hrequest] at hnone
  rw [hnone] at htarget
  rw [hline.query, hnone]
  exact ⟨rfl, fun d hd => Bool.eq_false_iff.mpr (List.filter_eq_nil_iff.mp htarget d hd)⟩

/-- A request with a tab in front, a no-break space and a space at the end is all a request line. -/
theorem requestLine_eq_some_iff_blanks :
    let line := "h - u [t +0000] \"\tGET /a?query=ASK\u00a0H \" 200 1 \"-\""
    let r : RequestLine := ⟨"GET", "/a?query=ASK", "H"⟩
    ∃ e, extract true line.toList = .ok (some e) ∧ HasWords e.request.toList r.parts ∧
      e.requestLine = some r := by
  intro line r
  let e : Entry := ⟨"h", "u", "t +0000", none, "\tGET /a?query=ASK\u00a0H ", some r, 200, 1, "-",
    none, some "ASK", [.timestamp "t +0000"]⟩
  have he : extract true line.toList = .ok (some e) := by decide +kernel
  have hall : HasWords e.request.toList r.parts := hasWords_iff.mpr (by decide +kernel)
  obtain ⟨-, -, hwhole, -⟩ := requestLine_eq_some_iff he
  exact ⟨e, he, hall, (hwhole.mpr ⟨_, hall, Nat.le_refl 3⟩ r).mpr hall⟩

/-- **A query text that is cut off** at its first blank: the request has nine words, and yet it has
a request line, whose protocol is the second word of the query text. -/
theorem requestLine_of_cut_query :
    let request := "GET /sparql?query=SELECT * \x7b ?s ?p ?o \x7d HTTP/1.1"
    let line := "h - u [t +0000] \"" ++ request ++ "\" 200 3 \"-\""
    ∃ e, extract true line.toList = .ok (some e) ∧ e.request = request ∧
      (∃ ws, HasWords request.toList ws ∧ ws.length = 9) ∧
      e.requestLine = some ⟨"GET", "/sparql?query=SELECT", "*"⟩ ∧ e.query = some "SELECT" := by
  intro request line
  let e : Entry := ⟨"h", "u", "t +0000", none, request, some ⟨"GET", "/sparql?query=SELECT", "*"⟩,
    200, 3, "-", none, some "SELECT", [.timestamp "t +0000"]⟩
  have he : extract true line.toList = .ok (some e) := by decide +kernel
  exact ⟨e, he, rfl, ⟨_, hasWords_iff.mpr rfl, by decide +kernel⟩, rfl, rfl⟩

end LinkedQueries.AccessLog
