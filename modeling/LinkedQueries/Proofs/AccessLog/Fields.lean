import LinkedQueries.AccessLog.Line
import Mathlib.Data.List.TakeWhile

/-!
# The fields of a log line

What each reader of a field accepts: the texts that begin with a field of its class and what must
follow the field. The classes of neighbouring fields are apart from each other, so a field cannot
end in two places; only the request may, and then its first end counts.

Results:
* `word?_eq_some`, `time?_eq_some`, `response?_eq_some`: the fields that can end in one place.
* `request?_eq_some`: the request ends at the first quote behind which the rest can be read.
-/

namespace LinkedQueries.AccessLog

variable {cs rest : List Char}

/-! ## Runs of characters -/

/-- A run of a class is read as such in front of anything that does not extend it. -/
theorem span_run {cls : Char → Bool} {run : List Char} (hrun : ∀ c ∈ run, cls c = true)
    (hrest : ∀ c ∈ rest.head?, cls c = false) :
    (run ++ rest).takeWhile cls = run ∧ (run ++ rest).dropWhile cls = rest := by
  rw [List.takeWhile_append_of_pos hrun, List.dropWhile_append_of_pos hrun]
  cases rest with
  | nil => exact ⟨List.append_nil run, rfl⟩
  | cons c rest =>
    have hc : ¬ cls c = true := Bool.eq_false_iff.mp (hrest c rfl)
    rw [List.takeWhile_cons_of_neg hc, List.dropWhile_cons_of_neg hc, List.append_nil]
    exact ⟨rfl, rfl⟩

theorem run?_eq_some {cls : Char → Bool} {run : List Char} :
    run? cls cs = some (run, rest) ↔ run ≠ [] ∧ (∀ c ∈ run, cls c = true) ∧
      (∀ c ∈ rest.head?, cls c = false) ∧ cs = run ++ rest := by
  unfold run?
  constructor
  · intro h
    split at h
    · cases h
    · next hne =>
      obtain ⟨rfl, rfl⟩ := Prod.mk.inj (Option.some.inj h)
      refine ⟨by simpa using hne, fun c hc => List.mem_takeWhile_imp hc, fun c hc => ?_,
        List.takeWhile_append_dropWhile.symm⟩
      have hhead := List.head?_dropWhile_not cls cs
      rw [Option.mem_def.mp hc] at hhead
      exact hhead
  · rintro ⟨hne, hrun, hrest, rfl⟩
    obtain ⟨htake, hdrop⟩ := span_run hrun hrest
    rw [htake, hdrop, if_neg (by simpa using hne)]

theorem after?_eq_some : ∀ {expected cs : List Char},
    after? expected cs = some rest ↔ cs = expected ++ rest
  | [], cs => by rw [after?, Option.some.injEq, List.nil_append]
  | e :: expected, [] => by simp [after?]
  | e :: expected, c :: cs => by
    rw [after?, List.cons_append, List.cons.injEq]
    split
    · next h => rw [after?_eq_some, and_iff_right h]
    · next h => simp [h]

/-- Nonempty and without blanks. -/
def IsSolid (cs : List Char) : Prop :=
  cs ≠ [] ∧ ∀ c ∈ cs, isBlank c = false

/-- A space ends a field without blanks. -/
theorem word?_eq_some {word : List Char} :
    word? cs = some (word, rest) ↔ IsSolid word ∧ cs = word ++ ' ' :: rest := by
  unfold word? IsSolid
  simp only [Option.bind_eq_bind, Option.bind_eq_some_iff, Prod.exists, run?_eq_some,
    after?_eq_some, Option.pure_def, Option.some.injEq, Prod.mk.injEq, Bool.not_eq_true']
  constructor
  · rintro ⟨_, _, ⟨hne, hword, -, rfl⟩, _, rfl, rfl, rfl⟩
    exact ⟨⟨hne, hword⟩, rfl⟩
  · rintro ⟨⟨hne, hword⟩, rfl⟩
    refine ⟨word, ' ' :: rest, ⟨hne, hword, ?_, rfl⟩, rest, rfl, rfl, rfl⟩
    rintro c ⟨⟩
    decide

/-- A field without blanks can end in one place only. -/
theorem IsSolid.unique {word word' rest' : List Char} (h : IsSolid word) (h' : IsSolid word')
    (htext : word ++ ' ' :: rest = word' ++ ' ' :: rest') : word = word' ∧ rest = rest' := by
  have hread : word? (word ++ ' ' :: rest) = some (word, rest) := word?_eq_some.mpr ⟨h, rfl⟩
  have hread' : word? (word ++ ' ' :: rest) = some (word', rest') :=
    word?_eq_some.mpr ⟨h', htext⟩
  exact Prod.mk.inj (Option.some.inj (hread.symm.trans hread'))

/-! ## The time -/

/-- Date and time of day, one blank, a sign and four digits. -/
inductive IsTime : List Char → Prop where
  | intro {clock zone : List Char} {blank sign : Char} (nonempty : clock ≠ [])
      (clock_class : ∀ c ∈ clock, isTimeChar c = true) (blank_class : isBlank blank = true)
      (sign_class : sign = '+' ∨ sign = '-') (zone_length : zone.length = 4)
      (zone_class : ∀ c ∈ zone, isDecimal c = true) : IsTime (clock ++ blank :: sign :: zone)

/-- A blank ends the time of day. -/
theorem isTimeChar_of_isBlank {c : Char} (h : isBlank c = true) : isTimeChar c = false := by
  have hcodes : ∀ n ∈ blankCodes, isTimeChar (Char.ofNat n) = false := by decide +kernel
  rw [← Char.ofNat_toNat c]
  exact hcodes _ (List.contains_iff_mem.mp h)

theorem time?_eq_some {time : List Char} :
    time? cs = some (time, rest) ↔ IsTime time ∧ cs = '[' :: (time ++ ']' :: rest) := by
  unfold time?
  simp only [Option.bind_eq_bind, Option.bind_eq_some_iff, Prod.exists, run?_eq_some,
    after?_eq_some]
  constructor
  · rintro ⟨cs', rfl, clock, tail, ⟨hne, hclock, -, rfl⟩, h⟩
    split at h
    · next b s d₁ d₂ d₃ d₄ _ =>
      split at h
      · next hclass =>
        simp only [Bool.and_eq_true, Bool.or_eq_true, beq_iff_eq, List.all_eq_true] at hclass
        obtain ⟨rfl, rfl⟩ := Prod.mk.inj (Option.some.inj h)
        exact ⟨.intro hne hclock hclass.1.1 hclass.1.2 rfl hclass.2, by simp⟩
      · cases h
    · cases h
  · rintro ⟨⟨hne, hclock, hblank, hsign, hlength, hzone⟩, rfl⟩
    rename_i clock zone blank sign
    obtain ⟨d₁, d₂, d₃, d₄, rfl⟩ : ∃ d₁ d₂ d₃ d₄, zone = [d₁, d₂, d₃, d₄] := by
      match zone, hlength with
      | [d₁, d₂, d₃, d₄], _ => exact ⟨d₁, d₂, d₃, d₄, rfl⟩
    refine ⟨_, rfl, clock, blank :: sign :: d₁ :: d₂ :: d₃ :: d₄ :: ']' :: rest,
      ⟨hne, hclock, ?_, by simp⟩, ?_⟩
    · rintro c ⟨⟩
      exact isTimeChar_of_isBlank hblank
    · have hclass : (isBlank blank && (sign == '+' || sign == '-') &&
          [d₁, d₂, d₃, d₄].all isDecimal) = true := by
        simp only [Bool.and_eq_true, Bool.or_eq_true, beq_iff_eq, List.all_eq_true]
        exact ⟨⟨hblank, hsign⟩, hzone⟩
      exact (if_pos hclass).trans (by simp)

/-- The time can end in one place only. -/
theorem IsTime.unique {time time' rest' : List Char} (h : IsTime time) (h' : IsTime time')
    (htext : time ++ ']' :: rest = time' ++ ']' :: rest') : time = time' ∧ rest = rest' := by
  have hread : time? ('[' :: (time ++ ']' :: rest)) = some (time, rest) :=
    time?_eq_some.mpr ⟨h, rfl⟩
  have hread' : time? ('[' :: (time ++ ']' :: rest)) = some (time', rest') :=
    time?_eq_some.mpr ⟨h', congrArg ('[' :: ·) htext⟩
  exact Prod.mk.inj (Option.some.inj (hread.symm.trans hread'))

/-! ## Behind the request -/

theorem quoted?_eq_some {text : List Char} :
    quoted? cs = some (text, rest) ↔ '"' ∉ text ∧ cs = text ++ '"' :: rest := by
  unfold quoted?
  constructor
  · intro h
    split at h
    · cases h
    · next c tail hdrop =>
      obtain ⟨rfl, rfl⟩ := Prod.mk.inj (Option.some.inj h)
      have hquote : c = '"' := by
        have hhead := List.head?_dropWhile_not (· != '"') cs
        rw [hdrop] at hhead
        simpa using hhead
      refine ⟨fun hmem => by simpa using List.mem_takeWhile_imp hmem, ?_⟩
      have hsplit := List.takeWhile_append_dropWhile (p := (· != '"')) (l := cs)
      rw [hdrop, hquote] at hsplit
      exact hsplit.symm
  · rintro ⟨htext, rfl⟩
    have hrun : ∀ c ∈ text, (c != '"') = true := fun c hc => by
      rw [bne_iff_ne]
      rintro rfl
      exact htext hc
    have hclose : ∀ c ∈ ('"' :: rest).head?, (c != '"') = false := by
      rintro c ⟨⟩
      rfl
    obtain ⟨htake, hdrop⟩ := span_run hrun hclose
    rw [hdrop, htake]

/-- The agent is what follows between quotes. -/
theorem agent?_eq_some {agent : List Char} :
    agent? cs = some agent ↔ '"' ∉ agent ∧ ∃ rest, cs = ' ' :: '"' :: (agent ++ '"' :: rest) := by
  unfold agent?
  simp only [Option.bind_eq_bind, Option.bind_eq_some_iff, Prod.exists, after?_eq_some,
    quoted?_eq_some, Option.pure_def, Option.some.injEq]
  constructor
  · rintro ⟨_, rfl, _, rest, ⟨hagent, rfl⟩, rfl⟩
    exact ⟨hagent, rest, rfl⟩
  · rintro ⟨hagent, rest, rfl⟩
    exact ⟨_, rfl, agent, rest, ⟨hagent, rfl⟩, rfl⟩

/-- Three digits, at least one digit, and a text that is not empty and holds no quote. -/
structure IsTail (code bytes referer : List Char) : Prop where
  length : code.length = 3
  code : ∀ c ∈ code, isDecimal c = true
  bytes_ne : bytes ≠ []
  bytes : ∀ c ∈ bytes, isDecimal c = true
  referer_ne : referer ≠ []
  referer : '"' ∉ referer

/-- The text behind the quote that closes the request. -/
def tailText (code bytes referer rest : List Char) : List Char :=
  ' ' :: (code ++ ' ' :: (bytes ++ ' ' :: '"' :: (referer ++ '"' :: rest)))

theorem response?_eq_some {r : Response} :
    response? cs = some r ↔ ∃ rest, IsTail r.code r.bytes r.referer ∧ r.agent = agent? rest ∧
      cs = tailText r.code r.bytes r.referer rest := by
  unfold response? tailText
  simp only [Option.bind_eq_bind, Option.bind_eq_some_iff, after?_eq_some]
  constructor
  · rintro ⟨cs', rfl, h⟩
    split at h
    · next d₁ d₂ d₃ tail =>
      split at h
      · next hcode =>
        simp only [Option.bind_eq_some_iff, Prod.exists, run?_eq_some, after?_eq_some,
          quoted?_eq_some] at h
        obtain ⟨_, rfl, bytes, _, ⟨hne, hbytes, -, rfl⟩, _, rfl, referer, rest, ⟨hreferer, rfl⟩, h⟩ :=
          h
        split at h
        · cases h
        · next hempty =>
          obtain rfl := Option.some.inj h
          exact ⟨rest, ⟨rfl, List.all_eq_true.mp hcode, hne, hbytes, by simpa using hempty,
            hreferer⟩, rfl, by simp⟩
      · cases h
    · cases h
  · obtain ⟨code, bytes, referer, agent⟩ := r
    rintro ⟨rest, ⟨hlength, hcode, hne, hbytes, hempty, hreferer⟩, hagent, rfl⟩
    dsimp only at hagent hlength hcode hne hbytes hempty hreferer
    obtain ⟨d₁, d₂, d₃, rfl⟩ : ∃ d₁ d₂ d₃, code = [d₁, d₂, d₃] := by
      match code, hlength with
      | [d₁, d₂, d₃], _ => exact ⟨d₁, d₂, d₃, rfl⟩
    refine ⟨_, rfl, (if_pos (List.all_eq_true.mpr hcode)).trans ?_⟩
    simp only [Option.bind_eq_some_iff, Prod.exists, run?_eq_some, after?_eq_some,
      quoted?_eq_some]
    refine ⟨_, rfl, bytes, _, ⟨hne, hbytes, ?_, rfl⟩, _, rfl, referer, rest, ⟨hreferer, rfl⟩, ?_⟩
    · rintro c ⟨⟩
      decide
    · rw [if_neg (by simpa using hempty), hagent]
      rfl

/-- The fields behind the request can end in one place only. -/
theorem IsTail.unique {code bytes referer code' bytes' referer' rest' : List Char}
    (h : IsTail code bytes referer) (h' : IsTail code' bytes' referer')
    (htext : tailText code bytes referer rest = tailText code' bytes' referer' rest') :
    code = code' ∧ bytes = bytes' ∧ referer = referer' ∧ rest = rest' := by
  have hread : response? (tailText code bytes referer rest) =
      some ⟨code, bytes, referer, agent? rest⟩ := response?_eq_some.mpr ⟨rest, h, rfl, rfl⟩
  have hread' : response? (tailText code bytes referer rest) =
      some ⟨code', bytes', referer', agent? rest'⟩ :=
    response?_eq_some.mpr ⟨rest', h', rfl, htext⟩
  obtain ⟨rfl, rfl, rfl, -⟩ := Response.mk.inj (Option.some.inj (hread.symm.trans hread'))
  simpa [tailText] using htext

/-! ## The request -/

/-- A request that `taken` begins and `more` completes can be closed by the quote behind it. -/
structure Closes (taken cs more tail : List Char) (r : Response) : Prop where
  text : cs = more ++ '"' :: tail
  nonempty : taken ≠ [] ∨ more ≠ []
  oneLine : '\n' ∉ more
  response : response? tail = some r

/-- The request can be closed by the next character only if that is a quote. -/
theorem Closes.nil_iff {taken tail : List Char} {c : Char} {r : Response} :
    Closes taken (c :: cs) [] tail r ↔
      c = '"' ∧ cs = tail ∧ taken ≠ [] ∧ response? tail = some r := by
  constructor
  · rintro ⟨htext, hne, -, hr⟩
    obtain ⟨rfl, rfl⟩ := List.cons.inj htext
    exact ⟨rfl, rfl, hne.resolve_right (· rfl), hr⟩
  · rintro ⟨rfl, rfl, hne, hr⟩
    exact ⟨rfl, .inl hne, List.not_mem_nil, hr⟩

theorem Closes.cons_iff {taken more tail : List Char} {c d : Char} {r : Response} :
    Closes taken (c :: cs) (d :: more) tail r ↔
      c = d ∧ c ≠ '\n' ∧ Closes (c :: taken) cs more tail r := by
  constructor
  · rintro ⟨htext, -, hline, hr⟩
    obtain ⟨rfl, htail⟩ := List.cons.inj htext
    rw [List.mem_cons, not_or] at hline
    exact ⟨rfl, Ne.symm hline.1, htail, .inl nofun, hline.2, hr⟩
  · rintro ⟨rfl, hc, htext, -, hline, hr⟩
    refine ⟨congrArg (c :: ·) htext, .inr nofun, ?_, hr⟩
    rw [List.mem_cons, not_or]
    exact ⟨Ne.symm hc, hline⟩

/-- Where the next character does not close the request, the request goes on with it. -/
theorem Closes.exists_cons {taken more tail : List Char} {c : Char} {r : Response}
    (hhere : ∀ r, ¬ Closes taken (c :: cs) [] cs r) (h : Closes taken (c :: cs) more tail r) :
    ∃ more', more = c :: more' ∧ c ≠ '\n' ∧ Closes (c :: taken) cs more' tail r := by
  cases more with
  | nil =>
    obtain ⟨-, rfl, -⟩ := Closes.nil_iff.mp h
    exact absurd h (hhere r)
  | cons d more =>
    obtain ⟨rfl, hc, hcloses⟩ := Closes.cons_iff.mp h
    exact ⟨more, rfl, hc, hcloses⟩

/-- A reader tries to close the request at a quote, if the request is not empty. -/
theorem closing_eq_some {taken : List Char} {c : Char} {r : Response} :
    (if c == '"' && !taken.isEmpty then response? cs else none) = some r ↔
      Closes taken (c :: cs) [] cs r := by
  rw [Closes.nil_iff, Option.ite_none_right_eq_some]
  simp only [Bool.and_eq_true, beq_iff_eq, Bool.not_eq_true', List.isEmpty_eq_false_iff, true_and,
    and_assoc]

/-- **The request** ends at the first quote that can close it. -/
theorem request?_eq_some : ∀ {cs taken request : List Char} {r : Response},
    request? taken cs = some (request, r) ↔ ∃ more tail, Closes taken cs more tail r ∧
      request = taken.reverse ++ more ∧
      ∀ more' tail' r', Closes taken cs more' tail' r' → more.length ≤ more'.length
  | [], taken, request, r => by
    rw [request?]
    constructor
    · nofun
    · rintro ⟨more, tail, hcloses, -⟩
      simpa using hcloses.text
  | c :: cs, taken, request, r => by
    rw [request?]
    cases hhere : (if c == '"' && !taken.isEmpty then response? cs else none) with
    | some here =>
      have hcloses := closing_eq_some.mp hhere
      constructor
      · intro h
        obtain ⟨rfl, rfl⟩ := Prod.mk.inj (Option.some.inj h)
        exact ⟨[], cs, hcloses, (List.append_nil _).symm, fun _ _ _ _ => Nat.zero_le _⟩
      · rintro ⟨more, tail, hmore, hrequest, hleast⟩
        obtain rfl := List.eq_nil_of_length_eq_zero (Nat.le_zero.mp (hleast _ _ _ hcloses))
        obtain ⟨-, rfl, -⟩ := Closes.nil_iff.mp hmore
        obtain rfl := Option.some.inj (hhere.symm.trans (closing_eq_some.mpr hmore))
        rw [hrequest, List.append_nil]
    | none =>
      have hnot : ∀ r, ¬ Closes taken (c :: cs) [] cs r := fun r hr => by
        cases hhere.symm.trans (closing_eq_some.mpr hr)
      by_cases hc : c = '\n'
      · subst hc
        constructor
        · nofun
        · rintro ⟨more, tail, hcloses, -⟩
          obtain ⟨-, -, hne, -⟩ := hcloses.exists_cons hnot
          exact absurd rfl hne
      · dsimp only
        rw [if_neg (by simpa using hc), request?_eq_some]
        constructor
        · rintro ⟨more, tail, hcloses, rfl, hleast⟩
          refine ⟨c :: more, tail, Closes.cons_iff.mpr ⟨rfl, hc, hcloses⟩, by simp, ?_⟩
          intro more' tail' r' h'
          obtain ⟨more'', rfl, -, h'⟩ := h'.exists_cons hnot
          exact Nat.succ_le_succ (hleast _ _ _ h')
        · rintro ⟨more, tail, hcloses, rfl, hleast⟩
          obtain ⟨more, rfl, -, hcloses⟩ := hcloses.exists_cons hnot
          refine ⟨more, tail, hcloses, by simp, fun more' tail' r' h' => ?_⟩
          exact Nat.le_of_succ_le_succ
            (hleast _ _ _ (Closes.cons_iff.mpr ⟨rfl, hc, h'⟩))

end LinkedQueries.AccessLog
