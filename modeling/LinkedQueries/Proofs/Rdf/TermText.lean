import LinkedQueries.Proofs.Iri.Characters
import LinkedQueries.Rdf.NameChar
import LinkedQueries.Rdf.Term
import LinkedQueries.Text.LanguageTag

/-!
# The text of a term is unambiguous

A term is well-formed if its IRIs, labels and language tags are legal; lexical forms are arbitrary.
Legal names hold neither a space nor a closing bracket, and every character of a lexical form can be
told from the quote that ends it. A term is followed by a space, by a closing bracket or by nothing,
and reading its text from the left finds out where it ends.

Results:
* `unquote?_quotedChar`: escapes give back their characters.
* **`chars_append_inj`**: no two well-formed terms have texts that begin in the same way.
-/

namespace LinkedQueries

/-! ## Well-formed terms -/

/-- Whether a text is an IRI. -/
def IsIri (i : String) : Prop :=
  Iri.checkAbsolute i.toList = .ok ()

/-- The language tag or the datatype is legal. -/
def Literal.WellFormed : Literal → Prop
  | .simple _ => True
  | .tagged _ tag => LanguageTag.isTag tag.toList = true
  | .typed _ d => IsIri d

/-- All IRIs, labels and language tags are legal. -/
def Term.WellFormed : Term → Prop
  | .iri i => IsIri i
  | .blank l => isBlankLabel l.toList = true
  | .literal l => l.WellFormed
  | .triple s p o => s.WellFormed ∧ IsIri p ∧ o.WellFormed

/-! ## Names -/

/-- Neither a space nor a closing bracket. -/
def Undelimited (cs : List Char) : Prop :=
  ∀ c ∈ cs, c ≠ ' ' ∧ c ≠ '>'

/-- What may follow the text of a term: a space, a closing bracket or nothing. -/
def Delimited (rest : List Char) : Prop :=
  ∀ c ∈ rest.head?, c = ' ' ∨ c = '>'

theorem delimited_nil : Delimited [] :=
  fun c hc => absurd hc (by simp)

theorem delimited_space (rest : List Char) : Delimited (' ' :: rest) :=
  fun _ hc => .inl (Option.some.inj hc).symm

theorem delimited_close (rest : List Char) : Delimited ('>' :: rest) :=
  fun _ hc => .inr (Option.some.inj hc).symm

theorem not_delimited {c : Char} {rest : List Char} (hspace : c ≠ ' ') (hbracket : c ≠ '>') :
    ¬ Delimited (c :: rest) := by
  intro h
  rcases h c rfl with h | h
  · exact hspace h
  · exact hbracket h

/-- Characters of a class that holds no delimiter. -/
theorem undelimited_of_class {cls : Char → Bool} (hspace : cls ' ' = false)
    (hbracket : cls '>' = false) {cs : List Char} (h : ∀ c ∈ cs, cls c = true) :
    Undelimited cs := by
  intro c hc
  constructor
  · rintro rfl
    exact absurd (h _ hc) (by simp [hspace])
  · rintro rfl
    exact absurd (h _ hc) (by simp [hbracket])

theorem IsIri.undelimited {i : String} (h : IsIri i) : Undelimited i.toList :=
  undelimited_of_class (by decide) (by decide) (Iri.checkAbsolute_chars h).2

theorem IsIri.first {i : String} (h : IsIri i) :
    ∃ c more, i.toList = c :: more ∧ c.isAlpha = true := (Iri.checkAbsolute_chars h).1

theorem undelimited_of_isBlankLabel {label : List Char} (h : isBlankLabel label = true) :
    Undelimited label := by
  refine @undelimited_of_class isLabelChar (by decide) (by decide) _ fun c hc => ?_
  cases label with
  | nil => exact absurd hc List.not_mem_nil
  | cons d rest =>
    simp only [isBlankLabel, Bool.and_eq_true, List.all_eq_true] at h
    rcases List.mem_cons.mp hc with rfl | hc
    · have hstart := h.1.1
      simp only [isLabelStart, Bool.or_eq_true] at hstart
      simp only [isLabelChar, isNameChar, Bool.or_eq_true]
      tauto
    · exact h.1.2 c hc

/-- The characters of language tags. -/
def isTagChar (c : Char) : Bool :=
  c.isAlphanum || c == '-'

theorem alphanum_of_next? {p q : LanguageTag.Place} {part : List Char}
    (h : p.next? part = some q) : ∀ c ∈ part, c.isAlphanum = true := by
  unfold LanguageTag.Place.next? at h
  split at h
  · simp at h
  · next hpart =>
    simp only [Bool.or_eq_true, not_or, Bool.not_eq_true', Bool.not_eq_false] at hpart
    exact List.all_eq_true.mp hpart.2

theorem alphanum_of_foldlM : ∀ {parts : List (List Char)} {p q : LanguageTag.Place},
    parts.foldlM LanguageTag.Place.next? p = some q →
      ∀ part ∈ parts, ∀ c ∈ part, c.isAlphanum = true
  | [], _, _, _ => by simp
  | part :: parts, p, q, h => by
    rw [List.foldlM_cons] at h
    obtain ⟨p', hp, hrest⟩ := Option.bind_eq_some_iff.mp h
    intro part' hm
    rcases List.mem_cons.mp hm with rfl | hm
    · exact alphanum_of_next? hp
    · exact alphanum_of_foldlM hrest part' hm

theorem undelimited_of_isTag {tag : List Char} (h : LanguageTag.isTag tag = true) :
    Undelimited tag := by
  unfold LanguageTag.isTag at h
  dsimp only at h
  split at h
  · next hregistered =>
    -- no registered tag holds a delimiter, and small letters do not hide one
    have hsmall : LanguageTag.registered.all (fun s => s.toList.all isTagChar) = true := by
      decide +kernel
    have htag := List.all_eq_true.mp hsmall _ (List.contains_iff_mem.mp hregistered)
    rw [String.toList_ofList] at htag
    intro c hc
    have hc' := List.all_eq_true.mp htag _ (List.mem_map_of_mem hc)
    constructor
    · rintro rfl
      exact absurd hc' (by decide)
    · rintro rfl
      exact absurd hc' (by decide)
  split at h
  · simp only [Bool.and_eq_true, List.all_eq_true] at h
    exact @undelimited_of_class isTagChar (by decide) (by decide) _ h.2
  · refine @undelimited_of_class isTagChar (by decide) (by decide) _ fun c hc => ?_
    by_cases hdash : (c == '-') = true
    · simp [isTagChar, beq_iff_eq.mp hdash]
    · obtain ⟨part, hp, hcp⟩ := exists_piece (· == '-') hdash hc
      cases hq : (splitAt '-' tag).foldlM LanguageTag.Place.next? .start with
      | none => simp [hq] at h
      | some q => simp [isTagChar, alphanum_of_foldlM hq part hp c hcp]

/-- What comes before the first delimiter is told by it. -/
theorem undelimited_append_inj {rest rest' : List Char} (hr : Delimited rest)
    (hr' : Delimited rest') : ∀ {xs ys : List Char}, Undelimited xs → Undelimited ys →
      xs ++ rest = ys ++ rest' → xs = ys ∧ rest = rest'
  | [], [], _, _, h => ⟨rfl, h⟩
  | x :: xs, [], hx, _, h => by
    rw [List.nil_append] at h
    have hd := hr' x (by rw [← h]; rfl)
    have hx := hx x List.mem_cons_self
    tauto
  | [], y :: ys, _, hy, h => by
    rw [List.nil_append] at h
    have hd := hr y (by rw [h]; rfl)
    have hy := hy y List.mem_cons_self
    tauto
  | x :: xs, y :: ys, hx, hy, h => by
    rw [List.cons_append, List.cons_append] at h
    obtain ⟨rfl, htail⟩ := List.cons.inj h
    obtain ⟨rfl, hrest⟩ := undelimited_append_inj hr hr'
      (fun c hc => hx c (List.mem_cons_of_mem x hc)) (fun c hc => hy c (List.mem_cons_of_mem x hc))
      htail
    exact ⟨rfl, hrest⟩

/-- An IRI in brackets ends with the closing one. -/
theorem bracketed_append_inj {i j : String} (hi : IsIri i) (hj : IsIri j) {rest rest' : List Char}
    (h : bracketed i ++ rest = bracketed j ++ rest') : i = j ∧ rest = rest' := by
  simp only [bracketed, List.cons_append, List.append_assoc, List.cons.injEq, true_and,
    List.nil_append] at h
  obtain ⟨hij, hrest⟩ :=
    undelimited_append_inj (delimited_close _) (delimited_close _) hi.undelimited hj.undelimited h
  exact ⟨String.toList_inj.mp hij, (List.cons.inj hrest).2⟩

/-! ## Lexical forms -/

/-- The character that a lexical form begins with, escaped or not, and what follows it; a quote ends
the form. -/
def unquote? : List Char → Option (Char × List Char)
  | '\\' :: 'b' :: cs => some ('\x08', cs)
  | '\\' :: 't' :: cs => some ('\t', cs)
  | '\\' :: 'n' :: cs => some ('\n', cs)
  | '\\' :: 'f' :: cs => some ('\x0C', cs)
  | '\\' :: 'r' :: cs => some ('\r', cs)
  | '\\' :: '"' :: cs => some ('"', cs)
  | '\\' :: '\\' :: cs => some ('\\', cs)
  | '\\' :: 'u' :: a :: b :: c :: d :: cs => do
    let high ← hexPair? a b
    let low ← hexPair? c d
    return (Char.ofNat (256 * high + low), cs)
  | '"' :: _ => none
  | c :: cs => some (c, cs)
  | [] => none

theorem unquote?_fourHex {c : Char} (h : c.toNat < 0x10000) (rest : List Char) :
    unquote? ('\\' :: 'u' :: fourHex c.toNat ++ rest) = some (c, rest) := by
  have hhigh : hexPair? (upperHex (c.toNat / 4096)) (upperHex (c.toNat / 256 % 16)) =
      some (c.toNat / 256) := by
    have := @hexPair?_of_digits (c.toNat / 256) (by omega) _ _ (.inl rfl) (.inl rfl)
    rwa [Nat.div_div_eq_div_mul] at this
  have hlow : hexPair? (upperHex (c.toNat / 16 % 16)) (upperHex (c.toNat % 16)) =
      some (c.toNat % 256) := by
    have := @hexPair?_of_digits (c.toNat % 256) (by omega) _ _ (.inl rfl) (.inl rfl)
    rwa [show c.toNat % 256 / 16 = c.toNat / 16 % 16 by omega,
      show c.toNat % 256 % 16 = c.toNat % 16 by omega] at this
  show (do
    let high ← hexPair? (upperHex (c.toNat / 4096)) (upperHex (c.toNat / 256 % 16))
    let low ← hexPair? (upperHex (c.toNat / 16 % 16)) (upperHex (c.toNat % 16))
    return (Char.ofNat (256 * high + low), rest)) = some (c, rest)
  rw [hhigh, hlow]
  show some (Char.ofNat (256 * (c.toNat / 256) + c.toNat % 256), rest) = _
  rw [Nat.div_add_mod, Char.ofNat_toNat]

/-- **Escapes** give back their characters. -/
theorem unquote?_quotedChar (c : Char) (rest : List Char) :
    unquote? (quotedChar c ++ rest) = some (c, rest) := by
  unfold quotedChar
  split
  · next h => subst h; rfl
  split
  · next h => subst h; rfl
  split
  · next h => subst h; rfl
  split
  · next h => subst h; rfl
  split
  · next h => subst h; rfl
  split
  · next h => subst h; rfl
  split
  · next h => subst h; rfl
  next hquote hslash =>
  split
  · next h =>
    simp only [Bool.or_eq_true, decide_eq_true_eq, beq_iff_eq] at h
    exact unquote?_fourHex (by omega) rest
  · unfold unquote?
    split <;> simp_all

theorem quoted_append_inj {rest rest' : List Char} : ∀ {xs ys : List Char},
    xs.flatMap quotedChar ++ '"' :: rest = ys.flatMap quotedChar ++ '"' :: rest' →
      xs = ys ∧ rest = rest'
  | [], [], h => ⟨rfl, (List.cons.inj h).2⟩
  | x :: xs, [], h => by
    have hread := unquote?_quotedChar x (xs.flatMap quotedChar ++ '"' :: rest)
    rw [← List.append_assoc, ← List.flatMap_cons, h] at hread
    exact absurd hread (by simp [unquote?])
  | [], y :: ys, h => by
    have hread := unquote?_quotedChar y (ys.flatMap quotedChar ++ '"' :: rest')
    rw [← List.append_assoc, ← List.flatMap_cons, ← h] at hread
    exact absurd hread (by simp [unquote?])
  | x :: xs, y :: ys, h => by
    have hx := unquote?_quotedChar x (xs.flatMap quotedChar ++ '"' :: rest)
    rw [← List.append_assoc, ← List.flatMap_cons, h, List.flatMap_cons, List.append_assoc,
      unquote?_quotedChar] at hx
    simp only [Option.some.injEq, Prod.mk.injEq] at hx
    obtain ⟨rfl, hx⟩ := hx
    obtain ⟨rfl, hrest⟩ := quoted_append_inj hx.symm
    exact ⟨rfl, hrest⟩

/-! ## Terms -/

/-- What a literal writes behind its lexical form. -/
def Literal.suffix : Literal → List Char
  | .simple _ => []
  | .tagged _ tag => '@' :: tag.toList
  | .typed _ d => '^' :: '^' :: bracketed d

theorem Literal.chars_append (l : Literal) (rest : List Char) :
    l.chars ++ rest =
      '"' :: (l.lexical.toList.flatMap quotedChar ++ '"' :: (l.suffix ++ rest)) := by
  cases l <;> simp [Literal.chars, quotedChars, Literal.suffix, Literal.lexical]

/-- The text of a literal begins with a quote. -/
theorem Literal.chars_append_ne (l : Literal) {c : Char} (hc : c ≠ '"') (rest rest' : List Char) :
    l.chars ++ rest ≠ c :: rest' := by
  rw [Literal.chars_append]
  exact fun h => hc (List.cons.inj h).1.symm

theorem Literal.suffix_append_inj {k l : Literal} (hk : k.WellFormed) (hl : l.WellFormed)
    {rest rest' : List Char} (hr : Delimited rest) (hr' : Delimited rest')
    (hlexical : k.lexical = l.lexical) (h : k.suffix ++ rest = l.suffix ++ rest') :
    k = l ∧ rest = rest' := by
  cases k with
  | simple s =>
    cases l with
    | simple s' => exact ⟨congrArg Literal.simple hlexical, h⟩
    | tagged s' tag' =>
      obtain rfl : rest = '@' :: (tag'.toList ++ rest') := h
      exact absurd hr (not_delimited (by decide) (by decide))
    | typed s' d' =>
      obtain rfl : rest = '^' :: '^' :: (bracketed d' ++ rest') := h
      exact absurd hr (not_delimited (by decide) (by decide))
  | tagged s tag =>
    cases l with
    | simple s' =>
      obtain rfl : '@' :: (tag.toList ++ rest) = rest' := h
      exact absurd hr' (not_delimited (by decide) (by decide))
    | tagged s' tag' =>
      obtain ⟨-, htail⟩ := List.cons.inj h
      obtain ⟨htag, hrest⟩ := undelimited_append_inj hr hr' (undelimited_of_isTag hk)
        (undelimited_of_isTag hl) htail
      exact ⟨by rw [show s = s' from hlexical, String.toList_inj.mp htag], hrest⟩
    | typed s' d' => exact absurd (List.cons.inj h).1 (by decide)
  | typed s d =>
    cases l with
    | simple s' =>
      obtain rfl : '^' :: '^' :: (bracketed d ++ rest) = rest' := h
      exact absurd hr' (not_delimited (by decide) (by decide))
    | tagged s' tag' => exact absurd (List.cons.inj h).1 (by decide)
    | typed s' d' =>
      obtain ⟨-, htail⟩ := List.cons.inj (List.cons.inj h).2
      obtain ⟨rfl, hrest⟩ := bracketed_append_inj hk hl htail
      exact ⟨by rw [show s = s' from hlexical], hrest⟩

theorem Literal.chars_append_inj {k l : Literal} (hk : k.WellFormed) (hl : l.WellFormed)
    {rest rest' : List Char} (hr : Delimited rest) (hr' : Delimited rest')
    (h : k.chars ++ rest = l.chars ++ rest') : k = l ∧ rest = rest' := by
  rw [Literal.chars_append, Literal.chars_append] at h
  obtain ⟨hlexical, hsuffix⟩ := quoted_append_inj (List.cons.inj h).2
  exact Literal.suffix_append_inj hk hl hr hr' (String.toList_inj.mp hlexical) hsuffix

/-- The text of an IRI and that of a quoted triple differ in their second character. -/
theorem bracketed_append_ne {i : String} (hi : IsIri i) (rest rest' : List Char) :
    bracketed i ++ rest ≠ '<' :: '<' :: rest' := by
  intro h
  obtain ⟨c, more, hc, hletter⟩ := hi.first
  simp only [bracketed, hc, List.cons_append] at h
  have hsecond := (List.cons.inj (List.cons.inj h).2).1
  rw [hsecond] at hletter
  exact absurd hletter (by decide)

/-- **The text of a term is unambiguous.** If the texts of two terms are continued to the same text,
each by something that a delimiter begins, they are the texts of one term. -/
theorem Term.chars_append_inj : ∀ {t u : Term}, t.WellFormed → u.WellFormed →
    ∀ {rest rest' : List Char}, Delimited rest → Delimited rest' →
      t.chars ++ rest = u.chars ++ rest' → t = u ∧ rest = rest' := by
  intro t
  induction t with
  | iri i =>
    intro u ht hu rest rest' hr hr' h
    cases u with
    | iri j =>
      obtain ⟨rfl, hrest⟩ := bracketed_append_inj ht hu h
      exact ⟨rfl, hrest⟩
    | blank l => exact absurd (List.cons.inj h).1 (by decide)
    | literal l => exact absurd h.symm (l.chars_append_ne (by decide) _ _)
    | triple s p o => exact absurd h (bracketed_append_ne ht _ _)
  | blank l =>
    intro u ht hu rest rest' hr hr' h
    cases u with
    | iri j => exact absurd (List.cons.inj h).1 (by decide)
    | blank k =>
      have htail := (List.cons.inj (List.cons.inj h).2).2
      obtain ⟨hl, hrest⟩ := undelimited_append_inj hr hr' (undelimited_of_isBlankLabel ht)
        (undelimited_of_isBlankLabel hu) htail
      exact ⟨congrArg Term.blank (String.toList_inj.mp hl), hrest⟩
    | literal k => exact absurd h.symm (k.chars_append_ne (by decide) _ _)
    | triple s p o => exact absurd (List.cons.inj h).1 (by decide)
  | literal l =>
    intro u ht hu rest rest' hr hr' h
    cases u with
    | literal k =>
      obtain ⟨rfl, hrest⟩ := Literal.chars_append_inj ht hu hr hr' h
      exact ⟨rfl, hrest⟩
    | iri j => exact absurd h (l.chars_append_ne (by decide) _ _)
    | blank k => exact absurd h (l.chars_append_ne (by decide) _ _)
    | triple s p o => exact absurd h (l.chars_append_ne (by decide) _ _)
  | triple s p o ihs iho =>
    intro u ht hu rest rest' hr hr' h
    cases u with
    | iri j => exact absurd h.symm (bracketed_append_ne hu _ _)
    | blank k => exact absurd (List.cons.inj h).1 (by decide)
    | literal k => exact absurd h.symm (k.chars_append_ne (by decide) _ _)
    | triple s' p' o' =>
      obtain ⟨hs, hp, ho⟩ := ht
      obtain ⟨hs', hp', ho'⟩ := hu
      simp only [Term.chars, List.cons_append, List.append_assoc, List.cons.injEq, true_and,
        List.nil_append] at h
      -- subject, predicate and object are each followed by a delimiter
      obtain ⟨rfl, hpredicate⟩ := ihs hs hs' (delimited_space _) (delimited_space _) h
      obtain ⟨rfl, hobject⟩ := bracketed_append_inj hp hp' (List.cons.inj hpredicate).2
      obtain ⟨rfl, hend⟩ :=
        iho ho ho' (delimited_close _) (delimited_close _) (List.cons.inj hobject).2
      exact ⟨rfl, (List.cons.inj (List.cons.inj hend).2).2⟩

/-- Two well-formed terms with the same text are the same. -/
theorem Term.chars_inj {t u : Term} (ht : t.WellFormed) (hu : u.WellFormed)
    (h : t.chars = u.chars) : t = u := by
  have happend : t.chars ++ [] = u.chars ++ [] := by rw [h]
  exact (Term.chars_append_inj ht hu delimited_nil delimited_nil happend).1

end LinkedQueries
