import LinkedQueries.Iri.Grammar
import LinkedQueries.Proofs.Text.FormCoding
import LinkedQueries.Proofs.Text.Split

/-!
# The characters of an IRI

Each part of the check reads characters of some class and leaves the rest to the next part, so that
an IRI holds characters of these classes only.

Results:
* `Reads`: a part of the check has read characters of an IRI up to what is left.
* **`checkAbsolute_chars`**: an IRI begins with a letter and holds characters of IRIs only.
-/

namespace LinkedQueries.Iri

/-- The characters that may stand somewhere in an IRI. -/
def isIriChar (c : Char) : Bool :=
  isQueryChar c || c == '%' || c == '#' || c == '[' || c == ']'

/-! ## Classes of characters -/

section Classes

variable {c : Char}

theorem isIriChar_of_isPathOrSlash (h : isPathOrSlash c = true) : isIriChar c = true := by
  simp only [isPathOrSlash, Bool.or_eq_true] at h
  simp only [isIriChar, isQueryChar, isFragmentChar, Bool.or_eq_true]
  tauto

theorem isIriChar_of_isQueryChar (h : isQueryChar c = true) : isIriChar c = true := by
  simp [isIriChar, h]

theorem isIriChar_of_isFragmentChar (h : isFragmentChar c = true) : isIriChar c = true :=
  isIriChar_of_isQueryChar (by simp [isQueryChar, h])

theorem isIriChar_of_isUserChar (h : isUserChar c = true) : isIriChar c = true := by
  simp only [isUserChar, Bool.or_eq_true] at h
  refine isIriChar_of_isPathOrSlash ?_
  simp only [isPathOrSlash, isPathChar, Bool.or_eq_true]
  tauto

theorem isIriChar_of_isHostChar (h : isHostChar c = true) : isIriChar c = true :=
  isIriChar_of_isUserChar (by simp [isUserChar, h])

theorem isIriChar_of_isAlphanum (h : c.isAlphanum = true) : isIriChar c = true :=
  isIriChar_of_isHostChar (by simp [isHostChar, isUnreserved, h])

theorem isIriChar_of_hexDigit? (h : (hexDigit? c).isSome = true) : isIriChar c = true :=
  isIriChar_of_isAlphanum (isAlphanum_of_hexDigit? h)

theorem isIriChar_of_isDigit (h : c.isDigit = true) : isIriChar c = true :=
  isIriChar_of_isAlphanum (by simp [Char.isAlphanum, h])

theorem isIriChar_of_isSchemeChar (h : isSchemeChar c = true) : isIriChar c = true := by
  simp only [isSchemeChar, Bool.or_eq_true, beq_iff_eq] at h
  rcases h with ((h | rfl) | rfl) | rfl
  · exact isIriChar_of_isAlphanum h
  all_goals decide

end Classes

/-! ## Reading -/

/-- Characters of an IRI have been read, up to a rest. -/
def Reads (cs rest : List Char) : Prop :=
  ∃ read, cs = read ++ rest ∧ ∀ c ∈ read, isIriChar c = true

namespace Reads

theorem refl (cs : List Char) : Reads cs cs := ⟨[], rfl, fun _ h => absurd h List.not_mem_nil⟩

theorem trans {cs rest rest' : List Char} (h : Reads cs rest) (h' : Reads rest rest') :
    Reads cs rest' := by
  obtain ⟨read, rfl, hread⟩ := h
  obtain ⟨read', rfl, hread'⟩ := h'
  refine ⟨read ++ read', (List.append_assoc _ _ _).symm, fun c hc => ?_⟩
  exact (List.mem_append.mp hc).elim (hread c) (hread' c)

theorem append {read : List Char} (h : ∀ c ∈ read, isIriChar c = true) (rest : List Char) :
    Reads (read ++ rest) rest := ⟨read, rfl, h⟩

theorem cons {c : Char} (hc : isIriChar c = true) {cs rest : List Char} (h : Reads cs rest) :
    Reads (c :: cs) rest :=
  trans (append (fun _ hd => List.mem_singleton.mp hd ▸ hc) cs) h

theorem chars {cs : List Char} (h : Reads cs []) : ∀ c ∈ cs, isIriChar c = true := by
  obtain ⟨read, rfl, hread⟩ := h
  rwa [List.append_nil]

end Reads

theorem bind_eq_ok {ε α β : Type} {x : Except ε α} {f : α → Except ε β} {b : β} :
    (x >>= f) = .ok b ↔ ∃ a, x = .ok a ∧ f a = .ok b := by
  cases x <;> simp [bind, Except.bind]

/-- A component is read up to its end or to a character that ends it. -/
theorem component_reads {allowed ends : Char → Bool}
    (hallowed : ∀ c, allowed c = true → isIriChar c = true) {cs rest : List Char}
    (h : component allowed ends cs = .ok rest) :
    Reads cs rest ∧ ∀ c ∈ rest.head?, ends c = true := by
  fun_induction component allowed ends cs with
  | case1 =>
    obtain rfl := Except.ok.inj h
    exact ⟨.refl _, by simp⟩
  | case2 c cs hends =>
    obtain rfl := Except.ok.inj h
    exact ⟨.refl _, by simpa using hends⟩
  | case3 c _ hpercent high low more hpair ih =>
    obtain ⟨hreads, hends⟩ := ih h
    obtain ⟨n, hn⟩ := Option.isSome_iff_exists.mp hpair
    obtain ⟨hh, hl⟩ := hexPair?_eq_some hn
    rw [beq_iff_eq] at hpercent
    refine ⟨.cons ?_ (.cons (isIriChar_of_hexDigit? hh) (.cons (isIriChar_of_hexDigit? hl) hreads)),
      hends⟩
    rw [hpercent]
    decide
  | case4 => simp at h
  | case5 => simp at h
  | case6 c cs _ _ hc ih =>
    obtain ⟨hreads, hends⟩ := ih h
    exact ⟨hreads.cons (hallowed c hc), hends⟩
  | case7 => simp at h

/-! ### What follows the authority -/

theorem fragment_reads {cs : List Char} (h : fragment cs = .ok ()) : Reads cs [] := by
  obtain ⟨rest, hc, -⟩ := bind_eq_ok.mp h
  obtain ⟨hreads, hends⟩ := component_reads (fun _ => isIriChar_of_isFragmentChar) hc
  cases rest with
  | nil => exact hreads
  | cons c rest => exact absurd (hends c rfl) (by simp)

theorem afterPath_reads {cs : List Char} (hends : ∀ c ∈ cs.head?, (c == '?' || c == '#') = true)
    (h : afterPath cs = .ok ()) : Reads cs [] := by
  unfold afterPath at h
  split at h
  · next cs =>
    obtain ⟨rest, hc, h⟩ := bind_eq_ok.mp h
    obtain ⟨hreads, hends⟩ := component_reads (fun _ => isIriChar_of_isQueryChar) hc
    refine .cons (by decide) (hreads.trans ?_)
    split at h
    · exact .cons (by decide) (fragment_reads h)
    · next hne =>
      cases rest with
      | nil => exact .refl _
      | cons c rest => exact absurd (by rw [← beq_iff_eq.mp (hends c rfl)]) (hne rest)
  · exact .cons (by decide) (fragment_reads h)
  · next hquery hfragment =>
    cases cs with
    | nil => exact .refl _
    | cons c rest =>
      rcases Bool.or_eq_true_iff.mp (hends c rfl) with hc | hc
      · exact absurd (by rw [← beq_iff_eq.mp hc]) (hquery rest)
      · exact absurd (by rw [← beq_iff_eq.mp hc]) (hfragment rest)

theorem path_reads {cs : List Char} (h : path cs = .ok ()) : Reads cs [] := by
  obtain ⟨rest, hc, h⟩ := bind_eq_ok.mp h
  obtain ⟨hreads, hends⟩ := component_reads (fun _ => isIriChar_of_isPathOrSlash) hc
  exact hreads.trans (afterPath_reads hends h)

/-! ### The authority -/

theorem port_reads {cs rest : List Char} (h : port cs = .ok rest) : Reads cs rest := by
  fun_induction port cs with
  | case1 =>
    obtain rfl := Except.ok.inj h
    exact .refl _
  | case2 c cs hc ih => exact (ih h).cons (isIriChar_of_isDigit hc)
  | case3 =>
    obtain rfl := Except.ok.inj h
    exact .refl _
  | case4 => simp at h

/-! ### Addresses -/

/-- What is left when all but some character has been dropped begins with that character. -/
theorem eq_of_dropWhile {cs rest : List Char} {c d : Char}
    (h : cs.dropWhile (· != c) = d :: rest) : d = c := by
  have hd := List.head?_dropWhile_not (· != c) cs
  rw [h] at hd
  simpa using hd

theorem isGroup_chars {cs : List Char} (h : isGroup cs = true) : ∀ c ∈ cs, isIriChar c = true := by
  simp only [isGroup, Bool.and_eq_true, List.all_eq_true] at h
  exact fun c hc => isIriChar_of_hexDigit? (h.2 c hc)

theorem isDottedQuad_chars {cs : List Char} (h : isDottedQuad cs = true) :
    ∀ c ∈ cs, isIriChar c = true := by
  simp only [isDottedQuad, Bool.and_eq_true, List.all_eq_true] at h
  intro c hc
  by_cases hdot : (c == '.') = true
  · rw [beq_iff_eq.mp hdot]
    decide
  · obtain ⟨octet, ho, hco⟩ := exists_piece (· == '.') hdot hc
    have hoctet := h.2 octet ho
    simp only [isOctet, Bool.and_eq_true, List.all_eq_true] at hoctet
    exact isIriChar_of_isDigit (hoctet.1.1.2 c hco)

theorem groupCount?_chars {embedded : Bool} {cs : List Char}
    (h : (groupCount? embedded cs).isSome = true) : ∀ c ∈ cs, isIriChar c = true := by
  intro c hc
  by_cases hcolon : (c == ':') = true
  · rw [beq_iff_eq.mp hcolon]
    decide
  obtain ⟨group, hg, hcg⟩ := exists_piece (· == ':') hcolon hc
  unfold groupCount? at h
  split at h
  · next hempty =>
    rw [List.isEmpty_iff.mp hempty] at hc
    exact absurd hc List.not_mem_nil
  dsimp only at h
  split at h
  · next hall => exact isGroup_chars (List.all_eq_true.mp hall group hg) c hcg
  split at h
  · next hall =>
    -- the last group may be a dotted quad
    simp only [Bool.and_eq_true, List.all_eq_true] at hall
    obtain ⟨⟨-, hinit⟩, hlast⟩ := hall
    have hne : splitAt ':' cs ≠ [] := splitWhere_ne_nil _ cs
    rw [List.getLastD_eq_getLast?, List.getLast?_eq_some_getLast hne] at hlast
    have hsplit : group ∈ (splitAt ':' cs).dropLast ++ [(splitAt ':' cs).getLast hne] := by
      rw [List.dropLast_concat_getLast]
      exact hg
    rcases List.mem_append.mp hsplit with hm | hm
    · exact isGroup_chars (hinit group hm) c hcg
    · rw [List.mem_singleton.mp hm] at hcg
      exact isDottedQuad_chars hlast c hcg
  · exact absurd h (by simp)

theorem eq_of_aroundGap? : ∀ {cs before after : List Char},
    aroundGap? cs = some (before, after) → cs = before ++ ':' :: ':' :: after := by
  intro cs
  fun_induction aroundGap? cs with
  | case1 rest =>
    rintro before after ⟨⟩
    rfl
  | case2 c rest _ ih =>
    intro before after h
    obtain ⟨⟨before', after'⟩, hgap, he⟩ := Option.map_eq_some_iff.mp h
    cases he
    rw [ih hgap, List.cons_append]
  | case3 => simp

theorem isAddress_chars {cs : List Char} (h : isAddress cs = true) :
    ∀ c ∈ cs, isIriChar c = true := by
  unfold isAddress at h
  split at h
  · exact groupCount?_chars (by rw [beq_iff_eq.mp h]; rfl)
  · next before after hgap =>
    split at h
    · next hbefore hafter =>
      have hb := groupCount?_chars (by rw [hbefore]; rfl)
      have ha := groupCount?_chars (by rw [hafter]; rfl)
      rw [eq_of_aroundGap? hgap]
      simp only [List.forall_mem_append, List.forall_mem_cons]
      exact ⟨hb, by decide, by decide, ha⟩
    · exact absurd h (by simp)

theorem futureAddress_chars {cs : List Char} (h : futureAddress cs = .ok ()) :
    ∀ c ∈ cs, isIriChar c = true := by
  unfold futureAddress at h
  dsimp only at h
  split at h
  · simp at h
  next hversion =>
  split at h
  · simp at h
  split at h
  · simp at h
  split at h
  · simp at h
  next hrest =>
  rw [← List.takeWhile_append_dropWhile (p := (· != '.')) (l := cs), List.forall_mem_append]
  refine ⟨fun c hc => isIriChar_of_hexDigit? ?_, fun c hc => ?_⟩
  · simpa [Option.isSome_iff_ne_none] using List.find?_eq_none.mp hversion c hc
  · cases hdrop : cs.dropWhile (· != '.') with
    | nil => simp [hdrop] at hc
    | cons d more =>
      rw [hdrop] at hc hrest
      rcases List.mem_cons.mp hc with rfl | hc
      · rw [eq_of_dropWhile hdrop]
        decide
      · have hchar := List.find?_eq_none.mp hrest c hc
        simp only [Bool.not_eq_true, Bool.not_eq_false', Bool.or_eq_true, beq_iff_eq] at hchar
        rcases hchar with (hchar | hchar) | rfl
        · exact isIriChar_of_isHostChar (by simp [isHostChar, hchar])
        · exact isIriChar_of_isHostChar (by simp [isHostChar, hchar])
        · decide

/-! ### Hosts -/

theorem bracketedHost_reads {cs rest : List Char} (h : bracketedHost cs = .ok rest) :
    Reads cs rest := by
  unfold bracketedHost at h
  split at h
  · simp at h
  next close rest' hclose =>
  have haddress : ∀ {address : List Char}, address = cs.takeWhile (· != ']') →
      (∀ c ∈ address, isIriChar c = true) → Reads rest' rest → Reads cs rest := by
    rintro _ rfl haddress hreads
    rw [← List.takeWhile_append_dropWhile (p := (· != ']')) (l := cs), hclose]
    refine (Reads.append haddress _).trans (hreads.cons ?_)
    rw [eq_of_dropWhile hclose]
    decide
  dsimp only at h
  split at h
  case' h_1 version hversion =>
    obtain ⟨_, hf, h⟩ := bind_eq_ok.mp h
    refine haddress hversion.symm (List.forall_mem_cons.mpr ⟨by decide, futureAddress_chars hf⟩) ?_
  case' h_2 version hversion =>
    obtain ⟨_, hf, h⟩ := bind_eq_ok.mp h
    refine haddress hversion.symm (List.forall_mem_cons.mpr ⟨by decide, futureAddress_chars hf⟩) ?_
  case' h_3 =>
    split at h
    case' isTrue hi =>
      obtain ⟨_, -, h⟩ := bind_eq_ok.mp h
      refine haddress rfl (isAddress_chars hi) ?_
    case' isFalse => simp [bind, Except.bind] at h
  -- What follows the bracket is read alike, whatever address it closes.
  all_goals
    split at h
    · exact .cons (by decide) (port_reads h)
    · obtain rfl := Except.ok.inj h
      exact .refl _
    · split at h
      · obtain rfl := Except.ok.inj h
        exact .refl _
      · simp at h

theorem host_reads {cs rest : List Char} (h : host cs = .ok rest) : Reads cs rest := by
  unfold host at h
  split at h
  · exact .cons (by decide) (bracketedHost_reads h)
  · obtain ⟨rest', hc, h⟩ := bind_eq_ok.mp h
    obtain ⟨hreads, -⟩ := component_reads (fun _ => isIriChar_of_isHostChar) hc
    refine hreads.trans ?_
    split at h
    · exact .cons (by decide) (port_reads h)
    · obtain rfl := Except.ok.inj h
      exact .refl _

theorem authority_reads {cs rest : List Char} (h : authority cs = .ok rest) : Reads cs rest := by
  obtain ⟨rest', hc, h⟩ := bind_eq_ok.mp h
  obtain ⟨hreads, -⟩ := component_reads (fun _ => isIriChar_of_isUserChar) hc
  split at h
  · exact hreads.trans (.cons (by decide) (host_reads h))
  · exact host_reads h

/-! ## IRIs -/

theorem hierarchy_reads {cs : List Char} (h : hierarchy cs = .ok ()) : Reads cs [] := by
  unfold hierarchy at h
  split at h
  · obtain ⟨rest, ha, h⟩ := bind_eq_ok.mp h
    exact .cons (by decide) (.cons (by decide) ((authority_reads ha).trans (path_reads h)))
  · exact path_reads h

/-- A scheme begins with a letter. -/
theorem scheme?_reads {cs scheme rest : List Char} (h : scheme? cs = some (scheme, rest)) :
    Reads cs rest ∧ ∃ c more, cs = c :: more ∧ c.isAlpha = true := by
  unfold scheme? at h
  split at h
  · next c more =>
    split at h
    · next hc =>
      split at h
      · next hdrop =>
        cases h
        refine ⟨?_, c, more, rfl, hc⟩
        rw [← List.takeWhile_append_dropWhile (p := isSchemeChar) (l := c :: more), hdrop]
        refine (Reads.append (fun d hd => isIriChar_of_isSchemeChar ?_) _).trans
          (.cons (by decide) (.refl _))
        exact List.all_eq_true.mp List.all_takeWhile d hd
      · simp at h
    · simp at h
  · simp at h

/-- **The characters of an IRI.** It begins with a letter and holds characters of IRIs only. -/
theorem checkAbsolute_chars {cs : List Char} (h : checkAbsolute cs = .ok ()) :
    (∃ c more, cs = c :: more ∧ c.isAlpha = true) ∧ ∀ c ∈ cs, isIriChar c = true := by
  obtain ⟨_, hreference, hscheme⟩ := bind_eq_ok.mp h
  split at hscheme
  · simp at hscheme
  next hs =>
  unfold checkReference at hreference
  cases hscheme? : scheme? cs with
  | none => simp [hscheme?] at hs
  | some parts =>
    rw [hscheme?] at hreference
    obtain ⟨hreads, hfirst⟩ := scheme?_reads hscheme?
    exact ⟨hfirst, (hreads.trans (hierarchy_reads hreference)).chars⟩

end LinkedQueries.Iri
