import LinkedQueries.Proofs.Rdf.GraphKey

/-!
# Every term names a graph

An IRI and a blank node are the names of their graphs. The key of a literal or of a quoted triple is
again an IRI: form-encoding leaves only characters that a path may hold.

Results:
* `checkAbsolute_formEncode`: a scheme with a form-encoded text is an IRI.
* **`Term.graphName_wellFormed`**: the name of the graph of a well-formed term is legal, so it is
  found again from the key.
-/

namespace LinkedQueries

namespace Iri

/-! ## Form-encoded paths -/

theorem component_plain {allowed ends : Char → Bool} {c : Char} (hends : ends c = false)
    (hpercent : c ≠ '%') (hallowed : allowed c = true) (rest : List Char) :
    component allowed ends (c :: rest) = component allowed ends rest := by
  rw [component.eq_def]
  simp [hends, hpercent, hallowed]

theorem component_escape {allowed ends : Char → Bool} (hends : ends '%' = false) {high low : Char}
    {n : Nat} (h : hexPair? high low = some n) (rest : List Char) :
    component allowed ends ('%' :: high :: low :: rest) = component allowed ends rest := by
  rw [component.eq_def]
  simp [hends, h]

/-- The bytes that form-encoding leaves as they are may stand in a path, and separate nothing. -/
theorem isFormPlain_char {b : UInt8} (h : isFormPlain b = true) :
    isPathOrSlash (Char.ofNat b.toNat) = true ∧ Char.ofNat b.toNat ≠ '%' ∧
      Char.ofNat b.toNat ≠ '/' ∧
      (Char.ofNat b.toNat == '?' || Char.ofNat b.toNat == '#') = false := by
  simp only [isFormPlain, Bool.and_eq_true, decide_eq_true_eq] at h
  have hb : b.toNat < 128 := UInt8.lt_iff_toNat_lt.mp h.1
  have hall : ∀ n < 128, ((Char.ofNat n).isAlphanum || Char.ofNat n == '*' || Char.ofNat n == '-' ||
      Char.ofNat n == '.' || Char.ofNat n == '_') = true →
      isPathOrSlash (Char.ofNat n) = true ∧ Char.ofNat n ≠ '%' ∧ Char.ofNat n ≠ '/' ∧
        (Char.ofNat n == '?' || Char.ofNat n == '#') = false := by decide +kernel
  exact hall b.toNat hb h.2

/-- A path may hold what form-encoding makes of a byte. -/
theorem component_formEncodeByte (b : UInt8) (rest : List Char) :
    component isPathOrSlash (fun c => c == '?' || c == '#') (formEncodeByte b ++ rest) =
      component isPathOrSlash (fun c => c == '?' || c == '#') rest := by
  unfold formEncodeByte
  split
  · next h =>
    obtain ⟨hpath, hpercent, -, hends⟩ := isFormPlain_char h
    exact component_plain hends hpercent hpath rest
  split
  · exact component_plain (by decide) (by decide) (by decide) rest
  · exact component_escape (by decide) (hexPair?_of_digits b.toNat_lt (.inl rfl) (.inl rfl)) rest

theorem path_formEncode (cs : List Char) : path (formEncode cs) = .ok () := by
  have hcomponent : ∀ bytes : List UInt8,
      component isPathOrSlash (fun c => c == '?' || c == '#') (bytes.flatMap formEncodeByte) =
        .ok [] := by
    intro bytes
    induction bytes with
    | nil => rfl
    | cons b bytes ih => rw [List.flatMap_cons, component_formEncodeByte, ih]
  unfold path formEncode
  rw [hcomponent]
  rfl

/-- What form-encoding makes of a byte does not begin with a slash. -/
theorem formEncodeByte_head (b : UInt8) : ∃ c more, formEncodeByte b = c :: more ∧ c ≠ '/' := by
  unfold formEncodeByte
  split
  · next h => exact ⟨_, _, rfl, (isFormPlain_char h).2.2.1⟩
  split
  · exact ⟨_, _, rfl, by decide⟩
  · exact ⟨_, _, rfl, by decide⟩

/-- A form-encoded text is a path rather than an authority. -/
theorem hierarchy_formEncode (cs : List Char) : hierarchy (formEncode cs) = .ok () := by
  have hslash : ∀ rest, formEncode cs ≠ '/' :: '/' :: rest := by
    intro rest h
    unfold formEncode at h
    cases hbytes : Utf8.encode cs with
    | nil => simp [hbytes] at h
    | cons b bytes =>
      obtain ⟨c, more, hb, hc⟩ := formEncodeByte_head b
      rw [hbytes, List.flatMap_cons, hb] at h
      exact hc (List.cons.inj h).1
  unfold hierarchy
  split
  · next heq => exact absurd heq (hslash _)
  · exact path_formEncode cs

/-- A scheme ends at the first colon. -/
theorem scheme?_append {c : Char} (hc : c.isAlpha = true) {more : List Char}
    (hmore : (c :: more).all isSchemeChar = true) (rest : List Char) :
    scheme? (c :: more ++ ':' :: rest) = some (c :: more, rest) := by
  rw [List.all_eq_true] at hmore
  have htake : (c :: more ++ ':' :: rest).takeWhile isSchemeChar = c :: more := by
    rw [List.takeWhile_append_of_pos hmore, List.takeWhile_cons_of_neg (by decide),
      List.append_nil]
  have hdrop : (c :: more ++ ':' :: rest).dropWhile isSchemeChar = ':' :: rest := by
    rw [List.dropWhile_append_of_pos hmore, List.dropWhile_cons_of_neg (by decide)]
  unfold scheme?
  rw [List.cons_append] at htake hdrop ⊢
  simp only [hc, if_true, htake, hdrop]

/-- **A scheme with a form-encoded text** is an IRI. -/
theorem checkAbsolute_formEncode {c : Char} (hc : c.isAlpha = true) {more : List Char}
    (hmore : (c :: more).all isSchemeChar = true) (cs : List Char) :
    checkAbsolute (c :: more ++ ':' :: formEncode cs) = .ok () := by
  have hscheme := scheme?_append hc hmore (formEncode cs)
  unfold checkAbsolute checkReference
  rw [hscheme]
  dsimp only
  rw [hierarchy_formEncode]
  rfl

end Iri

/-! ## The graph of a term -/

/-- The name of the graph that a term names. -/
def Term.graphName : Term → GraphName
  | .blank l => .blank l
  | t => .iri t.graphKey

theorem Term.key_graphName (t : Term) : t.graphName.key = t.graphKey := by
  cases t <;> rfl

/-- **The name of the graph** of a well-formed term is legal. -/
theorem Term.graphName_wellFormed {t : Term} (h : t.WellFormed) : t.graphName.WellFormed := by
  cases t with
  | iri i => exact h
  | blank l => exact h
  | literal l =>
    show Iri.checkAbsolute (Term.literal l).graphKey.toList = .ok ()
    rw [toList_graphKey_literal]
    exact @Iri.checkAbsolute_formEncode 'x' (by decide) "-literal".toList (by decide) l.chars
  | triple s p o =>
    show Iri.checkAbsolute (Term.triple s p o).graphKey.toList = .ok ()
    rw [toList_graphKey_triple]
    exact @Iri.checkAbsolute_formEncode 'x' (by decide) "-rdfstar".toList (by decide)
      (Term.triple s p o).chars

end LinkedQueries
