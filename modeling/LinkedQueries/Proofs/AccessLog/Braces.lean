import LinkedQueries.Proofs.AccessLog.QueryText

/-!
# Escaped braces read the same

The escape of a brace begins with a percent sign, which is no digit, so it does not complete a
percent sign or half an escape that stands in front of it, just as the brace itself would not. Read
as a whole it denotes the brace. So a path with its braces escaped denotes what the path denotes,
faulty escapes included, and its separators are where they were.

* `escapeByte`: the bytes that take the place of one.

Results:
* `encode_escapeBraces`: the bytes of a path with its braces escaped.
* `leadingPair?_escaped`: a pair of digits at the beginning is one before and after.
* `percentDecode_escaped`: bytes with the braces among them escaped denote the same.
* **`escapeBraces_transparent`**: what is left of braces, what is denoted and what is separated.
-/

namespace LinkedQueries.AccessLog

/-! ## Characters -/

/-- No brace is left. -/
theorem ne_of_mem_escapeBraces {cs : List Char} {d : Char} (h : d ∈ escapeBraces cs) :
    d ≠ '\x7b' ∧ d ≠ '\x7d' := by
  obtain ⟨c, -, hd⟩ := List.mem_flatMap.mp h
  rcases mem_escapeBrace hd with ⟨rfl, hbraces⟩ | hd
  · exact hbraces
  · constructor <;> rintro rfl <;> exact absurd hd (by decide)

/-- Without braces there is nothing to escape. -/
theorem escapeBraces_of_ne {cs : List Char} (h : ∀ c ∈ cs, c ≠ '\x7b' ∧ c ≠ '\x7d') :
    escapeBraces cs = cs := by
  unfold escapeBraces
  rw [List.flatMap_congr fun c hc => escapeBrace_of_ne (h c hc).1 (h c hc).2]
  exact List.flatMap_singleton' cs

/-! ## Bytes -/

/-- A byte of a text is a brace. -/
abbrev IsBrace (b : UInt8) : Prop := b = 0x7B ∨ b = 0x7D

/-- What takes the place of a byte: the escape, if it is a brace. -/
def escapeByte (b : UInt8) : List UInt8 :=
  if IsBrace b then Utf8.encode (percentEscape b) else [b]

theorem escapeByte_of_not {b : UInt8} (h : ¬ IsBrace b) : escapeByte b = [b] := if_neg h

/-- The escape of a brace denotes the brace. -/
theorem escapeByte_of_isBrace {b : UInt8} (h : IsBrace b) :
    ∃ high low, hexPair? high low = some b.toNat ∧ escapeByte b = escapeBytes high low := by
  obtain ⟨high, low, hpair, hbytes⟩ := encode_percentEscape b
  exact ⟨high, low, hpair, (if_pos h).trans hbytes⟩

theorem flatMap_escapeByte_of_not {bytes : List UInt8} (h : ∀ b ∈ bytes, ¬ IsBrace b) :
    bytes.flatMap escapeByte = bytes := by
  rw [List.flatMap_congr fun b hb => escapeByte_of_not (h b hb)]
  exact List.flatMap_singleton' bytes

/-- The bytes of a character are braces only if the character is one. -/
theorem not_isBrace_of_mem_encodeChar {c : Char} (hopen : c ≠ '\x7b') (hclose : c ≠ '\x7d') :
    ∀ b ∈ String.utf8EncodeChar c, ¬ IsBrace b := by
  intro b hb hbrace
  have hsmall : b.toNat < 128 := by rcases hbrace with rfl | rfl <;> decide
  have hchar := Utf8.ofNat_of_mem_encodeChar hsmall hb
  rcases hbrace with rfl | rfl
  · exact hopen hchar.symm
  · exact hclose hchar.symm

theorem encode_escapeBrace (c : Char) :
    Utf8.encode (escapeBrace c) = (String.utf8EncodeChar c).flatMap escapeByte := by
  by_cases hopen : c = '\x7b'
  · subst hopen
    decide
  by_cases hclose : c = '\x7d'
  · subst hclose
    decide
  rw [escapeBrace_of_ne hopen hclose, Utf8.encode_cons, Utf8.encode_nil, List.append_nil,
    flatMap_escapeByte_of_not (not_isBrace_of_mem_encodeChar hopen hclose)]

/-- **The bytes of a path** with its braces escaped are those of the path, with the braces among
them escaped. -/
theorem encode_escapeBraces (cs : List Char) :
    Utf8.encode (escapeBraces cs) = (Utf8.encode cs).flatMap escapeByte := by
  unfold escapeBraces Utf8.encode
  rw [List.flatMap_assoc, List.flatMap_assoc]
  exact List.flatMap_congr fun c _ => encode_escapeBrace c

/-! ## What bytes denote -/

/-- The number that two digits at the beginning denote. -/
def leadingPair? : List UInt8 → Option Nat
  | high :: low :: _ => hexPair? (Char.ofNat high.toNat) (Char.ofNat low.toNat)
  | _ => none

/-- A percent sign is an escape with the two digits behind it, and stands for itself without
them. -/
theorem percentDecode_percent (bytes : List UInt8) : percentDecode (0x25 :: bytes) =
    match leadingPair? bytes with
    | some n => UInt8.ofNat n :: percentDecode (bytes.drop 2)
    | none => 0x25 :: percentDecode bytes := by
  match bytes with
  | [] => rfl
  | [_] => rfl
  | high :: low :: rest =>
    rw [percentDecode, if_pos (beq_self_eq_true _)]
    rfl

/-- A byte of a text is a digit of an escape. -/
abbrev IsHexDigit (b : UInt8) : Prop := (hexDigit? (Char.ofNat b.toNat)).isSome = true

theorem not_isBrace_of_isHexDigit {b : UInt8} (h : IsHexDigit b) : ¬ IsBrace b := by
  rintro (rfl | rfl) <;> exact absurd h (by decide)

/-- What takes the place of a byte begins with a digit only if the byte is one. -/
theorem eq_of_escapeByte {b d : UInt8} {bytes rest : List UInt8} (hd : IsHexDigit d)
    (h : escapeByte b ++ bytes = d :: rest) : b = d ∧ bytes = rest := by
  by_cases hb : IsBrace b
  · obtain ⟨high, low, -, hbytes⟩ := escapeByte_of_isBrace hb
    rw [hbytes] at h
    obtain ⟨rfl, -⟩ := List.cons.inj h
    exact absurd hd (by decide)
  · rw [escapeByte_of_not hb] at h
    exact List.cons.inj h

theorem flatMap_escapeByte_digits {high low : UInt8} (hhigh : IsHexDigit high)
    (hlow : IsHexDigit low) (rest : List UInt8) :
    (high :: low :: rest).flatMap escapeByte = high :: low :: rest.flatMap escapeByte := by
  rw [List.flatMap_cons, List.flatMap_cons, escapeByte_of_not (not_isBrace_of_isHexDigit hhigh),
    escapeByte_of_not (not_isBrace_of_isHexDigit hlow)]
  rfl

theorem leadingPair?_eq_some {bytes : List UInt8} {n : Nat} :
    leadingPair? bytes = some n ↔ ∃ high low rest, bytes = high :: low :: rest ∧
      IsHexDigit high ∧ IsHexDigit low ∧
      hexPair? (Char.ofNat high.toNat) (Char.ofNat low.toNat) = some n := by
  constructor
  · intro h
    match bytes with
    | high :: low :: rest =>
      obtain ⟨hhigh, hlow⟩ := hexPair?_eq_some h
      exact ⟨high, low, rest, rfl, hhigh, hlow, h⟩
  · rintro ⟨high, low, rest, rfl, -, -, h⟩
    exact h

/-- **A pair of digits at the beginning** is one before and after the escaping. -/
theorem leadingPair?_escaped (bytes : List UInt8) :
    leadingPair? (bytes.flatMap escapeByte) = leadingPair? bytes := by
  refine Option.ext fun n => ?_
  rw [leadingPair?_eq_some, leadingPair?_eq_some]
  constructor
  · rintro ⟨high, low, rest, heq, hhigh, hlow, hpair⟩
    match bytes with
    | [] => cases heq
    | [b] =>
      obtain ⟨-, hnil⟩ := eq_of_escapeByte hhigh heq
      cases hnil
    | b :: b' :: bytes =>
      obtain ⟨rfl, htail⟩ := eq_of_escapeByte hhigh heq
      obtain ⟨rfl, -⟩ := eq_of_escapeByte hlow htail
      exact ⟨b, b', bytes, rfl, hhigh, hlow, hpair⟩
  · rintro ⟨high, low, rest, rfl, hhigh, hlow, hpair⟩
    refine ⟨high, low, rest.flatMap escapeByte, ?_, hhigh, hlow, hpair⟩
    exact flatMap_escapeByte_digits hhigh hlow rest

/-- What stands behind a pair of digits is escaped on its own. -/
theorem drop_escaped {bytes : List UInt8} {n : Nat} (h : leadingPair? bytes = some n) :
    (bytes.flatMap escapeByte).drop 2 = (bytes.drop 2).flatMap escapeByte := by
  obtain ⟨high, low, rest, rfl, hhigh, hlow, -⟩ := leadingPair?_eq_some.mp h
  rw [flatMap_escapeByte_digits hhigh hlow]
  rfl

/-- **Bytes with the braces escaped** denote what the bytes denote, by induction on the bytes, two
more at an escape. -/
theorem percentDecode_escaped : ∀ bytes : List UInt8,
    percentDecode (bytes.flatMap escapeByte) = percentDecode bytes
  | [] => rfl
  | b :: bytes => by
    rw [List.flatMap_cons]
    by_cases hbrace : IsBrace b
    · have hpercent : b ≠ 0x25 := by
        rintro rfl
        exact absurd hbrace (by decide)
      obtain ⟨high, low, hpair, hescape⟩ := escapeByte_of_isBrace hbrace
      rw [hescape, percentDecode_escape hpair, percentDecode_cons hpercent,
        percentDecode_escaped bytes]
    rw [escapeByte_of_not hbrace, List.singleton_append]
    by_cases hpercent : b = 0x25
    · subst hpercent
      rw [percentDecode_percent, percentDecode_percent, leadingPair?_escaped]
      cases hpair : leadingPair? bytes with
      | some n => rw [drop_escaped hpair, percentDecode_escaped (bytes.drop 2)]
      | none => rw [percentDecode_escaped bytes]
    · rw [percentDecode_cons hpercent, percentDecode_cons hpercent, percentDecode_escaped bytes]
termination_by bytes => bytes.length
decreasing_by all_goals simp only [List.length_drop, List.length_cons]; omega

-- a brace behind a percent sign, and one behind half an escape
example : percentDecode (Utf8.encode (escapeBraces ['%', '\x7b', '%', '7', '\x7d'])) =
    Utf8.encode ['%', '\x7b', '%', '7', '\x7d'] := by decide

/-- No plus sign comes with an escape, and no brace is one. -/
theorem plusToSpace_escaped (bytes : List UInt8) :
    plusToSpace (bytes.flatMap escapeByte) = (plusToSpace bytes).flatMap escapeByte := by
  unfold plusToSpace
  rw [List.map_flatMap, List.flatMap_map]
  refine List.flatMap_congr fun b _ => ?_
  by_cases hbrace : IsBrace b
  · rcases hbrace with rfl | rfl <;> decide
  · have hread : ¬ IsBrace (if b == 0x2B then 0x20 else b) := by
      split
      · decide
      · exact hbrace
    rw [escapeByte_of_not hbrace, escapeByte_of_not hread]
    rfl

/-! ## What separators separate -/

/-- The characters at which an address is split: in front of its query and its fragment, and within
the query between the parameters and behind their names. -/
def separators : List Char := ['?', '#', '&', '=']

theorem escapeBrace_separator {c : Char} (h : c ∈ separators) : escapeBrace c = [c] := by
  refine escapeBrace_of_ne ?_ ?_ <;> rintro rfl <;> exact absurd h (by decide)

/-- No separator comes with an escape. -/
theorem eq_of_mem_escapeBrace {c s : Char} (hs : s ∈ separators) (h : s ∈ escapeBrace c) :
    s = c := by
  rcases mem_escapeBrace h with ⟨heq, -⟩ | hescape
  · exact heq
  · simp only [separators, List.mem_cons, List.not_mem_nil, or_false] at hs
    rcases hs with rfl | rfl | rfl | rfl <;> exact absurd hescape (by decide)

/-- **Escaping braces is transparent.** No brace is left in a path, so escaping once more changes
nothing. The path denotes the same bytes as before, whether or not a plus sign is a space, and also
where a brace stands behind a percent sign or behind half an escape. The places of each separator
are those from before, what stands before and behind them escaped on its own; and so are the pieces
between separators of any kinds. -/
theorem escapeBraces_transparent (path : List Char) :
    (∀ c ∈ escapeBraces path, c ≠ '\x7b' ∧ c ≠ '\x7d') ∧
    escapeBraces (escapeBraces path) = escapeBraces path ∧
    percentDecode (Utf8.encode (escapeBraces path)) = percentDecode (Utf8.encode path) ∧
    percentDecode (plusToSpace (Utf8.encode (escapeBraces path))) =
      percentDecode (plusToSpace (Utf8.encode path)) ∧
    (∀ s ∈ separators, Set.BijOn (Prod.map escapeBraces escapeBraces)
      (cuts s path) (cuts s (escapeBraces path))) ∧
    ∀ isSeparator : Char → Bool, (∀ c, isSeparator c = true → c ∈ separators) →
      splitWhere isSeparator (escapeBraces path) =
        (splitWhere isSeparator path).map escapeBraces := by
  refine ⟨fun c => ne_of_mem_escapeBraces, escapeBraces_of_ne fun c => ne_of_mem_escapeBraces,
    ?_, ?_, fun s hs => ?_, fun isSeparator hsep => ?_⟩
  · rw [encode_escapeBraces, percentDecode_escaped]
  · rw [encode_escapeBraces, plusToSpace_escaped, percentDecode_escaped]
  · exact bijOn_cuts (escapeBrace_separator hs)
      (fun c hne h => hne (eq_of_mem_escapeBrace hs h).symm) path
  · refine splitWhere_flatMap isSeparator (fun c hc => escapeBrace_separator (hsep c hc))
      (fun c hc s hs hs' => ?_) path
    rw [eq_of_mem_escapeBrace (hsep s hs') hs] at hs'
    exact hc hs'

end LinkedQueries.AccessLog
