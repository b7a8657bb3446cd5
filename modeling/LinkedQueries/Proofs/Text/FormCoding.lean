import LinkedQueries.Proofs.Text.Utf8
import LinkedQueries.Text.Percent

/-!
# Form coding

Bytes have many spellings in a form: a byte may be escaped, a space may be a plus sign, and all
bytes but the percent sign and the plus sign may stand for themselves. Form decoding reads every
spelling; form encoding is one of them.

Results:
* `Spells.percentDecode_eq`: every spelling of some bytes denotes them.
* **`formEncode_injective`**: no two texts are encoded alike.
-/

namespace LinkedQueries

/-! ## Hexadecimal digits -/

theorem hexDigit?_upperHex : ∀ {n : Nat}, n < 16 → hexDigit? (upperHex n) = some n := by decide

theorem hexDigit?_lowerHex : ∀ {n : Nat}, n < 16 → hexDigit? (lowerHex n) = some n := by decide

/-- What holds of the 128 characters of ASCII. -/
theorem forall_ascii {P : Char → Prop} (h : ∀ n < 128, P (Char.ofNat n)) {c : Char}
    (hc : c.toNat < 128) : P c := by
  have := h c.toNat hc
  rwa [Char.ofNat_toNat] at this

theorem isAscii_of_hexDigit? {c : Char} (h : (hexDigit? c).isSome = true) : c.toNat < 128 := by
  have hle : ∀ {d : Char}, c ≤ d → c.toNat ≤ d.toNat := fun h => h
  unfold hexDigit? at h
  split at h
  · next hc => exact Nat.lt_of_le_of_lt (hle hc.2) (by decide)
  split at h
  · next hc => exact Nat.lt_of_le_of_lt (hle hc.2) (by decide)
  split at h
  · next hc => exact Nat.lt_of_le_of_lt (hle hc.2) (by decide)
  · exact absurd h (by simp)

/-- Hexadecimal digits are letters and decimal digits. -/
theorem isAlphanum_of_hexDigit? {c : Char} (h : (hexDigit? c).isSome = true) :
    c.isAlphanum = true :=
  @forall_ascii (fun c => (hexDigit? c).isSome = true → c.isAlphanum = true) (by decide) c
    (isAscii_of_hexDigit? h) h

theorem hexPair?_eq_some {high low : Char} {n : Nat} (h : hexPair? high low = some n) :
    (hexDigit? high).isSome = true ∧ (hexDigit? low).isSome = true := by
  unfold hexPair? at h
  cases hh : hexDigit? high <;> cases hl : hexDigit? low <;> simp_all

/-- Two digits of either case denote the number that they are the digits of. -/
theorem hexPair?_of_digits {n : Nat} (hn : n < 256) {high low : Char}
    (hh : high = upperHex (n / 16) ∨ high = lowerHex (n / 16))
    (hl : low = upperHex (n % 16) ∨ low = lowerHex (n % 16)) : hexPair? high low = some n := by
  have hhigh : hexDigit? high = some (n / 16) := by
    rcases hh with rfl | rfl
    · exact hexDigit?_upperHex (by omega)
    · exact hexDigit?_lowerHex (by omega)
  have hlow : hexDigit? low = some (n % 16) := by
    rcases hl with rfl | rfl
    · exact hexDigit?_upperHex (by omega)
    · exact hexDigit?_lowerHex (by omega)
  unfold hexPair?
  rw [hhigh, hlow]
  exact congrArg some (Nat.div_add_mod n 16)

/-! ## Spellings -/

/-- The bytes of an escape. -/
def escapeBytes (high low : Char) : List UInt8 :=
  [0x25, UInt8.ofNat high.toNat, UInt8.ofNat low.toNat]

/-- A spelling of some bytes: all but the percent sign and the plus sign may stand for themselves, a
space may be a plus sign, and any byte may be escaped. -/
inductive Spells : List UInt8 → List UInt8 → Prop where
  | nil : Spells [] []
  | plain {b : UInt8} {spelling bytes : List UInt8} (percent : b ≠ 0x25) (plus : b ≠ 0x2B) :
      Spells spelling bytes → Spells (b :: spelling) (b :: bytes)
  | plus {spelling bytes : List UInt8} :
      Spells spelling bytes → Spells (0x2B :: spelling) (0x20 :: bytes)
  | escape {high low : Char} {b : UInt8} {spelling bytes : List UInt8}
      (digits : hexPair? high low = some b.toNat) :
      Spells spelling bytes → Spells (escapeBytes high low ++ spelling) (b :: bytes)

theorem Spells.append {s s' bs bs' : List UInt8} (h : Spells s bs) (h' : Spells s' bs') :
    Spells (s ++ s') (bs ++ bs') := by
  induction h with
  | nil => exact h'
  | plain hp hq _ ih => exact .plain hp hq ih
  | plus _ ih => exact .plus ih
  | @escape high low b s bs hd _ ih =>
    rw [List.append_assoc]
    exact .escape hd ih

/-- Without percent and plus signs, bytes spell themselves. -/
theorem spells_self : ∀ {bytes : List UInt8}, (∀ b ∈ bytes, b ≠ 0x25 ∧ b ≠ 0x2B) →
    Spells bytes bytes
  | [], _ => .nil
  | b :: _, h => .plain (h b List.mem_cons_self).1 (h b List.mem_cons_self).2
      (spells_self fun b' hb => h b' (List.mem_cons_of_mem b hb))

/-! ### Decoding -/

theorem percentDecode_cons {b : UInt8} (h : b ≠ 0x25) :
    ∀ bytes : List UInt8, percentDecode (b :: bytes) = b :: percentDecode bytes
  | [] => rfl
  | [_] => rfl
  | _ :: _ :: _ => by rw [percentDecode, if_neg (by simpa using h)]

/-- A digit is a character of ASCII, as which it is found again. -/
theorem ofNat_digit {c : Char} (h : (hexDigit? c).isSome = true) :
    Char.ofNat (UInt8.ofNat c.toNat).toNat = c := by
  have hc := isAscii_of_hexDigit? h
  rw [Utf8.toNat_ofNat (by omega), Char.ofNat_toNat]

theorem percentDecode_escape {high low : Char} {b : UInt8} (h : hexPair? high low = some b.toNat)
    (bytes : List UInt8) :
    percentDecode (escapeBytes high low ++ bytes) = b :: percentDecode bytes := by
  obtain ⟨hh, hl⟩ := hexPair?_eq_some h
  show percentDecode (0x25 :: UInt8.ofNat high.toNat :: UInt8.ofNat low.toNat :: bytes) = _
  rw [percentDecode, if_pos (beq_self_eq_true _), ofNat_digit hh, ofNat_digit hl, h]
  simp only [UInt8.ofNat_toNat]

/-- No digit is a plus sign. -/
theorem plusToSpace_escape {high low : Char} {n : Nat} (h : hexPair? high low = some n) :
    plusToSpace (escapeBytes high low) = escapeBytes high low := by
  have hne : ∀ {c : Char}, (hexDigit? c).isSome = true → UInt8.ofNat c.toNat ≠ 0x2B :=
    fun {c} hc => @forall_ascii
      (fun c => (hexDigit? c).isSome = true → UInt8.ofNat c.toNat ≠ 0x2B) (by decide) c
      (isAscii_of_hexDigit? hc) hc
  obtain ⟨hh, hl⟩ := hexPair?_eq_some h
  simp [plusToSpace, escapeBytes, hne hh, hne hl]

/-- **Every spelling** of some bytes denotes them. -/
theorem Spells.percentDecode_eq {spelling bytes : List UInt8} (h : Spells spelling bytes) :
    percentDecode (plusToSpace spelling) = bytes := by
  induction h with
  | nil => rfl
  | @plain b s bs hp hq _ ih =>
    have hb : plusToSpace (b :: s) = b :: plusToSpace s := by
      unfold plusToSpace
      rw [List.map_cons, if_neg (by simpa using hq)]
    rw [hb, percentDecode_cons hp, ih]
  | @plus s bs _ ih =>
    have hb : plusToSpace (0x2B :: s) = 0x20 :: plusToSpace s := rfl
    rw [hb, percentDecode_cons (by decide), ih]
  | @escape high low b s bs hd _ ih =>
    have hb : plusToSpace (escapeBytes high low ++ s) =
        plusToSpace (escapeBytes high low) ++ plusToSpace s := List.map_append
    rw [hb, plusToSpace_escape hd, percentDecode_escape hd, ih]

/-- Every spelling of the bytes of a text denotes the text. -/
theorem Spells.formDecode_eq {spelling : List UInt8} {cs : List Char}
    (h : Spells spelling (Utf8.encode cs)) : formDecode spelling = cs := by
  unfold formDecode
  rw [h.percentDecode_eq, Utf8.lossy_encode]

/-! ### Encoding -/

theorem encode_escape {high low : Char} {n : Nat} (h : hexPair? high low = some n) :
    Utf8.encode ['%', high, low] = escapeBytes high low := by
  obtain ⟨hh, hl⟩ := hexPair?_eq_some h
  have hpercent : String.utf8EncodeChar '%' = [0x25] := rfl
  simp [escapeBytes, hpercent, Utf8.encodeChar_of_ascii (isAscii_of_hexDigit? hh),
    Utf8.encodeChar_of_ascii (isAscii_of_hexDigit? hl)]

theorem encode_percentEscape (b : UInt8) :
    ∃ high low, hexPair? high low = some b.toNat ∧
      Utf8.encode (percentEscape b) = escapeBytes high low := by
  have hd := hexPair?_of_digits b.toNat_lt (.inl rfl) (.inl rfl)
  exact ⟨_, _, hd, encode_escape hd⟩

theorem spells_percentEscape (b : UInt8) : Spells (Utf8.encode (percentEscape b)) [b] := by
  obtain ⟨high, low, hd, he⟩ := encode_percentEscape b
  rw [he, ← List.append_nil (escapeBytes high low)]
  exact .escape hd .nil

theorem spells_formEncodeByte (b : UInt8) : Spells (Utf8.encode (formEncodeByte b)) [b] := by
  unfold formEncodeByte
  split
  · next h =>
    have hb : b.toNat < 128 := by
      simp only [isFormPlain, Bool.and_eq_true, decide_eq_true_eq] at h
      exact UInt8.lt_iff_toNat_lt.mp h.1
    have hc : (Char.ofNat b.toNat).toNat = b.toNat := by
      unfold Char.ofNat
      rw [dif_pos (.inl (by omega))]
      rfl
    have he : Utf8.encode [Char.ofNat b.toNat] = [b] := by
      rw [Utf8.encode_cons, Utf8.encodeChar_of_ascii (by omega), hc, UInt8.ofNat_toNat]
      rfl
    rw [he]
    have hne : b ≠ 0x25 ∧ b ≠ 0x2B := by
      constructor <;> rintro rfl <;> exact absurd h (by decide)
    exact .plain hne.1 hne.2 .nil
  split
  · next h =>
    rw [beq_iff_eq.mp h]
    exact .plus .nil
  · exact spells_percentEscape b

/-- Form encoding spells the bytes of a text. -/
theorem spells_formEncode (cs : List Char) :
    Spells (Utf8.encode (formEncode cs)) (Utf8.encode cs) := by
  unfold formEncode
  induction Utf8.encode cs with
  | nil => exact .nil
  | cons b bytes ih =>
    rw [List.flatMap_cons, Utf8.encode_append]
    exact (spells_formEncodeByte b).append ih

/-- **Form encoding is injective.** -/
theorem formEncode_injective {xs ys : List Char} (h : formEncode xs = formEncode ys) : xs = ys := by
  rw [← (spells_formEncode xs).formDecode_eq, h, (spells_formEncode ys).formDecode_eq]

end LinkedQueries
