import LinkedQueries.Text.Utf8
import Mathlib.Data.List.Basic

/-!
# Texts come back from their bytes

Results:
* `decode_encodeChar`: the bytes of a character are read as that character and nothing else.
* **`lossy_encode`**: a text is what its bytes denote; hence no two texts have the same bytes.
* `encodeChar_of_step`: bytes that are read as a character are the bytes of that character.
* **`strict?_eq_some_iff`**: what is read strictly are the bytes of texts, and nothing else.
-/

namespace LinkedQueries.Utf8

/-! ## Continuation bytes -/

theorem toNat_ofNat {n : Nat} (h : n < 256) : (UInt8.ofNat n).toNat = n :=
  UInt8.toNat_ofNat_of_lt' h

theorem isContinuation_ofNat {n : Nat} (h : n < 64) :
    isContinuation (UInt8.ofNat (n + 128)) = true := by
  have hn : (UInt8.ofNat (n + 128)).toNat = n + 128 := toNat_ofNat (by omega)
  have hlow : (0x80 : UInt8).toNat ≤ n + 128 := by simp
  have hhigh : n + 128 ≤ (0xBF : UInt8).toNat := by simp; omega
  rw [← hn, ← UInt8.le_iff_toNat_le] at hlow hhigh
  simp only [isContinuation, hlow, hhigh, decide_true, Bool.and_self]

/-- A continuation byte carries what was put into it. -/
theorem payload_ofNat {n : Nat} (h : n < 64) : payload (UInt8.ofNat (n + 128)) = n := by
  unfold payload
  rw [toNat_ofNat (by omega)]
  omega

/-- A continuation byte may come second, but for overlong forms, surrogates and what lies beyond the
last code point. -/
theorem isSecond_of {a b : UInt8} (hb : isContinuation b = true)
    (hE0 : a.toNat = 0xE0 → 0xA0 ≤ b.toNat) (hED : a.toNat = 0xED → b.toNat ≤ 0x9F)
    (hF0 : a.toNat = 0xF0 → 0x90 ≤ b.toNat) (hF4 : a.toNat = 0xF4 → b.toNat ≤ 0x8F) :
    isSecond a b = true := by
  have hb' := hb
  simp only [isContinuation, Bool.and_eq_true, decide_eq_true_eq] at hb'
  unfold isSecond
  split
  · next h => simpa [UInt8.le_iff_toNat_le, hb'.2] using hE0 (by rw [beq_iff_eq.1 h]; rfl)
  split
  · next h => simpa [UInt8.le_iff_toNat_le, hb'.1] using hED (by rw [beq_iff_eq.1 h]; rfl)
  split
  · next h => simpa [UInt8.le_iff_toNat_le, hb'.2] using hF0 (by rw [beq_iff_eq.1 h]; rfl)
  split
  · next h => simpa [UInt8.le_iff_toNat_le, hb'.1] using hF4 (by rw [beq_iff_eq.1 h]; rfl)
  · exact hb

/-! ## One character -/

theorem step_one {a : UInt8} (h : a.toNat < 0x80) (rest : List UInt8) :
    step a rest = (some (Char.ofNat a.toNat), 0) := by
  unfold step
  rw [if_pos (UInt8.lt_iff_toNat_lt.2 h)]

theorem step_two {a b : UInt8} (ha : 0xC2 ≤ a.toNat) (ha' : a.toNat ≤ 0xDF)
    (hb : isContinuation b = true) (rest : List UInt8) :
    step a (b :: rest) = (some (Char.ofNat ((a.toNat - 0xC0) * 0x40 + payload b)), 1) := by
  have h₁ : ¬ a.toNat < 0x80 := by omega
  simp [step, UInt8.lt_iff_toNat_lt, UInt8.le_iff_toNat_le, h₁, ha, ha', hb]

theorem step_three {a b c : UInt8} (ha : 0xE0 ≤ a.toNat) (ha' : a.toNat ≤ 0xEF)
    (hb : isSecond a b = true) (hc : isContinuation c = true) (rest : List UInt8) :
    step a (b :: c :: rest) =
      (some (Char.ofNat ((a.toNat - 0xE0) * 0x1000 + payload b * 0x40 + payload c)), 2) := by
  have h₁ : ¬ a.toNat < 0x80 := by omega
  have h₂ : ¬ a.toNat ≤ 0xDF := by omega
  simp [step, UInt8.lt_iff_toNat_lt, UInt8.le_iff_toNat_le, h₁, h₂, ha, ha', hb, hc]

theorem step_four {a b c d : UInt8} (ha : 0xF0 ≤ a.toNat) (ha' : a.toNat ≤ 0xF4)
    (hb : isSecond a b = true) (hc : isContinuation c = true) (hd : isContinuation d = true)
    (rest : List UInt8) :
    step a (b :: c :: d :: rest) =
      (some (Char.ofNat ((a.toNat - 0xF0) * 0x40000 + payload b * 0x1000 + payload c * 0x40 +
        payload d)), 3) := by
  have h₁ : ¬ a.toNat < 0x80 := by omega
  have h₂ : ¬ a.toNat ≤ 0xDF := by omega
  have h₃ : ¬ a.toNat ≤ 0xEF := by omega
  simp [step, UInt8.lt_iff_toNat_lt, UInt8.le_iff_toNat_le, h₁, h₂, h₃, ha, ha', hb, hc, hd]

/-- **One character.** The four cases are the numbers of bytes that a character can take. -/
theorem decode_encodeChar (c : Char) (rest : List UInt8) :
    decode (String.utf8EncodeChar c ++ rest) = some c :: decode rest := by
  have hvalid : c.val.toNat < 0xD800 ∨ 0xDFFF < c.val.toNat ∧ c.val.toNat < 0x110000 := c.valid
  have hc : Char.ofNat c.val.toNat = c := Char.ofNat_toNat c
  unfold String.utf8EncodeChar
  generalize c.val.toNat = v at hvalid hc ⊢
  dsimp only
  split
  · next h =>
    have ha : (UInt8.ofNat v).toNat = v := toNat_ofNat (by omega)
    rw [List.singleton_append, decode, step_one (by omega), ha, hc]
    rfl
  split
  · next h =>
    have ha : (UInt8.ofNat (v / 64 % 32 + 192)).toNat = v / 64 % 32 + 192 := toNat_ofNat (by omega)
    have hv : (v / 64 % 32 + 192 - 0xC0) * 0x40 + v % 64 = v := by omega
    rw [List.cons_append, List.singleton_append, decode,
      step_two (by omega) (by omega) (isContinuation_ofNat (by omega)), ha,
      payload_ofNat (by omega), hv, hc]
    rfl
  split
  · next h =>
    have ha : (UInt8.ofNat (v / 4096 % 16 + 224)).toNat = v / 4096 % 16 + 224 :=
      toNat_ofNat (by omega)
    have hb : (UInt8.ofNat (v / 64 % 64 + 128)).toNat = v / 64 % 64 + 128 := toNat_ofNat (by omega)
    have hsecond : isSecond (UInt8.ofNat (v / 4096 % 16 + 224)) (UInt8.ofNat (v / 64 % 64 + 128)) =
        true :=
      isSecond_of (isContinuation_ofNat (by omega)) (by omega) (by omega) (by omega) (by omega)
    have hv : (v / 4096 % 16 + 224 - 0xE0) * 0x1000 + v / 64 % 64 * 0x40 + v % 64 = v := by omega
    rw [List.cons_append, List.cons_append, List.singleton_append, decode,
      step_three (by omega) (by omega) hsecond (isContinuation_ofNat (by omega)), ha,
      payload_ofNat (by omega), payload_ofNat (by omega), hv, hc]
    rfl
  · next h =>
    have ha : (UInt8.ofNat (v / 262144 % 8 + 240)).toNat = v / 262144 % 8 + 240 :=
      toNat_ofNat (by omega)
    have hb : (UInt8.ofNat (v / 4096 % 64 + 128)).toNat = v / 4096 % 64 + 128 :=
      toNat_ofNat (by omega)
    have hsecond : isSecond (UInt8.ofNat (v / 262144 % 8 + 240))
        (UInt8.ofNat (v / 4096 % 64 + 128)) = true :=
      isSecond_of (isContinuation_ofNat (by omega)) (by omega) (by omega) (by omega) (by omega)
    have hv : (v / 262144 % 8 + 240 - 0xF0) * 0x40000 + v / 4096 % 64 * 0x1000 +
        v / 64 % 64 * 0x40 + v % 64 = v := by omega
    rw [List.cons_append, List.cons_append, List.cons_append, List.singleton_append, decode,
      step_four (by omega) (by omega) hsecond (isContinuation_ofNat (by omega))
        (isContinuation_ofNat (by omega)), ha, payload_ofNat (by omega), payload_ofNat (by omega),
      payload_ofNat (by omega), hv, hc]
    rfl

/-! ## Texts -/

/-- A character of ASCII is one byte. -/
theorem encodeChar_of_ascii {c : Char} (h : c.toNat < 128) :
    String.utf8EncodeChar c = [UInt8.ofNat c.toNat] := by
  have hc : c.val.toNat ≤ 127 := by rw [Char.toNat_val]; omega
  unfold String.utf8EncodeChar
  rw [if_pos hc, Char.toNat_val]

/-- The bytes of any other character are beyond ASCII. -/
theorem not_ascii_of_mem_encodeChar {c : Char} (h : 128 ≤ c.toNat) :
    ∀ b ∈ String.utf8EncodeChar c, 128 ≤ b.toNat := by
  rw [← Char.toNat_val] at h
  unfold String.utf8EncodeChar
  generalize c.val.toNat = v at h
  have hbyte : ∀ {n m : Nat}, 128 ≤ m → n + m < 256 → 128 ≤ (UInt8.ofNat (n + m)).toNat := by
    intro n m hm hn
    rw [toNat_ofNat hn]
    omega
  dsimp only
  rw [if_neg (by omega)]
  split
  · simp only [List.forall_mem_cons]
    exact ⟨hbyte (by omega) (by omega), hbyte (by omega) (by omega), by simp⟩
  split
  · simp only [List.forall_mem_cons]
    exact ⟨hbyte (by omega) (by omega), hbyte (by omega) (by omega), hbyte (by omega) (by omega),
      by simp⟩
  · simp only [List.forall_mem_cons]
    exact ⟨hbyte (by omega) (by omega), hbyte (by omega) (by omega), hbyte (by omega) (by omega),
      hbyte (by omega) (by omega), by simp⟩

/-- A byte of ASCII in a character is that character. -/
theorem ofNat_of_mem_encodeChar {c : Char} {b : UInt8} (hb : b.toNat < 128)
    (h : b ∈ String.utf8EncodeChar c) : Char.ofNat b.toNat = c := by
  have hascii : c.toNat < 128 := Nat.lt_of_not_le fun hbeyond => by
    have := not_ascii_of_mem_encodeChar hbeyond b h
    omega
  rw [encodeChar_of_ascii hascii, List.mem_singleton] at h
  rw [h, toNat_ofNat (by omega), Char.ofNat_toNat]

@[simp] theorem encode_nil : encode [] = [] := rfl

@[simp] theorem encode_cons (c : Char) (cs : List Char) :
    encode (c :: cs) = String.utf8EncodeChar c ++ encode cs := rfl

@[simp] theorem encode_append (xs ys : List Char) : encode (xs ++ ys) = encode xs ++ encode ys :=
  List.flatMap_append

theorem decode_encode (cs : List Char) : decode (encode cs) = cs.map some := by
  induction cs with
  | nil => rw [encode_nil, decode]; rfl
  | cons c cs ih => rw [encode_cons, decode_encodeChar, ih, List.map_cons]

/-- **A text is what its bytes denote.** -/
theorem lossy_encode (cs : List Char) : lossy (encode cs) = cs := by
  unfold lossy
  rw [decode_encode, List.map_map]
  exact List.map_id cs

/-! ## Bytes that are a text -/

theorem val_ofNat {n : Nat} (h : n.isValidChar) : (Char.ofNat n).val.toNat = n := by
  unfold Char.ofNat
  rw [dif_pos h]
  exact UInt32.toNat_ofNatLT

theorem ofNat_eq {b : UInt8} {n : Nat} (h : n = b.toNat) : UInt8.ofNat n = b :=
  h ▸ UInt8.ofNat_toNat

theorem isContinuation_iff {b : UInt8} :
    isContinuation b = true ↔ 0x80 ≤ b.toNat ∧ b.toNat ≤ 0xBF := by
  simp [isContinuation, UInt8.le_iff_toNat_le]

/-- A second byte is a continuation byte, and restricted behind four of the leading ones. -/
theorem isSecond_bounds {a b : UInt8} (h : isSecond a b = true) :
    0x80 ≤ b.toNat ∧ b.toNat ≤ 0xBF ∧ (a.toNat = 0xE0 → 0xA0 ≤ b.toNat) ∧
      (a.toNat = 0xED → b.toNat ≤ 0x9F) ∧ (a.toNat = 0xF0 → 0x90 ≤ b.toNat) ∧
      (a.toNat = 0xF4 → b.toNat ≤ 0x8F) := by
  unfold isSecond at h
  simp only [beq_iff_eq, ← UInt8.toNat_inj] at h
  split_ifs at h <;> simp_all [isContinuation, UInt8.le_iff_toNat_le] <;> omega

theorem encodeChar_one {a : UInt8} (ha : a.toNat < 0x80) :
    String.utf8EncodeChar (Char.ofNat a.toNat) = [a] := by
  unfold String.utf8EncodeChar
  rw [val_ofNat (.inl (by omega))]
  dsimp only
  rw [if_pos (by omega), ofNat_eq rfl]

theorem encodeChar_two {a b : UInt8} (ha : 0xC2 ≤ a.toNat) (ha' : a.toNat ≤ 0xDF)
    (hb : isContinuation b = true) :
    String.utf8EncodeChar (Char.ofNat ((a.toNat - 0xC0) * 0x40 + payload b)) = [a, b] := by
  obtain ⟨hb, hb'⟩ := isContinuation_iff.mp hb
  unfold String.utf8EncodeChar payload
  rw [val_ofNat (.inl (by omega))]
  dsimp only
  rw [if_neg (by omega), if_pos (by omega), ofNat_eq (b := a) (by omega),
    ofNat_eq (b := b) (by omega)]

theorem encodeChar_three {a b c : UInt8} (ha : 0xE0 ≤ a.toNat) (ha' : a.toNat ≤ 0xEF)
    (hb : isSecond a b = true) (hc : isContinuation c = true) :
    String.utf8EncodeChar
      (Char.ofNat ((a.toNat - 0xE0) * 0x1000 + payload b * 0x40 + payload c)) = [a, b, c] := by
  obtain ⟨hb, hb', hE0, hED, -, -⟩ := isSecond_bounds hb
  obtain ⟨hc, hc'⟩ := isContinuation_iff.mp hc
  have hvalid : Nat.isValidChar
      ((a.toNat - 0xE0) * 0x1000 + (b.toNat - 0x80) * 0x40 + (c.toNat - 0x80)) := by
    unfold Nat.isValidChar
    omega
  unfold String.utf8EncodeChar payload
  rw [val_ofNat hvalid]
  dsimp only
  rw [if_neg (by omega), if_neg (by omega), if_pos (by omega), ofNat_eq (b := a) (by omega),
    ofNat_eq (b := b) (by omega), ofNat_eq (b := c) (by omega)]

theorem encodeChar_four {a b c d : UInt8} (ha : 0xF0 ≤ a.toNat) (ha' : a.toNat ≤ 0xF4)
    (hb : isSecond a b = true) (hc : isContinuation c = true) (hd : isContinuation d = true) :
    String.utf8EncodeChar (Char.ofNat ((a.toNat - 0xF0) * 0x40000 + payload b * 0x1000 +
      payload c * 0x40 + payload d)) = [a, b, c, d] := by
  obtain ⟨hb, hb', -, -, hF0, hF4⟩ := isSecond_bounds hb
  obtain ⟨hc, hc'⟩ := isContinuation_iff.mp hc
  obtain ⟨hd, hd'⟩ := isContinuation_iff.mp hd
  have hvalid : Nat.isValidChar ((a.toNat - 0xF0) * 0x40000 + (b.toNat - 0x80) * 0x1000 +
      (c.toNat - 0x80) * 0x40 + (d.toNat - 0x80)) := by
    unfold Nat.isValidChar
    omega
  unfold String.utf8EncodeChar payload
  rw [val_ofNat hvalid]
  dsimp only
  rw [if_neg (by omega), if_neg (by omega), if_neg (by omega), ofNat_eq (b := a) (by omega),
    ofNat_eq (b := b) (by omega), ofNat_eq (b := c) (by omega), ofNat_eq (b := d) (by omega)]

/-- **A character that is read** has the bytes that it was read from. -/
theorem encodeChar_of_step {a : UInt8} {rest : List UInt8} {c : Char} {n : Nat}
    (h : step a rest = (some c, n)) :
    String.utf8EncodeChar c ++ rest.drop n = a :: rest := by
  unfold step at h
  simp only [UInt8.lt_iff_toNat_lt, UInt8.le_iff_toNat_le, Bool.and_eq_true, decide_eq_true_eq] at h
  split at h
  · next ha =>
    obtain ⟨hread, rfl⟩ := Prod.mk.inj h
    rw [← Option.some.inj hread, encodeChar_one ha]
    rfl
  split at h
  · next ha =>
    cases rest with
    | nil => cases h
    | cons b rest =>
      dsimp only at h
      split at h
      · next hb =>
        obtain ⟨hread, rfl⟩ := Prod.mk.inj h
        rw [← Option.some.inj hread, encodeChar_two ha.1 ha.2 hb]
        rfl
      · cases h
  split at h
  · next ha =>
    rcases rest with _ | ⟨b, _ | ⟨c, rest⟩⟩
    · cases h
    · dsimp only at h
      split at h <;> cases h
    · dsimp only at h
      split at h
      · next hb =>
        split at h
        · next hc =>
          obtain ⟨hread, rfl⟩ := Prod.mk.inj h
          rw [← Option.some.inj hread, encodeChar_three ha.1 ha.2 hb hc]
          rfl
        · cases h
      · cases h
  split at h
  · next ha =>
    rcases rest with _ | ⟨b, _ | ⟨c, _ | ⟨d, rest⟩⟩⟩
    · cases h
    · dsimp only at h
      split at h <;> cases h
    · dsimp only at h
      split at h
      · split at h <;> cases h
      · cases h
    · dsimp only at h
      split at h
      · next hb =>
        split at h
        · next hc =>
          split at h
          · next hd =>
            obtain ⟨hread, rfl⟩ := Prod.mk.inj h
            rw [← Option.some.inj hread, encodeChar_four ha.1 ha.2 hb hc hd]
            rfl
          · cases h
        · cases h
      · cases h
  · cases h

theorem strict?_cons (b : UInt8) (rest : List UInt8) :
    strict? (b :: rest) = do
      let c ← (step b rest).1
      return c :: (← strict? (rest.drop (step b rest).2)) := by
  unfold strict?
  rw [decode, List.mapM_cons]
  rfl

theorem strict?_encode (cs : List Char) : strict? (encode cs) = some cs := by
  unfold strict?
  rw [decode_encode, List.mapM_map]
  exact List.mapM_pure.trans (congrArg some (List.map_id cs))

/-- **Bytes are read strictly** iff they are the bytes of a text. -/
theorem strict?_eq_some_iff {bytes : List UInt8} {cs : List Char} :
    strict? bytes = some cs ↔ encode cs = bytes := by
  refine ⟨fun h => ?_, fun h => h ▸ strict?_encode cs⟩
  fun_induction decode bytes generalizing cs with
  | case1 =>
    rw [strict?, decode] at h
    cases h
    rfl
  | case2 b rest ih =>
    rw [strict?_cons] at h
    obtain ⟨c, hc, h⟩ := Option.bind_eq_some_iff.mp h
    obtain ⟨more, hmore, h⟩ := Option.bind_eq_some_iff.mp h
    cases h
    rw [encode_cons, ih hmore]
    exact encodeChar_of_step (Prod.ext hc rfl)

end LinkedQueries.Utf8
