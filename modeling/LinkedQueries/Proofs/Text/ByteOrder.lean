import LinkedQueries.Proofs.Text.Utf8

/-!
# The order of texts is that of their bytes

Texts are ordered by the code points of their characters. A character of fewer bytes has the lesser
first byte, and among characters of as many bytes the bytes are digits to the base 64, the highest
one first. So the bytes of the lesser character are less, whatever follows.

Results:
* `encodeChar_append_lt`: one character.
* **`encode_lt_iff`**, `encode_le_iff`: texts.
-/

namespace LinkedQueries.Utf8

/-! ## One character -/

theorem cons_ofNat_lt {m n : Nat} (hm : m < 256) (hn : n < 256) {xs ys : List UInt8} :
    UInt8.ofNat m :: xs < UInt8.ofNat n :: ys ↔ m < n ∨ m = n ∧ xs < ys := by
  rw [List.cons_lt_cons_iff, UInt8.lt_iff_toNat_lt, ← UInt8.toNat_inj, toNat_ofNat hm,
    toNat_ofNat hn]

/-- The lesser number is told by its first digit that differs, to the base 64. -/
theorem digits_lt {v w : Nat} (h : v < w) :
    v / 64 / 64 / 64 < w / 64 / 64 / 64 ∨ v / 64 / 64 / 64 = w / 64 / 64 / 64 ∧
      (v / 64 / 64 % 64 < w / 64 / 64 % 64 ∨ v / 64 / 64 % 64 = w / 64 / 64 % 64 ∧
        (v / 64 % 64 < w / 64 % 64 ∨ v / 64 % 64 = w / 64 % 64 ∧ v % 64 < w % 64)) := by
  have hdigit : ∀ {m n : Nat}, m < n → m / 64 < n / 64 ∨ m / 64 = n / 64 ∧ m % 64 < n % 64 := by
    intro m n hmn
    omega
  rcases hdigit h with h₁ | h₁
  · rcases hdigit h₁ with h₂ | h₂
    · rcases hdigit h₂ with h₃ | h₃
      · exact .inl h₃
      · exact .inr ⟨h₃.1, .inl h₃.2⟩
    · exact .inr ⟨congrArg (· / 64) h₂.1, .inr ⟨congrArg (· % 64) h₂.1, .inl h₂.2⟩⟩
  · have h₂ := congrArg (· / 64) h₁.1
    exact .inr ⟨congrArg (· / 64) h₂, .inr ⟨congrArg (· % 64) h₂,
      .inr ⟨congrArg (· % 64) h₁.1, h₁.2⟩⟩⟩

/-- **The order of characters** is that of their bytes, whatever follows. -/
theorem encodeChar_append_lt {c d : Char} (h : c < d) (xs ys : List UInt8) :
    String.utf8EncodeChar c ++ xs < String.utf8EncodeChar d ++ ys := by
  have hcd : c.val.toNat < d.val.toNat := h
  have hd : d.val.toNat < 0x110000 := by
    rcases d.valid with hd | hd
    · exact Nat.lt_trans hd (by decide)
    · exact hd.2
  unfold String.utf8EncodeChar
  generalize c.val.toNat = v at hcd
  generalize d.val.toNat = w at hcd hd
  have hdigits := digits_lt hcd
  have hbase : ∀ n, n / 4096 = n / 64 / 64 ∧ n / 262144 = n / 64 / 64 / 64 := by omega
  dsimp only
  rw [(hbase v).1, (hbase v).2, (hbase w).1, (hbase w).2]
  -- a character of fewer bytes has the lesser first byte
  split_ifs <;>
    simp only [List.cons_append, List.nil_append] <;>
    simp (disch := omega) only [cons_ofNat_lt] <;> omega

/-! ## Texts -/

/-- A character has at least one byte. -/
theorem nil_lt_encodeChar (c : Char) (ys : List UInt8) : [] < String.utf8EncodeChar c ++ ys := by
  unfold String.utf8EncodeChar
  dsimp only
  split_ifs <;> exact List.nil_lt_cons _ _

theorem encode_lt {xs ys : List Char} (h : xs < ys) : encode xs < encode ys := by
  induction ys generalizing xs with
  | nil => exact absurd h (List.not_lt_nil xs)
  | cons d ys ih =>
    cases xs with
    | nil => exact nil_lt_encodeChar d _
    | cons c xs =>
      rw [encode_cons, encode_cons]
      rcases List.cons_lt_cons_iff.mp h with hcd | ⟨rfl, htail⟩
      · exact encodeChar_append_lt hcd _ _
      · exact List.append_left_lt (ih htail)

/-- **The order of texts** is that of their bytes. -/
theorem encode_lt_iff {xs ys : List Char} : encode xs < encode ys ↔ xs < ys := by
  refine ⟨fun h => ?_, encode_lt⟩
  rcases Std.lt_trichotomy xs ys with hlt | rfl | hgt
  · exact hlt
  · exact absurd h (List.lt_irrefl _)
  · exact absurd (encode_lt hgt) (List.lt_asymm h)

theorem encode_le_iff {s t : String} : encode s.toList ≤ encode t.toList ↔ s ≤ t := by
  rw [← List.not_lt, ← String.not_lt, encode_lt_iff, String.lt_iff]

end LinkedQueries.Utf8
