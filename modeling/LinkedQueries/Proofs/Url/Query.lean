import LinkedQueries.Proofs.Text.FormCoding
import LinkedQueries.Url.Query
import Mathlib.Data.List.TakeWhile

/-!
# What an address makes of its query

The bytes of a query are kept, or escaped if an address may not hold them. So a form in the query is
spelt differently, but spells the same, and its separators are where they were.

Results:
* `query_eq`: the query of an address in which nothing is trimmed off or skipped.
* **`Spells.queryBytes`**: what a query spells, it spells within an address.
-/

namespace LinkedQueries.Url

/-! ## The place of the query -/

theorem not_skipped_of_not_trimmed {c : Char} (h : isTrimmed c = false) : isSkipped c = false := by
  unfold isSkipped
  simp only [Bool.or_eq_false_iff, beq_eq_false_iff_ne]
  refine ⟨⟨?_, ?_⟩, ?_⟩ <;> rintro rfl <;> exact absurd h (by decide)

/-- Without spaces and control characters, nothing is trimmed off or skipped. -/
theorem trimmed_eq {cs : List Char} (h : ∀ c ∈ cs, isTrimmed c = false) :
    (cs.reverse.dropWhile isTrimmed).reverse.filter (!isSkipped ·) = cs := by
  have hend : cs.reverse.dropWhile isTrimmed = cs.reverse :=
    List.dropWhile_eq_self_iff.mpr fun hl => by
      rw [h _ (List.mem_reverse.mp (List.getElem_mem hl))]
      exact Bool.false_ne_true
  rw [hend, List.reverse_reverse]
  exact List.filter_eq_self.mpr fun c hc => by simp [not_skipped_of_not_trimmed (h c hc)]

/-- The query of an address begins behind the first question mark. -/
theorem query_eq {host path text : List Char} (hhost : checkAuthority host = .ok ())
    (hends : ∀ c ∈ host, (!endsAuthority c) = true) (hpath : ∀ c ∈ path, c ≠ '?' ∧ c ≠ '#')
    (htext : '#' ∉ text) (hkept : ∀ c ∈ host ++ '/' :: path ++ '?' :: text, isTrimmed c = false) :
    query (host ++ '/' :: path ++ '?' :: text) =
      .ok (some ((Utf8.encode text).flatMap queryByte)) := by
  have hbefore : ∀ c ∈ '/' :: path, (c != '?' && c != '#') = true := by
    intro c hc
    rcases List.mem_cons.mp hc with rfl | hc
    · rfl
    · simpa using hpath c hc
  have htake : (host ++ '/' :: path ++ '?' :: text).takeWhile (!endsAuthority ·) = host := by
    rw [List.append_assoc, List.takeWhile_append_of_pos hends, List.cons_append,
      List.takeWhile_cons_of_neg (by decide), List.append_nil]
  have hdrop : (host ++ '/' :: path ++ '?' :: text).dropWhile (!endsAuthority ·) =
      '/' :: path ++ '?' :: text := by
    rw [List.append_assoc, List.dropWhile_append_of_pos hends, List.cons_append,
      List.dropWhile_cons_of_neg (by decide)]
  have hquery : ('/' :: path ++ '?' :: text).dropWhile (fun c => c != '?' && c != '#') =
      '?' :: text := by
    rw [List.dropWhile_append_of_pos hbefore, List.dropWhile_cons_of_neg (by decide)]
  have hall : text.takeWhile (· != '#') = text :=
    List.takeWhile_eq_self_iff.mpr fun c hc => by
      simpa using fun he : c = '#' => htext (he ▸ hc)
  unfold query
  simp only [trimmed_eq hkept, htake, hdrop, hquery, hhost, hall]
  rfl

/-! ## The bytes of the query -/

theorem queryByte_of_pos {b : UInt8} (h : isQueryByte b = true) : queryByte b = [b] := if_pos h

/-- A byte that no escape holds is in the query as it is. -/
theorem mem_queryByte {b b' : UInt8} (hpercent : b' ≠ 0x25)
    (hdigit : (hexDigit? (Char.ofNat b'.toNat)).isNone = true) (h : b' ∈ queryByte b) : b' = b := by
  unfold queryByte at h
  split at h
  · exact List.mem_singleton.mp h
  · obtain ⟨high, low, hd, he⟩ := encode_percentEscape b
    obtain ⟨hh, hl⟩ := hexPair?_eq_some hd
    rw [he] at h
    simp only [escapeBytes, List.mem_cons, List.not_mem_nil, or_false] at h
    rcases h with rfl | rfl | rfl
    · exact absurd rfl hpercent
    · rw [ofNat_digit hh] at hdigit
      rw [Option.isNone_iff_eq_none.mp hdigit] at hh
      exact absurd hh (by decide)
    · rw [ofNat_digit hl] at hdigit
      rw [Option.isNone_iff_eq_none.mp hdigit] at hl
      exact absurd hl (by decide)

theorem spells_queryByte {b : UInt8} (hpercent : b ≠ 0x25) (hplus : b ≠ 0x2B) :
    Spells (queryByte b) [b] := by
  unfold queryByte
  split
  · exact .plain hpercent hplus .nil
  · exact spells_percentEscape b

/-- Digits are kept in a query. -/
theorem isQueryByte_digit {c : Char} (h : (hexDigit? c).isSome = true) :
    isQueryByte (UInt8.ofNat c.toNat) = true :=
  @forall_ascii (fun c => (hexDigit? c).isSome = true → isQueryByte (UInt8.ofNat c.toNat) = true)
    (by decide) c (isAscii_of_hexDigit? h) h

theorem queryByte_escape {high low : Char} {n : Nat} (h : hexPair? high low = some n) :
    (escapeBytes high low).flatMap queryByte = escapeBytes high low := by
  obtain ⟨hh, hl⟩ := hexPair?_eq_some h
  have hpercent : queryByte 0x25 = [0x25] := rfl
  simp [escapeBytes, hpercent, queryByte_of_pos (isQueryByte_digit hh),
    queryByte_of_pos (isQueryByte_digit hl)]

end Url

open Url

/-- **What a query spells**, it spells within an address. -/
theorem Spells.queryBytes {spelling bytes : List UInt8} (h : Spells spelling bytes) :
    Spells (spelling.flatMap queryByte) bytes := by
  induction h with
  | nil => exact .nil
  | @plain b s bs hpercent hplus _ ih =>
    rw [List.flatMap_cons]
    exact (spells_queryByte hpercent hplus).append ih
  | @plus s bs _ ih =>
    rw [List.flatMap_cons]
    exact .plus ih
  | @escape high low b s bs hd _ ih =>
    rw [List.flatMap_append, queryByte_escape hd]
    exact .escape hd ih

end LinkedQueries
