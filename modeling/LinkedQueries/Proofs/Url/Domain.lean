import LinkedQueries.Proofs.Lists
import LinkedQueries.Proofs.Text.FormCoding
import LinkedQueries.Proofs.Text.Split
import LinkedQueries.Url.Domain

/-!
# Domain names in ASCII

Folding, composition, joining and the direction of writing are about characters beyond ASCII. A name
without such characters, and without labels that stand for them, is folded letter by letter, and
nothing but a delimiter is refused.

Results:
* `label?_of_ascii`, `isLabel_of_ascii`: which labels are allowed.
* **`canonical?_of_ascii`**: the folded name.
-/

namespace LinkedQueries.Url.Domain

variable {c : Char} {text : List Char}

/-! ## Characters -/

theorem toLower_lt (h : c.toNat < 0x80) : c.toLower.toNat < 0x80 :=
  @forall_ascii (fun c => c.toLower.toNat < 0x80) (by decide) c h

theorem isDelimiter_toLower (h : c.toNat < 0x80) : isDelimiter c.toLower = isDelimiter c :=
  @forall_ascii (fun c => isDelimiter c.toLower = isDelimiter c) (by decide) c h

theorem isMark_of_ascii (h : c.toNat < 0x80) : isMark c = false := if_pos h

/-- ASCII is not written from right to left. -/
theorem direction_of_ascii (h : c.toNat < 0x80) :
    (direction c == .rightToLeft || direction c == .arabicNumber) = false := by
  unfold direction
  simp only [if_pos h]
  split
  · rfl
  · split <;> rfl

/-! ## Labels -/

/-- A text in ASCII has no joiners. -/
theorem joinersAct_of_ascii : ∀ {text : List Char} (before : List Char),
    (∀ c ∈ text, c.toNat < 0x80) → joinersAct before text = true
  | [], _, _ => rfl
  | c :: rest, before, h => by
    obtain ⟨hc, hrest⟩ := List.forall_mem_cons.mp h
    have hne : ∀ d : Char, 0x80 ≤ d.toNat → (c == d) = false := fun d hd =>
      beq_eq_false_iff_ne.mpr fun he => absurd hc (Nat.not_lt.mpr (he ▸ hd))
    unfold joinersAct
    rw [hne '\u200D' (by decide), hne '\u200C' (by decide), joinersAct_of_ascii _ hrest]
    rfl

theorem isLabel_of_ascii (h : ∀ c ∈ text, c.toNat < 0x80) :
    isLabel text = !text.any isDelimiter := by
  have hmark : text.head?.any isMark = false := by
    cases text with
    | nil => rfl
    | cons c rest => exact isMark_of_ascii (h c List.mem_cons_self)
  unfold isLabel
  rw [hmark, joinersAct_of_ascii [] h, Bool.not_false, Bool.and_true, Bool.and_true]

/-- A label in ASCII stands for itself unless it is marked. -/
theorem label?_of_ascii (h : ∀ c ∈ text, c.toNat < 0x80)
    (hplain : ¬ ['x', 'n', '-', '-'] <+: text) : label? text = some text := by
  have hmarked : ¬ (text.take 4 == ['x', 'n', '-', '-']) = true := fun hm =>
    hplain (List.prefix_iff_eq_take.mpr (beq_iff_eq.mp hm).symm)
  have hall : text.all (fun c => c.toNat < 0x80) = true := by simpa using h
  unfold label?
  rw [if_neg hmarked, hall]
  rfl

/-! ## Names -/

theorem ascii_of_label (h : ∀ c ∈ text, c.toNat < 0x80) {label : List Char}
    (hlabel : label ∈ splitAt '.' (text.map Char.toLower)) : ∀ c ∈ label, c.toNat < 0x80 := by
  intro c hc
  obtain ⟨d, hd, rfl⟩ := List.mem_map.mp (mem_of_piece _ hc hlabel)
  exact toLower_lt (h d hd)

theorem folded?_of_ascii (h : ∀ c ∈ text, c.toNat < 0x80) :
    folded? text = some (text.map Char.toLower) := by
  have hmap : text.mapM fold? = some (text.map fun c => [c.toLower]) :=
    mapM_eq_pure fun c hc => if_pos (h c hc)
  have hall : (text.map Char.toLower).all (fun c => c.toNat < 0x80) = true := by
    simpa using fun c hc => toLower_lt (h c hc)
  have hflatten : (text.map fun c => [c.toLower]).flatten = text.map Char.toLower := by
    rw [← List.flatMap_def, ← List.map_eq_flatMap]
  unfold folded?
  rw [hmap]
  simp only [bind, Option.bind, hflatten, compose, if_pos hall]
  rfl

/-- The labels of a folded name are allowed unless there is a delimiter in the name. -/
theorem all_isLabel_of_ascii (h : ∀ c ∈ text, c.toNat < 0x80) :
    (splitAt '.' (text.map Char.toLower)).all isLabel = !text.any isDelimiter := by
  have hlabel : ∀ label ∈ splitAt '.' (text.map Char.toLower),
      (isLabel label = true ↔ ∀ c ∈ label, isDelimiter c = false) := by
    intro label hlabel
    rw [isLabel_of_ascii (ascii_of_label h hlabel)]
    simp
  rw [Bool.eq_iff_iff, List.all_eq_true, Bool.not_eq_true', List.any_eq_false]
  constructor
  · intro hall c hc hdelimiter
    have hlow : isDelimiter c.toLower = true := (isDelimiter_toLower (h c hc)).trans hdelimiter
    -- a dot is no delimiter, so the character is in some label
    have hdot : ¬ (c.toLower == '.') = true := fun hd => by
      rw [beq_iff_eq.mp hd] at hlow
      exact absurd hlow (by decide)
    obtain ⟨label, hl, hmem⟩ := exists_piece (· == '.') hdot (List.mem_map_of_mem hc)
    exact Bool.false_ne_true (((hlabel label hl).mp (hall label hl) _ hmem).symm.trans hlow)
  · intro hnone label hl
    refine (hlabel label hl).mpr fun c hc => ?_
    obtain ⟨d, hd, rfl⟩ := List.mem_map.mp (mem_of_piece _ hc hl)
    rw [isDelimiter_toLower (h d hd)]
    exact Bool.not_eq_true _ ▸ hnone d hd

/-- **A name in ASCII** is folded to small letters, and refused if and only if it holds a delimiter,
provided that no label of it is marked. -/
theorem canonical?_of_ascii (h : ∀ c ∈ text, c.toNat < 0x80)
    (hplain : ∀ label ∈ splitAt '.' (text.map Char.toLower), ¬ ['x', 'n', '-', '-'] <+: label) :
    canonical? text =
      if text.any isDelimiter then none else some (text.map Char.toLower) := by
  have hmap : (splitAt '.' (text.map Char.toLower)).mapM label? =
      some (splitAt '.' (text.map Char.toLower)) :=
    (mapM_eq_pure fun label hl => label?_of_ascii (ascii_of_label h hl) (hplain label hl)).trans
      (congrArg some (List.map_id _))
  have hmixes : ((splitAt '.' (text.map Char.toLower)).any fun label =>
      label.any fun c => direction c == .rightToLeft || direction c == .arabicNumber) = false :=
    List.any_eq_false.mpr fun label hl => Bool.not_eq_true _ ▸
      List.any_eq_false.mpr fun c hc => Bool.not_eq_true _ ▸
        direction_of_ascii (ascii_of_label h hl c hc)
  unfold canonical?
  rw [folded?_of_ascii h]
  simp only [bind, Option.bind, hmap, hmixes, all_isLabel_of_ascii h]
  cases text.any isDelimiter <;> rfl

end LinkedQueries.Url.Domain
