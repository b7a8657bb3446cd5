import LinkedQueries.AccessLog.Entry
import LinkedQueries.Proofs.Text.Split

/-!
# The lines of a log

A line is what stands before a line break, or what follows the last one if that is not empty.
Bytes are cut into lines from the front: a line break ends an empty line, any other byte goes to the
line behind it.

Results:
* `completeLines_join`: the complete lines, each with its line break, and the rest are the bytes.
* `length_lines`: there are as many lines as line breaks, and one more if the last is not ended.
* **`extractAll_lenient`**: a lenient reader gives one item for each line, its entry if it has one.
-/

namespace LinkedQueries

namespace AccessLog

/-! ## Complete lines -/

/-- The byte that ends a line. -/
abbrev lineBreak : UInt8 := 0x0A

theorem completeLines_break (bytes : List UInt8) :
    completeLines (lineBreak :: bytes) =
      ([] :: (completeLines bytes).1, (completeLines bytes).2) := by
  have hs : splitAt lineBreak (lineBreak :: bytes) = [] :: splitAt lineBreak bytes :=
    splitWhere_cons_of_pos (· == lineBreak) (beq_self_eq_true lineBreak) bytes
  unfold completeLines
  rw [hs]
  cases hp : splitAt lineBreak bytes with
  | nil => exact absurd hp (splitWhere_ne_nil _ bytes)
  | cons piece pieces => rfl

/-- The line that a byte begins goes on with the first of the lines behind it. -/
def beginWith (b : UInt8) : List (List UInt8) × List UInt8 → List (List UInt8) × List UInt8
  | ([], rest) => ([], b :: rest)
  | (line :: lines, rest) => ((b :: line) :: lines, rest)

theorem completeLines_byte {b : UInt8} (h : b ≠ lineBreak) (bytes : List UInt8) :
    completeLines (b :: bytes) = beginWith b (completeLines bytes) := by
  obtain ⟨piece, pieces, hs, hs'⟩ :=
    splitWhere_cons_of_neg (· == lineBreak) (fun he => h (beq_iff_eq.mp he)) bytes
  unfold completeLines
  rw [show splitAt lineBreak bytes = piece :: pieces from hs,
    show splitAt lineBreak (b :: bytes) = (b :: piece) :: pieces from hs']
  cases pieces <;> rfl

/-- The complete lines, each with its line break, and the rest. -/
def joined (ls : List (List UInt8) × List UInt8) : List UInt8 :=
  ls.1.flatMap (· ++ [lineBreak]) ++ ls.2

theorem joined_beginWith (b : UInt8) : ∀ ls, joined (beginWith b ls) = b :: joined ls
  | ([], _) => rfl
  | (_ :: _, _) => rfl

/-- The complete lines and the rest make up the bytes. -/
theorem completeLines_join (bytes : List UInt8) : joined (completeLines bytes) = bytes := by
  induction bytes with
  | nil => rfl
  | cons b bytes ih =>
    by_cases hb : b = lineBreak
    · subst hb
      rw [completeLines_break]
      exact congrArg (lineBreak :: ·) ih
    · rw [completeLines_byte hb, joined_beginWith, ih]

/-- No line break is inside a line. -/
def Unbroken (ls : List (List UInt8) × List UInt8) : Prop :=
  (∀ line ∈ ls.1, lineBreak ∉ line) ∧ lineBreak ∉ ls.2

theorem unbroken_beginWith {b : UInt8} (hb : b ≠ lineBreak) :
    ∀ {ls}, Unbroken ls → Unbroken (beginWith b ls)
  | ([], rest), ⟨hlines, hrest⟩ => ⟨hlines, fun hm => (List.mem_cons.mp hm).elim hb.symm hrest⟩
  | (line :: lines, rest), ⟨hlines, hrest⟩ => by
    refine ⟨fun l hl hm => ?_, hrest⟩
    rcases List.mem_cons.mp hl with rfl | hl
    · exact (List.mem_cons.mp hm).elim hb.symm (hlines line List.mem_cons_self)
    · exact hlines l (List.mem_cons_of_mem _ hl) hm

theorem unbroken_completeLines (bytes : List UInt8) : Unbroken (completeLines bytes) := by
  induction bytes with
  | nil => exact ⟨fun _ h => absurd h List.not_mem_nil, List.not_mem_nil⟩
  | cons b bytes ih =>
    by_cases hb : b = lineBreak
    · subst hb
      rw [completeLines_break]
      refine ⟨fun line h => ?_, ih.2⟩
      rcases List.mem_cons.mp h with rfl | h
      · exact List.not_mem_nil
      · exact ih.1 line h
    · rw [completeLines_byte hb]
      exact unbroken_beginWith hb ih

/-! ## Lines -/

/-- The complete lines, and the rest unless it is empty. -/
def withRest (ls : List (List UInt8) × List UInt8) : List (List UInt8) :=
  if ls.2.isEmpty then ls.1 else ls.1 ++ [ls.2]

/-- The lines of some bytes. -/
def lines (bytes : List UInt8) : List (List UInt8) :=
  withRest (completeLines bytes)

/-- The number of lines: the number of line breaks, and one more if the bytes do not end with one. -/
def lineCount (bytes : List UInt8) : Nat :=
  bytes.count lineBreak + if bytes.getLast?.all (· == lineBreak) then 0 else 1

theorem count_lines : ∀ {ls : List (List UInt8)}, (∀ line ∈ ls, lineBreak ∉ line) →
    (ls.flatMap (· ++ [lineBreak])).count lineBreak = ls.length
  | [], _ => rfl
  | line :: ls, h => by
    have hline : line.count lineBreak = 0 := List.count_eq_zero.mpr (h line List.mem_cons_self)
    have ih := count_lines fun l hl => h l (List.mem_cons_of_mem _ hl)
    rw [List.flatMap_cons, List.count_append, List.count_append, hline, ih, List.length_cons]
    simp [Nat.add_comm]

/-- Complete lines end with a line break, if there are any. -/
theorem getLast?_lines : ∀ ls : List (List UInt8),
    (ls.flatMap (· ++ [lineBreak])).getLast?.all (· == lineBreak) = true
  | [] => rfl
  | line :: ls => by
    have ih := getLast?_lines ls
    rw [List.flatMap_cons, List.getLast?_append]
    cases h : (ls.flatMap (· ++ [lineBreak])).getLast? with
    | none => simp
    | some b => rw [h] at ih; exact ih

/-- A rest does not end with a line break. -/
theorem getLast?_rest {b : UInt8} {rest : List UInt8} (h : lineBreak ∉ b :: rest)
    (bytes : List UInt8) : (bytes ++ b :: rest).getLast?.all (· == lineBreak) = false := by
  have hm := List.getLast_mem (List.cons_ne_nil b rest)
  rw [List.getLast?_append, List.getLast?_eq_some_getLast (List.cons_ne_nil b rest)]
  exact beq_eq_false_iff_ne.mpr fun he => h (he ▸ hm)

theorem length_withRest : ∀ {ls}, Unbroken ls → (withRest ls).length = lineCount (joined ls)
  | (lines, []), ⟨hlines, _⟩ => by
    unfold withRest lineCount joined
    rw [List.append_nil, count_lines hlines, getLast?_lines]
    rfl
  | (lines, b :: rest), ⟨hlines, hrest⟩ => by
    unfold withRest lineCount joined
    rw [List.count_append, count_lines hlines, List.count_eq_zero.mpr hrest, getLast?_rest hrest]
    simp

/-- There are as many lines as the line breaks tell. -/
theorem length_lines (bytes : List UInt8) : (lines bytes).length = lineCount bytes := by
  unfold lines
  rw [length_withRest (unbroken_completeLines bytes), completeLines_join]

/-! ## Entries -/

/-- The entry of a line, if the line has the grammar of one. -/
def entryOf (line : List UInt8) : Option Entry :=
  (Entry.ofBytes? (withoutReturn line)).toOption

theorem extractBytes_lenient (line : List UInt8) :
    extractBytes false line = .ok (entryOf line) := by
  unfold extractBytes entryOf
  cases Entry.ofBytes? (withoutReturn line) <;> rfl

/-- The items of a log that is read to its end are those of its lines. -/
theorem extractAll_complete (strict : Bool) (bytes : List UInt8) :
    extractAll strict ⟨bytes, none⟩ = (lines bytes).map (extractBytes strict) := by
  unfold extractAll lines withRest
  dsimp only
  split
  · rfl
  · rw [List.map_append]
    rfl

/-- **A lenient reader** gives an item for each line. -/
theorem extractAll_lenient (bytes : List UInt8) :
    extractAll false ⟨bytes, none⟩ = (lines bytes).map fun line => .ok (entryOf line) := by
  rw [extractAll_complete]
  exact List.map_congr_left fun line _ => extractBytes_lenient line

theorem numbered_map {α β : Type} (f : α → β) (items : List α) :
    numbered (items.map f) = (numbered items).map fun x => (x.1, f x.2) := by
  unfold numbered
  rw [List.zipIdx_map, List.map_map, List.map_map]
  rfl

theorem numbered_snd {α : Type} (items : List α) : (numbered items).map (·.2) = items := by
  unfold numbered
  rw [List.map_map]
  exact List.zipIdx_map_fst 0 items

theorem length_numbered {α : Type} (items : List α) : (numbered items).length = items.length := by
  unfold numbered
  rw [List.length_map, List.length_zipIdx]

end AccessLog

end LinkedQueries
