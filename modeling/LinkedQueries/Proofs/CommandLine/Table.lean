import LinkedQueries.CommandLine.Table
import LinkedQueries.Proofs.Lists
import LinkedQueries.Proofs.Text.Split
import LinkedQueries.Text.Decimal
import Mathlib.Data.List.Flatten

/-!
# Reading the table of queries

The table of a store can be read back: it is cut at its line ends, each line is cut at its tabs, and
the escapes in the last field are undone from left to right.

Results:
* `toList_escape`: the replacements, one after the other, treat each character on its own.
* `unescape_escape`: undoing the escapes gives back any text.
* **`rows?_table`**: the rows of the table of a store are its records.
-/

namespace LinkedQueries

/-! ## Escapes -/

namespace QueryTable

/-- What a character of a query text becomes. -/
def escaped (c : Char) : List Char :=
  match c with
  | '\\' => ['\\', '\\']
  | '\t' => ['\\', 't']
  | '\n' => ['\\', 'n']
  | '\r' => ['\\', 'r']
  | c => [c]

/-- The text that stands for an escaped one, read from left to right. -/
def unescape : List Char → List Char
  | '\\' :: '\\' :: rest => '\\' :: unescape rest
  | '\\' :: 't' :: rest => '\t' :: unescape rest
  | '\\' :: 'n' :: rest => '\n' :: unescape rest
  | '\\' :: 'r' :: rest => '\r' :: unescape rest
  | c :: rest => c :: unescape rest
  | [] => []

/-- Replacing one character after the other does the same as looking at each character once. -/
theorem toList_escape (text : String) : (escape text).toList = text.toList.flatMap escaped := by
  unfold escape replaced
  dsimp only
  rw [String.toList_ofList, List.flatMap_assoc, List.flatMap_assoc, List.flatMap_assoc]
  refine List.flatMap_congr fun c _ => ?_
  by_cases hb : c = '\\'
  · subst hb; rfl
  by_cases ht : c = '\t'
  · subst ht; rfl
  by_cases hn : c = '\n'
  · subst hn; rfl
  by_cases hr : c = '\r'
  · subst hr; rfl
  simp [escaped, hb, ht, hn, hr]

theorem unescape_cons {c : Char} (h : c ≠ '\\') (rest : List Char) :
    unescape (c :: rest) = c :: unescape rest := by
  rw [unescape] <;> simp [h]

/-- The escape of a character is read back in front of any text. -/
theorem unescape_escaped (c : Char) (rest : List Char) :
    unescape (escaped c ++ rest) = c :: unescape rest := by
  unfold escaped
  split
  · rfl
  · rfl
  · rfl
  · rfl
  · next hb _ _ _ => exact unescape_cons hb rest

/-- **Undoing the escapes** gives back the text. -/
theorem unescape_escape (text : String) : unescape (escape text).toList = text.toList := by
  rw [toList_escape]
  induction text.toList with
  | nil => rfl
  | cons c cs ih => rw [List.flatMap_cons, unescape_escaped, ih]

/-- A backslash in front of a letter is told from a line end. -/
example : (escape "\\n\n").toList = ['\\', '\\', 'n', '\\', 'n'] := by decide +kernel

/-- A text that ends neither a field nor a line. -/
def Plain (field : List Char) : Prop :=
  ∀ c ∈ field, c ≠ '\t' ∧ c ≠ '\n'

@[simp] theorem plain_nil : Plain [] :=
  List.forall_mem_nil _

@[simp] theorem plain_cons {c : Char} {cs : List Char} :
    Plain (c :: cs) ↔ (c ≠ '\t' ∧ c ≠ '\n') ∧ Plain cs :=
  List.forall_mem_cons

theorem plain_escaped (c : Char) : Plain (escaped c) := by
  unfold escaped
  split
  · simp
  · simp
  · simp
  · simp
  · next ht hn _ => exact plain_cons.mpr ⟨⟨ht, hn⟩, plain_nil⟩

/-- An escaped text is plain. -/
theorem plain_escape (text : String) : Plain (escape text).toList := by
  intro d hd
  rw [toList_escape] at hd
  obtain ⟨c, -, hc⟩ := List.mem_flatMap.mp hd
  exact plain_escaped c d hc

/-! ## Fields -/

/-- A row of the table: a hash, the number of triple patterns if it is known, and a text. -/
structure Row where
  hash : String
  patterns : Option Nat
  text : String
  deriving DecidableEq, Repr

/-- The number of triple patterns that a field denotes: a dash, or the digits of the number. -/
def patterns? (field : List Char) : Option (Option Nat) :=
  if field = ['-'] then some none
  else (decimal? field).bind fun n => if (toString n).toList = field then some (some n) else none

/-- The row of a line, which has two fields, or three if the queries were analysed. -/
def row? (analyzed : Bool) (line : List Char) : Option Row :=
  match analyzed, splitAt '\t' line with
  | false, [hash, text] => some ⟨String.ofList hash, none, String.ofList (unescape text)⟩
  | true, [hash, patterns, text] =>
    (patterns? patterns).map fun patterns =>
      ⟨String.ofList hash, patterns, String.ofList (unescape text)⟩
  | _, _ => none

/-- The rows of a table all of whose lines are ended. -/
def rows? (analyzed : Bool) (table : String) : Option (List Row) :=
  let pieces := splitAt '\n' table.toList
  if pieces.getLast? = some [] then pieces.dropLast.mapM (row? analyzed) else none

/-- What the table tells about a record. -/
def rowOf (analyzed : Bool) (hash : String) (record : QueryRecord) : Row where
  hash
  patterns := if analyzed then record.features.map (·.patternCount) else none
  text := record.text.getD ""

theorem decimal?_toString (n : Nat) : decimal? (toString n).toList = some n := by
  rw [Nat.toString_eq_repr, Nat.toList_repr]
  have hdigits : (Nat.toDigits 10 n).all Char.isDigit = true :=
    List.all_eq_true.mpr fun c hc => Nat.isDigit_of_mem_toDigits (by decide) (by decide) hc
  have hne : (Nat.toDigits 10 n).isEmpty = false :=
    List.isEmpty_eq_false_iff.mpr Nat.toDigits_ne_nil
  have hvalue : digitsValue (Nat.toDigits 10 n) = n :=
    Nat.ofDigitChars_toDigits (by decide) (by decide)
  unfold decimal?
  rw [hdigits, hne, hvalue]
  rfl

/-- No number is written as a dash. -/
theorem toString_ne_dash (n : Nat) : (toString n).toList ≠ ['-'] := by
  rw [Nat.toString_eq_repr, Nat.toList_repr]
  intro h
  have hdash : '-' ∈ Nat.toDigits 10 n := h ▸ List.mem_singleton_self _
  exact absurd (Nat.isDigit_of_mem_toDigits (by decide) (by decide) hdash) (by decide)

theorem plain_toString (n : Nat) : Plain (toString n).toList := by
  rw [Nat.toString_eq_repr, Nat.toList_repr]
  intro c hc
  have hdigit : c.isDigit = true := Nat.isDigit_of_mem_toDigits (by decide) (by decide) hc
  exact ⟨fun h => absurd (h ▸ hdigit) (by decide), fun h => absurd (h ▸ hdigit) (by decide)⟩

/-- The number of triple patterns is read back. -/
theorem patterns?_patternField (record : QueryRecord) :
    patterns? (patternField record).toList = some (record.features.map (·.patternCount)) := by
  unfold patternField patterns?
  cases record.features with
  | none => rfl
  | some features =>
    dsimp only
    rw [if_neg (toString_ne_dash _), decimal?_toString, Option.bind_some, if_pos rfl]
    rfl

theorem plain_patternField (record : QueryRecord) : Plain (patternField record).toList := by
  unfold patternField
  cases record.features with
  | none => exact plain_cons.mpr ⟨by decide, plain_nil⟩
  | some features => exact plain_toString _

/-! ## Lines -/

/-- The line of a record, without its end. -/
def lineBody (analyzed : Bool) (hash : String) (record : QueryRecord) : List Char :=
  ['\t'].intercalate ((fields analyzed hash record).map String.toList)

theorem toList_line (analyzed : Bool) (hash : String) (record : QueryRecord) :
    (line analyzed hash record).toList = lineBody analyzed hash record ++ ['\n'] := by
  unfold line lineBody
  rw [String.toList_append, String.toList_intercalate]
  rfl

theorem plain_fields {hash : String} (hhash : Plain hash.toList) (analyzed : Bool)
    (record : QueryRecord) :
    ∀ field ∈ fields analyzed hash record, Plain field.toList := by
  intro field hf
  unfold fields at hf
  cases analyzed with
  | false =>
    rcases List.mem_pair.mp hf with rfl | rfl
    · exact hhash
    · exact plain_escape _
  | true =>
    rcases List.mem_cons.mp hf with rfl | hf
    · exact hhash
    · rcases List.mem_pair.mp hf with rfl | rfl
      · exact plain_patternField record
      · exact plain_escape _

/-- A line has no line end inside. -/
theorem not_mem_lineBody {hash : String} (hhash : Plain hash.toList) (analyzed : Bool)
    (record : QueryRecord) : '\n' ∉ lineBody analyzed hash record := by
  intro h
  rcases mem_intercalate h with h | ⟨field, hf, h⟩
  · cases h
  · obtain ⟨text, ht, rfl⟩ := List.mem_map.mp hf
    exact (plain_fields hhash analyzed record text ht _ h).2 rfl

/-- The row of a line is read back. -/
theorem row?_lineBody {hash : String} (hhash : Plain hash.toList) (analyzed : Bool)
    (record : QueryRecord) :
    row? analyzed (lineBody analyzed hash record) = some (rowOf analyzed hash record) := by
  have hpieces : splitAt '\t' (lineBody analyzed hash record) =
      (fields analyzed hash record).map String.toList := by
    refine splitAt_intercalate ?_ fun field hf ht => ?_
    · unfold fields
      cases analyzed <;> exact List.cons_ne_nil _ _
    · obtain ⟨text, hm, rfl⟩ := List.mem_map.mp hf
      exact (plain_fields hhash analyzed record text hm _ ht).1 rfl
  unfold row?
  rw [hpieces]
  unfold fields rowOf
  cases analyzed with
  | false => simp [unescape_escape]
  | true => simp [unescape_escape, patterns?_patternField]

/-! ## The table -/

/-- **Reading a table** gives the records of the store, if tabs and line ends are in no hash. -/
theorem rows?_table (analyzed : Bool) {store : RecordStore}
    (hplain : ∀ hash ∈ store.hashes, Plain hash.toList) :
    rows? analyzed (store.table analyzed) =
      some (store.records.entries.map fun x => rowOf analyzed x.1 x.2) := by
  have hhash : ∀ x ∈ store.records.entries, Plain x.1.toList := fun x hx =>
    hplain x.1 (List.mem_map_of_mem hx)
  have htable : (store.table analyzed).toList =
      (store.records.entries.map fun x => lineBody analyzed x.1 x.2).flatMap (· ++ ['\n']) := by
    unfold RecordStore.table lines
    rw [String.toList_join, List.flatMap_map, List.flatMap_map]
    exact List.flatMap_congr fun x _ => toList_line analyzed x.1 x.2
  have hpieces : splitAt '\n' (store.table analyzed).toList =
      (store.records.entries.map fun x => lineBody analyzed x.1 x.2) ++ [[]] := by
    rw [htable]
    refine splitAt_ended fun body hb => ?_
    obtain ⟨x, hx, rfl⟩ := List.mem_map.mp hb
    exact not_mem_lineBody (hhash x hx) analyzed x.2
  unfold rows?
  dsimp only
  rw [hpieces, List.getLast?_concat, if_pos rfl, List.dropLast_concat, List.mapM_map]
  exact mapM_eq_pure fun x hx => row?_lineBody (hhash x hx) analyzed x.2

end QueryTable

end LinkedQueries
