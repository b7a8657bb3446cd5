import LinkedQueries.AccessLog.Reading
import LinkedQueries.Proofs.Ingest.Aborted
import LinkedQueries.Proofs.Text.Utf8

/-!
# A log is read line by line

Polling a log gives the items that reading it at once gives. What a reading still owes tells this: a
poll gives the first item that is owed and owes the others, and a reading that has failed owes
nothing. The item of a line is made from its bytes, and a carriage return that ends them is no part
of its text.

Results:
* `Reading.poll_delivers`: one poll.
* `Reading.answer_eq_getElem?`: any number of polls.
* `extractAll_withReturns`, `lines_ended`: other ways to end lines.
* **`answer_linewise`**: what polling gives, whether the reader comes to its end or fails.
-/

namespace LinkedQueries.AccessLog

/-! ## One line -/

theorem cutLine_line {line : List UInt8} (h : lineBreak ∉ line) (bytes : List UInt8) :
    cutLine (line ++ lineBreak :: bytes) = (line ++ [lineBreak], bytes) := by
  induction line with
  | nil => rfl
  | cons b line ih =>
    have hb : (b == lineBreak) = false :=
      beq_eq_false_iff_ne.mpr fun he => h (he ▸ List.mem_cons_self)
    rw [List.cons_append, cutLine, hb, ih fun hm => h (List.mem_cons_of_mem b hm)]
    rfl

theorem cutLine_rest {rest : List UInt8} (h : lineBreak ∉ rest) : cutLine rest = (rest, []) := by
  induction rest with
  | nil => rfl
  | cons b rest ih =>
    have hb : (b == lineBreak) = false :=
      beq_eq_false_iff_ne.mpr fun he => h (he ▸ List.mem_cons_self)
    rw [cutLine, hb, ih fun hm => h (List.mem_cons_of_mem b hm)]
    rfl

theorem withoutBreak_line (line : List UInt8) : withoutBreak (line ++ [lineBreak]) = line := by
  simp [withoutBreak]

theorem getLast?_ne_of_notMem {rest : List UInt8} (h : lineBreak ∉ rest) :
    (rest.getLast? == some lineBreak) = false :=
  beq_eq_false_iff_ne.mpr fun he => h (List.mem_of_getLast? he)

theorem withoutBreak_rest {rest : List UInt8} (h : lineBreak ∉ rest) : withoutBreak rest = rest := by
  unfold withoutBreak
  rw [getLast?_ne_of_notMem h]
  rfl

namespace Reading

variable {strict : Bool} {failure : Option Failure}

theorem readLine_line {line : List UInt8} (h : lineBreak ∉ line) (bytes : List UInt8) :
    readLine ⟨line ++ lineBreak :: bytes, failure⟩ = (⟨bytes, failure⟩, .ok (line ++ [lineBreak])) := by
  unfold readLine
  rw [cutLine_line h]
  cases failure <;> simp

theorem readLine_rest {rest : List UInt8} (h : lineBreak ∉ rest) :
    readLine ⟨rest, failure⟩ = (⟨[], failure⟩, failure.elim (.ok rest) .error) := by
  unfold readLine
  rw [cutLine_rest h]
  cases failure with
  | none => rfl
  | some failure =>
    dsimp only
    rw [getLast?_ne_of_notMem h]
    rfl

end Reading

theorem extractAll_line (strict : Bool) (failure : Option Failure) {line : List UInt8}
    (h : lineBreak ∉ line) (bytes : List UInt8) :
    extractAll strict ⟨line ++ lineBreak :: bytes, failure⟩ =
      extractBytes strict line :: extractAll strict ⟨bytes, failure⟩ := by
  unfold extractAll
  rw [completeLines_line h]
  cases failure with
  | none =>
    dsimp only
    split <;> rfl
  | some failure => rfl

theorem extractAll_rest (strict : Bool) (failure : Option Failure) {rest : List UInt8}
    (h : lineBreak ∉ rest) :
    extractAll strict ⟨rest, failure⟩ =
      failure.elim (if rest.isEmpty then [] else [extractBytes strict rest])
        fun failure => [.error (.io failure)] := by
  unfold extractAll
  rw [completeLines_rest h]
  cases failure <;> rfl

namespace Reading

/-! ## Polls -/

/-- A poll for which the reader serves some bytes. -/
theorem poll_served {r : Reading} {input : Input} {line : List UInt8} (hr : r.failed = false)
    (h : readLine r.input = (input, .ok line)) (hne : line ≠ []) :
    poll strict r = (⟨input, false, r.number + 1⟩,
      some (r.number, extractBytes strict (withoutBreak line))) := by
  obtain ⟨b, line, rfl⟩ := List.exists_cons_of_ne_nil hne
  unfold poll
  rw [hr, if_neg Bool.false_ne_true, h]

/-- What a reading has still to give. -/
def owed (strict : Bool) (r : Reading) : List (Nat × Except LogError (Option Entry)) :=
  if r.failed then []
  else ((extractAll strict r.input).zipIdx r.number).map fun x => (x.2, x.1)

/-- What is right for a poll of a reading: it gives the first item that is owed, and owes the
others. -/
structure Delivers (strict : Bool) (r : Reading) : Prop where
  answer : (poll strict r).2 = (owed strict r).head?
  owed : owed strict (poll strict r).1 = (owed strict r).tail

/-- **A poll**: the reader serves a line up to its break, or what follows the last one, or it fails
there. -/
theorem poll_delivers (strict : Bool) (r : Reading) : Delivers strict r := by
  obtain ⟨⟨bytes, failure⟩, failed, number⟩ := r
  cases failed with
  | true => exact ⟨rfl, rfl⟩
  | false =>
    by_cases hbreak : lineBreak ∈ bytes
    · obtain ⟨line, more, rfl, hline⟩ := List.eq_append_cons_of_mem hbreak
      have hpoll := @poll_served strict ⟨⟨_, failure⟩, false, number⟩ _ _ rfl
        (readLine_line hline more) (List.concat_ne_nil _ _)
      rw [withoutBreak_line] at hpoll
      constructor
      · rw [hpoll, owed, extractAll_line strict failure hline]
        rfl
      · rw [hpoll, owed, owed, extractAll_line strict failure hline]
        rfl
    · have hread := @readLine_rest failure _ hbreak
      have hall := extractAll_rest strict failure hbreak
      cases failure with
      | some failure =>
        have hpoll : poll strict ⟨⟨bytes, some failure⟩, false, number⟩ =
            (⟨⟨[], some failure⟩, true, number + 1⟩, some (number, .error (.io failure))) := by
          unfold poll
          rw [if_neg Bool.false_ne_true, hread]
          rfl
        constructor
        · rw [hpoll, owed, hall]
          rfl
        · rw [hpoll, owed, owed, hall]
          rfl
      | none =>
        cases bytes with
        | nil => exact ⟨rfl, rfl⟩
        | cons b bytes =>
          have hpoll := @poll_served strict ⟨⟨_, none⟩, false, number⟩ _ _ rfl hread
            (List.cons_ne_nil b bytes)
          rw [withoutBreak_rest hbreak] at hpoll
          constructor
          · rw [hpoll, owed, hall]
            rfl
          · rw [hpoll, owed, owed, hall]
            rfl

/-- The reading after some polls. -/
def afterPolls (strict : Bool) (log : Input) : Nat → Reading
  | 0 => start log
  | n + 1 => (poll strict (afterPolls strict log n)).1

/-- The answer of the poll of some number, counted from 0. -/
def answer (strict : Bool) (log : Input) (n : Nat) :
    Option (Nat × Except LogError (Option Entry)) :=
  (poll strict (afterPolls strict log n)).2

theorem owed_start (strict : Bool) (log : Input) :
    owed strict (start log) = numbered (extractAll strict log) := by
  unfold owed start numbered
  rw [if_neg Bool.false_ne_true, List.zipIdx_eq_map_add, List.map_map]
  simp only [Function.comp_def, Nat.add_comm]

theorem owed_afterPolls (strict : Bool) (log : Input) : ∀ n : Nat,
    owed strict (afterPolls strict log n) = (numbered (extractAll strict log)).drop n
  | 0 => owed_start strict log
  | n + 1 => by
    rw [← List.tail_drop, ← owed_afterPolls strict log n]
    exact (poll_delivers strict _).owed

/-- **The answers** are the items of the log with their numbers, and then the end forever. -/
theorem answer_eq_getElem? (strict : Bool) (log : Input) (n : Nat) :
    answer strict log n = (numbered (extractAll strict log))[n]? := by
  unfold answer
  rw [(poll_delivers strict _).answer, owed_afterPolls, List.head?_drop]

end Reading

/-! ## Items of lines -/

/-- The byte that may stand before a line break. -/
abbrev carriageReturn : UInt8 := 0x0D

theorem withoutReturn_concat (line : List UInt8) :
    withoutReturn (line ++ [carriageReturn]) = line := by
  simp [withoutReturn]

theorem withoutReturn_of_ne {line : List UInt8} (h : line.getLast? ≠ some carriageReturn) :
    withoutReturn line = line :=
  if_neg fun he => h (beq_iff_eq.mp he)

/-- What a line gives: what is extracted from its text, or a rejection if its bytes are no text. A
carriage return that ends a line is not part of its text. -/
inductive Gives (strict : Bool) (line : List UInt8) : Except LogError (Option Entry) → Prop where
  | text (cs : List Char) : Utf8.encode cs = withoutReturn line → Gives strict line (extract strict cs)
  | noText : (∀ cs, Utf8.encode cs ≠ withoutReturn line) →
      Gives strict line (if strict then
          .error (.malformed (String.ofList (Utf8.lossy (withoutReturn line))) .encoding)
        else .ok none)

theorem gives_extractBytes (strict : Bool) (line : List UInt8) :
    Gives strict line (extractBytes strict line) := by
  unfold extractBytes Entry.ofBytes?
  cases h : Utf8.strict? (withoutReturn line) with
  | some cs =>
    have hcs := Utf8.strict?_eq_some_iff.mp h
    have hgives : Gives strict line (extract strict cs) := .text cs hcs
    rw [← hcs, Utf8.lossy_encode]
    exact hgives
  | none =>
    refine .noText fun cs hcs => ?_
    rw [Utf8.strict?_eq_some_iff.mpr hcs] at h
    cases h

/-! ## Other line breaks -/

/-- The bytes with a carriage return before each line break. -/
def withReturns (bytes : List UInt8) : List UInt8 :=
  bytes.flatMap fun b => if b = lineBreak then [carriageReturn, lineBreak] else [b]

theorem withReturns_of_notMem {line : List UInt8} (h : lineBreak ∉ line) :
    withReturns line = line := by
  unfold withReturns
  conv_rhs => rw [← List.flatMap_singleton' line]
  refine List.flatMap_congr fun b hb => ?_
  have hne : b ≠ lineBreak := fun he => h (he ▸ hb)
  exact if_neg hne

/-- The lines, each with a carriage return at its end. -/
theorem withReturns_joined {ls : List (List UInt8) × List UInt8} (h : Unbroken ls) :
    withReturns (joined ls) = joined (ls.1.map (· ++ [carriageReturn]), ls.2) := by
  obtain ⟨lines, rest⟩ := ls
  obtain ⟨hlines, hrest⟩ := h
  have hline : ∀ line ∈ lines, withReturns (line ++ [lineBreak]) =
      line ++ [carriageReturn] ++ [lineBreak] := by
    intro line hl
    have happend : withReturns (line ++ [lineBreak]) =
        withReturns line ++ withReturns [lineBreak] := List.flatMap_append
    rw [happend, withReturns_of_notMem (hlines line hl), List.append_assoc]
    rfl
  have hall : withReturns (lines.flatMap (· ++ [lineBreak])) =
      lines.flatMap fun line => line ++ [carriageReturn] ++ [lineBreak] :=
    List.flatMap_assoc.trans (List.flatMap_congr hline)
  unfold joined
  dsimp only
  rw [show withReturns (_ ++ rest) = _ from List.flatMap_append, List.flatMap_map]
  exact congrArg₂ _ hall (withReturns_of_notMem hrest)

theorem unbroken_returns {ls : List (List UInt8) × List UInt8} (h : Unbroken ls) :
    Unbroken (ls.1.map (· ++ [carriageReturn]), ls.2) := by
  refine ⟨fun line hline hm => ?_, h.2⟩
  obtain ⟨line, hl, rfl⟩ := List.mem_map.mp hline
  rcases List.mem_append.mp hm with hm | hm
  · exact h.1 line hl hm
  · exact absurd (List.mem_singleton.mp hm) (by decide)

theorem extractBytes_return (strict : Bool) {line : List UInt8}
    (h : line.getLast? ≠ some carriageReturn) :
    extractBytes strict (line ++ [carriageReturn]) = extractBytes strict line := by
  unfold extractBytes
  rw [withoutReturn_concat, withoutReturn_of_ne h]

/-- **Carriage returns** before the line breaks change no item. -/
theorem extractAll_withReturns (strict : Bool) {bytes : List UInt8}
    (h : ∀ line ∈ lines bytes, line.getLast? ≠ some carriageReturn) :
    extractAll strict ⟨withReturns bytes, none⟩ = extractAll strict ⟨bytes, none⟩ := by
  have hunbroken := unbroken_completeLines bytes
  have hreturns : lines (withReturns bytes) =
      withRest ((completeLines bytes).1.map (· ++ [carriageReturn]), (completeLines bytes).2) := by
    conv_lhs => rw [← completeLines_join bytes, withReturns_joined hunbroken, lines,
      completeLines_joined (unbroken_returns hunbroken)]
  have hlines : ∀ line ∈ (completeLines bytes).1, line.getLast? ≠ some carriageReturn := by
    intro line hline
    refine h line ?_
    unfold lines withRest
    split
    · exact hline
    · exact List.mem_append_left _ hline
  have hsame : ((completeLines bytes).1.map (· ++ [carriageReturn])).map (extractBytes strict) =
      (completeLines bytes).1.map (extractBytes strict) := by
    rw [List.map_map]
    exact List.map_congr_left fun line hline => extractBytes_return strict (hlines line hline)
  rw [extractAll_complete, extractAll_complete, hreturns]
  unfold lines withRest
  dsimp only
  split
  · exact hsame
  · rw [List.map_append, List.map_append, hsame]

/-- A last line that is not ended is a line as it would be if it were. -/
theorem lines_ended {bytes : List UInt8} (hne : bytes ≠ [])
    (h : bytes.getLast? ≠ some lineBreak) : lines (bytes ++ [lineBreak]) = lines bytes := by
  obtain ⟨ls, hls, rfl⟩ : ∃ ls, Unbroken ls ∧ joined ls = bytes :=
    ⟨_, unbroken_completeLines bytes, completeLines_join bytes⟩
  obtain ⟨ls, rest⟩ := ls
  have hrest : rest ≠ [] := by
    rintro rfl
    -- the last byte would be the break of the last line
    have hlast := getLast?_lines ls
    rw [joined, List.append_nil] at hne h
    rw [List.getLast?_eq_some_getLast hne] at h hlast
    exact h (congrArg some (beq_iff_eq.mp hlast))
  have hended : joined (ls, rest) ++ [lineBreak] = terminated (ls ++ [rest]) := by
    unfold joined terminated
    rw [List.flatMap_append, List.append_assoc, List.flatMap_singleton]
  have hall : ∀ line ∈ ls ++ [rest], lineBreak ∉ line :=
    List.forall_mem_append.mpr ⟨hls.1, List.forall_mem_singleton.mpr hls.2⟩
  rw [hended, lines_terminated hall, lines, completeLines_joined hls, withRest,
    if_neg (by simpa using hrest)]

/-! ## Reading, exactly -/

/-- **A log is read line by line.** All bytes are lines with their line breaks and a rest without
one, in one way. However often a log is polled, the answers are the items that reading it at once
gives, with their numbers, and then the end: an item for each line and for a rest that is not empty;
if the reader fails, an item for each line and then the failure, whatever was served of the next
line. The item of a line depends on its bytes alone. Carriage returns before the line breaks of lines
without such, and a line break behind a last line without it, change no item. -/
theorem answer_linewise (strict : Bool) :
    (∀ bytes, ∃! ls, Unbroken ls ∧ joined ls = bytes) ∧
    (∀ log n, Reading.answer strict log n = (numbered (extractAll strict log))[n]?) ∧
    (∀ ls, Unbroken ls →
      (∀ n, Reading.answer strict ⟨joined ls, none⟩ n =
        (withRest ls)[n]?.map fun line => (n + 1, extractBytes strict line)) ∧
      ∀ failure n, Reading.answer strict ⟨joined ls, some failure⟩ n =
        if n = ls.1.length then some (n + 1, .error (.io failure))
        else ls.1[n]?.map fun line => (n + 1, extractBytes strict line)) ∧
    (∀ line, Gives strict line (extractBytes strict line)) ∧
    (∀ bytes, (∀ line ∈ lines bytes, line.getLast? ≠ some carriageReturn) → ∀ n,
      Reading.answer strict ⟨withReturns bytes, none⟩ n = Reading.answer strict ⟨bytes, none⟩ n) ∧
    ∀ bytes, bytes ≠ [] → bytes.getLast? ≠ some lineBreak → ∀ n,
      Reading.answer strict ⟨bytes ++ [lineBreak], none⟩ n =
        Reading.answer strict ⟨bytes, none⟩ n := by
  refine ⟨fun bytes => ?_, fun log n => Reading.answer_eq_getElem? strict log n,
    fun ls hls => ⟨fun n => ?_, fun failure n => ?_⟩, gives_extractBytes strict,
    fun bytes hreturns n => ?_, fun bytes hne hlast n => ?_⟩
  · refine ⟨completeLines bytes, ⟨unbroken_completeLines bytes, completeLines_join bytes⟩, ?_⟩
    rintro ls ⟨hls, rfl⟩
    exact (completeLines_joined hls).symm
  · rw [Reading.answer_eq_getElem?, numbered_getElem?, extractAll_complete, lines,
      completeLines_joined hls, List.getElem?_map, Option.map_map]
    rfl
  · have hall : extractAll strict ⟨joined ls, some failure⟩ =
        ls.1.map (extractBytes strict) ++ [.error (.io failure)] := by
      rw [extractAll, completeLines_joined hls]
    rw [Reading.answer_eq_getElem?, numbered_getElem?, hall, List.getElem?_append,
      List.length_map, List.getElem?_map]
    rcases Nat.lt_trichotomy n ls.1.length with hlt | rfl | hgt
    · rw [if_pos hlt, if_neg (Nat.ne_of_lt hlt), Option.map_map]
      rfl
    · simp
    · rw [if_neg (by omega), if_neg (by omega), List.getElem?_eq_none (by simp; omega),
        List.getElem?_eq_none (by omega)]
      rfl
  · rw [Reading.answer_eq_getElem?, Reading.answer_eq_getElem?,
      extractAll_withReturns strict hreturns]
  · rw [Reading.answer_eq_getElem?, Reading.answer_eq_getElem?, extractAll_complete,
      extractAll_complete, lines_ended hne hlast]

/-- Two lines, the second of which is no text, with carriage returns, with a last line break, and
with a reader that fails within the second line. -/
theorem answer_linewise_cut :
    let bytes : List UInt8 := [0x78, 0x0A, 0xFF]
    let reset : Failure := ⟨.connectionReset, "reset"⟩
    let answer := Reading.answer true
    let noEntry (number : Nat) (text : String) (reason : Rejection) :
        Option (Nat × Except LogError (Option Entry)) :=
      some (number, .error (.malformed text reason))
    (answer ⟨bytes, none⟩ 0 = noEntry 1 "x" .grammar ∧
      answer ⟨bytes, none⟩ 1 = noEntry 2 "\uFFFD" .encoding ∧ answer ⟨bytes, none⟩ 2 = none) ∧
    (answer ⟨bytes, some reset⟩ 0 = noEntry 1 "x" .grammar ∧
      answer ⟨bytes, some reset⟩ 1 = some (2, .error (.io reset)) ∧
      answer ⟨bytes, some reset⟩ 2 = none) ∧
    (∀ n, answer ⟨[0x78, 0x0D, 0x0A, 0xFF], none⟩ n = answer ⟨bytes, none⟩ n) ∧
    ∀ n, answer ⟨[0x78, 0x0A, 0xFF, 0x0A], none⟩ n = answer ⟨bytes, none⟩ n := by
  intro bytes reset answer noEntry
  obtain ⟨-, -, hlines, -, hreturns, hended⟩ := answer_linewise true
  have hunbroken : Unbroken ([[0x78]], [0xFF]) := by
    unfold Unbroken
    decide
  obtain ⟨hread, hfail⟩ := hlines ([[0x78]], [0xFF]) hunbroken
  have hfirst : extractBytes true [0x78] = .error (.malformed "x" .grammar) := by decide +kernel
  have hsecond : extractBytes true [0xFF] = .error (.malformed "\uFFFD" .encoding) := by
    decide +kernel
  refine ⟨⟨?_, ?_, hread 2⟩, ⟨?_, hfail reset 1, hfail reset 2⟩, hreturns bytes ?_,
    hended bytes (by decide) (by decide)⟩
  · exact (hread 0).trans (congrArg (fun item => some (1, item)) hfirst)
  · exact (hread 1).trans (congrArg (fun item => some (2, item)) hsecond)
  · exact (hfail reset 0).trans (congrArg (fun item => some (1, item)) hfirst)
  · decide

end LinkedQueries.AccessLog
