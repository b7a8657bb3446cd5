import LinkedQueries.Proofs.AccessLog.Interpretation
import LinkedQueries.Proofs.Time.Calendar
import LinkedQueries.Proofs.Time.Notation

/-!
# The times of a log

The time of an entry is the instant that its line writes, if it writes one. The grammar of a line
lets much through that writes no instant: other digits and blanks, numbers of any length, days that
no month has. An entry has no time then, and the text of it is noted.

* `Timestamp.Denotes`: an instant is that of a date, a time of day and an offset.
* `IsMisspelt`: texts that look like times but write none.

Results:
* `IsMisspelt.not_written`: what is misspelt is no date, time of day and offset.
* **`extract_timestamp`**: which entries have a time, and which instant it is.
-/

namespace LinkedQueries

/-- The instant at which clocks with the offset show the date and the time of day: the offset is
kept, and going back by it leads to that date and time of day in UTC. -/
structure Timestamp.Denotes (t : Timestamp) (l : LocalTime) (o : Offset) : Prop where
  offset : t.offset = o.seconds
  unix : ∃ days : Int, Date.IsDaysFrom Date.epoch l.date days ∧
    t.unix = 86400 * days + l.seconds - o.seconds

theorem Timestamp.denotes_ofLocal (l : LocalTime) (o : Offset) :
    (Timestamp.ofLocal l.date l.seconds o.seconds).Denotes l o where
  offset := rfl
  unix := by
    refine ⟨(l.date.dayNumber : Int) - epochDay, Date.isDaysFrom_iff.mpr rfl, ?_⟩
    rw [Timestamp.ofLocal, secondsPerDay, Int.mul_comm]
    rfl

namespace AccessLog

/-! ## Misspelt times -/

/-- What looks like a time and is none: behind the date and the time of day stand a blank, a sign
and four characters. -/
inductive IsMisspelt : List Char → Prop where
  /-- No date and time of day is written like that. -/
  | clock {clock zone : List Char} {blank sign : Char} (zone_length : zone.length = 4)
      (not_written : ∀ l : LocalTime, l.text ≠ clock) : IsMisspelt (clock ++ blank :: sign :: zone)
  /-- A part between two separators is not what it has to be. -/
  | part {p : TimeParts} {zone : List Char} {blank sign : Char} (zone_length : zone.length = 4)
      (separated : p.IsSeparated) (invalid : ¬ p.IsValid) :
      IsMisspelt (p.text ++ blank :: sign :: zone)
  /-- The blank is not a space. -/
  | blank {clock zone : List Char} {blank sign : Char} (zone_length : zone.length = 4)
      (other : blank ≠ ' ') : IsMisspelt (clock ++ blank :: sign :: zone)
  /-- There is a digit of another script. -/
  | digit {cs : List Char} {c : Char} (mem : c ∈ cs) (decimal : isDecimal c = true)
      (other : c.isDigit = false) : IsMisspelt cs

theorem length_offset (o : Offset) : o.text.length = 5 := by
  rw [Offset.text, List.length_cons, List.length_append, length_numeral, length_numeral]

/-- The space in front of an offset has five characters behind it. -/
theorem clock_of_written {clock zone : List Char} {blank sign : Char} {l : LocalTime} {o : Offset}
    (hzone : zone.length = 4) (htext : clock ++ blank :: sign :: zone = l.text ++ ' ' :: o.text) :
    clock = l.text ∧ blank = ' ' := by
  have hlength : (blank :: sign :: zone).length = (' ' :: o.text).length := by
    rw [List.length_cons, List.length_cons, List.length_cons, length_offset, hzone]
  obtain ⟨hclock, htail⟩ := List.append_inj' htext hlength
  exact ⟨hclock, (List.cons.inj htail).1⟩

/-- A time is written in ASCII. -/
theorem isAscii_of_written (l : LocalTime) (o : Offset) :
    ∀ c ∈ l.text ++ ' ' :: o.text, c.toNat < 0x80 := by
  have hnumeral (width n : Nat) : ∀ c ∈ numeral width n, c.toNat < 0x80 := fun c hc => by
    have hlt := (digitChar_of_isDigit (isDigit_numeral width n c hc)).1
    omega
  have hnames : (monthNames.all fun name => name.all (·.toNat < 0x80)) = true := by decide
  have hmonth : ∀ c ∈ monthName l.date.month, c.toNat < 0x80 := fun c hc =>
    of_decide_eq_true (List.all_eq_true.mp
      (List.all_eq_true.mp hnames _ (monthName_mem l.date.month_mem)) c hc)
  have hsign : (if o.negative then '-' else '+').toNat < 0x80 := by split <;> decide
  simp only [LocalTime.text, TimeParts.text, LocalTime.parts, Offset.text, List.forall_mem_append,
    List.forall_mem_cons]
  exact ⟨⟨hnumeral _ _, by decide, hmonth, by decide, hnumeral _ _, by decide, hnumeral _ _,
    by decide, hnumeral _ _, by decide, hnumeral _ _⟩, by decide, hsign, hnumeral _ _, hnumeral _ _⟩

/-- The only digits of a time are those of its numbers. -/
theorem isDigit_of_written {l : LocalTime} {o : Offset} {c : Char}
    (hc : c ∈ l.text ++ ' ' :: o.text) (hdecimal : isDecimal c = true) : c.isDigit = true := by
  rwa [isDecimal, if_pos (isAscii_of_written l o c hc)] at hdecimal

/-- **What is misspelt is no time.** -/
theorem IsMisspelt.not_written {cs : List Char} (h : IsMisspelt cs) (l : LocalTime) (o : Offset) :
    cs ≠ l.text ++ ' ' :: o.text := by
  intro htext
  cases h with
  | clock hzone hnot => exact hnot l (clock_of_written hzone htext).1.symm
  | part hzone hseparated hinvalid =>
    have hclock := (clock_of_written hzone htext).1
    exact hinvalid ((TimeParts.exists_text_eq_iff hseparated).mp ⟨l, hclock.symm⟩)
  | blank hzone hother => exact hother (clock_of_written hzone htext).2
  | digit hmem hdecimal hother =>
    rw [isDigit_of_written (htext ▸ hmem) hdecimal] at hother
    cases hother

/-! ## The time of an entry -/

/-- An entry has a time, and nothing is noted about it. -/
structure Entry.HasTime (e : Entry) (t : Timestamp) : Prop where
  timestamp : e.timestamp = some t
  diagnostics : e.diagnostics.filter (!·.isTarget) = []

/-- An entry has no time, and just this is noted, once, with the text of it. -/
structure Entry.HasNoTime (e : Entry) : Prop where
  timestamp : e.timestamp = none
  diagnostics : e.diagnostics.filter (!·.isTarget) = [.timestamp e.rawTimestamp]

variable {e : Entry} {line : Line}

theorem Entry.Keeps.timestamp_eq (h : e.Keeps line) :
    e.timestamp = Timestamp.ofLog? e.rawTimestamp.toList := by
  rw [h.rawTimestamp, String.toList_ofList, h.timestamp]

theorem Entry.Keeps.hasTime {t : Timestamp} (h : e.Keeps line)
    (htime : Timestamp.ofLog? e.rawTimestamp.toList = some t) : e.HasTime t where
  timestamp := h.timestamp_eq.trans htime
  diagnostics := by
    rw [h.filter_diagnostics.2, h.timestamp_eq, htime]
    rfl

theorem Entry.Keeps.hasNoTime (h : e.Keeps line)
    (htime : Timestamp.ofLog? e.rawTimestamp.toList = none) : e.HasNoTime where
  timestamp := h.timestamp_eq.trans htime
  diagnostics := by
    rw [h.filter_diagnostics.2, h.timestamp_eq, htime]
    rfl

/-- **Which instant an entry has.** A date of a year of four digits, a time of day and an offset,
written as a log writes them, give their instant, and nothing is noted about the time. Every other
text gives none, and that is noted once; so does a text with a part that is not what it has to be,
with another blank than a space or with other digits than those of ASCII. -/
theorem extract_timestamp {strict : Bool} {cs : List Char} (h : extract strict cs = .ok (some e)) :
    (∀ (l : LocalTime) (o : Offset), e.rawTimestamp.toList = l.text ++ ' ' :: o.text →
      ∃ t : Timestamp, e.HasTime t ∧ t.Denotes l o) ∧
    ((∀ (l : LocalTime) (o : Offset), e.rawTimestamp.toList ≠ l.text ++ ' ' :: o.text) →
      e.HasNoTime) ∧
    (IsMisspelt e.rawTimestamp.toList → e.HasNoTime) := by
  obtain ⟨line, hline⟩ := exists_keeps h
  have hnone : (∀ (l : LocalTime) (o : Offset), e.rawTimestamp.toList ≠ l.text ++ ' ' :: o.text) →
      e.HasNoTime := by
    intro hnot
    refine hline.hasNoTime (Option.eq_none_iff_forall_ne_some.mpr fun t ht => ?_)
    obtain ⟨l, o, htext, -⟩ := Timestamp.ofLog?_eq_some.mp ht
    exact hnot l o htext
  refine ⟨fun l o htext => ?_, hnone, fun hmisspelt => hnone hmisspelt.not_written⟩
  exact ⟨_, hline.hasTime (Timestamp.ofLog?_eq_some.mpr ⟨l, o, htext, rfl⟩),
    Timestamp.denotes_ofLocal l o⟩

/-- The last second of a leap day, half an hour west of UTC; the year 1900 has no such day. -/
theorem extract_timestamp_leapDay :
    let line (time : String) : List Char := ("h - u [" ++ time ++ "] \"G\" 200 1 \"r\"").toList
    let leapDay : LocalTime := ⟨⟨2000, 2, 29, by decide, by decide⟩, by decide, 23, by decide, 59,
      by decide, 59, by decide⟩
    let west : Offset := ⟨true, 0, by decide, 30, by decide⟩
    (∃ e, extract true (line "29/Feb/2000:23:59:59 -0030") = .ok (some e) ∧
      ∃ t, e.HasTime t ∧ t.Denotes leapDay west ∧ t.offset = -1800) ∧
    ∃ e, extract true (line "29/Feb/1900:23:59:59 -0030") = .ok (some e) ∧ e.HasNoTime := by
  intro line leapDay west
  let entry (raw : String) (timestamp : Option Timestamp) (diagnostics : List Diagnostic) : Entry :=
    ⟨"h", "u", raw, timestamp, "G", none, 200, 1, "r", none, none, diagnostics⟩
  constructor
  · let raw := "29/Feb/2000:23:59:59 -0030"
    have he : extract true (line raw) = .ok (some (entry raw (some ⟨951870599, -1800⟩) [])) := by
      decide +kernel
    obtain ⟨t, htime, hdenotes⟩ := (extract_timestamp he).1 leapDay west (by decide +kernel)
    exact ⟨_, he, t, htime, hdenotes, hdenotes.offset.trans (by decide)⟩
  · let raw := "29/Feb/1900:23:59:59 -0030"
    have he : extract true (line raw) = .ok (some (entry raw none [.timestamp raw])) := by
      decide +kernel
    let p : TimeParts := ⟨['2', '9'], ['F', 'e', 'b'], ['1', '9', '0', '0'], ['2', '3'], ['5', '9'],
      ['5', '9']⟩
    have hraw : raw.toList = p.text ++ ' ' :: '-' :: ['0', '0', '3', '0'] := by decide +kernel
    have hmisspelt : IsMisspelt raw.toList := by
      rw [hraw]
      refine .part rfl ⟨?_, ?_, ?_, ?_, ?_⟩ fun h => absurd h.day_mem.2 (by decide)
      all_goals decide
    exact ⟨_, he, (extract_timestamp he).2.2 hmisspelt⟩

end AccessLog

end LinkedQueries
