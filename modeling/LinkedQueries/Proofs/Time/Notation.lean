import LinkedQueries.Time.Timestamp
import Mathlib.Data.List.Basic
import Mathlib.Data.List.Induction
import Mathlib.Tactic.IntervalCases

/-!
# The notation of points of time

A log writes a point of time as `10/Oct/2020:13:55:36 -0700`: a date and a time of day, a space, and
the offset from UTC. Reading finds exactly what can be written so; the offset may go beyond a day.

* `LocalTime`, `Offset`: what the two sides of the space say, and how they are written.
* `TimeParts`: what stands between the separators of a date and a time of day.

Results:
* `decimal?_eq_some_iff`: a numeral of some width is read back, and only a numeral.
* **`ofLog?_eq_some`**: a time is read iff it is written, and it is the one that is read.
* `TimeParts.exists_text_eq_iff`: which parts make up a date and a time of day.
-/

namespace LinkedQueries

/-! ## Numerals -/

/-- The last decimal digits of a number, as many as the width says. -/
def numeral : Nat → Nat → List Char
  | 0, _ => []
  | width + 1, n => numeral width (n / 10) ++ [Nat.digitChar (n % 10)]

theorem length_numeral : ∀ width n : Nat, (numeral width n).length = width
  | 0, _ => rfl
  | width + 1, n => by
    rw [numeral, List.length_append, length_numeral width, List.length_singleton]

theorem isDigit_digitChar : ∀ {d : Nat}, d < 10 → (Nat.digitChar d).isDigit = true := by
  decide

theorem isDigit_numeral : ∀ (width n : Nat), ∀ c ∈ numeral width n, c.isDigit = true
  | 0, _, _, h => absurd h List.not_mem_nil
  | width + 1, n, c, h => by
    rcases List.mem_append.mp h with h | h
    · exact isDigit_numeral width (n / 10) c h
    · rw [List.mem_singleton.mp h]
      exact isDigit_digitChar (Nat.mod_lt n (by decide))

theorem digitsValue_concat (digits : List Char) (c : Char) :
    digitsValue (digits ++ [c]) = 10 * digitsValue digits + (c.toNat - 48) := by
  unfold digitsValue
  rw [List.foldl_append, List.foldl_cons, List.foldl_nil]

theorem digitsValue_numeral : ∀ width n : Nat, digitsValue (numeral width n) = n % 10 ^ width
  | 0, n => by
    rw [Nat.pow_zero, Nat.mod_one]
    rfl
  | width + 1, n => by
    rw [numeral, digitsValue_concat, digitsValue_numeral width,
      Nat.toNat_digitChar_of_lt_ten (Nat.mod_lt n (by decide)), Nat.pow_succ', Nat.mod_mul]
    omega

/-- A text has so many ASCII digits and nothing else. -/
def IsNumeral (width : Nat) (cs : List Char) : Prop :=
  cs.length = width ∧ ∀ c ∈ cs, c.isDigit = true

theorem isNumeral_numeral (width n : Nat) : IsNumeral width (numeral width n) :=
  ⟨length_numeral width n, isDigit_numeral width n⟩

theorem digitChar_of_isDigit {c : Char} (h : c.isDigit = true) :
    c.toNat - 48 < 10 ∧ Nat.digitChar (c.toNat - 48) = c := by
  simp only [Char.isDigit, Bool.and_eq_true, decide_eq_true_eq, UInt32.le_iff_toNat_le] at h
  have hlow : 48 ≤ c.toNat := h.1
  have hhigh : c.toNat ≤ 57 := h.2
  have hlt : c.toNat - 48 < 10 := by omega
  refine ⟨hlt, Char.toNat_inj.mp ?_⟩
  rw [Nat.toNat_digitChar_of_lt_ten hlt]
  omega

/-- Digits are the numeral of their value. The value grows at the end, and so does a numeral. -/
theorem IsNumeral.numeral_digitsValue {width : Nat} {cs : List Char} (h : IsNumeral width cs) :
    numeral width (digitsValue cs) = cs := by
  obtain ⟨rfl, hdigits⟩ := h
  induction cs using List.reverseRecOn with
  | nil => rfl
  | append_singleton cs c ih =>
    obtain ⟨hcs, hc⟩ := List.forall_mem_append.mp hdigits
    obtain ⟨hlt, hchar⟩ := digitChar_of_isDigit (hc c List.mem_cons_self)
    rw [digitsValue_concat, List.length_append, List.length_singleton, numeral,
      Nat.mul_add_div (by decide), Nat.div_eq_of_lt hlt, Nat.add_zero, ih hcs, Nat.mul_add_mod,
      Nat.mod_eq_of_lt hlt, hchar]

theorem IsNumeral.digitsValue_lt {width : Nat} {cs : List Char} (h : IsNumeral width cs) :
    digitsValue cs < 10 ^ width := by
  have hvalue := digitsValue_numeral width (digitsValue cs)
  rw [h.numeral_digitsValue] at hvalue
  rw [hvalue]
  exact Nat.mod_lt _ (Nat.pow_pos (by decide))

theorem digitsValue_numeral_of_lt {width n : Nat} (h : n < 10 ^ width) :
    digitsValue (numeral width n) = n := by
  rw [digitsValue_numeral, Nat.mod_eq_of_lt h]

/-- **A numeral is read back**, and nothing else of its width is read. -/
theorem decimal?_eq_some_iff {width n : Nat} {cs : List Char} (hwidth : 0 < width)
    (hlength : cs.length = width) :
    decimal? cs = some n ↔ numeral width n = cs ∧ n < 10 ^ width := by
  unfold decimal?
  constructor
  · intro h
    split at h
    · next hdigits =>
      simp only [Bool.and_eq_true, List.all_eq_true] at hdigits
      have hnumeral : IsNumeral width cs := ⟨hlength, hdigits.2⟩
      obtain rfl := Option.some.inj h
      exact ⟨hnumeral.numeral_digitsValue, hnumeral.digitsValue_lt⟩
    · cases h
  · rintro ⟨hcs, hlt⟩
    have hne : cs ≠ [] := List.ne_nil_of_length_pos (hlength.symm ▸ hwidth)
    subst hcs
    rw [if_pos, digitsValue_numeral_of_lt hlt]
    simp only [Bool.and_eq_true, Bool.not_eq_true', List.isEmpty_eq_false_iff, List.all_eq_true]
    exact ⟨hne, isDigit_numeral width n⟩

theorem decimalBelow?_eq_some_iff {width bound n : Nat} {cs : List Char} (hwidth : 0 < width)
    (hlength : cs.length = width) (hbound : bound ≤ 10 ^ width) :
    decimalBelow? bound cs = some n ↔ numeral width n = cs ∧ n < bound := by
  rw [decimalBelow?, Option.filter_eq_some_iff, decimal?_eq_some_iff hwidth hlength,
    decide_eq_true_eq, and_assoc]
  exact and_congr_right fun _ => and_iff_right_of_imp fun hlt => Nat.lt_of_lt_of_le hlt hbound

/-! ## Names of months -/

/-- The name of a month, counted from 1. -/
def monthName (month : Nat) : List Char :=
  monthNames.getD (month - 1) []

theorem monthName_succ {i : Nat} (h : i < monthNames.length) :
    monthName (i + 1) = monthNames[i] := by
  rw [monthName, Nat.add_sub_cancel, List.getD, List.getElem?_eq_getElem h, Option.getD_some]

theorem monthNumber?_monthName {month : Nat} (h : 1 ≤ month ∧ month ≤ 12) :
    monthNumber? (monthName month) = some month := by
  obtain ⟨hone, htwelve⟩ := h
  interval_cases month <;> decide

theorem monthName_mem {month : Nat} (h : 1 ≤ month ∧ month ≤ 12) :
    monthName month ∈ monthNames := by
  obtain ⟨i, rfl⟩ := Nat.exists_eq_add_of_le' h.1
  rw [monthName_succ h.2]
  exact List.getElem_mem h.2

theorem idxOf_monthName {month : Nat} (h : 1 ≤ month ∧ month ≤ 12) :
    monthNames.idxOf (monthName month) + 1 = month := by
  obtain ⟨hone, htwelve⟩ := h
  interval_cases month <;> decide

theorem monthName_idxOf {name : List Char} (h : name ∈ monthNames) :
    monthName (monthNames.idxOf name + 1) = name := by
  rw [monthName_succ (List.idxOf_lt_length_of_mem h), List.getElem_idxOf]

theorem length_of_mem_monthNames : ∀ name ∈ monthNames, name.length = 3 := by
  decide

theorem monthNumber?_eq_some {name : List Char} {month : Nat} :
    monthNumber? name = some month ↔ (1 ≤ month ∧ month ≤ 12) ∧ monthName month = name := by
  constructor
  · intro h
    obtain ⟨i, hi, rfl⟩ := Option.map_eq_some_iff.mp h
    obtain ⟨hlt, hname, -⟩ := List.findIdx?_eq_some_iff_getElem.mp hi
    have htwelve : i < 12 := hlt
    refine ⟨⟨Nat.le_add_left 1 i, htwelve⟩, ?_⟩
    rw [monthName_succ hlt]
    exact beq_iff_eq.mp hname
  · rintro ⟨hmonth, rfl⟩
    exact monthNumber?_monthName hmonth

/-! ## Dates and times of day -/

/-- The texts between the separators of a date and a time of day. -/
structure TimeParts where
  day : List Char
  month : List Char
  year : List Char
  hour : List Char
  minute : List Char
  second : List Char

/-- A date of a year of four digits, and a time of day. -/
structure LocalTime where
  date : Date
  year_lt : date.year < 10000
  hour : Nat
  hour_lt : hour < 24
  minute : Nat
  minute_lt : minute < 60
  second : Nat
  second_lt : second < 60

/-- An offset from UTC: a sign, hours and minutes. -/
structure Offset where
  negative : Bool
  hour : Nat
  hour_lt : hour < 26
  minute : Nat
  minute_lt : minute < 60

namespace TimeParts

/-- A date and a time of day, as a log writes them. -/
def text (p : TimeParts) : List Char :=
  p.day ++ '/' :: (p.month ++ '/' :: (p.year ++ ':' :: (p.hour ++ ':' :: (p.minute ++ ':' ::
    p.second))))

/-- The parts have the lengths of their fields. -/
structure IsSized (p : TimeParts) : Prop where
  day : p.day.length = 2
  month : p.month.length = 3
  year : p.year.length = 4
  hour : p.hour.length = 2
  minute : p.minute.length = 2
  second : p.second.length = 2

/-- No part holds the separator behind it. -/
structure IsSeparated (p : TimeParts) : Prop where
  day : '/' ∉ p.day
  month : '/' ∉ p.month
  year : ':' ∉ p.year
  hour : ':' ∉ p.hour
  minute : ':' ∉ p.minute

/-- Each part is what it has to be: every number has its full count of ASCII digits, the month has
one of its names, the month has such a day in that year, and the time is one of the day. -/
structure IsValid (p : TimeParts) : Prop where
  day : IsNumeral 2 p.day
  month : p.month ∈ monthNames
  year : IsNumeral 4 p.year
  hour : IsNumeral 2 p.hour
  minute : IsNumeral 2 p.minute
  second : IsNumeral 2 p.second
  day_mem : 1 ≤ digitsValue p.day ∧
    digitsValue p.day ≤ daysInMonth (digitsValue p.year) (monthNames.idxOf p.month + 1)
  hour_lt : digitsValue p.hour < 24
  minute_lt : digitsValue p.minute < 60
  second_lt : digitsValue p.second < 60

/-- What stands in front of the first separator, and what stands behind it. -/
theorem append_separator_inj {separator : Char} : ∀ {a a' b b' : List Char}, separator ∉ a →
    separator ∉ a' → a ++ separator :: b = a' ++ separator :: b' → a = a' ∧ b = b'
  | [], [], _, _, _, _, h => ⟨rfl, (List.cons.inj h).2⟩
  | [], c :: _, _, _, _, ha', h => absurd ((List.cons.inj h).1 ▸ List.mem_cons_self) ha'
  | c :: _, [], _, _, ha, _, h => absurd ((List.cons.inj h).1 ▸ List.mem_cons_self) ha
  | c :: a, c' :: a', _, _, ha, ha', h => by
    obtain ⟨rfl, htail⟩ := List.cons.inj h
    obtain ⟨rfl, hb⟩ := append_separator_inj (List.not_mem_of_not_mem_cons ha)
      (List.not_mem_of_not_mem_cons ha') htail
    exact ⟨rfl, hb⟩

/-- Separators tell the parts. -/
theorem text_inj {p p' : TimeParts} (h : p.IsSeparated) (h' : p'.IsSeparated)
    (htext : p.text = p'.text) : p = p' := by
  obtain ⟨hday, htext⟩ := append_separator_inj h.day h'.day htext
  obtain ⟨hmonth, htext⟩ := append_separator_inj h.month h'.month htext
  obtain ⟨hyear, htext⟩ := append_separator_inj h.year h'.year htext
  obtain ⟨hhour, htext⟩ := append_separator_inj h.hour h'.hour htext
  obtain ⟨hminute, hsecond⟩ := append_separator_inj h.minute h'.minute htext
  cases p
  cases p'
  simp_all only

end TimeParts

namespace LocalTime

/-- The parts of a date and a time of day. -/
def parts (l : LocalTime) : TimeParts where
  day := numeral 2 l.date.day
  month := monthName l.date.month
  year := numeral 4 l.date.year
  hour := numeral 2 l.hour
  minute := numeral 2 l.minute
  second := numeral 2 l.second

/-- A date and a time of day, as a log writes them: `10/Oct/2020:13:55:36`. -/
def text (l : LocalTime) : List Char :=
  l.parts.text

/-- The seconds that have passed of the day. -/
def seconds (l : LocalTime) : Nat :=
  3600 * l.hour + 60 * l.minute + l.second

theorem isSized_parts (l : LocalTime) : l.parts.IsSized where
  day := length_numeral 2 _
  month := length_of_mem_monthNames _ (monthName_mem l.date.month_mem)
  year := length_numeral 4 _
  hour := length_numeral 2 _
  minute := length_numeral 2 _
  second := length_numeral 2 _

end LocalTime

namespace Offset

/-- An offset, as a log writes it: `-0700`. -/
def text (o : Offset) : List Char :=
  (if o.negative then '-' else '+') :: (numeral 2 o.hour ++ numeral 2 o.minute)

/-- The seconds of an offset; its sign belongs to all of them. -/
def seconds (o : Offset) : Int :=
  (if o.negative then -1 else 1) * (3600 * o.hour + 60 * o.minute : Nat)

end Offset

/-! ## What a date and a time of day are made of -/

theorem IsNumeral.notMem {width : Nat} {cs : List Char} (h : IsNumeral width cs) {c : Char}
    (hc : c.isDigit = false) : c ∉ cs := fun hmem =>
  absurd (h.2 c hmem) (Bool.eq_false_iff.mp hc)

theorem TimeParts.IsValid.isSeparated {p : TimeParts} (h : p.IsValid) : p.IsSeparated where
  day := h.day.notMem rfl
  month := fun hmem => by
    have hnames : ∀ name ∈ monthNames, '/' ∉ name := by decide
    exact hnames _ h.month hmem
  year := h.year.notMem rfl
  hour := h.hour.notMem rfl
  minute := h.minute.notMem rfl

theorem Date.day_lt (d : Date) : d.day < 100 := by
  have hlength : daysInMonth d.year d.month ≤ 31 := by
    unfold daysInMonth
    split
    · split <;> decide
    all_goals decide
  exact Nat.lt_of_le_of_lt (d.day_mem.2.trans hlength) (by decide)

theorem LocalTime.isValid_parts (l : LocalTime) : l.parts.IsValid where
  day := isNumeral_numeral 2 _
  month := monthName_mem l.date.month_mem
  year := isNumeral_numeral 4 _
  hour := isNumeral_numeral 2 _
  minute := isNumeral_numeral 2 _
  second := isNumeral_numeral 2 _
  day_mem := by
    have hday : l.date.day < 10 ^ 2 := l.date.day_lt
    have hyear : l.date.year < 10 ^ 4 := l.year_lt
    rw [parts, digitsValue_numeral_of_lt hday, digitsValue_numeral_of_lt hyear,
      idxOf_monthName l.date.month_mem]
    exact l.date.day_mem
  hour_lt := (digitsValue_numeral_of_lt (l.hour_lt.trans (by decide))).trans_lt l.hour_lt
  minute_lt := (digitsValue_numeral_of_lt (l.minute_lt.trans (by decide))).trans_lt l.minute_lt
  second_lt := (digitsValue_numeral_of_lt (l.second_lt.trans (by decide))).trans_lt l.second_lt

/-- **Parts make up a date and a time of day iff they are valid.** -/
theorem TimeParts.exists_text_eq_iff {p : TimeParts} (hp : p.IsSeparated) :
    (∃ l : LocalTime, l.text = p.text) ↔ p.IsValid := by
  constructor
  · rintro ⟨l, htext⟩
    obtain rfl := text_inj l.isValid_parts.isSeparated hp htext
    exact l.isValid_parts
  · intro h
    have hmonth : 1 ≤ monthNames.idxOf p.month + 1 ∧ monthNames.idxOf p.month + 1 ≤ 12 :=
      ⟨Nat.le_add_left 1 _, List.idxOf_lt_length_of_mem h.month⟩
    refine ⟨⟨⟨digitsValue p.year, _, digitsValue p.day, hmonth, h.day_mem⟩, h.year.digitsValue_lt,
      _, h.hour_lt, _, h.minute_lt, _, h.second_lt⟩, ?_⟩
    rw [LocalTime.text, LocalTime.parts, h.day.numeral_digitsValue, h.year.numeral_digitsValue,
      h.hour.numeral_digitsValue, h.minute.numeral_digitsValue, h.second.numeral_digitsValue,
      monthName_idxOf h.month]

theorem Date.ofNumbers?_eq_some {year month day : Nat} {d : Date} :
    Date.ofNumbers? year month day = some d ↔ year = d.year ∧ month = d.month ∧ day = d.day := by
  unfold Date.ofNumbers?
  constructor
  · intro h
    split at h
    · split at h
      · obtain rfl := Option.some.inj h
        exact ⟨rfl, rfl, rfl⟩
      · cases h
    · cases h
  · rintro ⟨rfl, rfl, rfl⟩
    rw [dif_pos d.month_mem, dif_pos d.day_mem]

namespace Timestamp

/-! ## Reading -/

theorem date?_eq_some {day month year : List Char} {d : Date} (hday : day.length = 2)
    (hyear : year.length = 4) : date? day month year = some d ↔
      numeral 2 d.day = day ∧ monthName d.month = month ∧ numeral 4 d.year = year ∧
        d.year < 10000 := by
  unfold date?
  simp only [Option.bind_eq_bind, Option.bind_eq_some_iff, decimal?_eq_some_iff Nat.two_pos hday,
    decimal?_eq_some_iff (by decide : 0 < 4) hyear, monthNumber?_eq_some, Date.ofNumbers?_eq_some]
  constructor
  · rintro ⟨_, ⟨hday, -⟩, _, ⟨-, hmonth⟩, _, ⟨hyear, hlt⟩, rfl, rfl, rfl⟩
    exact ⟨hday, hmonth, hyear, hlt⟩
  · rintro ⟨hday, hmonth, hyear, hlt⟩
    exact ⟨_, ⟨hday, d.day_lt⟩, _, ⟨d.month_mem, hmonth⟩, _, ⟨hyear, hlt⟩, rfl, rfl, rfl⟩

theorem clock?_eq_some {hour minute second : List Char} {n : Nat} (hhour : hour.length = 2)
    (hminute : minute.length = 2) (hsecond : second.length = 2) :
    clock? hour minute second = some n ↔ ∃ h m s, h < 24 ∧ m < 60 ∧ s < 60 ∧
      numeral 2 h = hour ∧ numeral 2 m = minute ∧ numeral 2 s = second ∧
        3600 * h + 60 * m + s = n := by
  unfold clock?
  simp only [Option.bind_eq_bind, Option.bind_eq_some_iff, Option.pure_def, Option.some.injEq,
    decimalBelow?_eq_some_iff Nat.two_pos hhour (by decide : 24 ≤ 10 ^ 2),
    decimalBelow?_eq_some_iff Nat.two_pos hminute (by decide : 60 ≤ 10 ^ 2),
    decimalBelow?_eq_some_iff Nat.two_pos hsecond (by decide : 60 ≤ 10 ^ 2)]
  constructor
  · rintro ⟨h, ⟨hhour, hh⟩, m, ⟨hminute, hm⟩, s, ⟨hsecond, hs⟩, hn⟩
    exact ⟨h, m, s, hh, hm, hs, hhour, hminute, hsecond, hn⟩
  · rintro ⟨h, m, s, hh, hm, hs, hhour, hminute, hsecond, hn⟩
    exact ⟨h, ⟨hhour, hh⟩, m, ⟨hminute, hm⟩, s, ⟨hsecond, hs⟩, hn⟩

theorem sign?_eq_some {c : Char} {negative : Bool} :
    sign? c = some negative ↔ (if negative then '-' else '+') = c := by
  unfold sign?
  split <;> cases negative <;> simp_all [eq_comm]

theorem offset?_eq_some {sign : Char} {hour minute : List Char} {n : Int}
    (hhour : hour.length = 2) (hminute : minute.length = 2) :
    offset? sign hour minute = some n ↔
      ∃ o : Offset, o.text = sign :: (hour ++ minute) ∧ o.seconds = n := by
  unfold offset? Offset.text
  simp only [Option.bind_eq_bind, Option.bind_eq_some_iff, Option.pure_def, Option.some.injEq,
    sign?_eq_some, decimalBelow?_eq_some_iff Nat.two_pos hhour (by decide : 26 ≤ 10 ^ 2),
    decimalBelow?_eq_some_iff Nat.two_pos hminute (by decide : 60 ≤ 10 ^ 2)]
  constructor
  · rintro ⟨negative, rfl, h, ⟨rfl, hh⟩, m, ⟨rfl, hm⟩, rfl⟩
    refine ⟨⟨negative, h, hh, m, hm⟩, rfl, ?_⟩
    unfold Offset.seconds
    cases negative <;> simp
  · rintro ⟨o, htext, rfl⟩
    obtain ⟨hsign, hdigits⟩ := List.cons.inj htext
    obtain ⟨rfl, rfl⟩ := List.append_inj hdigits ((length_numeral _ _).trans hhour.symm)
    refine ⟨o.negative, hsign, o.hour, ⟨rfl, o.hour_lt⟩, o.minute, ⟨rfl, o.minute_lt⟩, ?_⟩
    unfold Offset.seconds
    cases o.negative <;> simp

/-- All fields of a time are read, each from its own characters. -/
theorem ofLog?_text {p : TimeParts} (h : p.IsSized) {sign : Char} {hour minute : List Char}
    (hhour : hour.length = 2) (hminute : minute.length = 2) :
    ofLog? (p.text ++ ' ' :: sign :: (hour ++ minute)) = (do
      let date ← date? p.day p.month p.year
      let clock ← clock? p.hour p.minute p.second
      let offset ← offset? sign hour minute
      return ofLocal date clock offset) := by
  obtain ⟨day, month, year, clockHour, clockMinute, second⟩ := p
  obtain ⟨d₁, d₂, rfl⟩ := List.length_eq_two.mp h.day
  obtain ⟨m₁, m₂, m₃, rfl⟩ := List.length_eq_three.mp h.month
  obtain ⟨h₁, h₂, rfl⟩ := List.length_eq_two.mp h.hour
  obtain ⟨n₁, n₂, rfl⟩ := List.length_eq_two.mp h.minute
  obtain ⟨s₁, s₂, rfl⟩ := List.length_eq_two.mp h.second
  obtain ⟨o₁, o₂, rfl⟩ := List.length_eq_two.mp hhour
  obtain ⟨q₁, q₂, rfl⟩ := List.length_eq_two.mp hminute
  match year, h.year with
  | [y₁, y₂, y₃, y₄], _ => rfl

theorem exists_text_of_ofLog? {cs : List Char} {t : Timestamp} (h : ofLog? cs = some t) :
    ∃ (p : TimeParts) (sign : Char) (hour minute : List Char), p.IsSized ∧ hour.length = 2 ∧
      minute.length = 2 ∧ cs = p.text ++ ' ' :: sign :: (hour ++ minute) := by
  unfold ofLog? at h
  split at h
  · next d₁ d₂ m₁ m₂ m₃ y₁ y₂ y₃ y₄ h₁ h₂ n₁ n₂ s₁ s₂ sign o₁ o₂ q₁ q₂ =>
    exact ⟨⟨[d₁, d₂], [m₁, m₂, m₃], [y₁, y₂, y₃, y₄], [h₁, h₂], [n₁, n₂], [s₁, s₂]⟩, sign,
      [o₁, o₂], [q₁, q₂], ⟨rfl, rfl, rfl, rfl, rfl, rfl⟩, rfl, rfl, rfl⟩
  · cases h

/-- **A time is read iff it is written**, and it is the one that is read. -/
theorem ofLog?_eq_some {cs : List Char} {t : Timestamp} :
    ofLog? cs = some t ↔ ∃ (l : LocalTime) (o : Offset), cs = l.text ++ ' ' :: o.text ∧
      t = ofLocal l.date l.seconds o.seconds := by
  have hread : ∀ {p : TimeParts} {sign : Char} {hour minute : List Char}, p.IsSized →
      hour.length = 2 → minute.length = 2 →
      (ofLog? (p.text ++ ' ' :: sign :: (hour ++ minute)) = some t ↔
        ∃ (l : LocalTime) (o : Offset), l.parts = p ∧ o.text = sign :: (hour ++ minute) ∧
          t = ofLocal l.date l.seconds o.seconds) := by
    intro p sign hour minute hp hhour hminute
    rw [ofLog?_text hp hhour hminute]
    simp only [Option.bind_eq_bind, Option.bind_eq_some_iff, Option.pure_def, Option.some.injEq,
      date?_eq_some hp.day hp.year, clock?_eq_some hp.hour hp.minute hp.second,
      offset?_eq_some hhour hminute]
    constructor
    · rintro ⟨date, ⟨hday, hmonth, hyear, hlt⟩, _,
        ⟨h, m, s, hh, hm, hs, hhour, hminute, hsecond, rfl⟩, _, ⟨o, ho, rfl⟩, rfl⟩
      refine ⟨⟨date, hlt, h, hh, m, hm, s, hs⟩, o, ?_, ho, rfl⟩
      rw [LocalTime.parts, hday, hmonth, hyear, hhour, hminute, hsecond]
    · rintro ⟨l, o, rfl, ho, rfl⟩
      exact ⟨l.date, ⟨rfl, rfl, rfl, l.year_lt⟩, _, ⟨l.hour, l.minute, l.second, l.hour_lt,
        l.minute_lt, l.second_lt, rfl, rfl, rfl, rfl⟩, _, ⟨o, ho, rfl⟩, rfl⟩
  constructor
  · intro h
    obtain ⟨p, sign, hour, minute, hp, hhour, hminute, rfl⟩ := exists_text_of_ofLog? h
    obtain ⟨l, o, rfl, ho, rfl⟩ := (hread hp hhour hminute).mp h
    exact ⟨l, o, by rw [ho, LocalTime.text], rfl⟩
  · rintro ⟨l, o, rfl, rfl⟩
    have hoffset : ofLog? (l.text ++ ' ' :: o.text) = some _ ↔ _ :=
      hread l.isSized_parts (length_numeral 2 _) (length_numeral 2 _)
    exact hoffset.mpr ⟨l, o, rfl, rfl, rfl⟩

end Timestamp

end LinkedQueries
