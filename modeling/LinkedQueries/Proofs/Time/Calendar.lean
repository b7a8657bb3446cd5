import LinkedQueries.Time.Calendar
import LinkedQueries.Proofs.Lists
import Mathlib.Logic.Function.Iterate

/-!
# Days are counted one by one

The number of a date comes out of a formula. It is the number that is reached by counting: the
calendar goes from each date to the next one, through the days of a month and the months of a year,
and the formula goes up by one with it.

Results:
* `dayNumber_next`: the next date has the next number.
* `iterate_next_first`: every date is reached from the first one, in as many steps as its number.
* **`isDaysFrom_iff`**: how many days a date lies behind another one.
-/

namespace LinkedQueries

/-- Every month has its first day. -/
theorem one_le_daysInMonth (year month : Nat) : 1 ≤ daysInMonth year month := by
  unfold daysInMonth
  split
  · split <;> decide
  all_goals decide

namespace Date

/-- The first date of the calendar. -/
def first : Date := ⟨0, 1, 1, by decide, by decide⟩

/-- The date that instants are counted from. -/
def epoch : Date := ⟨1970, 1, 1, by decide, by decide⟩

/-- The date after a date: the next day of its month, or the first day of the next month, or the
first day of the next year. -/
def next (d : Date) : Date :=
  if hday : d.day < daysInMonth d.year d.month then
    ⟨d.year, d.month, d.day + 1, d.month_mem, by omega⟩
  else if hmonth : d.month < 12 then
    ⟨d.year, d.month + 1, 1, by omega, Nat.le_refl 1, one_le_daysInMonth _ _⟩
  else ⟨d.year + 1, 1, 1, by decide, Nat.le_refl 1, one_le_daysInMonth _ _⟩

/-- One date lies a number of days behind another one, or before it if the number is negative:
going on day by day from the earlier one leads to the later one. -/
def IsDaysFrom (origin d : Date) (days : Int) : Prop :=
  next^[days.toNat] origin = next^[(-days).toNat] d

/-! ## The formula -/

theorem daysBeforeMonth_succ (year : Nat) {month : Nat} (h : 1 ≤ month) :
    daysBeforeMonth year (month + 1) = daysBeforeMonth year month + daysInMonth year month := by
  obtain ⟨m, rfl⟩ := Nat.exists_eq_add_of_le' h
  unfold daysBeforeMonth
  rw [Nat.add_sub_cancel, Nat.add_sub_cancel, List.range_succ, List.map_append, total_append]
  rfl

/-- The days of a year: its months, and a leap day if it has one. -/
theorem daysBeforeMonth_end (year : Nat) :
    daysBeforeMonth year 12 + daysInMonth year 12 = 365 + if isLeapYear year then 1 else 0 := by
  unfold daysBeforeMonth daysInMonth
  cases isLeapYear year <;> rfl

/-- The years up to a year that a number divides. -/
theorem multiples_succ (year k : Nat) (hk : 0 < k) :
    (year + 1 + (k - 1)) / k = (year + (k - 1)) / k + if year % k = 0 then 1 else 0 := by
  have hdvd : k ∣ year + (k - 1) + 1 ↔ year % k = 0 := by
    rw [show year + (k - 1) + 1 = year + k by omega, Nat.dvd_iff_mod_eq_zero, Nat.add_mod_right]
  rw [Nat.add_right_comm, Nat.succ_div]
  simp only [hdvd]

/-- Every fourth year counts as a leap year, every hundredth does not, every four hundredth does. -/
theorem isLeapYear_count (year : Nat) :
    (if isLeapYear year then 1 else 0) + (if year % 100 = 0 then 1 else 0) =
      (if year % 4 = 0 then 1 else 0) + if year % 400 = 0 then 1 else 0 := by
  have hcentury : year % 100 = 0 → year % 4 = 0 := by omega
  have hcycle : year % 400 = 0 → year % 100 = 0 := by omega
  unfold isLeapYear
  by_cases h4 : year % 4 = 0 <;> by_cases h100 : year % 100 = 0 <;>
    by_cases h400 : year % 400 = 0 <;> simp_all

theorem daysBeforeYear_succ (year : Nat) :
    daysBeforeYear (year + 1) = daysBeforeYear year + (365 + if isLeapYear year then 1 else 0) := by
  have hfours := multiples_succ year 4 (by decide)
  have hcenturies := multiples_succ year 100 (by decide)
  have hcycles := multiples_succ year 400 (by decide)
  have hfew : (year + 99) / 100 ≤ year := by omega
  have hcount := isLeapYear_count year
  have hone : (if year % 100 = 0 then 1 else 0) ≤ 1 := by split <;> decide
  unfold daysBeforeYear
  simp only [Nat.reduceSub] at hfours hcenturies hcycles
  rw [hfours, hcenturies, hcycles]
  generalize (year + 3) / 4 = fours at *
  generalize (year + 99) / 100 = centuries at *
  generalize (year + 399) / 400 = cycles at *
  omega

/-- **The next date has the next number.** -/
theorem dayNumber_next (d : Date) : d.next.dayNumber = d.dayNumber + 1 := by
  have hmonth := d.month_mem
  have hday := d.day_mem
  unfold next dayNumber
  by_cases hlast : d.day < daysInMonth d.year d.month
  · rw [dif_pos hlast]
    dsimp only
    omega
  · rw [dif_neg hlast]
    by_cases hdecember : d.month < 12
    · have hsucc := daysBeforeMonth_succ d.year hmonth.1
      rw [dif_pos hdecember]
      dsimp only
      omega
    · have hmonth : d.month = 12 := by omega
      have hend := daysBeforeMonth_end d.year
      rw [← hmonth] at hend
      have hyear := daysBeforeYear_succ d.year
      have hbegin : daysBeforeMonth (d.year + 1) 1 = 0 := rfl
      rw [dif_neg hdecember]
      dsimp only
      omega

/-! ## Counting -/

theorem dayNumber_iterate (n : Nat) (d : Date) : (next^[n] d).dayNumber = d.dayNumber + n := by
  induction n with
  | zero => rfl
  | succ n ih => rw [Function.iterate_succ_apply', dayNumber_next, ih, Nat.add_assoc]

/-- Every date but the first is the next one after a date. -/
theorem exists_next_eq (d : Date) : d = first ∨ ∃ before : Date, before.next = d := by
  obtain ⟨year, month, day, hmonth, hday⟩ := d
  by_cases hfirst : day = 1
  · subst hfirst
    by_cases hjanuary : month = 1
    · subst hjanuary
      cases year with
      | zero => exact .inl rfl
      | succ year =>
        exact .inr ⟨⟨year, 12, 31, by decide, by decide, Nat.le_refl 31⟩, rfl⟩
    · obtain ⟨m, rfl⟩ : ∃ m, month = m + 1 := Nat.exists_eq_add_of_le' hmonth.1
      refine .inr ⟨⟨year, m, daysInMonth year m, by omega, one_le_daysInMonth _ _, Nat.le_refl _⟩,
        ?_⟩
      unfold next
      rw [dif_neg (Nat.lt_irrefl _), dif_pos (by dsimp only; omega)]
  · obtain ⟨k, rfl⟩ : ∃ k, day = k + 1 := Nat.exists_eq_add_of_le' hday.1
    refine .inr ⟨⟨year, month, k, hmonth, by omega, by omega⟩, ?_⟩
    unfold next
    rw [dif_pos (Nat.lt_of_succ_le hday.2)]

/-- **Every date is reached from the first one**, in as many steps as its number. -/
theorem iterate_next_first (d : Date) : next^[d.dayNumber] first = d := by
  rcases exists_next_eq d with rfl | ⟨before, rfl⟩
  · rfl
  · rw [dayNumber_next, Function.iterate_succ_apply', iterate_next_first before]
termination_by d.dayNumber
decreasing_by
  subst_vars
  rw [dayNumber_next]
  exact Nat.lt_succ_self _

theorem eq_of_dayNumber {d d' : Date} (h : d.dayNumber = d'.dayNumber) : d = d' := by
  rw [← iterate_next_first d, h, iterate_next_first]

/-- **How many days a date lies behind another one** is the difference of their numbers. -/
theorem isDaysFrom_iff {origin d : Date} {days : Int} :
    IsDaysFrom origin d days ↔ days = (d.dayNumber : Int) - origin.dayNumber := by
  have hnumbers : IsDaysFrom origin d days ↔
      origin.dayNumber + days.toNat = d.dayNumber + (-days).toNat := by
    rw [← dayNumber_iterate, ← dayNumber_iterate]
    exact ⟨congrArg dayNumber, eq_of_dayNumber⟩
  rw [hnumbers]
  omega

end Date

end LinkedQueries
