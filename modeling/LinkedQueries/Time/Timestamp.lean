import LinkedQueries.Text.Decimal
import LinkedQueries.Time.Calendar

/-!
# Timestamps

An instant with the offset from UTC in which it was written, and the notation of access logs:
`10/Oct/2020:13:55:36 -0700`. Every number has its full count of ASCII digits, the month is one of
twelve names, and the sign belongs to the hours and the minutes of the offset alike.
-/

namespace LinkedQueries

/-- An instant in seconds since 1970, and the offset east of UTC in which it was written. -/
structure Timestamp where
  unix : Int
  offset : Int
  deriving DecidableEq, Repr

/-- The number of seconds of a day. -/
def secondsPerDay : Nat := 86400

/-- The number of days before 1970. -/
def epochDay : Nat := 719528

/-- The names of the months. -/
def monthNames : List (List Char) :=
  ["Jan", "Feb", "Mar", "Apr", "May", "Jun", "Jul", "Aug", "Sep", "Oct", "Nov", "Dec"].map
    String.toList

/-- The number of a month, counted from 1. -/
def monthNumber? (name : List Char) : Option Nat :=
  (monthNames.findIdx? (· == name)).map (· + 1)

namespace Timestamp

/-- The instant at which clocks with the offset show a date and a time of day in seconds. -/
def ofLocal (date : Date) (seconds : Nat) (offset : Int) : Timestamp where
  unix := ((date.dayNumber : Int) - epochDay) * secondsPerDay + seconds - offset
  offset := offset

/-- A sign: whether it is a minus. -/
def sign? : Char → Option Bool
  | '+' => some false
  | '-' => some true
  | _ => none

/-- The seconds of a time of day. -/
def clock? (hour minute second : List Char) : Option Nat := do
  let h ← decimalBelow? 24 hour
  let m ← decimalBelow? 60 minute
  let s ← decimalBelow? 60 second
  return 3600 * h + 60 * m + s

/-- The seconds of an offset; its hours go up to 25. -/
def offset? (sign : Char) (hour minute : List Char) : Option Int := do
  let negative ← sign? sign
  let h ← decimalBelow? 26 hour
  let m ← decimalBelow? 60 minute
  let seconds : Nat := 3600 * h + 60 * m
  return if negative then -seconds else seconds

/-- The date with a day, a month name and a year. -/
def date? (day month year : List Char) : Option Date := do
  let d ← decimal? day
  let m ← monthNumber? month
  let y ← decimal? year
  Date.ofNumbers? y m d

/-- Reads the notation of access logs. -/
def ofLog? : List Char → Option Timestamp
  | [d₁, d₂, '/', m₁, m₂, m₃, '/', y₁, y₂, y₃, y₄, ':', h₁, h₂, ':', n₁, n₂, ':', s₁, s₂, ' ',
      sign, o₁, o₂, p₁, p₂] => do
    let date ← date? [d₁, d₂] [m₁, m₂, m₃] [y₁, y₂, y₃, y₄]
    let clock ← clock? [h₁, h₂] [n₁, n₂] [s₁, s₂]
    let offset ← offset? sign [o₁, o₂] [p₁, p₂]
    return ofLocal date clock offset
  | _ => none

end Timestamp

end LinkedQueries
