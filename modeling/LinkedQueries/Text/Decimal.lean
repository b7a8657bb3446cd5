/-!
# Decimal numbers

Natural numbers written in ASCII digits. Readers bound the value, so a number that does not fit its
field is refused and never wrapped.
-/

namespace LinkedQueries

/-- The bound of the numbers that fit in a word of 64 bits. -/
def wordBound : Nat := 0x10000000000000000

/-- The value of a run of ASCII digits, most significant first. -/
def digitsValue (digits : List Char) : Nat :=
  digits.foldl (fun n d => 10 * n + (d.toNat - 48)) 0

/-- The number that a nonempty run of ASCII digits denotes. -/
def decimal? (digits : List Char) : Option Nat :=
  if !digits.isEmpty && digits.all Char.isDigit then some (digitsValue digits) else none

/-- The number that a nonempty run of ASCII digits denotes, if it is below the bound. -/
def decimalBelow? (bound : Nat) (digits : List Char) : Option Nat :=
  (decimal? digits).filter (· < bound)

end LinkedQueries
