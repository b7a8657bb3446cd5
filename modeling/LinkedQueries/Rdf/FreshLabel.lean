import LinkedQueries.Partition.KeyHash
import LinkedQueries.Text.Percent

/-!
# Labels of anonymous blank nodes

A blank node without a label gets one of 32 hexadecimal digits, made from the text in which it
stands and its number there. Texts that differ have different labels, up to collisions of a hash;
a salt keeps apart the readings of one text.
-/

namespace LinkedQueries

/-- Some hexadecimal digits of a number, the last ones. -/
def hexDigits (count n : Nat) : List Char :=
  match count with
  | 0 => []
  | count + 1 => hexDigits count (n / 16) ++ [lowerHex (n % 16)]

/-- The number by which the labels of a text are told from those of others. -/
def textNumber (salt : Nat) (bytes : List UInt8) : Nat :=
  (KeyHash.textWord bytes).toNat + salt

/-- The label of the blank node of a number in a text. -/
def freshLabel (text n : Nat) : String :=
  String.ofList ('f' :: hexDigits 15 text ++ hexDigits 16 n)

end LinkedQueries
