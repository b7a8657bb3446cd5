import LinkedQueries.Text.Split
import LinkedQueries.Text.Utf8

/-!
# Percent-encoding and form-encoding

A byte may be written as `%` and two hexadecimal digits. Form-encoding writes a space as `+`, leaves
`A-Z a-z 0-9 * - . _` and writes every other byte as an upper-case escape; form-decoding reads `+`
and escapes of either case, and keeps a `%` that begins no escape.
-/

namespace LinkedQueries

/-- The value of a hexadecimal digit of either case. -/
def hexDigit? (c : Char) : Option Nat :=
  if '0' ≤ c ∧ c ≤ '9' then some (c.toNat - 48)
  else if 'a' ≤ c ∧ c ≤ 'f' then some (c.toNat - 87)
  else if 'A' ≤ c ∧ c ≤ 'F' then some (c.toNat - 55)
  else none

/-- The upper-case hexadecimal digit of a value below 16. -/
def upperHex (n : Nat) : Char :=
  if n < 10 then Char.ofNat (48 + n) else Char.ofNat (55 + n)

/-- The lower-case hexadecimal digit of a value below 16. -/
def lowerHex (n : Nat) : Char :=
  if n < 10 then Char.ofNat (48 + n) else Char.ofNat (87 + n)

/-- The value that two hexadecimal digits denote. -/
def hexPair? (high low : Char) : Option Nat :=
  match hexDigit? high, hexDigit? low with
  | some h, some l => some (16 * h + l)
  | _, _ => none

/-- The escape of a byte: `%` and two upper-case digits. -/
def percentEscape (b : UInt8) : List Char :=
  ['%', upperHex (b.toNat / 16), upperHex (b.toNat % 16)]

/-- The bytes that form-encoding leaves as they are. -/
def isFormPlain (b : UInt8) : Bool :=
  let c := Char.ofNat b.toNat
  b < 0x80 && (c.isAlphanum || c == '*' || c == '-' || c == '.' || c == '_')

/-- One byte, form-encoded. -/
def formEncodeByte (b : UInt8) : List Char :=
  if isFormPlain b then [Char.ofNat b.toNat]
  else if b == 0x20 then ['+']
  else percentEscape b

/-- A text, form-encoded byte by byte. -/
def formEncode (cs : List Char) : List Char :=
  (Utf8.encode cs).flatMap formEncodeByte

/-- The bytes that a text with escapes denotes; a `%` without two digits after it stands for
itself. -/
def percentDecode : List UInt8 → List UInt8
  | [] => []
  | [a] => [a]
  | [a, b] => [a, b]
  | a :: h :: l :: rest =>
    if a == 0x25 then
      match hexPair? (Char.ofNat h.toNat) (Char.ofNat l.toNat) with
      | some n => UInt8.ofNat n :: percentDecode rest
      | none => a :: percentDecode (h :: l :: rest)
    else a :: percentDecode (h :: l :: rest)

/-- Spaces in place of plus signs. -/
def plusToSpace (bytes : List UInt8) : List UInt8 :=
  bytes.map fun b => if b == 0x2B then 0x20 else b

/-- The text that a form-encoded name or value denotes; bytes that are no text become U+FFFD. -/
def formDecode (bytes : List UInt8) : List Char :=
  Utf8.lossy (percentDecode (plusToSpace bytes))

/-- A name and its value, cut at the first `=`; without one the value is empty. -/
def formPair (bytes : List UInt8) : List Char × List Char :=
  (formDecode (bytes.takeWhile (· != 0x3D)), formDecode ((bytes.dropWhile (· != 0x3D)).drop 1))

/-- The name-value pairs of a form-encoded query, in order; empty pieces between ampersands hold
none. -/
def formPairs (bytes : List UInt8) : List (List Char × List Char) :=
  ((splitAt 0x26 bytes).filter (!·.isEmpty)).map formPair

end LinkedQueries
