import LinkedQueries.Text.Split

/-!
# Encoded labels

A label of a domain name that has characters beyond ASCII can be written in ASCII: first the plain
characters with a hyphen behind them, if there are any, and then a number for each of the others, in
the order of their code points. The number says how far the character is from the one before, if one
goes through the code points and, at each, through all places of the label so far. Numbers are
written in base 36 with the lowest digit first; a digit below its threshold is the last one, and the
thresholds follow the distances by a bias.
-/

namespace LinkedQueries.Url.Punycode

/-- The state of decoding a label: the characters so far with the next code point, place and bias,
and the number being read with its start, weight and position. -/
structure Decoding where
  chars : List Nat
  code : Nat := 0x80
  place : Nat := 0
  bias : Nat := 72
  start : Nat := 0
  weight : Nat := 1
  position : Nat := 36

/-- The value of a digit: letters are 0 to 25, decimal digits are 26 to 35. -/
def digit? (c : Char) : Option Nat :=
  if c.isDigit then some (c.toNat - 22)
  else if c.isLower then some (c.toNat - 97)
  else if c.isUpper then some (c.toNat - 65)
  else none

/-- The bias that a distance leads to: each time it is divided by 35, the bias goes up by 36. -/
def scaled (delta : Nat) : Nat :=
  if 455 < delta then 36 + scaled (delta / 35) else 36 * delta / (delta + 38)
termination_by delta
decreasing_by omega

/-- The bias after a character at some distance. -/
def adapt (delta count : Nat) (first : Bool) : Nat :=
  let delta := if first then delta / 700 else delta / 2
  scaled (delta + delta / count)

/-- The digit at a position that is too small to be followed by others. -/
def threshold (position bias : Nat) : Nat :=
  if position ≤ bias then 1 else if bias + 26 ≤ position then 26 else position - bias

/-- Numbers have to fit in a word of 32 bits. -/
def numberBound : Nat := 0x100000000

/-- One digit of the encoding. The last one of a number puts a character in its place. -/
def Decoding.step (s : Decoding) (c : Char) : Option Decoding := do
  let digit ← digit? c
  let place := s.place + digit * s.weight
  if numberBound ≤ place then none
  let threshold := threshold s.position s.bias
  if digit < threshold then
    let count := s.chars.length + 1
    let code := s.code + place / count
    let next := place % count
    if !code.isValidChar then none
    return {
      chars := s.chars.take next ++ code :: s.chars.drop next
      code
      place := next + 1
      bias := adapt (place - s.start) count (s.start == 0)
      start := next + 1 }
  else
    let weight := s.weight * (36 - threshold)
    if numberBound ≤ weight then none
    return { s with place, weight, position := s.position + 36 }

/-- The plain characters of an encoding and its digits. A hyphen that nothing stands before is no
end of the plain characters. -/
def parts (encoded : List Char) : List Char × List Char :=
  let digits := (encoded.reverse.takeWhile (· != '-')).reverse
  let plain := encoded.take (encoded.length - digits.length - 1)
  if plain.isEmpty then ([], encoded) else (plain, digits)

/-- The longest encoding that is decoded. -/
def encodedLimit : Nat := 2000

/-- The label that an encoding denotes, if it has a character beyond ASCII. -/
def decode? (encoded : List Char) : Option (List Char) := do
  if encodedLimit < encoded.length || encoded.any fun c => 0x80 ≤ c.toNat then none
  let (plain, digits) := parts encoded
  if digits.isEmpty then none
  let s ← digits.foldlM Decoding.step { chars := plain.map Char.toNat }
  if s.position != 36 then none
  return s.chars.map Char.ofNat

end LinkedQueries.Url.Punycode
