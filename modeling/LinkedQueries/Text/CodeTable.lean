import LinkedQueries.Text.CodeRanges
import LinkedQueries.Text.Percent
import LinkedQueries.Text.Split

/-!
# Tables of spellings

A table that says what characters are spelled with is kept as lines of words. A word begins with a
code point and a colon. Behind it stand the spelling of that code point and those of the code points
after it, with commas between them; the code points of a spelling have dots between them. So
`E0:61.300,61.301` spells U+00E0 and U+00E1.
-/

namespace LinkedQueries

/-- The number that hexadecimal digits denote. -/
def codeOf (digits : List Char) : Nat :=
  digits.foldl (fun n d => 16 * n + (hexDigit? d).getD 0) 0

/-- The spellings that stand in a word, each with its code point. -/
def spellingsOf (word : List Char) : List (Nat × List Char) :=
  match cutAt ':' word with
  | none => []
  | some (start, spellings) =>
    ((splitAt ',' spellings).zipIdx (codeOf start)).map fun (spelling, code) =>
      (code, (splitAt '.' spelling).map fun digits => Char.ofNat (codeOf digits))

/-- The spellings that stand in some lines. -/
def readSpellings (lines : List String) : List (Nat × List Char) :=
  lines.flatMap fun line => (splitAt ' ' line.toList).flatMap spellingsOf

end LinkedQueries
