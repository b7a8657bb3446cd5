import LinkedQueries.Url.CompositionTable
import LinkedQueries.Url.Script

/-!
# Composition

One text can be written with composed characters or with their parts, and with marks in various
orders. `compose` gives the spelling with composed characters: characters are taken apart, marks are
put in the order of their classes, and what can be composed is composed again. It is about folded
text, in which all characters with compatibility spellings are gone.
-/

namespace LinkedQueries.Url

/-! ## Parts -/

/-- The class of a mark says where it attaches; the class 0 is that of the characters that others
attach to, and of marks that stay in their place. -/
def combiningClass (c : Char) : Nat :=
  if isMark c then
    ((CompositionTable.classes.find? fun (_, ranges) => covers ranges c.toNat).map (·.1)).getD 0
  else 0

/-- Whether a character is a Korean syllable. -/
def isSyllable (c : Char) : Bool :=
  0xAC00 ≤ c.toNat && c.toNat < 0xD7A4

/-- The parts of a Korean syllable: a consonant, a vowel, and unless it is open another consonant. -/
def syllableParts (c : Char) : List Char :=
  let index := c.toNat - 0xAC00
  let codes := [0x1100 + index / 588, 0x1161 + index % 588 / 28]
  (if index % 28 == 0 then codes else codes ++ [0x11A7 + index % 28]).map Char.ofNat

/-- All parts of a character. -/
def partsOf (c : Char) : List Char :=
  if isSyllable c then syllableParts c
  else
    match CompositionTable.parts.lookup c.toNat with
    | some [first, second] =>
      (CompositionTable.parts.lookup first.toNat).getD [first] ++ [second]
    | _ => [c]

/-! ## The order of marks -/

/-- Puts a character behind a text, given backwards. A mark goes before the marks of higher classes
that are at the end. -/
def putMark (c : Char) : List Char → List Char
  | [] => [c]
  | d :: before =>
    if combiningClass c != 0 && combiningClass c < combiningClass d then d :: putMark c before
    else c :: d :: before

/-- The text with each run of marks in the order of their classes. -/
def orderMarks (text : List Char) : List Char :=
  (text.foldl (fun before c => putMark c before) []).reverse

/-! ## Composing -/

/-- The Korean syllable of a consonant and a vowel, or of an open syllable and a consonant. -/
def syllable? (first second : Char) : Option Char :=
  let consonant := first.toNat - 0x1100
  let vowel := second.toNat - 0x1161
  let final := second.toNat - 0x11A7
  if 0x1100 ≤ first.toNat && consonant < 19 && 0x1161 ≤ second.toNat && vowel < 21 then
    some (Char.ofNat (0xAC00 + (consonant * 21 + vowel) * 28))
  else if isSyllable first && (first.toNat - 0xAC00) % 28 == 0 && 0x11A7 < second.toNat &&
      final < 28 then
    some (Char.ofNat (first.toNat + final))
  else none

/-- The character that two characters are the parts of. -/
def pair? (first second : Char) : Option Char :=
  match syllable? first second with
  | some c => some c
  | none =>
    (CompositionTable.parts.find? (·.2 == [first, second])).map fun (code, _) => Char.ofNat code

/-- A text being composed: what is finished, the character that marks attach to, and behind it the
marks that stay. All is given backwards. -/
structure Composing where
  finished : List Char := []
  base : Option Char := none
  marks : List Char := []

/-- Whether no mark keeps a character away from the base: all marks have lower classes. -/
def Composing.reaches (s : Composing) (c : Char) : Bool :=
  s.marks.head?.all fun mark => combiningClass mark < combiningClass c

/-- The text so far. -/
def Composing.text (s : Composing) : List Char :=
  s.marks ++ s.base.toList ++ s.finished

/-- One more character. -/
def Composing.step (s : Composing) (c : Char) : Composing :=
  match s.base.bind fun base => if s.reaches c then pair? base c else none with
  | some composed => { s with base := some composed }
  | none =>
    if combiningClass c == 0 then { finished := s.text, base := some c }
    else { s with marks := c :: s.marks }

/-- The text in composed characters. -/
def compose (text : List Char) : List Char :=
  if text.all fun c => c.toNat < 0x80 then text
  else ((orderMarks (text.flatMap partsOf)).foldl Composing.step {}).text.reverse

end LinkedQueries.Url
