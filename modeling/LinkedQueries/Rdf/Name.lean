import LinkedQueries.Rdf.NameChar
import LinkedQueries.Rdf.Token
import LinkedQueries.Text.LanguageTag
import LinkedQueries.Text.Percent

/-!
# Names

The tokens that are made of name characters: words, prefixed names, variables, blank node labels and
language tags. Dots may stand within a name, but those at its end stay behind.
-/

namespace LinkedQueries.Rdf.Scan

/-! ## Runs of characters -/

/-- A run of characters of a class, and why it ends. -/
inductive Run where
  /-- A character that does not belong to it follows. -/
  | ended (run : List Char) (rest : Bytes)
  /-- The text ends, perhaps within a character. -/
  | cut (run : List Char) (rest : Bytes)
  /-- Bytes that are no character follow, and then the rest. -/
  | bad (run : List Char) (rest : Bytes)

/-- The run that a text begins with, behind the part `taken` of it, last first. -/
def run (cls : Char → Bool) (taken : List Char) : Bytes → Run
  | [] => .cut taken.reverse []
  | b :: rest =>
    match Lead.of (b :: rest) with
    | .short => .cut taken.reverse (b :: rest)
    | .bad size => .bad taken.reverse ((b :: rest).drop size)
    | .char c size =>
      if cls c then run cls (c :: taken) (rest.drop (size - 1))
      else .ended taken.reverse (b :: rest)
termination_by bytes => bytes.length
decreasing_by simp only [List.length_drop, List.length_cons]; omega

/-- Some dots. -/
def dots (count : Nat) : Bytes := List.replicate count (byte '.')

/-- A word: the dots at its end stay behind. -/
def wordOf (run : List Char) (rest : Bytes) : Scan :=
  let word := run.reverse.dropWhile (· == '.')
  .token (.word (String.ofList word.reverse)) (dots (run.length - word.length) ++ rest)

/-! ## The part of a name behind its colon -/

/-- The part of a name behind its colon. -/
inductive LocalPart where
  | part (text : List Char) (isDoubtful : Bool) (rest : Bytes)
  | malformed (rest : Bytes)
  | incomplete

/-- A part that has been read so far. -/
structure LocalSoFar where
  /-- Its characters, last first. -/
  taken : List Char
  /-- What it was behind its last escape. -/
  escaped : Option (List Char)
  /-- Whether it holds a character that may not be right at its place in an IRI. -/
  isDoubtful : Bool
  /-- The number of plain dots at its end. -/
  dots : Nat
  /-- The number of bytes read. -/
  size : Nat

namespace LocalSoFar

/-- Nothing has been read. -/
def empty : LocalSoFar := ⟨[], none, false, 0, 0⟩

/-- Whether a character may belong to a name, but not to an IRI or not to every part of it. -/
def isDoubtfulChar (c : Char) : Bool :=
  c == ':' || (0xFFF0 ≤ c.toNat && c.toNat ≤ 0xFFFD) || c.toNat % 0xFFFE < 2

/-- One more character, of so many bytes. -/
def add (s : LocalSoFar) (c : Char) (size : Nat) : LocalSoFar :=
  { s with
    taken := c :: s.taken
    isDoubtful := s.isDoubtful || isDoubtfulChar c
    dots := if c == '.' then s.dots + 1 else 0
    size := s.size + size }

/-- One more character behind a backslash. -/
def addEscaped (s : LocalSoFar) (c : Char) : LocalSoFar where
  taken := c :: s.taken
  escaped := some (c :: s.taken)
  isDoubtful := s.isDoubtful || "/?#@%".toList.contains c
  dots := 0
  size := s.size + 2

/-- One more byte behind a percent sign, with its digits. -/
def addPercent (s : LocalSoFar) (high low : Char) : LocalSoFar :=
  { s with taken := low :: high :: '%' :: s.taken, dots := 0, size := s.size + 3 }

/-- The part where a character follows that does not belong to it. -/
def ended (s : LocalSoFar) (rest : Bytes) : LocalPart :=
  .part (s.taken.drop s.dots).reverse s.isDoubtful (Scan.dots s.dots ++ rest)

/-- The part where the text ends. Of a part with escapes what follows the last of them is left
out; for every dot that it then ends with, one more byte of the text stays behind. -/
def cut (s : LocalSoFar) (whole rest : Bytes) : LocalPart :=
  match s.escaped with
  | none => s.ended rest
  | some escaped =>
    let kept := escaped.dropWhile (· == '.')
    .part kept.reverse s.isDoubtful (whole.drop (s.size - (escaped.length - kept.length)))

end LocalSoFar

/-- The characters that may stand behind a backslash in a name. -/
def isNameEscape (c : Char) : Bool :=
  "_~.-!$&'()*+,;=/?#@%".toList.contains c

/-- Reads the part of a name behind its colon; `whole` is the text from there on. -/
def localPart (ending : Bool) (whole : Bytes) (fuel : Nat) (s : LocalSoFar) (cs : Bytes) :
    LocalPart :=
  match fuel with
  | 0 => .incomplete
  | fuel + 1 =>
    match Lead.of cs with
    | .short => if ending then s.cut whole cs else .incomplete
    | .bad size => .malformed (cs.drop size)
    | .char '%' _ =>
      match cs.drop 1 with
      | a :: b :: rest =>
        if (hexPair? (lone a) (lone b)).isSome then
          localPart ending whole fuel (s.addPercent (lone a) (lone b)) rest
        else .malformed rest
      | _ => .incomplete
    | .char '\\' _ =>
      match cs.drop 1 with
      | a :: rest =>
        if isNameEscape (lone a) then localPart ending whole fuel (s.addEscaped (lone a)) rest
        else .malformed rest
      | [] => .incomplete
    | .char c size =>
      let isOwn :=
        if s.taken.isEmpty then isNameStart c || c == ':' || c.isDigit
        else isNameChar c || c == ':' || c == '.'
      if isOwn then localPart ending whole fuel (s.add c size) (cs.drop size) else s.ended cs

/-! ## Names and words -/

/-- A prefixed name behind its colon. -/
def named (ending : Bool) (space : List Char) (cs : Bytes) : Scan :=
  if space.getLast? == some '.' then .malformed cs
  else
    match localPart ending cs (cs.length + 1) .empty cs with
    | .part text isDoubtful rest => .token (.name (String.ofList space) text isDoubtful) rest
    | .malformed rest => .malformed rest
    | .incomplete => .incomplete

/-- A prefixed name or a word. -/
def nameOrWord (ending : Bool) (cs : Bytes) : Scan :=
  match Lead.of cs with
  | .short => if ending then .malformed (cs.drop 1) else .incomplete
  | .bad size => .malformed (cs.drop size)
  | .char ':' _ => named ending [] (cs.drop 1)
  | .char c size =>
    if !isNameLetter c then .malformed (cs.drop size)
    else
      match run (fun c => isNameChar c || c == '.') [] cs with
      | .bad _ rest => .malformed rest
      | .cut run rest => if ending then wordOf run rest else .incomplete
      | .ended run rest =>
        if rest.head? == some (byte ':') then named ending run (rest.drop 1) else wordOf run rest

/-- A variable behind its question mark. -/
def markedVariable (ending : Bool) (cs : Bytes) : Scan :=
  match localPart ending cs (cs.length + 1) .empty cs with
  | .part [] _ rest => .malformed rest
  | .part text _ rest => .token (.variable (String.ofList text)) rest
  | .malformed rest => .malformed rest
  | .incomplete => .incomplete

/-! ## Blank node labels -/

/-- The part of a label before two dots in a row or a dot at its end. -/
def withoutDots : List Char → List Char
  | ['.'] | '.' :: '.' :: _ | [] => []
  | c :: rest => c :: withoutDots rest

/-- A blank node label behind its `_:`. Two dots in a row end it, and else a character that cannot
belong to it. -/
def blank (cs : Bytes) : Scan :=
  match Lead.of cs with
  | .short => .incomplete
  | .bad size => .malformed (cs.drop size)
  | .char c _ =>
    if !(isNameStart c || c.isDigit) then .malformed cs
    else
      let label (run : List Char) (otherwise : Scan) (isOver : Bool) : Scan :=
        let label := withoutDots run
        if isOver || label.length + 1 < run.length then
          .token (.blank (String.ofList label)) (cs.drop (Utf8.encode label).length)
        else otherwise
      match run (fun c => isNameChar c || c == '.') [] cs with
      | .bad run rest => label run (.malformed rest) false
      | .cut run _ => label run .incomplete false
      | .ended run _ => label run .incomplete true

/-! ## Language tags -/

/-- A language tag behind its beginning `taken`, last first; `fresh` says whether a part of it has
only begun. Its parts are letters. Something has to follow it. -/
def tagFrom (fresh : Bool) (taken : List Char) : Bytes → Option (List Char × Bytes)
  | [] => none
  | b :: rest =>
    let c := lone b
    if c.isAlpha then tagFrom false (c :: taken) rest
    else if fresh then some ((taken.drop 1).reverse, byte '-' :: b :: rest)
    else if c == '-' then tagFrom true (c :: taken) rest
    else some (taken.reverse, b :: rest)

/-- A language tag behind its `@`. -/
def tag (cs : Bytes) : Scan :=
  match cs with
  | [] => .incomplete
  | b :: _ =>
    if !(lone b).isAlpha then .malformed cs
    else
      match tagFrom false [] cs with
      | none => .incomplete
      | some (tag, rest) =>
        if LanguageTag.isTag tag then .token (.tag (String.ofList tag)) rest else .malformed rest

end LinkedQueries.Rdf.Scan
