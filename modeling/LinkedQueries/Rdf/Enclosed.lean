import LinkedQueries.Iri.Resolve
import LinkedQueries.Rdf.Token

/-!
# IRIs and strings

The tokens with a mark at either end: IRIs in angle brackets, strings on one line, and long
strings between three quotes. Escapes stand for characters in them. How much of the text is
skipped when one of them is malformed depends on the fault.
-/

namespace LinkedQueries.Rdf.Scan

/-! ## Escapes -/

/-- What reading an escape gives: a character or none, and what follows. -/
abbrev EscapeResult := Option (Option Char × Bytes)

/-- The character of some hexadecimal digits. -/
def codePoint? (digits : Bytes) : Option Char := do
  let n ← digits.foldlM (fun n d => (hexDigit? (lone d)).map (16 * n + ·)) 0
  if n.isValidChar then some (Char.ofNat n) else none

/-- A character given by some hexadecimal digits; nothing if the text is too short. -/
def hexEscape (count : Nat) (cs : Bytes) : EscapeResult :=
  let digits := cs.take count
  if digits.length < count then none else some (codePoint? digits, cs.drop count)

/-- The characters that a letter behind a backslash stands for in a string. -/
def stringEscape? : Char → Option Char
  | 't' => some '\t'
  | 'b' => some '\x08'
  | 'n' => some '\n'
  | 'r' => some '\r'
  | 'f' => some '\x0C'
  | '"' => some '"'
  | '\'' => some '\''
  | '\\' => some '\\'
  | _ => none

/-- An escape behind its backslash. -/
def escape (inString : Bool) : Bytes → EscapeResult
  | [] => none
  | b :: rest =>
    match lone b with
    | 'u' => hexEscape 4 rest
    | 'U' => hexEscape 8 rest
    | c => some (if inString then stringEscape? c else none, rest)

/-! ## IRIs -/

/-- An IRI behind its opening bracket; `taken` are the bytes of it, last first. -/
def iri (base : Option String) (fuel : Nat) (taken : Bytes) (cs : Bytes) : Scan :=
  match fuel, cs with
  | 0, _ | _, [] => .incomplete
  | fuel + 1, b :: rest =>
    match lone b with
    | '>' =>
      match (Utf8.strict? taken.reverse).map (Iri.ofReference base) with
      | some (.ok value) => .token (.iri value) rest
      | _ => .malformed rest
    | '\\' =>
      match escape false rest with
      | none => .incomplete
      | some (some c, rest) => iri base fuel ((Utf8.encode [c]).reverse ++ taken) rest
      | some (none, rest) => .malformed rest
    | _ => iri base fuel (b :: taken) rest

/-! ## Strings -/

/-- The text behind the next byte of a kind, if there is one. -/
def behind? (mark : UInt8) (cs : Bytes) : Option Bytes :=
  match cs.dropWhile (· != mark) with
  | [] => none
  | _ :: rest => some rest

/-- The text behind the next three bytes of a kind, if there are any. -/
def behindThree? (mark : UInt8) : Bytes → Option Bytes
  | [] => none
  | b :: rest =>
    if b == mark && rest.take 2 == [mark, mark] then some (rest.drop 2) else behindThree? mark rest

/-- A malformed token, if its end has been seen. -/
def malformedTo : Option Bytes → Scan
  | some rest => .malformed rest
  | none => .incomplete

/-- A string on one line, behind the part `taken` of it, last first; `whole` is the text from its
quote on. A line break spoils it, and behind a bad escape the next quote ends it. Where its bytes
are no characters, as many bytes of the whole are skipped as there are from the last escape to the
next mark.
-/
def shortString (quote : UInt8) (whole : Bytes) (fuel : Nat) (spoilt : Bool) (taken : List Char)
    (cs : Bytes) : Scan :=
  match fuel with
  | 0 => .incomplete
  | fuel + 1 =>
    let chunk := cs.takeWhile fun b => b != quote && b != byte '\\'
    match cs.drop chunk.length, Utf8.strict? chunk with
    | [], _ => .incomplete
    | _, none => .malformed (whole.drop chunk.length)
    | mark :: rest, some plain =>
      let taken := plain.reverse ++ taken
      let spoilt := spoilt || plain.any fun c => c == '\n' || c == '\r'
      if mark == quote then
        if spoilt then .malformed rest else .token (.text (String.ofList taken.reverse)) rest
      else
        match escape true rest with
        | none => .incomplete
        | some (some c, rest) => shortString quote whole fuel spoilt (c :: taken) rest
        | some (none, rest) => malformedTo (behind? quote rest)

/-- A long string, behind the part `taken` of it, last first; `whole` is the text from its quotes
on. One or two quotes may stand in it. Behind a bad escape the next three quotes end it. -/
def longString (quote : UInt8) (whole : Bytes) (fuel : Nat) (taken : List Char) (cs : Bytes) :
    Scan :=
  match fuel with
  | 0 => .incomplete
  | fuel + 1 =>
    let chunk := cs.takeWhile fun b => b != quote && b != byte '\\'
    match cs.drop chunk.length, Utf8.strict? chunk with
    | [], _ => .incomplete
    | _, none => .malformed (whole.drop chunk.length)
    | mark :: rest, some plain =>
      let taken := plain.reverse ++ taken
      if mark == quote then
        match rest with
        | [] => .incomplete
        | [b] =>
          if b == quote then .incomplete
          else longString quote whole fuel (lone quote :: taken) [b]
        | b :: c :: more =>
          if b == quote && c == quote then .token (.text (String.ofList taken.reverse)) more
          else longString quote whole fuel (lone quote :: taken) rest
      else
        match escape true rest with
        | none => .incomplete
        | some (some c, rest) => longString quote whole fuel (c :: taken) rest
        | some (none, rest) => malformedTo (behindThree? quote rest)

/-- A string; `whole` is the text from its quote on. -/
def string (lexicon : Lexicon) (quote : UInt8) (whole : Bytes) : Scan :=
  let short := shortString quote whole (whole.length + 1) false [] (whole.drop 1)
  if lexicon.simpleStrings then short
  else
    match whole.drop 1 with
    | [] => .incomplete
    | [b] => if b == quote then .incomplete else short
    | b :: c :: rest =>
      if b == quote && c == quote then longString quote whole (whole.length + 1) [] rest else short

end LinkedQueries.Rdf.Scan
