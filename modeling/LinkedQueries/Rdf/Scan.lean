import LinkedQueries.Rdf.Enclosed
import LinkedQueries.Rdf.Name

/-!
# Reading tokens

`Scan.next` reads one token of an RDF text, and `Scan.skip` the blanks and comments before it. A
line break counts where the format has one statement per line.
-/

namespace LinkedQueries.Rdf.Scan

/-! ## Numbers -/

/-- Whether a byte is a digit. -/
def isDigit (b : UInt8) : Bool := (lone b).isDigit

/-- The number of digits at the beginning of a text, with what follows; something has to follow. -/
def digits (cs : Bytes) : Option (Nat × Bytes) :=
  let run := cs.takeWhile isDigit
  match cs.drop run.length with
  | [] => none
  | rest => some (run.length, rest)

/-- The sign of a number, with what follows. -/
def sign : Bytes → Nat × Bytes
  | [] => (0, [])
  | b :: rest => if b == byte '+' || b == byte '-' then (1, rest) else (0, b :: rest)

/-- An exponent behind its letter: the number of its characters if it has digits, with what
follows. -/
def exponent (cs : Bytes) : Option (Option Nat × Bytes) := do
  let (signLength, afterSign) := sign cs
  let (count, rest) ← digits afterSign
  return (if count == 0 then none else some (signLength + count), rest)

/-- A number: an integer, a decimal with a dot and digits behind it, or a double with an exponent.
Something has to follow it. -/
def number (cs : Bytes) : Scan :=
  let (signLength, afterSign) := sign cs
  let textOf (n : Nat) : String := String.ofList ((cs.take n).map lone)
  let read : Option Scan := do
    let (whole, afterWhole) ← digits afterSign
    let wholeEnd := signLength + whole
    let integer : Scan :=
      if whole == 0 then .malformed afterWhole else .token (.integer (textOf wholeEnd)) afterWhole
    let withExponent (length fraction : Nat) (rest : Bytes) (plain : Scan) : Option Scan :=
      match rest with
      | [] => none
      | b :: rest => do
        if b != byte 'e' && b != byte 'E' then return plain
        match ← exponent rest with
        | (none, rest) => return .malformed rest
        | (some n, rest) =>
          if whole == 0 && fraction == 0 then return .malformed rest
          return .token (.double (textOf (length + 1 + n))) rest
    match afterWhole with
    | [] => none
    | b :: rest =>
      if b == byte '.' then
        let (fraction, afterFraction) ← digits rest
        let length := wholeEnd + 1 + fraction
        withExponent length fraction afterFraction
          (if fraction == 0 then integer else .token (.decimal (textOf length)) afterFraction)
      else withExponent wholeEnd 0 afterWhole integer
  read.getD .incomplete

/-! ## Marks -/

/-- A mark that is longer if a character follows. -/
def longerMark (short long : String) (second : Char) : Bytes → Scan
  | [] => .incomplete
  | b :: rest =>
    if b == byte second then .token (.mark long) rest else .token (.mark short) (b :: rest)

/-- A dot, or a number that begins with one. -/
def dot (ending : Bool) (cs rest : Bytes) : Scan :=
  match rest with
  | [] => if ending then .token (.mark ".") [] else .incomplete
  | b :: _ => if isDigit b then number cs else .token (.mark ".") rest

/-- An IRI, or an arrow if there is none; `more` follows the arrow. -/
def iriOrArrow (ending : Bool) (base : Option String) (symbol : String) (rest more : Bytes) :
    Scan :=
  match iri base (rest.length + 1) [] rest with
  | .token t rest => .token t rest
  | .malformed _ => .token (.mark symbol) more
  | .incomplete => if ending then .token (.mark symbol) more else .incomplete

/-- A token that begins with `<`. -/
def angle (lexicon : Lexicon) (ending : Bool) (base : Option String) (rest : Bytes) : Scan :=
  match rest with
  | [] => .incomplete
  | b :: more =>
    match lone b, lexicon.arrows with
    | '<', _ => .token (.mark "<<") more
    | '=', true => iriOrArrow ending base "<=" rest more
    | '-', true => iriOrArrow ending base "<-" rest more
    | _, _ => iri base (rest.length + 1) [] rest

/-- Reads one token of a text that does not begin with a blank. -/
def next (lexicon : Lexicon) (ending : Bool) (base : Option String) (cs : Bytes) : Scan :=
  match cs with
  | [] => .incomplete
  | b :: rest =>
    match lone b with
    | '<' => angle lexicon ending base rest
    | '>' => longerMark ">" ">>" '>' rest
    | '_' =>
      match rest with
      | [] => .incomplete
      | c :: more => if c == byte ':' then blank more else .malformed rest
    | '"' => string lexicon b cs
    | '\'' => if lexicon.simpleStrings then .malformed rest else string lexicon b cs
    | '@' => tag rest
    | '.' => dot ending cs rest
    | '^' => longerMark "^" "^^" '^' rest
    | '(' => .token (.mark "(") rest
    | ')' => .token (.mark ")") rest
    | '[' => .token (.mark "[") rest
    | ']' => .token (.mark "]") rest
    | '{' => longerMark "\x7b" "\x7b|" '|' rest
    | '}' => .token (.mark "\x7d") rest
    | ',' => .token (.mark ",") rest
    | ';' => .token (.mark ";") rest
    | '!' => .token (.mark "!") rest
    | '|' => longerMark "|" "|\x7d" '}' rest
    | '=' => longerMark "=" "=>" '>' rest
    | '+' | '-' => number cs
    | '?' => markedVariable ending rest
    | c => if c.isDigit then number cs else nameOrWord ending cs

/-! ## Blanks -/

/-- What comes next in a text: a line break, a place where a token begins, or nothing yet. -/
inductive Gap where
  | lineBreak (rest : Bytes)
  | token (cs : Bytes)
  | incomplete

/-- A line break that begins with a carriage return, behind it. -/
def afterReturn (ending : Bool) : Bytes → Gap
  | [] => if ending then .lineBreak [] else .incomplete
  | b :: rest => .lineBreak (if b == byte '\n' then rest else b :: rest)

/-- The end of a comment. -/
def afterComment (ending : Bool) (cs : Bytes) : Gap :=
  match cs.dropWhile fun b => b != byte '\n' && b != byte '\r' with
  | [] => if ending then .token [] else .incomplete
  | b :: rest => if b == byte '\r' then afterReturn ending rest else .lineBreak rest

/-- Skips blanks, up to a line break or a token; a comment ends its line. -/
def skip (ending : Bool) (cs : Bytes) : Gap :=
  match cs.dropWhile fun b => b == byte ' ' || b == byte '\t' with
  | [] => .token []
  | b :: rest =>
    match lone b with
    | '\n' => .lineBreak rest
    | '\r' => afterReturn ending rest
    | '#' => afterComment ending rest
    | _ => .token (b :: rest)

end LinkedQueries.Rdf.Scan
