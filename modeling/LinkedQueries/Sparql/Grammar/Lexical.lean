import LinkedQueries.Iri.Resolve
import LinkedQueries.Rdf.NameChar
import LinkedQueries.Rdf.Pattern
import LinkedQueries.Sparql.Rule
import LinkedQueries.Text.LanguageTag

/-!
# Words of queries

The lexical rules: blanks and comments, keywords and symbols, IRIs and prefixed names, variables,
blank nodes and literals. Each rule also reads the blanks that follow. Keywords are read without
regard to case, and nothing has to separate them from what follows.
-/

namespace LinkedQueries.Sparql.Grammar

open Rule

/-! ## Name characters

The names of queries have no characters beyond the first 65536.
-/

/-- The letters with which a prefix may begin. -/
def isPrefixLetter (c : Char) : Bool :=
  isNameLetter c && c.toNat < 0x10000

/-- The letters and the underscore. -/
def isNameHead (c : Char) : Bool :=
  isPrefixLetter c || c == '_'

/-- The characters within a name. -/
def isNameTail (c : Char) : Bool :=
  isNameHead c || c == '-' || c.isDigit || isNameMark c

/-! ## Blanks, keywords and symbols -/

/-- The blanks of the grammar. -/
def isSpace (c : Char) : Bool :=
  c == ' ' || c == '\t' || c == '\n' || c == '\r'

/-- The length of the blanks and comments at the beginning of a text. -/
def spaceLength (inComment : Bool) : List Char → Nat
  | [] => 0
  | c :: rest =>
    if inComment then spaceLength (c != '\n' && c != '\r') rest + 1
    else if c == '#' then spaceLength true rest + 1
    else if isSpace c then spaceLength false rest + 1
    else 0

/-- Blanks and comments. -/
def spaces : Rule (List Char) := fun cs c =>
  let n := spaceLength false cs
  (some (cs.take n, cs.drop n), c)

/-- What a rule reads, with the blanks that follow. -/
def lexeme {α : Type} (r : Rule α) : Rule α := r <* spaces

/-- A symbol. -/
def symbol (text : String) : Rule Unit := lexeme (exactly text)

/-- A keyword, given in capital letters. -/
def keyword (word : String) : Rule Unit := lexeme fun cs c =>
  if (cs.take word.length).map Char.toUpper == word.toList then
    (some ((), cs.drop word.length), c)
  else (none, c)

/-- A pair of symbols with nothing but blanks between. -/
def emptyPair (left right : String) : Rule Unit :=
  lexeme (exactly left *> many (char isSpace) *> exactly right)

/-! ## Escapes and strings -/

/-- The character that some hexadecimal digits denote. -/
def codePoint (digits : List Char) : Rule Char := do
  let n ← ofOption (digits.foldlM (fun n d => (hexDigit? d).map (16 * n + ·)) 0)
  require (decide n.isValidChar)
  return Char.ofNat n

/-- Some hexadecimal digits. -/
def hexDigits (count : Nat) : Rule (List Char) :=
  (List.range count).mapM fun _ => char fun c => (hexDigit? c).isSome

/-- A character given by its code. -/
def codeEscape : Rule Char :=
  (exactly "\\u" *> hexDigits 4 >>= codePoint) <|> (exactly "\\U" *> hexDigits 8 >>= codePoint)

/-- The characters that a letter behind a backslash stands for in a string. -/
def lettered? : Char → Option Char
  | 't' => some '\t'
  | 'b' => some '\x08'
  | 'n' => some '\n'
  | 'r' => some '\r'
  | 'f' => some '\x0C'
  | '"' => some '"'
  | '\'' => some '\''
  | '\\' => some '\\'
  | _ => none

/-- An escape in a string. -/
def stringEscape : Rule Char :=
  (exactly "\\" *> char (fun _ => true) >>= fun c => ofOption (lettered? c)) <|> codeEscape

/-- A string on one line. -/
def shortString (quote : Char) : Rule String := do
  let isPlain (c : Char) : Bool := c != quote && c != '\\' && c != '\n' && c != '\r'
  let mark := exactly (String.singleton quote)
  let content ← mark *> many (char isPlain <|> stringEscape) <* mark
  return String.ofList content

/-- A string between triple quotes, in which one or two quotes may stand before another character.
-/
def longString (quote : Char) : Rule String := do
  let quotes (n : Nat) : Rule (List Char) := do
    exactly (String.ofList (List.replicate n quote))
    return List.replicate n quote
  let piece : Rule (List Char) := do
    let before ← quotes 2 <|> quotes 1 <|> pure []
    let c ← char (fun c => c != quote && c != '\\') <|> stringEscape
    return before ++ [c]
  let content ← quotes 3 *> many piece <* quotes 3
  return String.ofList content.flatten

/-- A string of any kind. -/
def string : Rule String :=
  lexeme (longString '\'' <|> longString '"' <|> shortString '\'' <|> shortString '"')

/-! ## IRIs -/

/-- The character that some characters denote in an IRI: hexadecimal digits, with a plus sign before
them if there is one. -/
def signedCodePoint? (text : List Char) : Option Char := do
  let digits := match text with
    | '+' :: rest => rest
    | text => text
  if digits.isEmpty then none
  let n ← digits.foldlM (fun n d => (hexDigit? d).map (16 * n + ·)) 0
  if n.isValidChar then some (Char.ofNat n) else none

/-- The text of an IRI with its escapes replaced: every backslash begins the code of a character. -/
def unescaped? : List Char → Option (List Char)
  | [] => some []
  | '\\' :: 'u' :: a :: b :: c :: d :: rest =>
    return (← signedCodePoint? [a, b, c, d]) :: (← unescaped? rest)
  | '\\' :: 'U' :: a :: b :: c :: d :: e :: f :: g :: h :: rest =>
    return (← signedCodePoint? [a, b, c, d, e, f, g, h]) :: (← unescaped? rest)
  | '\\' :: _ => none
  | c :: rest => (c :: ·) <$> unescaped? rest

/-- An IRI in angle brackets, resolved against the base. -/
def reference : Rule String := do
  let content ← exactly "<" *> many (char (· != '>')) <* exactly ">"
  let text ← ofOption (unescaped? content)
  ofOption (Iri.ofReference (← context).base text).toOption

/-- Dots with pieces of a name behind them. -/
def dotted (piece : Rule (List Char)) : Rule (List Char) := do
  let dots ← oneOrMore (char (· == '.'))
  return dots ++ (← oneOrMore piece).flatten

/-- A name that begins with a character of a class. Dots may stand in it, but not at its end. -/
def name (first : Char → Bool) : Rule (List Char) := do
  let c ← char first
  let piece : Rule (List Char) := (fun c => [c]) <$> char isNameTail
  return c :: (← many piece).flatten ++ (← many (dotted piece)).flatten

/-- A prefix with its colon. -/
def space : Rule String := do
  let label ← name isPrefixLetter <|> pure []
  exactly ":"
  return String.ofList label

/-- The characters that may stand behind a backslash in a name. -/
def isEscapable (c : Char) : Bool :=
  "_~.-!$&'()*+,;=/?#@%".toList.contains c

/-- A piece of the part of a name behind its colon: a character of a class, a percent escape, which
stays as it is, or an escaped character. -/
def localPiece (cls : Char → Bool) : Rule (List Char) :=
  (fun c => [c]) <$> char cls <|>
  (do
    exactly "%"
    return '%' :: (← hexDigits 2)) <|>
  (do
    exactly "\\"
    return [← char isEscapable])

/-- The part of a name behind its colon. Dots may stand in one place of it. -/
def localPart : Rule (List Char) := do
  let first ← localPiece fun c => isNameHead c || c == ':' || c.isDigit
  let piece := localPiece fun c => isNameTail c || c == ':'
  return first ++ (← many piece).flatten ++ ((← optional (dotted piece)).getD [])

/-- The IRI of a prefixed name. -/
def prefixed (space : String) (part : List Char) : Rule String := do
  let start ← ofOption ((← context).prefixes.find? space)
  let iri := start.toList ++ part
  require (Iri.checkAbsolute iri).toOption.isSome
  return String.ofList iri

/-- An IRI or a prefixed name. -/
def iri : Rule String :=
  lexeme (reference <|>
    (do
      let space ← space
      prefixed space (← localPart)) <|>
    (do prefixed (← space) []))

/-! ## Variables and blank nodes -/

/-- A variable. -/
def varName : Rule String := lexeme do
  exactly "?" <|> exactly "$"
  let isInner (c : Char) : Bool := isNameHead c || c.isDigit || isNameMark c
  let first ← char fun c => isNameHead c || c.isDigit
  return String.ofList (first :: (← many (char isInner)))

/-- A label of a blank node. It must not stand in a group that is over. -/
def blankLabel : Rule String := lexeme do
  exactly "_:"
  let label := String.ofList (← name fun c => isNameHead c || c.isDigit)
  require !((← context).closedLabels.contains label)
  note fun c => { c with openLabels := label :: c.openLabels }
  return label

/-- A blank node. -/
def blank : Rule TermPattern :=
  .blank <$> (blankLabel <|> (emptyPair "[" "]" *> fresh))

/-! ## Literals -/

/-- A nonempty run of digits. -/
def digits : Rule (List Char) := oneOrMore (char Char.isDigit)

/-- A dot. -/
def dot : Rule (List Char) := do
  exactly "."
  return ['.']

/-- An exponent. -/
def exponent : Rule (List Char) := do
  let mark ← char fun c => c == 'e' || c == 'E'
  let sign ← optional (char fun c => c == '+' || c == '-')
  return mark :: sign.toList ++ (← digits)

/-- The text of a decimal. -/
def decimalText : Rule (List Char) :=
  return (← many (char Char.isDigit)) ++ (← dot) ++ (← digits)

/-- The text of a double. -/
def doubleText : Rule (List Char) := do
  let mantissa ←
    (return (← digits) ++ (← dot) ++ (← many (char Char.isDigit))) <|>
    (return (← dot) ++ (← digits)) <|> digits
  return mantissa ++ (← exponent)

/-- A number behind what a rule reads. -/
def numberAfter (start : Rule (List Char)) : Rule Literal := lexeme do
  let typed (text : Rule (List Char)) (type : String) : Rule Literal := do
    return .typed (String.ofList ((← start) ++ (← text))) (xsd ++ type)
  typed doubleText "double" <|> typed decimalText "decimal" <|> typed digits "integer"

/-- A number, perhaps with a sign. -/
def number : Rule Literal :=
  let sign (c : Char) : Rule (List Char) := return (← char (· == c)) :: (← spaces)
  numberAfter (pure []) <|> numberAfter (sign '+') <|> numberAfter (sign '-')

/-- A language tag; it is read in small letters. -/
def languageTag : Rule String := lexeme do
  exactly "@"
  let first ← oneOrMore (char Char.isAlpha)
  let rest ← many (return (← char (· == '-')) :: (← oneOrMore (char Char.isAlphanum)))
  let tag := (first ++ rest.flatten).map Char.toLower
  require (LanguageTag.isTag tag)
  return String.ofList tag

/-- A literal with quotes. -/
def quotedLiteral : Rule Literal :=
  (return .ofDatatype (← string) (← symbol "^^" *> iri)) <|>
  (return .tagged (← string) (← languageTag)) <|>
  .simple <$> string

/-- A truth value. -/
def truthValue : Rule Literal :=
  let value (text : String) : Rule Literal :=
    symbol text *> pure (.typed text (xsd ++ "boolean"))
  value "true" <|> value "false"

/-- A literal. -/
def literal : Rule Literal := quotedLiteral <|> number <|> truthValue

/-- An IRI or the abbreviation for the type property. -/
def iriOrA : Rule String := iri <|> (symbol "a" *> pure (rdf ++ "type"))

/-- A variable or an IRI. -/
def variableOrIri : Rule NamePattern := .variable <$> varName <|> .iri <$> iri

/-- A variable, an IRI or the abbreviation for the type property. -/
def verbName : Rule NamePattern := .variable <$> varName <|> .iri <$> iriOrA

end LinkedQueries.Sparql.Grammar
