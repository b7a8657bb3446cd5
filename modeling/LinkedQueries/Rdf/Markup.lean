import LinkedQueries.Rdf.Token

/-!
# Pieces of a marked-up text

An XML text is a sequence of tags, texts, comments and declarations. `Piece.next` reads one of
them from the bytes of the text. Names, attributes and texts stay bytes: whether they are
characters is decided where they are used.

A piece that is not closed, or that begins like no other, breaks the text: nothing is read behind
it.
-/

namespace LinkedQueries.Rdf.Markup

/-- The blanks of marked-up texts. -/
def isSpace (b : UInt8) : Bool :=
  b == byte ' ' || b == byte '\t' || b == byte '\n' || b == byte '\r'

/-! ## Attributes -/

/-- The name and the value of an attribute. -/
abbrev Attribute := Bytes × Bytes

/-- The attributes of a tag up to the first malformed one, and whether there is none. With
`distinct` a name that stands twice is malformed; `seen` are the names before. -/
def attributesFrom (distinct : Bool) (seen : List Bytes) (fuel : Nat) (cs : Bytes) :
    List Attribute × Bool :=
  match fuel, cs.dropWhile isSpace with
  | 0, _ => ([], false)
  | _, [] => ([], true)
  | fuel + 1, b :: rest =>
    let key := b :: rest.takeWhile fun c => c != byte '=' && !isSpace c
    let value := (rest.drop (key.length - 1)).dropWhile isSpace
    if value.head? != some (byte '=') || (distinct && seen.contains key) then ([], false)
    else
      match (value.drop 1).dropWhile isSpace with
      | [] => ([], false)
      | quote :: rest =>
        let value := rest.takeWhile (· != quote)
        match rest.drop value.length with
        | [] => ([], false)
        | _ :: rest =>
          if quote != byte '"' && quote != byte '\'' then ([], false)
          else
            let (others, isSound) := attributesFrom distinct (key :: seen) fuel rest
            ((key, value) :: others, isSound)

/-- The attributes of a tag up to the first malformed one, and whether there is none. -/
def attributes (distinct : Bool) (cs : Bytes) : List Attribute × Bool :=
  attributesFrom distinct [] (cs.length + 1) cs

/-! ## Pieces -/

/-- One piece of a marked-up text. -/
inductive Piece where
  /-- An opening tag, with what stands behind its name; it may be closed at once. -/
  | opening (name inside : Bytes) (isEmpty : Bool)
  | closing (name : Bytes)
  | text (source : Bytes)
  | verbatim (content : Bytes)
  /-- The declaration at the beginning of a text, with its attributes. -/
  | header (inside : Bytes)
  /-- The declaration of a document type. -/
  | documentType (content : Bytes)
  /-- A comment or an instruction. -/
  | aside
  /-- A piece that says nothing. -/
  | malformed
  /-- A piece behind which nothing is read. -/
  | broken
  deriving DecidableEq, Repr

namespace Piece

/-- The bytes of a text in ASCII. -/
def ascii (text : String) : Bytes := text.toList.map byte

/-- A text up to a mark, and what follows the mark. -/
def upTo (mark : Bytes) : Bytes → Option (Bytes × Bytes)
  | [] => none
  | b :: rest =>
    if mark.isPrefixOf (b :: rest) then some ([], (b :: rest).drop mark.length)
    else (upTo mark rest).map fun (before, after) => (b :: before, after)

/-- A tag up to its end, which does not stand in quotes. -/
def upToTagEnd (quote : Option UInt8) : Bytes → Option (Bytes × Bytes)
  | [] => none
  | b :: rest =>
    if quote.isNone && b == byte '>' then some ([], rest)
    else
      let quote :=
        if quote.isSome then quote.filter (b != ·)
        else if b == byte '"' || b == byte '\'' then some b
        else none
      (upToTagEnd quote rest).map fun (before, after) => (b :: before, after)

/-- A declaration up to its end; it may hold further ones. -/
def upToDeclarationEnd (depth : Nat) : Bytes → Option (Bytes × Bytes)
  | [] => none
  | b :: rest =>
    if depth == 0 && b == byte '>' then some ([], rest)
    else
      let depth :=
        if b == byte '<' then depth + 1 else if b == byte '>' then depth - 1 else depth
      (upToDeclarationEnd depth rest).map fun (before, after) => (b :: before, after)

/-- A tag with its content: an opening tag, or a closing one, which may have blanks at its end. -/
def tag (content : Bytes) : Piece :=
  if content.head? == some (byte '/') then
    closing ((content.drop 1).reverse.dropWhile isSpace).reverse
  else
    let isEmpty := content.getLast? == some (byte '/')
    let content := if isEmpty then content.dropLast else content
    let name := content.takeWhile (!isSpace ·)
    opening name (content.drop name.length) isEmpty

/-- An instruction with its content behind the first question mark. -/
def instruction (content : Bytes) : Piece :=
  let inside := content.drop 3
  if (ascii "xml").isPrefixOf content && inside.head?.all isSpace then header inside else aside

/-- The declaration of a document type with its content, exclamation mark included. -/
def typeDeclaration (content : Bytes) : Piece :=
  if (content.take 8).map (fun b => byte (lone b).toUpper) != ascii "!DOCTYPE" then broken
  else
    match (content.drop 8).dropWhile isSpace with
    | [] => malformed
    | content => documentType content

/-- The piece that begins with an angle bracket, which is left out here, if its end has been seen.
-/
def bracketed? (cs : Bytes) : Option (Piece × Bytes) :=
  match (cs.take 2).map lone with
  | ['!', '-'] =>
    if (ascii "!--").isPrefixOf cs then
      (upTo (ascii "-->") (cs.drop 3)).map fun (_, rest) => (aside, rest)
    else some (broken, [])
  | ['!', '['] =>
    if (ascii "![CDATA[").isPrefixOf cs then
      (upTo (ascii "]]>") (cs.drop 8)).map fun (content, rest) => (verbatim content, rest)
    else some (broken, [])
  | ['!', 'D'] | ['!', 'd'] =>
    (upToDeclarationEnd 0 cs).map fun (content, rest) => (typeDeclaration content, rest)
  | ['!', _] => some (broken, [])
  | ['?', '>'] => some (broken, [])
  | '?' :: _ =>
    (upTo (ascii "?>") (cs.drop 1)).map fun (content, rest) => (instruction content, rest)
  | _ => (upToTagEnd none cs).map fun (content, rest) => (tag content, rest)

/-- The next piece of a text and what follows it, unless there is nothing left. A text that may go
on ends with its last complete piece. -/
def next (ending : Bool) : Bytes → Option (Piece × Bytes)
  | [] => none
  | b :: rest =>
    if b == byte '<' then
      match bracketed? rest with
      | some found => some found
      | none => if ending then some (broken, []) else none
    else
      let source := b :: rest.takeWhile (· != byte '<')
      let rest := rest.drop (source.length - 1)
      if rest.isEmpty && !ending then none else some (text source, rest)

end Piece

end LinkedQueries.Rdf.Markup
