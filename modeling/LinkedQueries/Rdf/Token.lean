import LinkedQueries.Text.Utf8

/-!
# Tokens of RDF texts

The tokens that the text formats of RDF share, and what reading one of them from the bytes of a text
gives: the token may be malformed, in which case a part of the text is skipped, or incomplete, in
which case more of the text has to be seen first.

`Lead.of` says with which character some bytes begin.
-/

namespace LinkedQueries.Rdf

/-- The bytes of a text. -/
abbrev Bytes := List UInt8

/-- A token of an RDF text. References are resolved already. -/
inductive Token where
  | iri (value : String)
  /-- A prefixed name. If its part is doubtful, the IRI has to be checked. -/
  | name (space : String) (part : List Char) (isDoubtful : Bool)
  | blank (label : String)
  | text (value : String)
  | integer (digits : String)
  | decimal (digits : String)
  | double (digits : String)
  | tag (language : String)
  | variable (name : String)
  | word (value : String)
  | mark (symbol : String)
  deriving DecidableEq, Repr

/-- How texts of a format are divided into tokens. -/
structure Lexicon where
  /-- Line formats have one kind of string and no long ones. -/
  simpleStrings : Bool
  /-- Arrows that begin with `<`. -/
  arrows : Bool

/-- What reading a token gives. -/
inductive Scan where
  | token (token : Token) (rest : Bytes)
  | malformed (rest : Bytes)
  | incomplete

/-! ## Characters -/

/-- The character that a byte is on its own. -/
def lone (b : UInt8) : Char := Char.ofNat b.toNat

/-- The byte of a character with a code below 256. -/
def byte (c : Char) : UInt8 := UInt8.ofNat c.toNat

/-- What some bytes begin with. -/
inductive Lead where
  /-- A character of so many bytes. -/
  | char (c : Char) (size : Nat)
  /-- So many bytes that begin no character; the one that does not fit is among them. -/
  | bad (size : Nat)
  /-- The beginning of a character, or nothing. -/
  | short

/-- What some bytes begin with. -/
def Lead.of : Bytes → Lead
  | [] => .short
  | b :: rest =>
    match Utf8.step b rest with
    | (some c, n) => .char c (n + 1)
    | (none, n) =>
      if b < 0xC2 || 0xF4 < b then .bad 1
      else if (rest.drop n).isEmpty then .short
      else .bad (n + 2)

end LinkedQueries.Rdf
