import LinkedQueries.Rdf.Scan
import LinkedQueries.Rdf.Term

/-!
# Names and literals of the terse formats

What Turtle, TriG and N3 share beyond their tokens: prefixed names stand for IRIs, numbers and truth
values for literals, and some words are keywords.
-/

namespace LinkedQueries.Rdf

/-! ## Prefixed names -/

/-- The prefixes that a text declares, each with its IRI, the latest first. -/
abbrev Prefixes := List (String × String)

/-- The IRI of a prefixed name, if its prefix is declared. It is checked only if the part of the
name is doubtful or may belong to the authority. -/
def Prefixes.iri? (prefixes : Prefixes) (space : String) (part : List Char) (isDoubtful : Bool) :
    Option String := do
  let start ← prefixes.lookup space
  let iri := start.toList ++ part
  if (isDoubtful || (Iri.Components.ofReference start.toList).path.isEmpty) &&
      (Iri.checkAbsolute iri).toOption.isNone then none
  else some (String.ofList iri)

namespace Token

/-- The IRI that a token denotes. -/
def iri? (prefixes : Prefixes) : Token → Option String
  | .iri i => some i
  | .name space part isDoubtful => prefixes.iri? space part isDoubtful
  | _ => none

/-! ## Literals and keywords -/

/-- The literal of a number or truth value. -/
def bareLiteral? : Token → Option Literal
  | .integer digits => some (.typed digits (xsd ++ "integer"))
  | .decimal digits => some (.typed digits (xsd ++ "decimal"))
  | .double digits => some (.typed digits (xsd ++ "double"))
  | .word "true" => some (.typed "true" (xsd ++ "boolean"))
  | .word "false" => some (.typed "false" (xsd ++ "boolean"))
  | _ => none

/-- Whether a token is a keyword, in any case. -/
def isKeyword (keyword : String) : Token → Bool
  | .word w => w.toLower == keyword
  | _ => false

end Token

end LinkedQueries.Rdf
