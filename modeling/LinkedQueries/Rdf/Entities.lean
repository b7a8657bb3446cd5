import LinkedQueries.Text.CharClass
import LinkedQueries.Text.Percent
import LinkedQueries.Text.Split

/-!
# References within marked-up texts

A character of a marked-up text may be written as a reference: by its number, by one of the five
names that are always known, or by a name that a declaration gives to a text.

`Entities.expand` replaces the references of a text, and `Entities.declared` reads declarations.
-/

namespace LinkedQueries.Rdf

/-- The texts that declarations give to names, the latest first. -/
abbrev Entities := List (List Char × List Char)

namespace Entities

/-! ## References -/

/-- The character of a numeric reference. -/
def numbered? : List Char → Option Char
  | 'x' :: digits => do
    if digits.isEmpty then none
    character (← digits.mapM hexDigit?) 16
  | digits => do
    if digits.isEmpty || !digits.all Char.isDigit then none
    character (digits.map fun c => c.toNat - 48) 10
where
  /-- The character whose number has some digits. -/
  character (digits : List Nat) (radix : Nat) : Option Char :=
    let n := digits.foldl (fun n d => radix * n + d) 0
    if n != 0 && n.isValidChar then some (Char.ofNat n) else none

/-- The text of a reference. -/
def reference? (entities : Entities) (name : List Char) : Option (List Char) :=
  match name with
  | '#' :: number => (numbered? number).map ([·])
  | name =>
    match String.ofList name with
    | "lt" => some ['<']
    | "gt" => some ['>']
    | "amp" => some ['&']
    | "apos" => some ['\'']
    | "quot" => some ['"']
    | _ => entities.lookup name

/-- A text with its references replaced. The name of a reference that has begun is kept reversed. -/
def expandFrom (entities : Entities) (begun : Option (List Char)) : List Char → Option (List Char)
  | [] => if begun.isSome then none else some []
  | c :: rest =>
    match begun with
    | none =>
      if c == '&' then expandFrom entities (some []) rest
      else (expandFrom entities none rest).map (c :: ·)
    | some name =>
      if c == ';' then do
        return (← reference? entities name.reverse) ++ (← expandFrom entities none rest)
      else if c == '&' then none
      else expandFrom entities (some (c :: name)) rest

/-- A text with its references replaced. -/
def expand (entities : Entities) (text : List Char) : Option (List Char) :=
  expandFrom entities none text

/-- A character of a text, written as marked-up text. -/
def escapedChar (c : Char) : List Char :=
  match c with
  | '<' => "&lt;".toList
  | '>' => "&gt;".toList
  | '&' => "&amp;".toList
  | '\'' => "&apos;".toList
  | '"' => "&quot;".toList
  | c => [c]

/-! ## Declarations -/

/-- The blanks that end a name. -/
def isNameEnd (c : Char) : Bool :=
  c == ' ' || c == '\t' || c == '\n' || c == '\r' || c == '\x0C'

/-- The name and the text that a declaration gives to it. -/
def declaration? (entities : Entities) (cs : List Char) : Option (List Char × List Char) := do
  let cs := cs.dropWhile isBlank
  let cs := if cs.head? == some '%' then (cs.drop 1).dropWhile isBlank else cs
  let name := cs.takeWhile (!isNameEnd ·)
  match (cs.drop name.length).dropWhile isBlank with
  | '"' :: rest =>
    if (cs.drop name.length).head?.any isNameEnd then
      let (value, rest) ← cutAt '"' rest
      if (rest.dropWhile isBlank).head? != some '>' then none
      return (name, ← entities.expand value)
    else none
  | _ => none

/-- All that is declared behind a text, and whether its declarations are well-formed. -/
def declared (entities : Entities) (content : List Char) : Entities × Bool :=
  ((splitAt '<' content).drop 1).foldl (fun (entities, isSound) cs =>
    if isSound && "!ENTITY".toList.isPrefixOf cs then
      match declaration? entities (cs.drop 7) with
      | some entity => (entity :: entities, true)
      | none => (entities, false)
    else (entities, isSound)) (entities, true)

end Entities

end LinkedQueries.Rdf
