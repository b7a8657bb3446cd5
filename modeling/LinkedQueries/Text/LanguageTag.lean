import LinkedQueries.Text.Split

/-!
# Language tags

The grammar of language tags: a language, up to three extensions of it, a script, a region,
variants, extensions behind single letters and private parts behind `x`. Some old tags are allowed
as they are.
-/

namespace LinkedQueries.LanguageTag

/-- Tags from before the grammar. -/
def registered : List String :=
  ["art-lojban", "cel-gaulish", "en-gb-oed", "i-ami", "i-bnn", "i-default", "i-enochian", "i-hak",
   "i-klingon", "i-lux", "i-mingo", "i-navajo", "i-pwn", "i-tao", "i-tay", "i-tsu", "no-bok",
   "no-nyn", "sgn-be-fr", "sgn-be-nl", "sgn-ch-de", "zh-guoyu", "zh-hakka", "zh-min", "zh-min-nan",
   "zh-xiang"]

/-- How far a tag has been read. -/
inductive Place where
  | start
  | language (extensions : Nat)
  | extendedLanguage
  | script
  | region
  | extension (awaited : Bool)
  | privatePart (awaited : Bool)
  deriving DecidableEq

/-- Whether a script may follow. -/
def Place.beforeScript : Place → Bool
  | .language _ | .extendedLanguage => true
  | _ => false

/-- Whether a region may follow. -/
def Place.beforeRegion (p : Place) : Bool :=
  p.beforeScript || p == .script

/-- Whether a variant may follow. -/
def Place.beforeVariant (p : Place) : Bool :=
  p.beforeRegion || p == .region

/-- Whether a part has the form of a region: two letters or three digits. -/
def isRegion (part : List Char) : Bool :=
  (part.length == 2 && part.all Char.isAlpha) || (part.length == 3 && part.all Char.isDigit)

/-- Whether a part has the form of a variant. -/
def isVariant (part : List Char) : Bool :=
  (part.length ≥ 5 && part.head?.any Char.isAlpha) ||
    (part.length ≥ 4 && part.head?.any Char.isDigit)

/-- The place after one more part. -/
def Place.next? (p : Place) (part : List Char) : Option Place :=
  if part.isEmpty || part.length > 8 || !part.all Char.isAlphanum then none
  else
    match p with
    | .start =>
      if part.length < 2 || !part.all Char.isAlpha then none
      else if part.length < 4 then some (.language 0) else some .extendedLanguage
    | .privatePart _ => some (.privatePart false)
    | _ =>
      if part.length == 1 then
        if p == .extension true then none
        else if part == ['x'] || part == ['X'] then some (.privatePart true)
        else some (.extension true)
      else
        match p with
        | .extension _ => some (.extension false)
        | _ =>
          match p, part.length == 3 && part.all Char.isAlpha with
          | .language n, true => if n < 3 then some (.language (n + 1)) else none
          | _, _ =>
            if p.beforeScript && part.length == 4 && part.all Char.isAlpha then some .script
            else if p.beforeRegion && isRegion part then some .region
            else if p.beforeVariant && isVariant part then some .region
            else none

/-- Whether a tag may end at a place. -/
def Place.isEnd : Place → Bool
  | .start | .extension true | .privatePart true => false
  | _ => true

/-- Whether a text is a language tag. -/
def isTag (tag : List Char) : Bool :=
  let small := tag.map Char.toLower
  if registered.contains (String.ofList small) then true
  else if small.take 2 == ['x', '-'] then
    tag.length > 2 && tag.all fun c => c.isAlphanum || c == '-'
  else ((splitAt '-' tag).foldlM Place.next? Place.start).any Place.isEnd

end LinkedQueries.LanguageTag
