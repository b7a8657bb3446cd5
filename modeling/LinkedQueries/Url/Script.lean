import LinkedQueries.Url.ScriptTable

/-!
# Scripts

What the rules for labels ask of a character: whether it is a mark, in which direction it is
written, and how it joins the letters beside it.
-/

namespace LinkedQueries.Url

/-- Whether a character is a combining mark. -/
def isMark (c : Char) : Bool :=
  if c.toNat < 0x80 then false else covers ScriptTable.marks c.toNat

/-- How a character takes part in the direction of a label. -/
inductive Direction where
  | leftToRight
  | rightToLeft
  | arabicNumber
  | number
  | mark
  | neutral
  deriving DecidableEq

/-- The direction of a character. -/
def direction (c : Char) : Direction :=
  let code := c.toNat
  if code < 0x80 then
    if c.isAlpha then .leftToRight else if c.isDigit then .number else .neutral
  else if isMark c then if covers ScriptTable.spacing code then .leftToRight else .mark
  else if covers ScriptTable.rightToLeft code then .rightToLeft
  else if covers ScriptTable.arabicNumbers code then .arabicNumber
  else if covers ScriptTable.numbers code then .number
  else if covers ScriptTable.neutral code then .neutral
  else .leftToRight

/-- Whether joining passes over a character. -/
def isPassedOver (c : Char) : Bool :=
  direction c == .mark || covers ScriptTable.passedOver c.toNat

/-- Whether a character joins the one behind it. -/
def joinsNext (c : Char) : Bool :=
  !isMark c && (covers ScriptTable.dual c.toNat || covers ScriptTable.left c.toNat)

/-- Whether a character joins the one before it. -/
def joinsPrevious (c : Char) : Bool :=
  !isMark c && (covers ScriptTable.dual c.toNat || covers ScriptTable.right c.toNat)

end LinkedQueries.Url
