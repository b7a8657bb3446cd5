/-!
# Name characters

The character classes of prefixed names, variables and blank node labels, shared by RDF texts and
queries, and the check for a blank node label.
-/

namespace LinkedQueries

/-- The letters with which a name may begin. -/
def isNameLetter (c : Char) : Bool :=
  let n := c.toNat
  c.isAlpha || (0xC0 ≤ n && n ≤ 0xD6) || (0xD8 ≤ n && n ≤ 0xF6) || (0xF8 ≤ n && n ≤ 0x2FF) ||
    (0x370 ≤ n && n ≤ 0x37D) || (0x37F ≤ n && n ≤ 0x1FFF) || (0x200C ≤ n && n ≤ 0x200D) ||
    (0x2070 ≤ n && n ≤ 0x218F) || (0x2C00 ≤ n && n ≤ 0x2FEF) || (0x3001 ≤ n && n ≤ 0xD7FF) ||
    (0xF900 ≤ n && n ≤ 0xFDCF) || (0xFDF0 ≤ n && n ≤ 0xFFFD) || (0x10000 ≤ n && n ≤ 0xEFFFF)

/-- The letters and the underscore. -/
def isNameStart (c : Char) : Bool :=
  isNameLetter c || c == '_'

/-- The marks that a name may hold but not begin with. -/
def isNameMark (c : Char) : Bool :=
  let n := c.toNat
  n == 0xB7 || (0x300 ≤ n && n ≤ 0x36F) || (0x203F ≤ n && n ≤ 0x2040)

/-- The characters within a name. -/
def isNameChar (c : Char) : Bool :=
  isNameStart c || c == '-' || c.isDigit || isNameMark c

/-- The characters with which a blank node label may begin. -/
def isLabelStart (c : Char) : Bool :=
  isNameStart c || c == ':' || c.isDigit

/-- The characters within a blank node label. -/
def isLabelChar (c : Char) : Bool :=
  isNameChar c || c == ':' || c == '.'

/-- Whether a text is a blank node label: it begins with a letter, a digit, a colon or an underscore
and does not end with a dot. -/
def isBlankLabel : List Char → Bool
  | [] => false
  | c :: rest => isLabelStart c && rest.all isLabelChar && rest.getLast? != some '.'

end LinkedQueries
