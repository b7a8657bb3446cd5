import LinkedQueries.Url.Composition
import LinkedQueries.Url.FoldingTable
import LinkedQueries.Url.Punycode

/-!
# Domain names

International domain names are folded to a canonical spelling before they are used: letters become
small, characters of other widths and styles become plain, other full stops become dots, characters
without a shape of their own disappear, and what can be composed is composed. `Domain.canonical?`
gives the folded name, or nothing if one of its labels is not allowed: it holds a refused character
or a delimiter, begins with a combining mark, has a joiner where nothing joins, mixes directions of
writing, is too long, or is marked by `xn--` without being the encoding of a folded label.
-/

namespace LinkedQueries.Url.Domain

/-! ## Folding -/

/-- The ASCII characters that no domain name may hold. -/
def isDelimiter (c : Char) : Bool :=
  c.toNat ≤ 0x20 || c == '\x7F' || "%#/:<>?@[\\]^|".toList.contains c

/-- The folded spelling of a character; a refused character has none. -/
def fold? (c : Char) : Option (List Char) :=
  let code := c.toNat
  if code < 0x80 then some [c.toLower]
  else if FoldingTable.isRefused code then none
  else if covers FoldingTable.ignored code then some []
  else
    match FoldingTable.moved? code with
    | some target => some [Char.ofNat target]
    | none => some ((FoldingTable.spelled.lookup code).getD [c])

/-- The folded spelling of a text. -/
def folded? (text : List Char) : Option (List Char) := do
  return compose (← text.mapM fold?).flatten

/-- Whether folding leaves a text as it is, character by character and as a whole. -/
def isFolded (text : List Char) : Bool :=
  text.all (fun c => fold? c == some [c]) && compose text == text

/-! ## Labels -/

/-- The most characters of a label that goes beyond ASCII. -/
def labelLimit : Nat := 1000

/-- The label that a folded label stands for: one behind `xn--` is decoded. -/
def label? (label : List Char) : Option (List Char) :=
  if label.take 4 == ['x', 'n', '-', '-'] then
    (Punycode.decode? (label.drop 4)).filter isFolded
  else if label.all (fun c => c.toNat < 0x80) || label.length ≤ labelLimit then some label
  else none

/-- Whether letters join across a place: `before` holds the characters before it, last first. -/
def joinsAcross (before after : List Char) : Bool :=
  (before.dropWhile isPassedOver).head?.any joinsNext &&
    (after.dropWhile isPassedOver).head?.any joinsPrevious

/-- Whether a text, given backwards, ends with a sign that silences a vowel. -/
def isSilenced (before : List Char) : Bool :=
  before.head?.any fun sign => combiningClass sign == 9

/-- Whether joiners stand only behind a sign that silences a vowel, or parting letters that would
join; `before` holds the characters passed, last first. -/
def joinersAct (before : List Char) : List Char → Bool
  | [] => true
  | c :: rest =>
    (if c == '\u200D' then isSilenced before
      else if c == '\u200C' then isSilenced before || joinsAcross before rest
      else true) && joinersAct (c :: before) rest

/-- Whether a label holds no delimiter, begins with no mark and has joiners only where they act. -/
def isLabel (label : List Char) : Bool :=
  !label.any isDelimiter && !label.head?.any isMark && joinersAct [] label

/-! ## Direction of writing -/

/-- Whether a label, within a name that has characters written from right to left, keeps to one
direction. -/
def keepsDirection (label : List Char) : Bool :=
  let directions := label.map direction
  let last := (directions.reverse.dropWhile (· == .mark)).head?
  match directions.head? with
  | none => true
  | some .leftToRight =>
    directions.all (fun d => d != .rightToLeft && d != .arabicNumber) &&
      (last == some .leftToRight || last == some .number)
  | some .rightToLeft =>
    directions.all (· != .leftToRight) &&
      (last == some .rightToLeft || last == some .number || last == some .arabicNumber) &&
      !(directions.contains .number && directions.contains .arabicNumber)
  | some _ => false

/-- The folded name, if all of its labels are allowed. -/
def canonical? (name : List Char) : Option (List Char) := do
  let folded ← folded? name
  let labels ← (splitAt '.' folded).mapM label?
  let mixes := labels.any fun label =>
    label.any fun c => direction c == .rightToLeft || direction c == .arabicNumber
  if labels.all isLabel && (!mixes || labels.all keepsDirection) then folded else none

end LinkedQueries.Url.Domain
