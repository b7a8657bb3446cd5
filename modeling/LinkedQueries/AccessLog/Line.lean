import LinkedQueries.Text.CharClass
import LinkedQueries.Text.Split

/-!
# The grammar of a log line

A line of an access log in the combined format:
`host ident user [time] "request" response bytes "referer" "agent"`, the agent being optional.

Blanks end the first three fields and the request ends at the first quote behind which the rest of
the line can be read; all other fields end where their class of characters ends. What follows the
last field is not looked at.

* `Line.ofChars?` reads a line; the fields are texts without interpretation.
* `RequestLine.ofChars?` finds verb, path and protocol in a request.
-/

namespace LinkedQueries.AccessLog

/-- The fields behind the request. -/
structure Response where
  code : List Char
  bytes : List Char
  referer : List Char
  agent : Option (List Char)
  deriving DecidableEq, Repr

/-- The fields of a log line. -/
structure Line where
  host : List Char
  user : List Char
  time : List Char
  request : List Char
  response : Response
  deriving DecidableEq, Repr

/-! ## Fields -/

/-- A nonempty run of characters of a class, as long as possible, and what follows it. -/
def run? (cls : Char → Bool) (cs : List Char) : Option (List Char × List Char) :=
  if (cs.takeWhile cls).isEmpty then none else some (cs.takeWhile cls, cs.dropWhile cls)

/-- What follows a text. -/
def after? : List Char → List Char → Option (List Char)
  | [], cs => some cs
  | _ :: _, [] => none
  | e :: expected, c :: cs => if c = e then after? expected cs else none

/-- A nonempty run of characters that are no blanks, closed by a space. -/
def word? (cs : List Char) : Option (List Char × List Char) := do
  let (word, cs) ← run? (fun c => !isBlank c) cs
  return (word, ← after? [' '] cs)

/-- The characters of the date and the time of day. -/
def isTimeChar (c : Char) : Bool :=
  isWord c || c == ':' || c == '/'

/-- The time between brackets: date and time of day, one blank, a sign and four digits. -/
def time? (cs : List Char) : Option (List Char × List Char) := do
  let (clock, cs) ← run? isTimeChar (← after? ['['] cs)
  match cs with
  | b :: s :: d₁ :: d₂ :: d₃ :: d₄ :: ']' :: rest =>
    if isBlank b && (s == '+' || s == '-') && [d₁, d₂, d₃, d₄].all isDecimal then
      return (clock ++ [b, s, d₁, d₂, d₃, d₄], rest)
    else none
  | _ => none

/-- The text up to the next quote, and what follows that quote. -/
def quoted? (cs : List Char) : Option (List Char × List Char) :=
  match cs.dropWhile (· != '"') with
  | [] => none
  | _ :: rest => some (cs.takeWhile (· != '"'), rest)

/-- The user agent, if one follows. -/
def agent? (cs : List Char) : Option (List Char) := do
  let (agent, _) ← quoted? (← after? [' ', '"'] cs)
  return agent

/-- The fields behind the quote that closes the request. -/
def response? (cs : List Char) : Option Response := do
  match ← after? [' '] cs with
  | d₁ :: d₂ :: d₃ :: cs =>
    if [d₁, d₂, d₃].all isDecimal then
      let (bytes, cs) ← run? isDecimal (← after? [' '] cs)
      let (referer, cs) ← quoted? (← after? [' ', '"'] cs)
      if referer.isEmpty then none
      else return { code := [d₁, d₂, d₃], bytes, referer, agent := agent? cs }
    else none
  | _ => none

/-- The request that `taken` (last character first) begins, closed by the first quote behind which
the rest of the line can be read; a request is not empty and has no line break. -/
def request? (taken : List Char) : List Char → Option (List Char × Response)
  | [] => none
  | c :: cs =>
    let here := if c == '"' && !taken.isEmpty then response? cs else none
    match here with
    | some response => some (taken.reverse, response)
    | none => if c == '\n' then none else request? (c :: taken) cs

/-- Reads a log line. -/
def Line.ofChars? (cs : List Char) : Option Line := do
  let (host, cs) ← word? cs
  let (_, cs) ← word? cs
  let (user, cs) ← word? cs
  let (time, cs) ← time? cs
  let (request, response) ← request? [] (← after? [' ', '"'] cs)
  return { host, user, time, request, response }

/-! ## The request line -/

/-- Verb, path and protocol of a request. -/
structure RequestLine where
  verb : String
  path : String
  protocol : String
  deriving DecidableEq, Repr

/-- The words between blanks. -/
def words (cs : List Char) : List (List Char) :=
  (splitWhere isBlank cs).filter (!·.isEmpty)

/-- The request line that a request begins with: its first three words. -/
def RequestLine.ofChars? (request : List Char) : Option RequestLine :=
  match words request with
  | verb :: path :: protocol :: _ =>
    some ⟨String.ofList verb, String.ofList path, String.ofList protocol⟩
  | _ => none

end LinkedQueries.AccessLog
