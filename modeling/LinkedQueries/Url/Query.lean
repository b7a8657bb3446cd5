import LinkedQueries.Text.Decimal
import LinkedQueries.Url.Host

/-!
# The query of a web address

A web address of the scheme `http` is read as far as its query needs it: user information up to the
last `@`, a host, a port, a path, a query behind the first `?` and a fragment behind the first `#`.
A backslash counts as a slash up to the query.

`query` gives the bytes of the query, those escaped that it may not hold, or the first fault of the
authority.
-/

namespace LinkedQueries.Url

/-- The characters that end the authority. -/
def endsAuthority (c : Char) : Bool :=
  c == '/' || c == '\\' || c == '?' || c == '#'

/-- What follows the last `@`, if there is one. -/
def afterUser (authority : List Char) : List Char :=
  (authority.reverse.takeWhile (· != '@')).reverse

/-- The host that an authority begins with, and what follows it: a colon ends it outside brackets.
-/
def hostAndPort (bracketed : Bool) : List Char → List Char × List Char
  | [] => ([], [])
  | c :: rest =>
    if c == ':' && !bracketed then ([], c :: rest)
    else
      let inside := if c == '[' then true else if c == ']' then false else bracketed
      let (host, port) := hostAndPort inside rest
      (c :: host, port)

/-- Whether a text is a port: decimal digits with a value below 65536, or none. -/
def isPort (digits : List Char) : Bool :=
  digits.all Char.isDigit && digitsValue digits < 65536

/-- Whether a text is an authority. -/
def checkAuthority (authority : List Char) : Except UrlError Unit := do
  let (host, port) := hostAndPort false (afterUser authority)
  checkHost host
  if !isPort (port.drop 1) then .error .port

/-- Whether a character is trimmed off the end of an address: spaces and control characters. -/
def isTrimmed (c : Char) : Bool :=
  c.toNat ≤ 0x20

/-- Tabs and line breaks within an address are skipped. -/
def isSkipped (c : Char) : Bool :=
  c == '\t' || c == '\n' || c == '\r'

/-- The bytes that a query may hold: those of the visible ASCII characters without quotes, angle
brackets and the number sign. -/
def isQueryByte (b : UInt8) : Bool :=
  0x20 < b && b < 0x7F && b != 0x22 && b != 0x23 && b != 0x27 && b != 0x3C && b != 0x3E

/-- A byte of a query, escaped if the query may not hold it. -/
def queryByte (b : UInt8) : List UInt8 :=
  if isQueryByte b then [b] else Utf8.encode (percentEscape b)

/-- The bytes of the query of an address, given what follows its scheme and slashes. -/
def query (cs : List Char) : Except UrlError (Option (List UInt8)) := do
  let cs := (cs.reverse.dropWhile isTrimmed).reverse.filter (!isSkipped ·)
  checkAuthority (cs.takeWhile (!endsAuthority ·))
  match (cs.dropWhile (!endsAuthority ·)).dropWhile fun c => c != '?' && c != '#' with
  | '?' :: rest => return some ((Utf8.encode (rest.takeWhile (· != '#'))).flatMap queryByte)
  | _ => return none

end LinkedQueries.Url
