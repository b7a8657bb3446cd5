import LinkedQueries.Text.Percent

/-!
# IRIs

The grammar of internationalised resource identifiers as a left-to-right check. `checkReference`
accepts any IRI reference; `checkAbsolute` wants a scheme as well. The first fault decides the
error: a text without a scheme is read as a relative reference first, so a bad character in it is
reported before the missing scheme.
-/

namespace LinkedQueries

/-- Why a text is no IRI. -/
inductive IriError where
  | noScheme
  | codePoint (c : Char)
  | percentEncoding (rest : List Char)
  | portCharacter (c : Char)
  | hostCharacter (c : Char)
  | hostAddress
  | doubleSlashPath
  deriving DecidableEq, Repr

/-- The wording of an error. -/
def IriError.message : IriError → String
  | .noScheme => "No scheme found in an absolute IRI"
  | .codePoint c => "Invalid IRI code point '" ++ String.singleton c ++ "'"
  | .percentEncoding rest => "Invalid IRI percent encoding '%" ++ String.ofList rest ++ "'"
  | .portCharacter c => "Invalid character '" ++ String.singleton c ++ "'"
  | .hostCharacter c => "Invalid character '" ++ String.singleton c ++ "' in host"
  | .hostAddress => "Invalid host IP (invalid IPv6 address syntax)"
  | .doubleSlashPath => "An IRI path is not allowed to start with // if there is no authority"

namespace Iri

/-! ## Character classes -/

/-- Letters, digits and `- . _ ~`. -/
def isUnreserved (c : Char) : Bool :=
  c.isAlphanum || c == '-' || c == '.' || c == '_' || c == '~'

/-- The delimiters that may stand within a component. -/
def isSubDelimiter (c : Char) : Bool :=
  "!$&'()*+,;=".toList.contains c

/-- The characters beyond ASCII that an IRI may hold anywhere. -/
def isUniversal (c : Char) : Bool :=
  let n := c.toNat
  (0xA0 ≤ n && n ≤ 0xD7FF) || (0xF900 ≤ n && n ≤ 0xFDCF) || (0xFDF0 ≤ n && n ≤ 0xFFEF) ||
    (0x10000 ≤ n && n < 0xE0000 && n % 0x10000 ≤ 0xFFFD) || (0xE1000 ≤ n && n ≤ 0xEFFFD)

/-- The private characters that a query may hold. -/
def isPrivate (c : Char) : Bool :=
  let n := c.toNat
  (0xE000 ≤ n && n ≤ 0xF8FF) || (0xF0000 ≤ n && n % 0x10000 ≤ 0xFFFD)

/-- The characters of a host name. -/
def isHostChar (c : Char) : Bool :=
  isUnreserved c || isSubDelimiter c || isUniversal c

/-- The characters of user information. -/
def isUserChar (c : Char) : Bool :=
  isHostChar c || c == ':'

/-- The characters of a path segment that is not followed by a check for a scheme. -/
def isPathChar (c : Char) : Bool :=
  isHostChar c || c == ':' || c == '@'

/-- The characters of a path, separators included. -/
def isPathOrSlash (c : Char) : Bool :=
  isPathChar c || c == '/'

/-- The characters of a fragment. -/
def isFragmentChar (c : Char) : Bool :=
  isPathChar c || c == '/' || c == '?'

/-- The characters of a query. -/
def isQueryChar (c : Char) : Bool :=
  isFragmentChar c || isPrivate c

/-- The characters of a scheme after its first. -/
def isSchemeChar (c : Char) : Bool :=
  c.isAlphanum || c == '+' || c == '-' || c == '.'

/-- The characters that end a component of the authority. -/
def endsAuthority (c : Char) : Bool :=
  c == '/' || c == '?' || c == '#'

/-! ## Components -/

/-- Reads characters of a class and escapes up to a character that ends the component. -/
def component (allowed ends : Char → Bool) : List Char → Except IriError (List Char)
  | [] => .ok []
  | c :: rest =>
    if ends c then .ok (c :: rest)
    else if c == '%' then
      match rest with
      | h :: l :: more =>
        if (hexPair? h l).isSome then component allowed ends more
        else .error (.percentEncoding [h, l])
      | short => .error (.percentEncoding short)
    else if allowed c then component allowed ends rest
    else .error (.codePoint c)

/-- The fragment is the last component. -/
def fragment (cs : List Char) : Except IriError Unit := do
  let _ ← component isFragmentChar (fun _ => false) cs
  return ()

/-- What follows a path: a query, a fragment, both or nothing. -/
def afterPath : List Char → Except IriError Unit
  | '?' :: cs => do
    match ← component isQueryChar (· == '#') cs with
    | '#' :: rest => fragment rest
    | _ => return ()
  | '#' :: cs => fragment cs
  | _ => return ()

/-- A path with all that follows it. -/
def path (cs : List Char) : Except IriError Unit := do
  afterPath (← component isPathOrSlash (fun c => c == '?' || c == '#') cs)

/-- A path whose first segment holds no colon, with all that follows it. -/
def pathWithoutColon (cs : List Char) : Except IriError Unit := do
  path (← component (fun c => isHostChar c || c == '@') endsAuthority cs)

/-! ## The authority -/

/-- A group of an IPv6 address: one to four hexadecimal digits. -/
def isGroup (cs : List Char) : Bool :=
  1 ≤ cs.length && cs.length ≤ 4 && cs.all fun c => (hexDigit? c).isSome

/-- A decimal byte without leading zeros. -/
def isOctet (cs : List Char) : Bool :=
  1 ≤ cs.length && cs.length ≤ 3 && cs.all Char.isDigit && !(cs.length ≥ 2 && cs.head? == some '0')
    && cs.foldl (fun n d => 10 * n + (d.toNat - 48)) 0 ≤ 255

/-- Four decimal bytes. -/
def isDottedQuad (cs : List Char) : Bool :=
  (splitAt '.' cs).length == 4 && (splitAt '.' cs).all isOctet

/-- How many groups a part of an IPv6 address holds; the last may be an embedded IPv4 address, which
counts as two. -/
def groupCount? (embedded : Bool) (cs : List Char) : Option Nat :=
  if cs.isEmpty then some 0
  else
    let groups := splitAt ':' cs
    if groups.all isGroup then some groups.length
    else if embedded && groups.dropLast.all isGroup && isDottedQuad (groups.getLastD []) then
      some (groups.length + 1)
    else none

/-- The text around the first `::`. -/
def aroundGap? : List Char → Option (List Char × List Char)
  | ':' :: ':' :: rest => some ([], rest)
  | c :: rest => (aroundGap? rest).map fun (before, after) => (c :: before, after)
  | [] => none

/-- Whether a text is an IPv6 address. -/
def isAddress (cs : List Char) : Bool :=
  match aroundGap? cs with
  | none => groupCount? true cs == some 8
  | some (before, after) =>
    match groupCount? false before, groupCount? true after with
    | some m, some n => m + n ≤ 7
    | _, _ => false

/-- An address of a future version, after its `v`: hexadecimal digits, a dot and more characters. -/
def futureAddress (cs : List Char) : Except IriError Unit :=
  let version := cs.takeWhile (· != '.')
  let rest := (cs.dropWhile (· != '.')).drop 1
  match version.find? fun c => (hexDigit? c).isNone with
  | some c => .error (.hostCharacter c)
  | none =>
    if version.isEmpty then .error (.hostCharacter (rest.headD ']'))
    else if rest.isEmpty then .error (.hostCharacter ']')
    else
      match rest.find? fun c => !(isUnreserved c || isSubDelimiter c || c == ':') with
      | some c => .error (.hostCharacter c)
      | none => .ok ()

/-- A port, up to the path. -/
def port : List Char → Except IriError (List Char)
  | [] => .ok []
  | c :: rest =>
    if c.isDigit then port rest
    else if endsAuthority c then .ok (c :: rest)
    else .error (.portCharacter c)

/-- An address in brackets, after the opening one, with the port, up to the path. -/
def bracketedHost (cs : List Char) : Except IriError (List Char) := do
  let address := cs.takeWhile (· != ']')
  match cs.dropWhile (· != ']') with
  | [] => .error (.hostCharacter '[')
  | _ :: rest =>
    match address with
    | 'v' :: version | 'V' :: version => futureAddress version
    | _ => if isAddress address then .ok () else .error .hostAddress
    match rest with
    | ':' :: rest => port rest
    | [] => return []
    | c :: rest => if endsAuthority c then return c :: rest else .error (.hostCharacter c)

/-- A host with its port, up to the path. -/
def host : List Char → Except IriError (List Char)
  | '[' :: rest => bracketedHost rest
  | cs => do
    match ← component isHostChar (fun c => c == ':' || endsAuthority c) cs with
    | ':' :: rest => port rest
    | rest => return rest

/-- The authority after `//`, up to the path. -/
def authority (cs : List Char) : Except IriError (List Char) := do
  match ← component isUserChar (fun c => c == '@' || c == '[' || endsAuthority c) cs with
  | '@' :: rest => host rest
  | _ => host cs

/-! ## References -/

/-- The scheme and what follows its colon. -/
def scheme? (cs : List Char) : Option (List Char × List Char) :=
  match cs with
  | c :: _ =>
    if c.isAlpha then
      match cs.dropWhile isSchemeChar with
      | ':' :: rest => some (cs.takeWhile isSchemeChar, rest)
      | _ => none
    else none
  | [] => none

/-- What follows the scheme: an authority with a path, or a path. -/
def hierarchy : List Char → Except IriError Unit
  | '/' :: '/' :: rest => do path (← authority rest)
  | cs => path cs

/-- Whether a text is an IRI reference; a leading colon never is. -/
def checkReference (cs : List Char) : Except IriError Unit :=
  match scheme? cs, cs with
  | some (_, rest), _ => hierarchy rest
  | none, ':' :: _ => .error .noScheme
  | none, '/' :: _ => hierarchy cs
  | none, _ => pathWithoutColon cs

/-- Whether a text is an IRI. -/
def checkAbsolute (cs : List Char) : Except IriError Unit := do
  checkReference cs
  if (scheme? cs).isNone then .error .noScheme

end Iri

end LinkedQueries
