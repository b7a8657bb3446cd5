import LinkedQueries.Iri.Grammar
import LinkedQueries.Url.Domain

/-!
# Hosts

The host of a web address is a domain name, an IPv4 address in decimal, octal or hexadecimal
numbers, or an IPv6 address in brackets. A name whose last label is a number has to be an IPv4
address.
-/

namespace LinkedQueries.Url

/-- Why a text is no web address. -/
inductive UrlError where
  | emptyHost
  | port
  | ipv4
  | ipv6
  | domain
  deriving DecidableEq, Repr

/-- The wording of an error. -/
def UrlError.message : UrlError → String
  | .emptyHost => "empty host"
  | .port => "invalid port number"
  | .ipv4 => "invalid IPv4 address"
  | .ipv6 => "invalid IPv6 address"
  | .domain => "invalid international domain name"

/-! ## IPv4 addresses -/

/-- The value of digits of a base. -/
def valueIn (base : Nat) (digits : List Char) : Option Nat :=
  digits.foldlM (fun n d =>
    (hexDigit? d).bind fun v => if v < base then some (base * n + v) else none) 0

/-- The number that a part of an IPv4 address denotes: `0x` marks hexadecimal and `0` octal
digits. -/
def addressNumber? : List Char → Option Nat
  | [] => none
  | '0' :: 'x' :: digits | '0' :: 'X' :: digits => valueIn 16 digits
  | '0' :: d :: digits => valueIn 8 (d :: digits)
  | digits => valueIn 10 digits

/-- The labels of a name without the empty one that a final dot leaves. -/
def addressParts (name : List Char) : List (List Char) :=
  let parts := splitAt '.' name
  if parts.getLast? == some [] then parts.dropLast else parts

/-- Whether the last label of a name is a number. -/
def endsInNumber (name : List Char) : Bool :=
  match (addressParts name).getLast? with
  | none => false
  | some last => (!last.isEmpty && last.all Char.isDigit) || (addressNumber? last).isSome

/-- Whether a name is an IPv4 address: up to four numbers, all but the last below 256, and the last
filling the bytes that remain. -/
def isIPv4 (name : List Char) : Bool :=
  match (addressParts name).mapM addressNumber? with
  | none => false
  | some numbers =>
    numbers.length ≤ 4 && numbers.dropLast.all (· < 256) &&
      numbers.getLast?.any (· < 1 <<< (8 * (5 - numbers.length)))

/-! ## Hosts -/

/-- Whether a nonempty text is a host. -/
def checkHost (host : List Char) : Except UrlError Unit :=
  match host with
  | [] => .error .emptyHost
  | '[' :: rest =>
    if rest.getLast? == some ']' && Iri.isAddress rest.dropLast then .ok () else .error .ipv6
  | _ =>
    match (Utf8.strict? (percentDecode (Utf8.encode host))).bind Domain.canonical? with
    | none => .error .domain
    | some [] => .error .emptyHost
    | some name => if endsInNumber name && !isIPv4 name then .error .ipv4 else .ok ()

end LinkedQueries.Url
