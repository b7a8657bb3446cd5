import LinkedQueries.Text.CharClass
import LinkedQueries.Text.Split

/-!
# RDF formats

The formats in which RDF is written, with the file extensions and media types that stand for them.
Extensions and types are compared without regard to the case of ASCII letters.
-/

namespace LinkedQueries

/-- A format of RDF. The profiles of JSON-LD are those named by its media type. -/
inductive RdfFormat where
  | n3
  | nQuads
  | nTriples
  | rdfXml
  | triG
  | turtle
  | jsonLd (profiles : List String)
  deriving DecidableEq, Repr

namespace RdfFormat

/-- The IRI of the profile that is read and written piece by piece. -/
def streamingProfile : String := "http://www.w3.org/ns/json-ld#streaming"

/-- The profiles that are told apart. -/
def knownProfiles : List String :=
  ["expanded", "compacted", "context", "flattened", "frame", "framed", "streaming"].map
    ("http://www.w3.org/ns/json-ld#" ++ ·)

/-- The name of a format. -/
def name : RdfFormat → String
  | .n3 => "N3"
  | .nQuads => "N-Quads"
  | .nTriples => "N-Triples"
  | .rdfXml => "RDF/XML"
  | .triG => "TriG"
  | .turtle => "Turtle"
  | .jsonLd profiles =>
    if profiles.contains streamingProfile then "Streaming JSON-LD" else "JSON-LD"

/-- Whether a format can hold named graphs. -/
def hasGraphs : RdfFormat → Bool
  | .nQuads | .triG | .jsonLd _ => true
  | .n3 | .nTriples | .rdfXml | .turtle => false

/-! ## Extensions -/

/-- The format that a file extension stands for. -/
def ofExtension? (extension : String) : Option RdfFormat :=
  match extension.toLower with
  | "json" | "jsonld" => some (.jsonLd [])
  | "n3" => some .n3
  | "nq" => some .nQuads
  | "nt" | "txt" => some .nTriples
  | "rdf" | "xml" => some .rdfXml
  | "trig" => some .triG
  | "ttl" => some .turtle
  | _ => none

/-! ## Media types -/

/-- A text without the blanks around it. -/
def trimmed (cs : List Char) : List Char :=
  ((cs.dropWhile isBlank).reverse.dropWhile isBlank).reverse

/-- A text with its ASCII letters small. -/
def lowered (cs : List Char) : String :=
  String.ofList (cs.map Char.toLower)

/-- The format that a media subtype stands for, when its `x-` is taken off. -/
def ofSubtype? (subtype : List Char) : Option RdfFormat :=
  match lowered subtype with
  | "activity+json" | "json" | "ld+json" | "jsonld" => some (.jsonLd [])
  | "n-quads" | "nquads" => some .nQuads
  | "n-triples" | "ntriples" | "plain" => some .nTriples
  | "n3" => some .n3
  | "rdf+xml" | "xml" => some .rdfXml
  | "trig" => some .triG
  | "turtle" => some .turtle
  | _ => none

/-- A parameter of a media type: a key and a value. -/
def parameter? (cs : List Char) : Option (List Char × List Char) :=
  (cutAt '=' cs).map fun (key, value) => (trimmed key, trimmed value)

/-- The parameters of a media type, if each of them has a value. -/
def parameters? (cs : List Char) : Option (List (List Char × List Char)) :=
  if (trimmed cs).isEmpty then some [] else (splitAt ';' (trimmed cs)).mapM parameter?

/-- A text without the quotes around it. -/
def unquoted (cs : List Char) : List Char :=
  if cs.head? == some '"' && cs.getLast? == some '"' then (cs.drop 1).dropLast else cs

/-- The profiles that a format has after one more parameter. -/
def withProfiles (value : List Char) : RdfFormat → RdfFormat
  | .jsonLd profiles =>
    let named := (splitAt ' ' (unquoted value)).map fun p => String.ofList (trimmed p)
    .jsonLd (knownProfiles.filter fun p => profiles.contains p || named.contains p)
  | format => format

/-- The format with a parameter of its media type taken in; another character set than UTF-8 is
refused. -/
def withParameter? (format : RdfFormat) (parameter : List Char × List Char) : Option RdfFormat :=
  if parameter.1 == "charset".toList then
    if ["ascii", "utf8", "utf-8"].contains (lowered parameter.2) then some format else none
  else if parameter.1 == "profile".toList then some (format.withProfiles parameter.2)
  else some format

/-- The format that a media type stands for. -/
def ofMediaType? (mediaType : String) : Option RdfFormat := do
  let (full, rest) := (cutAt ';' mediaType.toList).getD (mediaType.toList, [])
  let (type, subtype) ← cutAt '/' full
  if lowered (trimmed type) != "application" && lowered (trimmed type) != "text" then none
  let subtype := trimmed subtype
  let parameters ← parameters? rest
  let format ← ofSubtype? (if subtype.take 2 == ['x', '-'] then subtype.drop 2 else subtype)
  parameters.foldlM withParameter? format

/-- The format that a name stands for, as an extension or as a media type. -/
def ofName? (name : String) : Option RdfFormat :=
  ofExtension? name <|> ofMediaType? name

end RdfFormat

end LinkedQueries
