import LinkedQueries.Url.Query

/-!
# Request targets

The path of a request is read as part of a web address at a fixed site, and the query text is the
value of the first parameter named `query`. Braces, which clients often leave unescaped, are
escaped first; that changes nothing for a reader of escapes.
-/

namespace LinkedQueries.AccessLog

/-- The site that paths belong to. -/
def site : String := "http://example.org"

/-- The parameter that holds a query text. -/
def queryParameter : List Char := "query".toList

/-- A character of a path, escaped if it is a brace. -/
def escapeBrace : Char → List Char
  | '{' => ['%', '7', 'B']
  | '}' => ['%', '7', 'D']
  | c => [c]

/-- A path with its braces escaped. -/
def escapeBraces (path : List Char) : List Char :=
  path.flatMap escapeBrace

/-- The address of a path at the site. -/
def address (path : List Char) : String :=
  site ++ String.ofList (escapeBraces path)

/-- The value of the first parameter of a name. -/
def parameter? (name : List Char) (query : List UInt8) : Option (List Char) :=
  ((formPairs query).find? (·.1 == name)).map (·.2)

/-- The query text in a path, or the fault that keeps the path from forming an address. -/
def queryText? (path : List Char) : Except Url.UrlError (Option (List Char)) := do
  let query ← Url.query ((site.toList.drop 7) ++ escapeBraces path)
  return query.bind (parameter? queryParameter)

end LinkedQueries.AccessLog
