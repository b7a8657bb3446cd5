import LinkedQueries.Bgp.Features
import LinkedQueries.Fingerprint
import LinkedQueries.Keyed
import LinkedQueries.Sparql.Printer

/-!
# Query records

What is known about one query text, which is identified by its fingerprint: the features of the
query or the message of the parser, and the executions found so far. A record only grows; merging
fills in what is absent and adds the executions at the end.

* `QueryRecord.merge` takes in another record of the same text.
* `QueryRecord.analyze` parses the text and keeps what comes of it.
* `QueryRecord.executionOfRun` finds the first local execution of each benchmark run.
-/

namespace LinkedQueries

/-- A record about a query text. -/
structure QueryRecord where
  text : Option String
  hash : Option String
  parseError : Option String
  features : Option Features
  localExecutions : List LocalExecution
  remoteExecutions : List RemoteExecution
  deriving DecidableEq, Repr

/-- Two records are about different texts. -/
structure HashMismatch where
  expected : String
  found : String
  deriving DecidableEq, Repr

/-- The wording of the error. -/
def HashMismatch.message (e : HashMismatch) : String :=
  "Cannot merge the record with hash " ++ e.found ++ " into the record with hash " ++ e.expected

namespace QueryRecord

/-- The record that knows nothing. -/
def empty : QueryRecord := ⟨none, none, none, none, [], []⟩

/-! ## Text and hash -/

/-- The record with a text and its fingerprint. -/
def withQuery (r : QueryRecord) (text : String) : QueryRecord :=
  { r with text := some text, hash := some (fingerprint text) }

/-- The record of a text. -/
def ofText (text : String) : QueryRecord :=
  empty.withQuery text

/-- The record with the text of a query and its fingerprint. -/
def withQueryOf (r : QueryRecord) (query : Sparql.Query) : QueryRecord :=
  r.withQuery query.text

/-- The record without text and hash. -/
def withoutQuery (r : QueryRecord) : QueryRecord :=
  { r with text := none, hash := none }

/-- The record with another text; the hash stays as it was. -/
def withText (r : QueryRecord) (text : Option String) : QueryRecord :=
  { r with text }

/-- The record with the fingerprint of its text. -/
def rehashed (r : QueryRecord) : QueryRecord :=
  { r with hash := r.text.map fingerprint }

/-! ## Findings -/

/-- The record with another message of the parser, or with none. -/
def withParseError (r : QueryRecord) (parseError : Option String) : QueryRecord :=
  { r with parseError }

/-- The record with other features. -/
def withFeatures (r : QueryRecord) (features : Features) : QueryRecord :=
  { r with features := some features }

/-- The record with one of the join graphs changed; without features it stays as it is. -/
def modifyGraph (r : QueryRecord) (index : Nat) (change : JoinGraph → JoinGraph) : QueryRecord :=
  { r with features := r.features.map (·.modify index change) }

/-- The record with one more local execution. -/
def addLocal (r : QueryRecord) (e : LocalExecution) : QueryRecord :=
  { r with localExecutions := r.localExecutions ++ [e] }

/-- The record with one more remote execution. -/
def addRemote (r : QueryRecord) (e : RemoteExecution) : QueryRecord :=
  { r with remoteExecutions := r.remoteExecutions ++ [e] }

/-- The first local execution of each benchmark run. -/
def executionOfRun (r : QueryRecord) : Keyed LocalExecution :=
  r.localExecutions.foldl (fun m e => m.alter e.run fun known => known.getD e) Keyed.empty

/-- Parses the text and keeps the features or the message of the parser; says whether there are
features now. A record without text stays as it is. -/
def analyze (parse : String → Except String Sparql.Query) (r : QueryRecord) : QueryRecord × Bool :=
  match r.text with
  | none => (r, false)
  | some text =>
    match parse text with
    | .ok query => ({ r with features := some query.features }, true)
    | .error message => ({ r with parseError := some message }, false)

/-! ## Merging -/

/-- The hashes of two records, if both have one and they differ. -/
def mismatch? (r other : QueryRecord) : Option HashMismatch :=
  match r.hash, other.hash with
  | some expected, some found => if expected = found then none else some ⟨expected, found⟩
  | _, _ => none

/-- The record with what is absent taken from another one and the other's executions added. Text and
hash are taken together, and only if both are absent. -/
def fill (r other : QueryRecord) : QueryRecord where
  text := if r.text.isNone && r.hash.isNone then other.text else r.text
  hash := if r.text.isNone && r.hash.isNone then other.hash else r.hash
  parseError := r.parseError <|> other.parseError
  features := r.features <|> other.features
  localExecutions := r.localExecutions ++ other.localExecutions
  remoteExecutions := r.remoteExecutions ++ other.remoteExecutions

/-- Takes in another record, unless the hashes differ. -/
def merge (r other : QueryRecord) : Except HashMismatch QueryRecord :=
  match r.mismatch? other with
  | some e => .error e
  | none => .ok (r.fill other)

end QueryRecord

end LinkedQueries
