import LinkedQueries.Iri.Grammar
import LinkedQueries.Rdf.NameChar
import LinkedQueries.Rdf.Pattern

/-!
# Graph keys

Every RDF term names a graph. An IRI and a blank node name it as they are; a literal and a quoted
triple are form-encoded behind the schemes `x-literal:` and `x-rdfstar:`, so that the key is again
an IRI. Graphs of a dataset are kept under the keys of their names; the default graph has the
empty key.

* `Term.graphKey` is the key of the graph that a term names.
* `GraphName.key` and `GraphName.ofKey?` turn graph names into keys and back.
* `TermPattern.ground?` finds the term that a pattern without variables denotes, or the first node
  that denotes none.
-/

namespace LinkedQueries

/-- The scheme of the names of literals. -/
def literalScheme : String := "x-literal:"

/-- The scheme of the names of quoted triples. -/
def quotedScheme : String := "x-rdfstar:"

/-- The key of the graph that a term names. -/
def Term.graphKey : Term → String
  | .iri i => i
  | .blank l => "_:" ++ l
  | .literal l => literalScheme ++ String.ofList (formEncode l.chars)
  | .triple s p o => quotedScheme ++ String.ofList (formEncode (Term.triple s p o).chars)

/-! ## Names and keys -/

/-- The key under which the graph of a name is kept. -/
def GraphName.key : GraphName → String
  | .default => ""
  | .iri i => i
  | .blank l => "_:" ++ l

/-- Why a key names no graph. -/
inductive KeyFault where
  | label
  | iri (error : IriError)
  deriving DecidableEq, Repr

/-- The wording of a fault. -/
def KeyFault.message : KeyFault → String
  | .label => "The blank node identifier is invalid"
  | .iri e => e.message

/-- A key that names no graph. -/
structure InvalidGraphKey where
  key : String
  fault : KeyFault
  deriving DecidableEq, Repr

/-- The wording of the error. -/
def InvalidGraphKey.message (e : InvalidGraphKey) : String :=
  "Invalid graph name '" ++ e.key ++ "': " ++ e.fault.message

/-- The graph name that has a key, read off the characters of the key. -/
def GraphName.ofKeyChars : List Char → Except KeyFault GraphName
  | [] => .ok .default
  | '_' :: ':' :: label =>
    if isBlankLabel label then .ok (.blank (String.ofList label)) else .error .label
  | cs =>
    match Iri.checkAbsolute cs with
    | .ok _ => .ok (.iri (String.ofList cs))
    | .error e => .error (.iri e)

/-- The graph name that has a key. -/
def GraphName.ofKey? (key : String) : Except InvalidGraphKey GraphName :=
  (GraphName.ofKeyChars key.toList).mapError fun fault => ⟨key, fault⟩

/-! ## Patterns -/

/-- The predicate that a name denotes; a variable denotes none. -/
def NamePattern.ground? : NamePattern → Except TermPattern String
  | .iri i => .ok i
  | .variable v => .error (.variable v)

/-- A term in subject position: a literal is the offending node there. -/
def Term.asSubject : Term → Except TermPattern Term
  | .literal l => .error (.literal l)
  | t => .ok t

/-- The term that a pattern denotes, or the first node that keeps it from denoting one: subjects
come before predicates and predicates before objects, and a literal subject counts after its
inside. -/
def TermPattern.ground? : TermPattern → Except TermPattern Term
  | .iri i => .ok (.iri i)
  | .blank l => .ok (.blank l)
  | .literal l => .ok (.literal l)
  | .variable v => .error (.variable v)
  | .triple s p o => do
    let subject ← (← s.ground?).asSubject
    let predicate ← p.ground?
    let object ← o.ground?
    return .triple subject predicate object

/-- A node of a pattern from which no graph can be named. -/
structure UnnamedNode where
  node : TermPattern
  deriving DecidableEq, Repr

/-- The wording of the error. -/
def UnnamedNode.message (e : UnnamedNode) : String :=
  "Cannot derive a graph name from the node " ++ e.node.text

/-- The key of the graph that a pattern names. -/
def TermPattern.graphKey? (p : TermPattern) : Except UnnamedNode String :=
  match p.ground? with
  | .ok t => .ok t.graphKey
  | .error node => .error ⟨node⟩

end LinkedQueries
