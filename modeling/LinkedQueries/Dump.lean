import LinkedQueries.Files
import LinkedQueries.Rdf.Format

/-!
# Dumps

An RDF dump is a file or some bytes with a declared format. A format that is not known is kept by
its name; only a loader made for that name can read it.
-/

namespace LinkedQueries

/-- The declared format of a dump. -/
inductive SourceFormat where
  | rdf (format : RdfFormat)
  | unknown (name : String)
  deriving DecidableEq, Repr

namespace SourceFormat

/-- The format that a name stands for, as an extension or as a media type. -/
def ofName (name : String) : SourceFormat :=
  match RdfFormat.ofName? name with
  | some format => .rdf format
  | none => .unknown name

/-- The format of RDF, if it is known. -/
def rdf? : SourceFormat → Option RdfFormat
  | .rdf format => some format
  | .unknown _ => none

/-- Whether the format is known to hold triples only. -/
def isTriples (f : SourceFormat) : Bool :=
  f.rdf?.any fun format => !format.hasGraphs

/-- Whether the format is known to hold quads. -/
def isQuads (f : SourceFormat) : Bool :=
  f.rdf?.any RdfFormat.hasGraphs

/-- The text that reports give for a format. -/
def text : SourceFormat → String
  | .rdf format => format.name
  | .unknown name => name

end SourceFormat

/-- Where the content of a dump is. -/
inductive Content where
  | file (path : String)
  | bytes (bytes : List UInt8)
  deriving DecidableEq, Repr

/-- Whether the content is in a file. -/
def Content.isFile : Content → Bool
  | .file _ => true
  | .bytes _ => false

/-- An RDF dump with its declared format. -/
structure Source where
  content : Content
  format : SourceFormat
  deriving DecidableEq, Repr

namespace Source

/-- Opens the content. -/
def open? (files : Files) (s : Source) : Except Failure Input :=
  match s.content with
  | .file path => files.open? path
  | .bytes bytes => .ok { bytes }

/-- The text that reports give for a dump. -/
def text (s : Source) : String :=
  match s.content with
  | .file path => path ++ " (" ++ s.format.text ++ ")"
  | .bytes bytes => toString bytes.length ++ " bytes (" ++ s.format.text ++ ")"

end Source

end LinkedQueries
