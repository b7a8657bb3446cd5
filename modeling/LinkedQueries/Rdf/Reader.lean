import LinkedQueries.Rdf.LineReader
import LinkedQueries.Rdf.NotationReader
import LinkedQueries.Rdf.TurtleReader
import LinkedQueries.Rdf.XmlReader

/-!
# Reading RDF texts of any format

`Rdf.read` reads the text that an input serves, in one of the formats. When the reader of the input
fails, everything up to the last complete token has been read, and the failure comes last.

JSON-LD can be written but not read: its texts give nothing.
-/

namespace LinkedQueries.Rdf

/-- What a text of a format gives, latest first, and whether it is broken, so that its end is not
reached. -/
def readText (salt : Nat) (format : RdfFormat) (base : Option String) (input : Input) :
    List ReadEvent × Bool :=
  let cs := input.bytes
  let ending := input.failure.isNone
  let fuel := cs.length + 1
  let text := textNumber salt input.bytes
  match format with
  | .nTriples => (LineReader.read fuel false ending .start [] cs, false)
  | .nQuads => (LineReader.read fuel true ending .start [] cs, false)
  | .turtle => (TurtleReader.read fuel ending (.start false base text) [] cs, false)
  | .triG => (TurtleReader.read fuel ending (.start true base text) [] cs, false)
  | .n3 => (NotationReader.read fuel ending (.start base text) [] cs, false)
  | .rdfXml => XmlReader.read fuel ending (.start base text) cs
  | .jsonLd _ => ([], false)

/-- Reads the text of an input. Readings with different salts have different fresh labels. -/
def read (salt : Nat) : StatementReader := fun format base input =>
  let (events, isBroken) := readText salt format base input
  (match input.failure with
    | some failure => if isBroken then events else ReadEvent.failed failure :: events
    | none => events).reverse

end LinkedQueries.Rdf
