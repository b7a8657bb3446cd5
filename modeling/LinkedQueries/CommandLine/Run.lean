import LinkedQueries.CommandLine.Arguments
import LinkedQueries.CommandLine.Table
import LinkedQueries.Rdf.Reader
import LinkedQueries.Regroup
import LinkedQueries.Sparql.Grammar.Queries

/-!
# Running the program

What the program `lsq` does with its arguments, its input and the files it sees.

* `extract` ingests a log and gives the table of its queries.
* `regroup` replaces the output only when all inputs are loaded, so it may be one of them.
* `run` reads the arguments and does what they ask for.
-/

namespace LinkedQueries.CommandLine

/-- What a run leaves behind. -/
structure Outcome where
  exitCode : Nat
  output : String
  errors : String
  files : Files

/-! ## Faults -/

/-- Why a command fails: what went wrong, or what was attempted and what went wrong with it. -/
structure Fault where
  message : String
  cause : Option String := none
  deriving DecidableEq, Repr

/-- A text with all lines but the first indented. -/
def indented (text : String) : String :=
  String.ofList (text.toList.flatMap fun c => if c == '\n' then "\n    ".toList else [c])

/-- The report of a fault. -/
def Fault.report (fault : Fault) : String :=
  "Error: " ++ fault.message ++
    (match fault.cause with
      | some cause => "\n\nCaused by:\n    " ++ indented cause
      | none => "") ++ "\n"

/-! ## Formats of files -/

/-- The extension of the last name on a path. A name that only begins with a dot has none. -/
def extension? (path : String) : Option String :=
  (FilePath.ofString path).fileName?.bind fun name =>
    let ending := (name.toList.reverse.takeWhile (· != '.')).reverse
    if name.length ≤ ending.length + 1 then none else some (String.ofList ending)

/-- The format that the extension of a path stands for. -/
def formatOfPath (path : String) : Except Fault RdfFormat :=
  match extension? path with
  | none => .error ⟨"The path " ++ path ++ " has no extension to guess a file format from", none⟩
  | some extension =>
    match RdfFormat.ofExtension? extension with
    | some format => .ok format
    | none =>
      .error ⟨"Not able to guess the file format from file name extension '" ++ extension ++ "'",
        some ("The file extension '" ++ extension ++ "' is unknown")⟩

/-- The format that a name stands for. -/
def formatOfName (name : String) : Except Fault RdfFormat :=
  match RdfFormat.ofName? name with
  | some format => .ok format
  | none => .error ⟨"The file format '" ++ name ++ "' is unknown", none⟩

/-! ## Extracting queries -/

/-- The report about an ingestion. -/
def ingestReport (s : IngestSummary) : String :=
  toString s.lines ++ " lines, " ++ toString s.skippedLines ++ " skipped, " ++
    toString s.entriesWithoutQuery ++ " without query, " ++ toString s.sightings ++
    " sightings of " ++ toString s.newRecords ++ " distinct queries\n" ++
    if s.invalidQueries = 0 then ""
    else toString s.invalidQueries ++ " queries could not be parsed\n"

/-- The log to be ingested. -/
def openLog (file : Option String) (stdin : Input) (files : Files) : Except Fault Input :=
  match file with
  | none => .ok stdin
  | some path =>
    (files.open? path).mapError fun failure => ⟨"Failed to open " ++ path, some failure.message⟩

/-- Ingests a log into an empty store; the table of the store and the report. -/
def extract (options : IngestOptions) (log : Input) : Except Fault (String × String) :=
  match Ingest.log (Sparql.Query.reader 0) options RecordStore.empty log with
  | (_, .error e) => .error ⟨e.message, none⟩
  | (store, .ok summary) => .ok (store.table options.analyze, ingestReport summary)

/-! ## Regrouping dumps -/

/-- The dump in a file, in the format of all inputs or else in that of its extension. -/
def sourceOf (format : Option String) (path : String) : Except Fault Source :=
  match format with
  | some name => .ok ⟨.file path, .ofName name⟩
  | none => (formatOfPath path).map fun format => ⟨.file path, .rdf format⟩

/-- The resolver of the standard loaders, with the partition size of a request. -/
def RegroupRequest.resolver (q : RegroupRequest) : Resolver :=
  let options : ViewOptions := {}
  ⟨Registry.standard Rdf.read,
    { options with partitionSize := q.partitionSize.getD options.partitionSize }⟩

/-- The datasets of all inputs and the format of the output. -/
def RegroupRequest.load (q : RegroupRequest) (files : Files) :
    Except Fault (Partitions Dataset × RdfFormat) := do
  let sources ← q.inputs.mapM (sourceOf q.inputFormat)
  let format ← match q.outputFormat with
    | some name => formatOfName name
    | none => formatOfPath q.output
  let datasets ← (Regroup.union q.resolver files sources).mapError fun e =>
    ⟨"Failed to load the input files", some e.message⟩
  return (datasets, format)

/-- The report about a regrouping. -/
def regroupReport (s : RegroupSummary) : String :=
  toString s.triples ++ " triples written into " ++ toString s.graphs ++ " graphs\n"

/-- Loads all inputs, then creates the output and writes it. What was written up to a fault stays.
-/
def regroup (q : RegroupRequest) (files : Files) : Files × Except Fault String :=
  match q.load files with
  | .error fault => (files, .error fault)
  | .ok (datasets, format) =>
    match files.create? q.output with
    | .error failure => (files, .error ⟨"Failed to create " ++ q.output, some failure.message⟩)
    | .ok (files, number) =>
      let (writer, result) :=
        Regroup.write GraphWriter.sink datasets (.create q.output format)
      (files.write number writer.content,
        match result with
        | .error e => .error ⟨"Failed to write " ++ q.output, some e.message⟩
        | .ok summary => .ok (regroupReport summary))

/-! ## The program -/

/-- Answers a request. -/
def answer (request : Request) (stdin : Input) (files : Files) : Outcome :=
  match request with
  | .extract file options =>
    match (openLog file stdin files).bind (extract options) with
    | .error fault => ⟨1, "", fault.report, files⟩
    | .ok (table, report) => ⟨0, table, report, files⟩
  | .regroup q =>
    match regroup q files with
    | (files, .error fault) => ⟨1, "", fault.report, files⟩
    | (files, .ok report) => ⟨0, "", report, files⟩

/-- The report about wrong arguments. -/
def misuseReport : Misuse → String
  | .noCommand => programHelp
  | misuse => "error: " ++ misuse.message ++ "\n\nFor more information, try '--help'.\n"

/-- Does what the arguments ask for. -/
def run (arguments : List String) (stdin : Input) (files : Files) : Outcome :=
  match Arguments.read arguments with
  | .error (.text text) => ⟨0, text, "", files⟩
  | .error (.misuse misuse) => ⟨2, "", misuseReport misuse, files⟩
  | .ok request => answer request stdin files

end LinkedQueries.CommandLine
