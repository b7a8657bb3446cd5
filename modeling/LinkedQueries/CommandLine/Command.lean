/-!
# Commands and flags

What the program `lsq` can be told to do: its commands, the flags of each, and the texts that
explain them. The explanation of a command is short, or long with all details.
-/

namespace LinkedQueries.CommandLine

/-- What the value of a flag denotes. A path is never empty, a count is below `2 ^ 64`. -/
inductive ValueKind where
  | path
  | text
  | count
  deriving DecidableEq, Repr

/-- A flag, with or without a value. -/
structure Flag where
  long : String
  short : Option Char := none
  value : Option ValueKind := none
  repeatable : Bool := false
  required : Bool := false
  summary : String
  details : List String := []
  deriving DecidableEq, Repr

/-- What the program can do. -/
inductive Command where
  | extract
  | regroup
  deriving DecidableEq, Repr

namespace Command

/-- All commands. -/
def all : List Command := [.extract, .regroup]

/-- The name of a command. -/
def name : Command → String
  | .extract => "extract"
  | .regroup => "regroup"

/-- The command of a name. -/
def ofName? (name : String) : Option Command :=
  all.find? (·.name == name)

/-- What a command does. -/
def summary : Command → String
  | .extract => "Extract the distinct SPARQL queries of an access log"
  | .regroup => "Regroup an RDF dump into one named graph per resource"

/-- What else there is to say about a command. -/
def details : Command → String
  | .extract => "Prints one line per distinct query with its hash and its text, separated by a tab."
  | .regroup => "Triples are grouped by subject and named after it, quads keep their graph."

/-- The flags of a command. -/
def flags : Command → List Flag
  | .extract =>
    [{ long := "from-file", short := some 'f', value := some .path, summary := "Log file to read",
       details := ["If no file is given, stdin is read."] },
     { long := "strict"
       summary := "Fail on lines that are not valid log entries instead of skipping them" },
     { long := "analyze", summary := "Also print the number of triple patterns of each query" },
     { long := "base", value := some .text, summary := "Base IRI for parsing the queries" }]
  | .regroup =>
    [{ long := "from-file", short := some 'f', value := some .path, repeatable := true
       required := true, summary := "File to read"
       details := ["Can be repeated. The graphs of all files are written together."] },
     { long := "from-format", value := some .text, summary := "The format of the files to read"
       details :=
        ["It can be an extension like \"nt\" or a MIME type like \"application/n-triples\".",
         "By default the format is guessed from each input file extension."] },
     { long := "to-file", short := some 't', value := some .path, required := true
       summary := "File to write" },
     { long := "to-format", value := some .text, summary := "The format of the file to write"
       details := ["By default the format is guessed from the target file extension."] },
     { long := "partition-size", value := some .count
       summary := "Number of triples per partition while grouping" }]

end Command

/-! ## Explanations -/

/-- The name of the program with its version. -/
def versionText : String := "lsq 0.1.0\n"

/-- What the program is. -/
def programSummary : String :=
  "Linked SPARQL Queries command line tool for extracting query records from logs and " ++
    "regrouping RDF dumps\n"

/-- What the command `help` does. -/
def helpSummary : String := "Print this message or the help of the given subcommand(s)"

/-- A flag as it is written in full, with the name of its value. -/
def Flag.written (f : Flag) : String :=
  let valueName := f.long.map fun c => if c == '-' then '_' else c.toUpper
  "--" ++ f.long ++ if f.value.isSome then " <" ++ valueName ++ ">" else ""

/-- A flag as the explanations list it. -/
def Flag.listed (f : Flag) : String :=
  let short := match f.short with
    | some c => "-" ++ c.toString ++ ", "
    | none => "    "
  "  " ++ short ++ f.written

/-- A text followed by blanks up to a width. -/
def padded (width : Nat) (text : String) : String :=
  text ++ String.ofList (List.replicate (width - text.length) ' ')

/-- A table of names and explanations in two columns. -/
def columns (rows : List (String × String)) : String :=
  let width := (rows.map (·.1.length)).foldl max 0 + 2
  String.join (rows.map fun (left, right) => padded width left ++ right ++ "\n")

/-- The flag that asks for an explanation. -/
def helpFlag (summary : String) : Flag := { long := "help", short := some 'h', summary }

/-- The flag that asks for the version. -/
def versionFlag : Flag := { long := "version", short := some 'V', summary := "Print version" }

/-- The explanation of the program. -/
def programHelp : String :=
  programSummary ++ "\n\nUsage: lsq <COMMAND>\n\nCommands:\n" ++
    columns ((Command.all.map fun c => ("  " ++ c.name, c.summary)) ++ [("  help", helpSummary)]) ++
    "\nOptions:\n" ++
    columns ([helpFlag "Print help", versionFlag].map fun f => (f.listed, f.summary))

/-- The explanation of the command `help`. -/
def helpHelp : String :=
  helpSummary ++ "\n\nUsage: lsq help [COMMAND]...\n\nArguments:\n" ++
    "  [COMMAND]...  Print help for the subcommand(s)\n"

/-- How a command is called. -/
def Command.usage (c : Command) : String :=
  "Usage: lsq " ++ c.name ++ " [OPTIONS]" ++
    String.join ((c.flags.filter (·.required)).map fun f => " " ++ f.written) ++ "\n"

/-- The short explanation of a command. -/
def Command.shortHelp (c : Command) : String :=
  let flags := c.flags ++ [helpFlag "Print help (see more with '--help')"]
  c.summary ++ "\n\n" ++ c.usage ++ "\nOptions:\n" ++
    columns (flags.map fun f => (f.listed, f.summary))

/-- The long explanation of a flag. -/
def Flag.explained (f : Flag) : String :=
  let lineBreak := "\n          "
  f.listed ++ lineBreak ++ (lineBreak ++ lineBreak).intercalate (f.summary :: f.details) ++ "\n"

/-- The long explanation of a command. -/
def Command.longHelp (c : Command) : String :=
  let flags := c.flags ++ [helpFlag "Print help (see a summary with '-h')"]
  c.summary ++ "\n\n" ++ c.details ++ "\n\n" ++ c.usage ++ "\nOptions:\n" ++
    "\n".intercalate (flags.map Flag.explained)

end LinkedQueries.CommandLine
