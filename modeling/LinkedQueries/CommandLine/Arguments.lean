import LinkedQueries.CommandLine.Command
import LinkedQueries.Ingest
import LinkedQueries.Text.Decimal
import LinkedQueries.Text.Split

/-!
# Arguments

What the arguments of the program ask for. They are read from left to right, and the first thing
that is wrong with them, or the first question for an explanation, ends the reading.

* `Arguments.settings` reads the flags of a command with their values.
* `Arguments.read` finds the request that all arguments make.
-/

namespace LinkedQueries.CommandLine

/-- What is wrong with some arguments. -/
inductive Misuse where
  | noCommand
  | unknownCommand (name : String)
  | unexpected (argument : String)
  | unneededValue (flag : String)
  | missingValue (flag : String)
  | invalidValue (flag value : String)
  | repeated (flag : String)
  | missing (flag : String)
  deriving DecidableEq, Repr

/-- The wording of what is wrong. -/
def Misuse.message : Misuse → String
  | .noCommand => "'lsq' requires a subcommand but one was not provided"
  | .unknownCommand name => "unrecognized subcommand '" ++ name ++ "'"
  | .unexpected argument => "unexpected argument '" ++ argument ++ "' found"
  | .unneededValue flag => "unexpected value for '--" ++ flag ++ "' found; no more were expected"
  | .missingValue flag => "a value is required for '--" ++ flag ++ "' but none was supplied"
  | .invalidValue flag value => "invalid value '" ++ value ++ "' for '--" ++ flag ++ "'"
  | .repeated flag => "the argument '--" ++ flag ++ "' cannot be used multiple times"
  | .missing flag => "the required argument '--" ++ flag ++ "' was not provided"

/-- Why nothing is to be run: a text was asked for, or the arguments are wrong. -/
inductive Stop where
  | text (text : String)
  | misuse (misuse : Misuse)
  deriving DecidableEq, Repr

/-- What a dump is to be regrouped into. -/
structure RegroupRequest where
  inputs : List String
  inputFormat : Option String
  output : String
  outputFormat : Option String
  partitionSize : Option Nat
  deriving DecidableEq, Repr

/-- What the arguments ask for. -/
inductive Request where
  | extract (file : Option String) (options : IngestOptions)
  | regroup (request : RegroupRequest)
  deriving DecidableEq, Repr

/-- The paths of the files that a request is about. -/
def Request.paths : Request → List String
  | .extract file _ => file.toList
  | .regroup q => q.inputs ++ [q.output]

/-- Whether a request reads the standard input. -/
def Request.readsInput : Request → Bool
  | .extract none _ => true
  | _ => false

/-- The flags met so far with their values, in order; a flag without a value has the empty one. -/
abbrev Settings := List (String × String)

namespace Settings

/-- Whether a flag was met. -/
def has (s : Settings) (flag : String) : Bool := (s.lookup flag).isSome

/-- All values of a flag. -/
def values (s : Settings) (flag : String) : List String :=
  (s.filter (·.1 == flag)).map (·.2)

/-- The value of a flag, or the empty text. -/
def value (s : Settings) (flag : String) : String := (s.lookup flag).getD ""

end Settings

namespace Arguments

/-- The number that a count denotes; it may have a plus sign. -/
def count? (value : String) : Option Nat :=
  match value.toList with
  | '+' :: digits => decimalBelow? wordBound digits
  | digits => decimalBelow? wordBound digits

/-- Whether a value is one of its kind. -/
def isValid (kind : ValueKind) (value : String) : Bool :=
  match kind with
  | .path => !value.isEmpty
  | .text => true
  | .count => (count? value).isSome

/-- Whether an argument can be a value that stands by itself: flags cannot. -/
def isValue (arg : String) : Bool :=
  arg == "-" || arg.toList.head? != some '-'

/-- The value that is attached to a short flag. -/
def attached? : List Char → Option String
  | [] => none
  | '=' :: value => some (String.ofList value)
  | value => some (String.ofList value)

/-- The settings with one more, unless the flag was met before or the value is not of its kind. -/
def add (flag : Flag) (value : String) (settings : Settings) : Except Stop Settings :=
  if settings.has flag.long && !flag.repeatable then .error (.misuse (.repeated flag.long))
  else if flag.value.any fun kind => !isValid kind value then
    .error (.misuse (.invalidValue flag.long value))
  else .ok (settings ++ [(flag.long, value)])

/-- The flag that an argument names, with the value attached to it. -/
def flag? (flags : List Flag) (arg : String) : Option (Flag × Option String) :=
  match arg.toList with
  | '-' :: '-' :: cs =>
    let (name, value) := match cutAt '=' cs with
      | some (name, value) => (name, some (String.ofList value))
      | none => (cs, none)
    (flags.find? (·.long == String.ofList name)).map (·, value)
  | '-' :: c :: cs => (flags.find? (·.short == some c)).map (·, attached? cs)
  | _ => none

/-- Reads the flags of a command with their values. -/
def settings (command : Command) : List String → Settings → Except Stop Settings
  | [], met => .ok met
  | arg :: rest, met =>
    if arg == "--" then
      match rest with
      | [] => .ok met
      | next :: _ => .error (.misuse (.unexpected next))
    else if arg == "--help" then .error (.text command.longHelp)
    else if arg.toList.take 2 == ['-', 'h'] then .error (.text command.shortHelp)
    else
      match flag? command.flags arg with
      | none => .error (.misuse (.unexpected arg))
      | some (flag, value) =>
        match flag.value, value, rest with
        | none, some _, _ => .error (.misuse (.unneededValue flag.long))
        | none, none, rest => (add flag "" met).bind (settings command rest)
        | some _, some value, rest => (add flag value met).bind (settings command rest)
        | some _, none, [] => .error (.misuse (.missingValue flag.long))
        | some _, none, value :: rest =>
          if isValue value then (add flag value met).bind (settings command rest)
          else .error (.misuse (.missingValue flag.long))

/-- The request that the flags of a command make. -/
def request (command : Command) (s : Settings) : Except Stop Request :=
  match command.flags.find? fun f => f.required && !s.has f.long with
  | some f => .error (.misuse (.missing f.long))
  | none =>
    match command with
    | .extract =>
      if s.has "base" && !s.has "analyze" then .error (.misuse (.missing "analyze"))
      else .ok (.extract (s.lookup "from-file") ⟨s.has "strict", s.has "analyze", s.lookup "base"⟩)
    | .regroup =>
      .ok (.regroup ⟨s.values "from-file", s.lookup "from-format", s.value "to-file",
        s.lookup "to-format", (s.lookup "partition-size").bind count?⟩)

/-- The explanation that the arguments after `help` ask for. -/
def help : List String → Stop
  | [] => .text programHelp
  | name :: rest =>
    match Command.ofName? name, rest with
    | some command, [] => .text command.longHelp
    | some _, next :: _ => .misuse (.unknownCommand next)
    | none, rest =>
      if name == "help" then
        match rest with
        | [] => .text helpHelp
        | next :: _ => .misuse (.unknownCommand next)
      else .misuse (.unknownCommand name)

/-- The request that the arguments make. -/
def read : List String → Except Stop Request
  | [] => .error (.misuse .noCommand)
  | name :: rest =>
    match Command.ofName? name with
    | some command => (settings command rest []).bind (request command)
    | none =>
      if name == "help" then .error (help rest)
      else if name == "--help" || name.toList.take 2 == ['-', 'h'] then .error (.text programHelp)
      else if name == "--version" || name.toList.take 2 == ['-', 'V'] then
        .error (.text versionText)
      else .error (.misuse (.unknownCommand name))

end Arguments

end LinkedQueries.CommandLine
