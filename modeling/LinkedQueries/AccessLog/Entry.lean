import LinkedQueries.AccessLog.Line
import LinkedQueries.AccessLog.Target
import LinkedQueries.Execution
import LinkedQueries.Input

/-!
# Log entries

The entry of a log line: its fields, interpreted. A line that does not have the grammar, or whose
numbers do not fit, is rejected; a timestamp that is no date or a path that forms no address is kept
as a diagnostic of the entry.

* `Entry.ofLine?` interprets a line.
* `extract` decides what becomes of a rejected line: it is skipped, or an error if the reader is
  strict.
* `extractAll` reads a whole log, line by line.
-/

namespace LinkedQueries.AccessLog

/-- A field that could not be interpreted. -/
inductive Diagnostic where
  | timestamp (raw : String)
  | target (address : String) (error : Url.UrlError)
  deriving DecidableEq, Repr

/-- The wording of a diagnostic. -/
def Diagnostic.message : Diagnostic → String
  | .timestamp raw => "Failed to parse timestamp: " ++ raw
  | .target address error => "Could not parse URI " ++ address ++ ": " ++ error.message

/-- An entry of an access log. -/
structure Entry where
  host : String
  user : String
  rawTimestamp : String
  timestamp : Option Timestamp
  request : String
  requestLine : Option RequestLine
  response : Nat
  byteCount : Nat
  referer : String
  userAgent : Option String
  query : Option String
  diagnostics : List Diagnostic
  deriving DecidableEq, Repr

/-- Why a line is rejected. -/
inductive Rejection where
  | grammar
  | response
  | byteCount
  | encoding
  deriving DecidableEq, Repr

/-- The wording of a rejection. -/
def Rejection.message : Rejection → String
  | .grammar => "line does not match the log entry grammar"
  | .response => "response code out of range"
  | .byteCount => "byte count out of range"
  | .encoding => "line is not valid UTF-8"

/-! ## Interpreting a line -/

/-- The timestamp of a line, with the diagnostic that stands for a missing one. -/
def timestampField (time : List Char) : Option Timestamp × List Diagnostic :=
  match Timestamp.ofLog? time with
  | some t => (some t, [])
  | none => (none, [.timestamp (String.ofList time)])

/-- The query text of a request, with the diagnostic of a path that forms no address. -/
def queryField : Option RequestLine → Option String × List Diagnostic
  | none => (none, [])
  | some line =>
    match queryText? line.path.toList with
    | .ok query => (query.map String.ofList, [])
    | .error e => (none, [.target (address line.path.toList) e])

/-- The entry of a line. -/
def Entry.ofLine? (line : Line) : Except Rejection Entry := do
  let some response := decimalBelow? 0x10000 line.response.code | .error .response
  let some byteCount := decimalBelow? wordBound line.response.bytes | .error .byteCount
  let requestLine := RequestLine.ofChars? line.request
  return {
    host := String.ofList line.host
    user := String.ofList line.user
    rawTimestamp := String.ofList line.time
    timestamp := (timestampField line.time).1
    request := String.ofList line.request
    requestLine
    response
    byteCount
    referer := String.ofList line.response.referer
    userAgent := line.response.agent.map String.ofList
    query := (queryField requestLine).1
    diagnostics := (timestampField line.time).2 ++ (queryField requestLine).2 }

/-- The entry of a text. -/
def Entry.ofChars? (cs : List Char) : Except Rejection Entry :=
  match Line.ofChars? cs with
  | some line => Entry.ofLine? line
  | none => .error .grammar

/-- The entry of the bytes of a line. -/
def Entry.ofBytes? (bytes : List UInt8) : Except Rejection Entry :=
  match Utf8.strict? bytes with
  | some cs => Entry.ofChars? cs
  | none => .error .encoding

/-- The entry as a sighting of its query. -/
def Entry.toRemoteExecution (e : Entry) (sequenceId : Option Nat) : RemoteExecution where
  sequenceId
  host := e.host
  user := e.user
  atTime := e.timestamp
  verb := e.requestLine.map (·.verb)
  path := e.requestLine.map (·.path)
  protocol := e.requestLine.map (·.protocol)
  response := some e.response
  byteCount := some e.byteCount
  referer := some e.referer
  userAgent := e.userAgent
  diagnostics := e.diagnostics.map Diagnostic.message

/-! ## Reading a log -/

/-- Why reading a log stops. -/
inductive LogError where
  | malformed (line : String) (reason : Rejection)
  | io (failure : Failure)
  deriving DecidableEq, Repr

/-- The wording of an error. -/
def LogError.message : LogError → String
  | .malformed line reason => "Malformed log entry (" ++ reason.message ++ "): " ++ line
  | .io failure => failure.message

/-- What becomes of a line: its entry, nothing if it is skipped, or an error if the reader is
strict. -/
def settle (strict : Bool) (text : String) : Except Rejection Entry → Except LogError (Option Entry)
  | .ok entry => .ok (some entry)
  | .error reason => if strict then .error (.malformed text reason) else .ok none

/-- The entry of a text. -/
def extract (strict : Bool) (cs : List Char) : Except LogError (Option Entry) :=
  settle strict (String.ofList cs) (Entry.ofChars? cs)

/-- The bytes of a line without the carriage return that may end it. -/
def withoutReturn (bytes : List UInt8) : List UInt8 :=
  if bytes.getLast? == some 0x0D then bytes.dropLast else bytes

/-- The entry of the bytes of a line. -/
def extractBytes (strict : Bool) (bytes : List UInt8) : Except LogError (Option Entry) :=
  settle strict (String.ofList (Utf8.lossy (withoutReturn bytes)))
    (Entry.ofBytes? (withoutReturn bytes))

/-- The lines that line breaks end, and what follows the last of them. -/
def completeLines (bytes : List UInt8) : List (List UInt8) × List UInt8 :=
  let pieces := splitAt 0x0A bytes
  (pieces.dropLast, pieces.getLastD [])

/-- The entries of all lines of a log. What follows the last line break is a line of its own
unless it is empty or the reader fails; then the failure is the last item. -/
def extractAll (strict : Bool) (log : Input) : List (Except LogError (Option Entry)) :=
  let (lines, rest) := completeLines log.bytes
  let items := lines.map (extractBytes strict)
  match log.failure with
  | some failure => items ++ [.error (.io failure)]
  | none => if rest.isEmpty then items else items ++ [extractBytes strict rest]

/-- The items of a log with the numbers of their lines, counted from 1. -/
def numbered {α : Type} (items : List α) : List (Nat × α) :=
  items.zipIdx.map fun (item, i) => (i + 1, item)

end LinkedQueries.AccessLog
