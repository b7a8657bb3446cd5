import LinkedQueries.Time.Timestamp

/-!
# Executions

What is known about runs of a query. A benchmark run executes the query, or one of its basic graph
patterns, against a local endpoint; the log of a remote endpoint shows sightings of it.
-/

namespace LinkedQueries

/-- A span of time; the nanoseconds stay below one second. -/
structure Elapsed where
  seconds : Nat
  nanos : Nat
  deriving DecidableEq, Repr

/-- The span of some seconds and nanoseconds, whole seconds carried over. -/
def Elapsed.ofParts (seconds nanos : Nat) : Elapsed :=
  ⟨seconds + nanos / 1000000000, nanos % 1000000000⟩

/-- An execution of a basic graph pattern in a benchmark run. -/
structure PatternExecution where
  run : String
  resultCount : Option Nat
  elapsed : Option Elapsed
  deriving DecidableEq, Repr

/-- An execution of a query in a benchmark run; one that failed has an error. -/
structure LocalExecution extends PatternExecution where
  error : Option String
  deriving DecidableEq, Repr

/-- A sighting of a query in the log of a remote endpoint. What could not be read off the log line
is absent, and the diagnostics say why. -/
structure RemoteExecution where
  sequenceId : Option Nat
  host : String
  user : String
  atTime : Option Timestamp
  verb : Option String
  path : Option String
  protocol : Option String
  response : Option Nat
  byteCount : Option Nat
  referer : Option String
  userAgent : Option String
  diagnostics : List String
  deriving DecidableEq, Repr

end LinkedQueries
