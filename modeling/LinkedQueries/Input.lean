/-!
# Inputs

What a reader serves: some bytes, and then either the end or a failure. Reading from a file or a
socket is the same thing for all that follows, since only the bytes before a failure count.
-/

namespace LinkedQueries

/-- The kinds of failures of the outside world that are told apart. -/
inductive FailureKind where
  | notFound
  | permissionDenied
  | connectionReset
  | invalidInput
  | invalidData
  | isDirectory
  | notDirectory
  | invalidName
  | linkLoop
  | other
  deriving DecidableEq, Repr

/-- A failure of the outside world. -/
structure Failure where
  kind : FailureKind
  message : String
  deriving DecidableEq, Repr

/-- The failure of opening a file that does not exist. -/
def Failure.missingFile : Failure :=
  ⟨.notFound, "No such file or directory (os error 2)"⟩

/-- What a reader serves: bytes, and then its end or a failure. -/
structure Input where
  bytes : List UInt8
  failure : Option Failure := none
  deriving DecidableEq, Repr

end LinkedQueries
