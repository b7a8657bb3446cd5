import LinkedQueries.AccessLog.Entry

/-!
# Reading a log line by line

A log need not be read at once: each poll asks its reader for the bytes up to the next line break
and gives the item of that line with its number. A reader that fails does so for good, but it is
asked only until its first failure. A reading that is merely interrupted is no failure; it goes on.

* `Reading.readLine` is what the reader serves of the next line.
* `Reading.poll` gives the next item, or the end.
-/

namespace LinkedQueries.AccessLog

/-- A log that is being read: what its reader has still to serve, whether it has failed, and the
number of the next line. -/
structure Reading where
  input : Input
  failed : Bool
  number : Nat
  deriving DecidableEq, Repr

/-- The bytes up to the first line break, with it, and those behind it. -/
def cutLine : List UInt8 → List UInt8 × List UInt8
  | [] => ([], [])
  | b :: bytes =>
    if b == 0x0A then ([b], bytes)
    else ((b :: (cutLine bytes).1), (cutLine bytes).2)

/-- The bytes of a line without the line break that may end it. -/
def withoutBreak (bytes : List UInt8) : List UInt8 :=
  if bytes.getLast? == some 0x0A then bytes.dropLast else bytes

namespace Reading

/-- A log of which nothing has been read. -/
def start (log : Input) : Reading := ⟨log, false, 1⟩

/-- The bytes that the reader serves up to the next line break or to its end, and the reader behind
them. What it has served of a line when it fails is lost. -/
def readLine (input : Input) : Input × Except Failure (List UInt8) :=
  let (line, rest) := cutLine input.bytes
  let behind := { input with bytes := rest }
  match input.failure with
  | none => (behind, .ok line)
  | some failure =>
    if line.getLast? == some 0x0A then (behind, .ok line) else (behind, .error failure)

/-- One poll: the next line's number and item, or the end. The first failure of the reader is the
last item. -/
def poll (strict : Bool) (r : Reading) :
    Reading × Option (Nat × Except LogError (Option Entry)) :=
  if r.failed then (r, none)
  else
    match readLine r.input with
    | (input, .error failure) =>
      (⟨input, true, r.number + 1⟩, some (r.number, .error (.io failure)))
    | (input, .ok []) => ({ r with input }, none)
    | (input, .ok (b :: line)) =>
      (⟨input, false, r.number + 1⟩, some (r.number, extractBytes strict (withoutBreak (b :: line))))

end Reading

end LinkedQueries.AccessLog
