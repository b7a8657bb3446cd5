import LinkedQueries.CommandLine.Run

/-!
# The program `lsq`

Carries out `CommandLine.run`: what the paths in the arguments lead through is looked at beforehand,
and the file that the run has written is written afterwards.
-/

namespace LinkedQueries.Main

open CommandLine

/-- What is at a path. -/
inductive Found where
  | directory
  | file (bytes : ByteArray)
  | denied

/-- Looks at a path. -/
def look (path : String) : IO Found := do
  try
    return .file (← IO.FS.readBinFile path)
  catch
    | .inappropriateType .. => return .directory
    | .permissionDenied .. => return .denied
    | e => throw e

/-- The path from the root, without links, to what is at a path. -/
def real? (path : String) : IO (Option String) := do
  try
    return some (← IO.FS.realPath path).toString
  catch _ => return none

/-- Adds what is at a path that has no links on it. -/
def addFound (files : Files) (path : String) : IO Files := do
  match ← look path with
  | .directory => return files.withDirectory path
  | .file bytes => return files.withFile path bytes.toList
  | .denied =>
    let access : Access := {}
    return files.withFile path [] { access with read := false }

/-- Adds what some names lead through. `passed` is the path up to them as it is spelled, and `above`
the one from the root to the same directory. A name that leads elsewhere is a link. -/
def addNames (files : Files) (passed above : String) : List String → IO Files
  | [] => return files
  | name :: ahead => do
    match ← real? (passed ++ name) with
    | none => return files
    | some real =>
      let files ← addFound files real
      let own := above ++ "/" ++ name
      let isLink := name != "." && name != ".." && FilePath.ofString own != FilePath.ofString real
      let files := if isLink then files.withLink own real else files
      addNames files (passed ++ name ++ "/") real ahead

/-- Adds what a path leads through. -/
def addPath (files : Files) (working path : String) : IO Files := do
  let parts := FilePath.ofString path
  if parts.absolute then addNames files "/" "" parts.names
  else addNames files "" working parts.names

/-- The files that the arguments are about. -/
def filesFor (request : Except Stop Request) : IO Files := do
  match request with
  | .error _ => return Files.empty
  | .ok request =>
    let working ← real? "."
    let working := working.getD "/"
    let files := (Files.empty.withDirectory working).within working
    request.paths.foldlM (fun files path => addPath files working path) files

/-- All bytes of a stream. -/
partial def readAll (stream : IO.FS.Stream) (bytes : ByteArray) : IO ByteArray := do
  let more ← stream.read 65536
  if more.isEmpty then return bytes else readAll stream (bytes ++ more)

/-- The standard input, if the arguments are about it. -/
def inputFor (request : Except Stop Request) : IO Input :=
  match request with
  | .ok request => do
    if request.readsInput then
      let bytes ← readAll (← IO.getStdin) ByteArray.empty
      return { bytes := bytes.toList }
    else return { bytes := [] }
  | .error _ => return { bytes := [] }

/-- What the file at a path holds. -/
def held (files : Files) (path : String) : Option (List UInt8) :=
  (files.number? path).toOption.bind files.bytes?

/-- Writes the files whose content has changed. -/
def writeChanges (request : Except Stop Request) (before after : Files) : IO Unit :=
  match request with
  | .ok request => request.paths.forM fun path => do
    if let some bytes := held after path then
      if held before path != some bytes then IO.FS.writeBinFile path ⟨bytes.toArray⟩
  | .error _ => return

/-- Runs the program; the number it ends with. -/
def run (arguments : List String) : IO UInt32 := do
  let request := Arguments.read arguments
  let files ← filesFor request
  let outcome := CommandLine.run arguments (← inputFor request) files
  writeChanges request files outcome.files
  (← IO.getStdout).putStr outcome.output
  (← IO.getStderr).putStr outcome.errors
  return UInt32.ofNat outcome.exitCode

end LinkedQueries.Main

/-- The program. -/
def main (arguments : List String) : IO UInt32 :=
  LinkedQueries.Main.run arguments
