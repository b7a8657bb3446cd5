import LinkedQueries.Files.Path
import LinkedQueries.Input
import LinkedQueries.Keyed
import LinkedQueries.Text.Utf8

/-!
# Files

The file system that a program sees, as a value. Files, directories and symbolic links have numbers;
a directory holds numbers under names, so one file may have several names. A path is walked name by
name from the root, which has the number 0, or from the working directory, and links are followed on
the way. What a path leads to is opened by its number, so all spellings of a path and all names of a
file mean the same file.

* `Files.walk` goes along some names until it meets a link.
* `Files.place?` is what a path leads to.
* `Files.open?` reads a file; `Files.create?` empties one or puts one where there is none.
-/

namespace LinkedQueries

/-! ## Failures -/

namespace Failure

/-- The failure of using a file or a directory that others keep to themselves. -/
def accessDenied : Failure := ⟨.permissionDenied, "Permission denied (os error 13)"⟩

/-- The failure of using a file as a directory. -/
def notDirectory : Failure := ⟨.notDirectory, "Not a directory (os error 20)"⟩

/-- The failure of using a directory as a file. -/
def isDirectory : Failure := ⟨.isDirectory, "Is a directory (os error 21)"⟩

/-- The failure of a path or a name that is too long. -/
def nameTooLong : Failure := ⟨.invalidName, "File name too long (os error 36)"⟩

/-- The failure of a path that leads through too many links. -/
def tooManyLinks : Failure := ⟨.linkLoop, "Too many levels of symbolic links (os error 40)"⟩

/-- The failure of a path that holds the character that ends it. -/
def nulInPath : Failure := ⟨.invalidInput, "file name contained an unexpected NUL byte"⟩

end Failure

/-! ## File systems -/

/-- What the program may do with a file or a directory. -/
structure Access where
  read : Bool := true
  write : Bool := true
  search : Bool := true
  deriving DecidableEq, Repr

/-- What has a number: a file with what it holds, a directory with the number of the one above it
and those of its entries, or a link to a path. -/
inductive Node where
  | file (bytes : List UInt8) (access : Access)
  | directory (parent : Nat) (entries : Keyed Nat) (access : Access)
  | link (target : String)

namespace Node

/-- The numbers that a node refers to. -/
def numbers : Node → List Nat
  | .directory parent entries _ => parent :: entries.entries.map (·.2)
  | _ => []

/-- The directory with one more entry. -/
def withEntry (name : String) (number : Nat) : Node → Node
  | .directory parent entries access =>
    .directory parent (entries.alter name fun _ => number) access
  | node => node

/-- The file with another content. -/
def withBytes (bytes : List UInt8) : Node → Node
  | .file _ access => .file bytes access
  | node => node

theorem mem_numbers_withEntry {name : String} {number n : Nat} {node : Node}
    (h : n ∈ (node.withEntry name number).numbers) : n = number ∨ n ∈ node.numbers := by
  cases node with
  | file bytes access => exact .inr h
  | link target => exact .inr h
  | directory parent entries access =>
    rcases List.mem_cons.mp h with rfl | h
    · exact .inr List.mem_cons_self
    · obtain ⟨⟨other, m⟩, hm, rfl⟩ := List.mem_map.mp h
      rw [Keyed.mem_entries_iff, Keyed.find?_alter] at hm
      split at hm
      · exact .inl (Option.some.inj hm).symm
      · exact .inr (List.mem_cons_of_mem _
          (List.mem_map_of_mem (f := (·.2)) ((entries.mem_entries_iff).mpr hm)))

@[simp] theorem numbers_withBytes (bytes : List UInt8) (node : Node) :
    (node.withBytes bytes).numbers = node.numbers := by
  cases node <;> rfl

end Node

/-- A file system with a working directory. All numbers that occur in it are those of nodes. -/
structure Files where
  nodes : List Node
  working : Nat
  working_lt : working < nodes.length
  numbers_lt : ∀ node ∈ nodes, ∀ n ∈ node.numbers, n < nodes.length

namespace Files

/-- No files: a root without entries. -/
def empty : Files where
  nodes := [.directory 0 Keyed.empty {}]
  working := 0
  working_lt := Nat.zero_lt_one
  numbers_lt := by
    intro node hnode n hn
    obtain rfl := List.mem_singleton.mp hnode
    obtain rfl := List.mem_singleton.mp hn
    exact Nat.zero_lt_one

instance : Inhabited Files := ⟨empty⟩

/-- The files with another content of the file with a number. -/
def write (files : Files) (number : Nat) (bytes : List UInt8) : Files where
  nodes := files.nodes.modify number (Node.withBytes bytes)
  working := files.working
  working_lt := by simpa using files.working_lt
  numbers_lt := by
    intro node hnode n hn
    rw [List.length_modify]
    obtain ⟨i, hi⟩ := List.mem_iff_getElem?.mp hnode
    rw [List.getElem?_modify] at hi
    obtain ⟨old, hold, rfl⟩ := Option.map_eq_some_iff.mp hi
    refine files.numbers_lt old (List.mem_of_getElem? hold) n ?_
    split at hn
    · simpa using hn
    · exact hn

/-- The files with a new node under a name of a directory. -/
def add (files : Files) (directory : Nat) (name : String) (node : Node)
    (hnode : ∀ n ∈ node.numbers, n < files.nodes.length) : Files where
  nodes := files.nodes.modify directory (Node.withEntry name files.nodes.length) ++ [node]
  working := files.working
  working_lt := by
    rw [List.length_append, List.length_modify]
    exact Nat.lt_add_right _ files.working_lt
  numbers_lt := by
    intro other hother n hn
    rw [List.length_append, List.length_modify, List.length_singleton, Nat.lt_succ_iff]
    rcases List.mem_append.mp hother with hother | hother
    · obtain ⟨i, hi⟩ := List.mem_iff_getElem?.mp hother
      rw [List.getElem?_modify] at hi
      obtain ⟨old, hold, rfl⟩ := Option.map_eq_some_iff.mp hi
      have hlt : ∀ m ∈ old.numbers, m ≤ files.nodes.length := fun m hm =>
        Nat.le_of_lt (files.numbers_lt old (List.mem_of_getElem? hold) m hm)
      split at hn
      · rcases Node.mem_numbers_withEntry hn with rfl | hn
        · exact Nat.le_refl _
        · exact hlt n hn
      · exact hlt n hn
    · obtain rfl := List.mem_singleton.mp hother
      exact Nat.le_of_lt (hnode n hn)

/-- The files with a new empty file under a name of a directory. -/
def addFile (files : Files) (directory : Nat) (name : String) : Files :=
  files.add directory name (.file [] {}) nofun

/-- What the file with a number holds. -/
def bytes? (files : Files) (number : Nat) : Option (List UInt8) :=
  match files.nodes[number]? with
  | some (.file bytes _) => some bytes
  | _ => none

/-- The path that the link with a number is to. -/
def target? (files : Files) (number : Nat) : Option String :=
  match files.nodes[number]? with
  | some (.link target) => some target
  | _ => none

/-! ## Walking -/

/-- What a path is walked for: to read what is there, or to have a file there. -/
inductive Purpose where
  | reading
  | creating
  deriving DecidableEq, Repr

/-- What a path leads to: a node, or a name that a directory has no entry for. -/
inductive Place where
  | found (number : Nat)
  | vacant (directory : Nat) (name : String)
  deriving DecidableEq, Repr

/-- How far some names lead without following a link: to their end, or to a link in a directory
with the names that are still ahead. -/
inductive Stretch where
  | arrived (place : Place)
  | link (directory : Nat) (target : String) (ahead : List String)
  deriving DecidableEq, Repr

/-- The longest name, in bytes. -/
def nameLimit : Nat := 255

/-- The longest path, in bytes, and the byte behind it. -/
def pathLimit : Nat := 4096

/-- How many links are followed on one path. -/
def linkLimit : Nat := 40

/-- The number of bytes of a text. -/
def byteCount (text : String) : Nat :=
  (Utf8.encode text.toList).length

/-- The directory with a number, to be searched: the one above it and its entries. -/
def search (files : Files) (number : Nat) : Except Failure (Nat × Keyed Nat) :=
  match files.nodes[number]? with
  | some (.directory parent entries access) =>
    if access.search then .ok (parent, entries) else .error .accessDenied
  | _ => .error .notDirectory

/-- The node that a name stands for in a directory, given the one above it and its entries. -/
def entry? (directory parent : Nat) (entries : Keyed Nat) (name : String) :
    Except Failure (Option Nat) :=
  if name == "." then .ok (some directory)
  else if name == ".." then .ok (some parent)
  else if nameLimit < byteCount name then .error .nameTooLong
  else .ok (entries.find? name)

/-- Goes along some names from a directory. A slash behind the last name asks for a directory, which
is never what is to be created. -/
def walk (files : Files) (purpose : Purpose) (slashed : Bool) (directory : Nat) :
    List String → Except Failure Stretch
  | [] => .ok (.arrived (.found directory))
  | name :: ahead => do
    let (parent, entries) ← files.search directory
    if purpose == .creating && slashed && ahead.isEmpty then .error .isDirectory
    else
      match ← entry? directory parent entries name with
      | none =>
        if ahead.isEmpty then .ok (.arrived (.vacant directory name)) else .error .missingFile
      | some number =>
        match files.target? number with
        | some target => .ok (.link directory target ahead)
        | none =>
          if ahead.isEmpty && slashed && (files.bytes? number).isSome then .error .notDirectory
          else files.walk purpose slashed number ahead

/-- Where a path begins that is met in a directory. -/
def start (path : FilePath) (directory : Nat) : Nat :=
  if path.absolute then 0 else directory

/-- Goes along some names and follows links, but not more than some number of them. A slash behind
the path of the last link counts as well. -/
def follow (files : Files) (purpose : Purpose) (links : Nat) (slashed : Bool) (directory : Nat)
    (names : List String) : Except Failure Place :=
  match files.walk purpose slashed directory names with
  | .error failure => .error failure
  | .ok (.arrived place) => .ok place
  | .ok (.link directory target ahead) =>
    match links with
    | 0 => .error .tooManyLinks
    | links + 1 =>
      if target.isEmpty then .error .missingFile
      else
        let path := FilePath.ofString target
        files.follow purpose links (slashed || (ahead.isEmpty && path.slashed))
          (start path directory) (path.names ++ ahead)

/-- What a path leads to. -/
def place? (files : Files) (purpose : Purpose) (path : String) : Except Failure Place :=
  if path.toList.contains '\x00' then .error .nulInPath
  else if path.isEmpty then .error .missingFile
  else if pathLimit ≤ byteCount path then .error .nameTooLong
  else
    let path := FilePath.ofString path
    files.follow purpose linkLimit path.slashed (start path files.working) path.names

/-- The number of what is at a path. -/
def number? (files : Files) (path : String) : Except Failure Nat := do
  match ← files.place? .reading path with
  | .found number => .ok number
  | .vacant .. => .error .missingFile

/-! ## Reading and writing -/

/-- Opens what is at a path. A directory can be opened but not read. -/
def open? (files : Files) (path : String) : Except Failure Input := do
  match files.nodes[← files.number? path]? with
  | some (.file bytes access) => if access.read then .ok { bytes } else .error .accessDenied
  | some (.directory _ _ access) =>
    if access.read then .ok { bytes := [], failure := some .isDirectory }
    else .error .accessDenied
  | _ => .error .missingFile

/-- Creates an empty file at a path, or empties the one that is there; the number of the file. -/
def create? (files : Files) (path : String) : Except Failure (Files × Nat) := do
  match ← files.place? .creating path with
  | .found number =>
    match files.nodes[number]? with
    | some (.file _ access) =>
      if access.write then .ok (files.write number [], number) else .error .accessDenied
    | _ => .error .isDirectory
  | .vacant directory name =>
    match files.nodes[directory]? with
    | some (.directory _ _ access) =>
      if access.write then .ok (files.addFile directory name, files.nodes.length)
      else .error .accessDenied
    | _ => .error .notDirectory

/-! ## Making file systems -/

/-- The files with a directory under each of some names, one below the other, and the number of the
last one. Directories that are there already are kept. -/
def withDirectories (files : Files) (directory : Nat) : List String → Files × Nat
  | [] => (files, directory)
  | name :: below =>
    match files.search directory with
    | .error _ => (files, directory)
    | .ok (_, entries) =>
      match entries.find? name with
      | some number => files.withDirectories number below
      | none =>
        if h : directory < files.nodes.length then
          let made := files.add directory name (.directory directory Keyed.empty {})
            fun _ hn => List.mem_singleton.mp hn ▸ h
          made.withDirectories files.nodes.length below
        else (files, directory)

/-- The files with a node at the end of a path and directories on the way there. -/
def withNode (files : Files) (path : String) (node : Node) (h : node.numbers = []) : Files :=
  let path := FilePath.ofString path
  let (files, directory) :=
    files.withDirectories (start path files.working) path.names.dropLast
  match path.names.getLast? with
  | none => files
  | some name => files.add directory name node fun _ hn => absurd (h ▸ hn) List.not_mem_nil

/-- The files with a file at a path. -/
def withFile (files : Files) (path : String) (bytes : List UInt8) (access : Access := {}) : Files :=
  files.withNode path (.file bytes access) rfl

/-- The files with a link at a path. -/
def withLink (files : Files) (path target : String) : Files :=
  files.withNode path (.link target) rfl

/-- The files with a directory at a path. -/
def withDirectory (files : Files) (path : String) : Files :=
  let path := FilePath.ofString path
  (files.withDirectories (start path files.working) path.names).1

/-- The files as they are seen from another working directory, if that is one. -/
def within (files : Files) (path : String) : Files :=
  match files.number? path with
  | .error _ => files
  | .ok number =>
    if h : number < files.nodes.length then { files with working := number, working_lt := h }
    else files

end Files

end LinkedQueries
