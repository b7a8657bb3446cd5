import LinkedQueries.Text.Split

/-!
# Paths

A path is a text of names between slashes. Several slashes in a row are one, and a slash behind the
last name asks for a directory. The names `.` and `..` stand for a directory itself and for the one
above it. What a path leads to depends on links, so `..` does not take away the name before it.
-/

namespace LinkedQueries

/-- The parts of a path: whether it begins at the root, the names on it, and whether a slash stands
behind the last one. -/
structure FilePath where
  absolute : Bool
  names : List String
  slashed : Bool
  deriving DecidableEq, Repr

namespace FilePath

/-- The parts of the path that a text is. -/
def ofString (text : String) : FilePath where
  absolute := text.toList.head? == some '/'
  names := ((splitAt '/' text.toList).filter (!·.isEmpty)).map String.ofList
  slashed := text.toList.getLast? == some '/'

/-- The last name of a path, unless that is the name of the directory above. A `.` behind another
name does not count. -/
def fileName? (path : FilePath) : Option String :=
  (path.names.filter (· != ".")).getLast?.filter (· != "..")

end FilePath

end LinkedQueries
