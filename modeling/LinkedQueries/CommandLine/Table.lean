import LinkedQueries.Store

/-!
# The table of queries

A store as a text: one line per record, in the order of the hashes, with the hash, perhaps the
number of triple patterns, and the query text. Tabs and line ends inside the text are escaped, so
that the lines and their fields can be told apart.
-/

namespace LinkedQueries

namespace QueryTable

/-- A text with every occurrence of a character replaced. -/
def replaced (old : Char) (new : List Char) (text : List Char) : List Char :=
  text.flatMap fun c => if c = old then new else [c]

/-- A query text without tabs and line ends. Backslashes come first, since the other replacements
bring in more of them. -/
def escape (text : String) : String :=
  let text := replaced '\\' ['\\', '\\'] text.toList
  let text := replaced '\t' ['\\', 't'] text
  let text := replaced '\n' ['\\', 'n'] text
  String.ofList (replaced '\r' ['\\', 'r'] text)

/-- The number of triple patterns of a record, or a dash if its query was not understood. -/
def patternField (record : QueryRecord) : String :=
  match record.features with
  | some features => toString features.patternCount
  | none => "-"

/-- The fields of the line of a record. -/
def fields (analyzed : Bool) (hash : String) (record : QueryRecord) : List String :=
  let text := escape (record.text.getD "")
  if analyzed then [hash, patternField record, text] else [hash, text]

/-- The line of a record. -/
def line (analyzed : Bool) (hash : String) (record : QueryRecord) : String :=
  "\t".intercalate (fields analyzed hash record) ++ "\n"

/-- The lines of all records, in the order of the hashes. -/
def lines (analyzed : Bool) (store : RecordStore) : List String :=
  store.records.entries.map fun (hash, record) => line analyzed hash record

end QueryTable

/-- All records of a store as a text. -/
def RecordStore.table (store : RecordStore) (analyzed : Bool) : String :=
  String.join (QueryTable.lines analyzed store)

end LinkedQueries
