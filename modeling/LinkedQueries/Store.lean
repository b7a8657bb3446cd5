import LinkedQueries.Record

/-!
# The record store

Query records under their hashes. Merging a record adds to the one that is stored under its hash,
or stores it if there is none; nothing is ever removed. `contains` and `merge` are the two
operations that those who share a store take one after the other.
-/

namespace LinkedQueries

/-- Query records under their hashes. -/
structure RecordStore where
  records : Keyed QueryRecord

/-- Why a record is not stored. -/
inductive StoreError where
  | mismatch (error : HashMismatch)
  | missingHash
  deriving DecidableEq, Repr

/-- The wording of an error. -/
def StoreError.message : StoreError → String
  | .mismatch e => "Cannot merge record " ++ e.found ++ " into record " ++ e.expected
  | .missingHash => "The query record has no hash"

namespace RecordStore

/-- The store without records. -/
def empty : RecordStore := ⟨Keyed.empty⟩

/-- Whether there is a record with a hash. -/
def contains (s : RecordStore) (hash : String) : Bool :=
  s.records.contains hash

/-- The record with a hash. -/
def get? (s : RecordStore) (hash : String) : Option QueryRecord :=
  s.records.find? hash

/-- The hashes, ascending. -/
def hashes (s : RecordStore) : List String :=
  s.records.keys

/-- The number of records. -/
def size (s : RecordStore) : Nat :=
  s.records.size

/-- What a stored record, if any, becomes when a record is merged into it. -/
def merged (known : Option QueryRecord) (r : QueryRecord) : Except HashMismatch QueryRecord :=
  match known with
  | some k => k.merge r
  | none => .ok r

/-- Merges a record into the one with its hash, or stores it. -/
def merge (s : RecordStore) (r : QueryRecord) : Except StoreError RecordStore :=
  match r.hash with
  | none => .error .missingHash
  | some hash =>
    match merged (s.get? hash) r with
    | .error e => .error (.mismatch e)
    | .ok r => .ok ⟨s.records.alter hash fun _ => r⟩

end RecordStore

end LinkedQueries
