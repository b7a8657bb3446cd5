import LinkedQueries.Iri.Grammar

/-!
# Resolving references

An IRI reference against a base: the reference is split into its five components, and those it lacks
are taken from the base. The dot segments of a relative path are followed from the path of the base;
those of the base itself and of a reference that brings its own authority stay as they are.
-/

namespace LinkedQueries.Iri

/-- The five components of a reference; an absent component differs from an empty one. -/
structure Components where
  scheme : Option (List Char)
  authority : Option (List Char)
  path : List Char
  query : Option (List Char)
  fragment : Option (List Char)

namespace Components

/-- The components of a well-formed reference. -/
def ofReference (cs : List Char) : Components :=
  let scheme := scheme? cs
  let afterScheme := (scheme.map (·.2)).getD cs
  let hierarchical := afterScheme.takeWhile fun c => c != '?' && c != '#'
  let tail := afterScheme.dropWhile fun c => c != '?' && c != '#'
  let (authority, path) :=
    match hierarchical with
    | '/' :: '/' :: rest => (some (rest.takeWhile (· != '/')), rest.dropWhile (· != '/'))
    | cs => (none, cs)
  let query :=
    match tail with
    | '?' :: rest => some (rest.takeWhile (· != '#'))
    | _ => none
  let fragment :=
    match tail.dropWhile (· != '#') with
    | '#' :: rest => some rest
    | _ => none
  { scheme := scheme.map (·.1), authority, path, query, fragment }

/-- The reference that the components make up. -/
def toReference (c : Components) : List Char :=
  (c.scheme.map (· ++ [':'])).getD [] ++ (c.authority.map (['/', '/'] ++ ·)).getD [] ++ c.path ++
    (c.query.map ('?' :: ·)).getD [] ++ (c.fragment.map ('#' :: ·)).getD []

end Components

/-! ## Paths -/

/-- A path, written from right to left, without its last segment; only below an authority a slash
remains if nothing else does. -/
def withoutLast (rooted : Bool) (path : List Char) : List Char :=
  match (path.drop 1).dropWhile (· != '/') with
  | [] => if rooted then ['/'] else []
  | kept => kept

/-- A path, written from right to left, with further segments: `.` is dropped, and `..` takes the
segment before it along. -/
def walk (rooted : Bool) (path : List Char) : List (List Char) → List Char
  | [] => path
  | ['.'] :: rest => walk rooted path rest
  | ['.', '.'] :: rest => walk rooted (withoutLast rooted path) rest
  | [last] => last.reverse ++ path
  | segment :: rest => walk rooted ('/' :: segment.reverse ++ path) rest

/-- The path of a relative reference, taken from the last slash of the base path on, or from the
root if it begins with a slash. The base path itself stays as it is. -/
def pathAgainst (rooted : Bool) (base path : List Char) : List Char :=
  let start := base.reverse.dropWhile (· != '/')
  (match path with
    | '/' :: rest => walk rooted ['/'] (splitAt '/' rest)
    | path =>
      walk rooted (if rooted && start.isEmpty then ['/'] else start) (splitAt '/' path)).reverse

/-! ## References -/

/-- The components of a reference, completed by those of the base. A path that is not completed
stays as it is. -/
def Components.against (base r : Components) : Except IriError Components :=
  if r.scheme.isSome then .ok r
  else if r.authority.isSome then .ok { r with scheme := base.scheme }
  else if r.path.isEmpty then
    .ok { base with query := r.query <|> base.query, fragment := r.fragment }
  else
    let path := pathAgainst base.authority.isSome base.path r.path
    if base.authority.isNone && path.take 2 == ['/', '/'] then .error .doubleSlashPath
    else .ok { r with scheme := base.scheme, authority := base.authority, path }

/-- The IRI that a reference denotes under a base. -/
def resolve (base : List Char) (reference : List Char) : Except IriError (List Char) := do
  checkReference reference
  let c ← (Components.ofReference base).against (Components.ofReference reference)
  return c.toReference

/-- The IRI that a reference denotes: under a base if there is one, else it has to be absolute. -/
def ofReference (base : Option String) (reference : List Char) : Except IriError String :=
  match base with
  | some b => (resolve b.toList reference).map String.ofList
  | none => (checkAbsolute reference).map fun _ => String.ofList reference

end LinkedQueries.Iri
