import LinkedQueries.Rdf.Pattern

/-!
# The algebra of queries

Graph patterns, expressions and property paths as they come out of a query text, and the four forms
of queries over them.
-/

namespace LinkedQueries.Sparql

/-- A property path. -/
inductive Path where
  | iri (value : String)
  | inverse (path : Path)
  | sequence (left right : Path)
  | alternative (left right : Path)
  | zeroOrMore (path : Path)
  | oneOrMore (path : Path)
  | zeroOrOne (path : Path)
  | negated (iris : List String)
  deriving Repr

/-- A function that expressions call: one of the language or one named by an IRI. -/
inductive FunctionName where
  | builtIn (name : String)
  | custom (iri : String)
  deriving DecidableEq, Repr

/-- The ways to aggregate the values of a group. -/
inductive AggregateName where
  | count
  | sum
  | min
  | max
  | avg
  | sample
  | groupConcat (separator : Option String)
  | custom (iri : String)
  deriving DecidableEq, Repr

/-- A term of inline data. -/
inductive GroundTerm where
  | iri (value : String)
  | literal (value : Literal)
  | triple (subject : GroundTerm) (predicate : String) (object : GroundTerm)
  deriving DecidableEq, Repr

/-- The binary operators of expressions. -/
inductive Operator where
  | or
  | and
  | equal
  | sameTerm
  | greater
  | greaterOrEqual
  | less
  | lessOrEqual
  | add
  | subtract
  | multiply
  | divide
  deriving DecidableEq, Repr

/-- The unary operators of expressions. -/
inductive SignOperator where
  | plus
  | minus
  | not
  deriving DecidableEq, Repr

/-- The direction in which solutions are ordered. -/
inductive SortOrder where
  | ascending
  | descending
  deriving DecidableEq, Repr

mutual

/-- An expression. -/
inductive Expression where
  | iri (value : String)
  | literal (value : Literal)
  | variable (name : String)
  | binary (operator : Operator) (left right : Expression)
  | unary (operator : SignOperator) (operand : Expression)
  | isIn (value : Expression) (list : List Expression)
  | exist (pattern : GraphPattern)
  | bound (name : String)
  | conditional (condition yes no : Expression)
  | coalesce (list : List Expression)
  | call (function : FunctionName) (arguments : List Expression)

/-- A graph pattern. -/
inductive GraphPattern where
  | bgp (patterns : List TriplePattern)
  | path (subject : TermPattern) (path : Path) (object : TermPattern)
  | join (left right : GraphPattern)
  | leftJoin (left right : GraphPattern) (condition : Option Expression)
  | filter (condition : Expression) (inner : GraphPattern)
  | union (left right : GraphPattern)
  | graph (name : NamePattern) (inner : GraphPattern)
  | extend (inner : GraphPattern) (name : String) (value : Expression)
  | minus (left right : GraphPattern)
  | values (names : List String) (rows : List (List (Option GroundTerm)))
  | orderBy (inner : GraphPattern) (keys : List (SortOrder × Expression))
  | project (inner : GraphPattern) (names : List String)
  | distinct (inner : GraphPattern)
  | reduced (inner : GraphPattern)
  | slice (inner : GraphPattern) (start : Nat) (length : Option Nat)
  | group (inner : GraphPattern) (names : List String) (aggregates : List (String × Aggregate))
  | service (name : NamePattern) (inner : GraphPattern) (silent : Bool)

/-- An aggregate over the solutions of a group; without an expression it counts the solutions. -/
inductive Aggregate where
  | solutions (distinct : Bool)
  | values (name : AggregateName) (expression : Expression) (distinct : Bool)

end

instance : Inhabited GraphPattern := ⟨.bgp []⟩
instance : Inhabited Expression := ⟨.literal (.simple "")⟩

/-- The graphs that a query is about, if it names them. -/
structure DatasetClause where
  defaults : List String
  named : List String
  deriving DecidableEq, Repr

/-- The four forms of a query. -/
inductive QueryForm where
  | select
  | construct (template : List TriplePattern)
  | describe
  | ask

/-- A query. -/
structure Query where
  form : QueryForm
  dataset : Option DatasetClause
  pattern : GraphPattern
  base : Option String

end LinkedQueries.Sparql
