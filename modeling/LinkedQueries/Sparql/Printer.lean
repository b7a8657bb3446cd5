import LinkedQueries.Rdf.Pattern
import LinkedQueries.Sparql.Algebra

/-!
# The text of queries

Every query has one text, which depends on its algebra only: full IRIs, one space between words, and
brackets around logical operations and comparisons, but not around arithmetic. `Query.text` writes
it; the triples of a basic graph pattern follow each other without a space.

A pattern with solution modifiers is written as a selection, which stands in braces unless it is the
whole query.
-/

namespace LinkedQueries.Sparql

/-! ## Pieces of text -/

/-- Texts with a separator between. -/
def commaSeparated (separator : String) (texts : List (List Char)) : List Char :=
  (texts.intersperse separator.toList).flatten

/-- A text in braces. -/
def braced (text : List Char) : List Char :=
  "\x7b ".toList ++ text ++ " \x7d".toList

/-- The text of a variable. -/
def variableText (name : String) : List Char := '?' :: name.toList

/-- Texts, each behind a space. -/
def spaced (texts : List (List Char)) : List Char :=
  texts.flatMap fun t => ' ' :: t

/-- The text of a path. -/
def Path.text : Path → List Char
  | .iri i => bracketed i
  | .inverse p => "^(".toList ++ p.text ++ [')']
  | .sequence p q => '(' :: p.text ++ " / ".toList ++ q.text ++ [')']
  | .alternative p q => '(' :: p.text ++ " | ".toList ++ q.text ++ [')']
  | .zeroOrMore p => '(' :: p.text ++ ")*".toList
  | .oneOrMore p => '(' :: p.text ++ ")+".toList
  | .zeroOrOne p => '(' :: p.text ++ ")?".toList
  | .negated iris => "!(".toList ++ commaSeparated " | " (iris.map bracketed) ++ [')']

/-- The text of a term of inline data. -/
def GroundTerm.text : GroundTerm → List Char
  | .iri i => bracketed i
  | .literal l => l.chars
  | .triple s p o =>
    "<<".toList ++ s.text ++ ' ' :: bracketed p ++ ' ' :: o.text ++ ">>".toList

/-- The text of a function. -/
def FunctionName.text : FunctionName → List Char
  | .builtIn name => name.toList
  | .custom i => bracketed i

/-- The text of an aggregate. -/
def AggregateName.text : AggregateName → List Char
  | .count => "COUNT".toList
  | .sum => "SUM".toList
  | .min => "MIN".toList
  | .max => "MAX".toList
  | .avg => "AVG".toList
  | .sample => "SAMPLE".toList
  | .groupConcat _ => "GROUP_CONCAT".toList
  | .custom i => bracketed i

/-- What an aggregate has behind its argument. -/
def AggregateName.suffix : AggregateName → List Char
  | .groupConcat (some separator) => "; SEPARATOR = ".toList ++ quotedChars separator
  | _ => []

/-- The sign of a binary operator; equality of terms is written as a call. -/
def Operator.sign : Operator → String
  | .or => "||"
  | .and => "&&"
  | .equal => "="
  | .sameTerm => ","
  | .greater => ">"
  | .greaterOrEqual => ">="
  | .less => "<"
  | .lessOrEqual => "<="
  | .add => "+"
  | .subtract => "-"
  | .multiply => "*"
  | .divide => "/"

/-- Two operands with the sign of their operator between. -/
def Operator.between (o : Operator) (left right : List Char) : List Char :=
  left ++ ' ' :: o.sign.toList ++ ' ' :: right

/-- The text of a binary operation. -/
def Operator.text (o : Operator) (left right : List Char) : List Char :=
  match o with
  | .sameTerm => "sameTerm(".toList ++ left ++ ", ".toList ++ right ++ [')']
  | .add | .subtract | .multiply | .divide => o.between left right
  | o => '(' :: o.between left right ++ [')']

/-- The text of a unary operation. -/
def SignOperator.text (o : SignOperator) (operand : List Char) : List Char :=
  match o with
  | .plus => '+' :: operand
  | .minus => '-' :: operand
  | .not => '!' :: operand

/-- The text of inline data. -/
def valuesText (names : List String) (rows : List (List (Option GroundTerm))) : List Char :=
  let value (v : Option GroundTerm) : List Char :=
    ((v.map GroundTerm.text).getD "UNDEF".toList) ++ [' ']
  let row (r : List (Option GroundTerm)) : List Char :=
    "( ".toList ++ r.flatMap value ++ ") ".toList
  "VALUES ( ".toList ++ names.flatMap (fun v => variableText v ++ [' ']) ++ ") \x7b ".toList ++
    rows.flatMap row ++ " \x7d".toList

/-- The text of the graphs that a query is about. -/
def DatasetClause.text (d : DatasetClause) : List Char :=
  d.defaults.flatMap (fun i => " FROM ".toList ++ bracketed i) ++
    d.named.flatMap (fun i => " FROM NAMED ".toList ++ bracketed i)

/-! ## Selections -/

/-- The modifiers that stand around a pattern, as far as they have been read from outside. -/
structure Frame where
  dataset : List Char := []
  distinct : Bool := false
  reduced : Bool := false
  columns : List String := []
  order : Option (List Char) := none
  start : Nat := 0
  length : Option Nat := none

/-- The text of a selection with its pattern. -/
def Frame.text (f : Frame) (pattern : List Char) : List Char :=
  "SELECT".toList ++ (if f.distinct then " DISTINCT".toList else []) ++
    (if f.reduced then " REDUCED".toList else []) ++
    (if f.columns.isEmpty then " *".toList else spaced (f.columns.map variableText)) ++
    (if f.dataset.isEmpty then [] else ' ' :: f.dataset) ++ " WHERE ".toList ++ braced pattern ++
    (match f.order with
      | some keys => " ORDER BY".toList ++ keys
      | none => []) ++
    (if f.start > 0 then " OFFSET ".toList ++ (toString f.start).toList else []) ++
    (match f.length with
      | some n => " LIMIT ".toList ++ (toString n).toList
      | none => [])

/-- The text of a pattern without modifiers of its own, within those around it if there are any. -/
def framed (frame : Option Frame) (pattern : List Char) : List Char :=
  match frame with
  | some f => f.text pattern
  | none => pattern

/-- The text of a pattern with a modifier, given within some frame; without a frame around it, it
is a selection in braces. -/
def enframed (frame : Option Frame) (change : Frame → Frame) (text : Frame → List Char) :
    List Char :=
  match frame with
  | some f => text (change f)
  | none => braced (text (change {}))

/-- Whether a pattern, behind another one, would be read as a part of it. -/
def GraphPattern.isModification : GraphPattern → Bool
  | .leftJoin .. | .minus .. | .extend .. | .filter .. => true
  | _ => false

mutual

/-- The text of an expression. -/
def Expression.text : Expression → List Char
  | .iri i => bracketed i
  | .literal l => l.chars
  | .variable name => variableText name
  | .binary o left right => o.text left.text right.text
  | .unary .not (.exist p) => "NOT EXISTS ".toList ++ braced (p.textIn none)
  | .unary o e => o.text e.text
  | .isIn e es => '(' :: e.text ++ " IN ".toList ++ Expression.listText es ++ [')']
  | .exist p => "EXISTS ".toList ++ braced (p.textIn none)
  | .bound name => "BOUND(".toList ++ variableText name ++ [')']
  | .conditional condition yes no =>
    "IF(".toList ++ condition.text ++ ", ".toList ++ yes.text ++ ", ".toList ++ no.text ++ [')']
  | .coalesce es => "COALESCE".toList ++ Expression.listText es
  | .call function es => function.text ++ Expression.listText es

/-- The text of arguments. -/
def Expression.listText : List Expression → List Char
  | [] => "()".toList
  | e :: es => '(' :: e.text ++ Expression.moreText es

/-- The text of further arguments. -/
def Expression.moreText : List Expression → List Char
  | [] => [')']
  | e :: es => ", ".toList ++ e.text ++ Expression.moreText es

/-- The text of criteria for an order. -/
def GraphPattern.orderText : List (SortOrder × Expression) → List Char
  | [] => []
  | (.ascending, e) :: keys => " ASC(".toList ++ e.text ++ ')' :: GraphPattern.orderText keys
  | (.descending, e) :: keys => " DESC(".toList ++ e.text ++ ')' :: GraphPattern.orderText keys

/-- The text of an aggregate. -/
def Aggregate.text : Aggregate → List Char
  | .solutions distinct => (if distinct then "COUNT(DISTINCT *)" else "COUNT(*)").toList
  | .values name e distinct =>
    name.text ++ (if distinct then "(DISTINCT " else "(").toList ++ e.text ++ name.suffix ++ [')']

/-- The text of the aggregates of a group with their variables. -/
def Aggregate.listText : List (String × Aggregate) → List Char
  | [] => []
  | (name, a) :: rest =>
    " (".toList ++ a.text ++ " AS ".toList ++ variableText name ++ ')' :: Aggregate.listText rest

/-- The text of a pattern within the modifiers around it, if there are any. -/
def GraphPattern.textIn (frame : Option Frame) : GraphPattern → List Char
  | .bgp patterns => framed frame (patterns.flatMap fun t => t.text.toList ++ " .".toList)
  | .path subject path object =>
    framed frame (subject.chars ++ ' ' :: path.text ++ ' ' :: object.chars ++ " .".toList)
  | .join left right =>
    let right' := right.textIn none
    framed frame (left.textIn none ++ ' ' ::
      (if right.isModification then braced right' else right'))
  | .leftJoin left right condition =>
    let condition := match condition with
      | some e => " FILTER(".toList ++ e.text ++ [')']
      | none => []
    let inner := braced (right.textIn none ++ condition)
    framed frame (left.textIn none ++ " OPTIONAL ".toList ++ inner)
  | .filter e inner => framed frame (inner.textIn none ++ " FILTER(".toList ++ e.text ++ [')'])
  | .union left right =>
    framed frame (braced (left.textIn none) ++ " UNION ".toList ++ braced (right.textIn none))
  | .graph name inner =>
    framed frame ("GRAPH ".toList ++ name.chars ++ ' ' :: braced (inner.textIn none))
  | .extend inner name e =>
    framed frame (inner.textIn none ++ " BIND(".toList ++ e.text ++ " AS ".toList ++
      variableText name ++ [')'])
  | .minus left right =>
    framed frame (left.textIn none ++ " MINUS ".toList ++ braced (right.textIn none))
  | .values names rows => framed frame (valuesText names rows)
  | .service name inner silent =>
    framed frame ("SERVICE ".toList ++ (if silent then "SILENT ".toList else []) ++ name.chars ++
      ' ' :: braced (inner.textIn none))
  | .group inner names aggregates =>
    framed frame ("\x7bSELECT".toList ++ Aggregate.listText aggregates ++
      spaced (names.map variableText) ++ " WHERE ".toList ++ braced (inner.textIn none) ++
      (if names.isEmpty then [] else " GROUP BY".toList ++ spaced (names.map variableText)) ++
      "\x7d".toList)
  | .orderBy inner keys =>
    let order := GraphPattern.orderText keys
    enframed frame (fun f => { f with order := some order }) fun f => inner.textIn (some f)
  | .project inner names =>
    match frame with
    | some f =>
      if f.columns.isEmpty then inner.textIn (some { f with columns := names })
      else f.text (braced (inner.textIn (some { columns := names })))
    | none => braced (inner.textIn (some { columns := names }))
  | .distinct inner =>
    enframed frame (fun f => { f with distinct := true }) fun f => inner.textIn (some f)
  | .reduced inner =>
    enframed frame (fun f => { f with reduced := true }) fun f => inner.textIn (some f)
  | .slice inner start length =>
    enframed frame (fun f => { f with start, length }) fun f => inner.textIn (some f)

end

/-! ## Queries -/

/-- The text of a query. -/
def Query.text (q : Query) : String :=
  let dataset := (q.dataset.map DatasetClause.text).getD []
  let base := match q.base with
    | some iri => "BASE ".toList ++ bracketed iri ++ ['\n']
    | none => []
  let pattern (dataset : List Char) : List Char := q.pattern.textIn (some { dataset })
  String.ofList (base ++ match q.form with
    | .select => pattern dataset
    | .construct template =>
      "CONSTRUCT \x7b ".toList ++ template.flatMap (fun t => t.text.toList ++ " . ".toList) ++
        '\x7d' :: dataset ++ " WHERE ".toList ++ braced (pattern [])
    | .describe => "DESCRIBE *".toList ++ dataset ++ " WHERE ".toList ++ braced (pattern [])
    | .ask => "ASK".toList ++ dataset ++ " WHERE ".toList ++ braced (pattern []))

end LinkedQueries.Sparql
