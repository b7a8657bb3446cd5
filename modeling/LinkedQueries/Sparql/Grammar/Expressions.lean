import LinkedQueries.Sparql.Grammar.Lexical

/-!
# Expressions

The rules of expressions. They contain each other and, by way of `EXISTS`, the rules of groups, so
they are given over the rules for what stands in brackets and braces.

An aggregate is noted for the selection in which it stands, and a fresh variable takes its place.
-/

namespace LinkedQueries.Sparql.Grammar

open Rule

/-- The rules for what stands in brackets and braces. -/
structure InnerRules where
  expression : Rule Expression
  group : Rule GraphPattern

/-! ## Functions -/

/-- A function of the language. -/
structure BuiltIn where
  /-- Its keyword in capital letters. -/
  keyword : String
  /-- Its name as it is written. -/
  name : String
  /-- Whether blanks may stand before its arguments. -/
  isSpaced : Bool
  /-- The numbers of arguments that it can have, in the order in which they are tried. Each reads
  the arguments anew. -/
  counts : List Nat

/-- The functions with a fixed number of arguments or one of several. -/
def functions : List BuiltIn :=
  let named (isSpaced : Bool) (count : Nat) (keyword : String) : BuiltIn :=
    ⟨keyword, keyword, isSpaced, [count]⟩
  ["STR", "LANG", "DATATYPE", "IRI", "ABS", "CEIL", "FLOOR", "ROUND", "STRLEN", "UCASE", "LCASE",
    "YEAR", "MONTH", "DAY", "HOURS", "MINUTES", "SECONDS", "TIMEZONE", "TZ"].map (named true 1) ++
  ["ENCODE_FOR_URI", "MD5", "SHA1", "SHA256", "SHA384", "SHA512", "SUBJECT", "PREDICATE",
    "OBJECT"].map (named false 1) ++
  ["LANGMATCHES", "CONTAINS", "STRSTARTS", "STRENDS", "STRBEFORE", "STRAFTER", "STRLANG",
    "STRDT"].map (named true 2) ++
  ["RAND", "NOW", "UUID", "STRUUID"].map (named true 0) ++
  [named true 3 "IF", named false 2 "SAMETERM", named false 3 "TRIPLE",
    ⟨"URI", "IRI", true, [1]⟩, ⟨"ISIRI", "isIRI", true, [1]⟩, ⟨"ISURI", "isIRI", true, [1]⟩,
    ⟨"ISBLANK", "isBLANK", false, [1]⟩, ⟨"ISLITERAL", "isLITERAL", false, [1]⟩,
    ⟨"ISNUMERIC", "isNUMERIC", false, [1]⟩, ⟨"ISTRIPLE", "isTRIPLE", false, [1]⟩,
    ⟨"SUBSTR", "SUBSTR", true, [3, 2]⟩, ⟨"REPLACE", "REPLACE", true, [4, 3]⟩,
    ⟨"REGEX", "REGEX", true, [3, 2]⟩, ⟨"BNODE", "BNODE", false, [1, 0]⟩]

/-- A word of letters, digits and underscores, in capital letters. -/
def word : Rule String := do
  let cs ← oneOrMore (char fun c => c.isAlphanum || c == '_')
  return String.ofList (cs.map Char.toUpper)

/-- Arguments in brackets. -/
def arguments (inner : InnerRules) : Rule (List Expression) :=
  (symbol "(" *> separated inner.expression (symbol ",") <* symbol ")") <|>
  (emptyPair "(" ")" *> pure [])

/-- So many arguments in brackets. -/
def argumentsOf (inner : InnerRules) : Nat → Rule (List Expression)
  | 0 => emptyPair "(" ")" *> pure []
  | count + 1 => do
    symbol "("
    let first ← inner.expression
    let rest ← (List.replicate count (symbol "," *> inner.expression)).mapM id
    symbol ")"
    return first :: rest

/-- An expression in brackets. -/
def bracketed (inner : InnerRules) : Rule Expression :=
  symbol "(" *> inner.expression <* symbol ")"

/-- What a call of a function of the language is. -/
def BuiltIn.call (f : BuiltIn) (args : List Expression) : Expression :=
  match f.keyword, args with
  | "IF", [condition, yes, no] => .conditional condition yes no
  | "SAMETERM", [left, right] => .binary .sameTerm left right
  | _, args => .call (.builtIn f.name) args

/-- A call of a function of the language. -/
def builtInCall (inner : InnerRules) : Rule Expression := do
  match ← word with
  | "COALESCE" => .coalesce <$> arguments inner
  | "CONCAT" => .call (.builtIn "CONCAT") <$> arguments inner
  | keyword =>
    let f ← ofOption (functions.find? (·.keyword == keyword))
    if f.isSpaced then
      let _ ← spaces
    f.call <$> f.counts.foldr (fun count others => argumentsOf inner count <|> others) failure

/-- A call of a function that is named by an IRI. -/
def namedCall (inner : InnerRules) : Rule Expression := do
  let name ← iri
  return .call (.custom name) (← arguments inner)

/-! ## Aggregates -/

/-- Notes an aggregate; a variable stands for it. Outside a selection there are none. -/
def aggregated (a : Aggregate) : Rule Expression := do
  match (← context).aggregates with
  | [] => failure
  | found :: outer =>
    let name ← fresh
    note fun c => { c with aggregates := (found ++ [(name, a)]) :: outer }
    return .variable name

/-- The aggregates with a plain argument. -/
def aggregateName? : String → Option AggregateName
  | "COUNT" => some .count
  | "SUM" => some .sum
  | "MIN" => some .min
  | "MAX" => some .max
  | "AVG" => some .avg
  | "SAMPLE" => some .sample
  | _ => none

/-- What stands in the brackets of an aggregate: an argument, perhaps only its distinct values. -/
def aggregateArgument (argument : Bool → Rule Aggregate) : Rule Aggregate :=
  (symbol "(" *> keyword "DISTINCT" *> argument true <* symbol ")") <|>
  (symbol "(" *> argument false <* symbol ")")

/-- The separator of joined texts. -/
def separator : Rule String :=
  symbol ";" *> keyword "SEPARATOR" *> symbol "=" *> string

/-- The values of a group, joined. The argument is read with a separator behind it, then anew. -/
def joinedValues (inner : InnerRules) : Rule Aggregate :=
  let argument (text : Rule (Option String)) (distinct : Bool) : Rule Aggregate := do
    symbol "("
    if distinct then keyword "DISTINCT"
    let e ← inner.expression
    let text ← text
    symbol ")"
    return .values (.groupConcat text) e distinct
  argument (some <$> separator) true <|> argument (pure none) true <|>
    argument (some <$> separator) false <|> argument (pure none) false

/-- An aggregate. -/
def aggregate (inner : InnerRules) : Rule Aggregate :=
  (do
    let keyword ← lexeme word
    if keyword == "GROUP_CONCAT" then joinedValues inner
    else
      let name ← ofOption (aggregateName? keyword)
      aggregateArgument fun distinct =>
        (do
          require (name == .count)
          symbol "*"
          return .solutions distinct) <|>
        (return .values name (← inner.expression) distinct)) <|>
  (do
    let name ← iri
    let e ← symbol "(" *> keyword "DISTINCT" *> inner.expression <* symbol ")"
    return .values (.custom name) e true)

/-- A test whether a group has solutions. -/
def existence (inner : InnerRules) : Rule Expression :=
  (keyword "EXISTS" *> (.exist <$> inner.group)) <|>
  (keyword "NOT" *> keyword "EXISTS" *> ((fun p => .unary .not (.exist p)) <$> inner.group))

/-- A test whether a variable is bound. -/
def boundness : Rule Expression :=
  .bound <$> (keyword "BOUND" *> symbol "(" *> varName <* symbol ")")

/-- A call of the language: an aggregate, a function or a test. -/
def languageCall (inner : InnerRules) : Rule Expression :=
  (aggregate inner >>= aggregated) <|> builtInCall inner <|> boundness <|> existence inner

/-! ## Operators -/

/-- The name of a quoted triple's predicate as an expression. -/
def nameExpression : NamePattern → Expression
  | .iri i => .iri i
  | .variable name => .variable name

/-- A quoted triple over expressions, nested up to a depth. -/
def quotedExpression : Nat → Rule Expression
  | 0 => failure
  | depth + 1 => fun cs c => (do
      let term : Rule Expression :=
        quotedExpression depth <|> .iri <$> iri <|> .literal <$> literal <|> .variable <$> varName
      symbol "<<"
      let subject ← term
      let predicate ← verbName
      let object ← term
      symbol ">>"
      return Expression.call (.builtIn "TRIPLE") [subject, nameExpression predicate, object]
      : Rule Expression) cs c

/-- An expression without operators. -/
def primary (inner : InnerRules) : Rule Expression :=
  bracketed inner <|> nested quotedExpression <|>
  (do
    let name ← iri
    match ← optional (arguments inner) with
    | some args => return .call (.custom name) args
    | none => return .iri name) <|>
  .variable <$> varName <|> .literal <$> literal <|> languageCall inner

/-- An expression with a sign. -/
def signed (inner : InnerRules) : Rule Expression := do
  let sign ← optional ((symbol "!" *> pure SignOperator.not) <|> (symbol "+" *> pure .plus) <|>
    (symbol "-" *> pure .minus))
  let e ← primary inner
  return match sign with
    | some operator => .unary operator e
    | none => e

/-- Expressions with operators of one rank between, taken together from the left. -/
def leftward (operand : Rule Expression) (operators : List (String × Operator)) :
    Rule Expression := do
  let operator := operators.foldr (fun (text, o) r => (symbol text *> pure o) <|> r) failure
  let first ← operand
  let rest ← many (return (← operator, ← operand))
  return rest.foldl (fun e (o, e') => .binary o e e') first

/-- A sum of products. -/
def numeric (inner : InnerRules) : Rule Expression :=
  leftward (leftward (signed inner) [("*", .multiply), ("/", .divide)])
    [("+", .add), ("-", .subtract)]

/-- What may stand behind the left side of a comparison. -/
def comparison (inner : InnerRules) : Rule (Expression → Expression) :=
  let against (text : String) (f : Expression → Expression → Expression) :
      Rule (Expression → Expression) := do
    symbol text
    let right ← numeric inner
    return fun left => f left right
  against "=" (.binary .equal) <|>
  against "!=" (fun left right => .unary .not (.binary .equal left right)) <|>
  against ">=" (.binary .greaterOrEqual) <|> against ">" (.binary .greater) <|>
  against "<=" (.binary .lessOrEqual) <|> against "<" (.binary .less) <|>
  (do
    let list ← keyword "IN" *> arguments inner
    return fun e => .isIn e list) <|>
  (do
    let list ← keyword "NOT" *> keyword "IN" *> arguments inner
    return fun e => .unary .not (.isIn e list))

/-- A comparison or one side of it. -/
def relational (inner : InnerRules) : Rule Expression := do
  let left ← numeric inner
  match ← optional (comparison inner) with
  | some f => return f left
  | none => return left

/-- An expression over the rules for what stands in brackets. -/
def expressionOver (inner : InnerRules) : Rule Expression :=
  leftward (leftward (relational inner) [("&&", .and)]) [("||", .or)]

/-- A condition: an expression in brackets, or a call. -/
def condition (inner : InnerRules) : Rule Expression :=
  bracketed inner <|> namedCall inner <|> languageCall inner

/-- Conditions that follow each other with no blanks between. -/
def conditions (inner : InnerRules) : Rule (List Expression) := do
  let found ← oneOrMore (measured (condition inner))
  require (found.dropLast.all fun (_, text) => !text.getLast?.any isSpace)
  return found.map (·.1)

end LinkedQueries.Sparql.Grammar
