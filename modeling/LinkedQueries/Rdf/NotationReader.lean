import LinkedQueries.Rdf.FreshLabel
import LinkedQueries.Rdf.Pattern
import LinkedQueries.Rdf.Reading
import LinkedQueries.Rdf.Terse

/-!
# Reading N3

N3 has terms everywhere: a subject, a predicate and an object may each be a path, a list, an
anonymous node or a formula. A formula is a blank node that names the graph of the statements in
it.

A stack of steps says what has to come next; a step that does not want a token leaves it to the
next one. A token that does not fit is one malformed place: what was begun is given up, and tokens
are skipped up to the next dot. Statements that cannot stand in an RDF dataset, since their
subject is a literal, their predicate no IRI, or one of their terms a variable, are malformed,
too.
-/

namespace LinkedQueries.Rdf.NotationReader

/-! ## States -/

/-- What has to come next. -/
inductive Step where
  | document
  | dot
  | baseIri
  | prefixName
  | prefixIri (name : String)
  | triples
  | afterSubject
  | subjectEnd
  | predicates
  | predicatesEnd
  | predicatesContinued
  | objects
  | objectsEnd
  | verb
  | verbEnd
  | reversedVerbEnd
  | verbOf
  | path
  | pathContinued
  | pathEnd (isReversed : Bool)
  | item
  | properties
  | propertiesEnd
  | propertiesOf
  | list
  | listContinued
  | afterText (value : String)
  | datatype (value : String)
  | formula
  | formulaDot
  deriving DecidableEq

/-- A predicate; if it is reversed, subject and object change places. -/
structure Verb where
  term : TermPattern
  isReversed : Bool

/-- The steps to come, the next one first, with the terms, the verbs and the formulas that are read,
the latest first. Without steps the text is skipped. -/
structure State where
  steps : List Step
  terms : List TermPattern
  verbs : List Verb
  /-- The labels of the formulas that are open. -/
  formulas : List String
  base : Option String
  prefixes : Prefixes
  /-- The number of the text for its fresh labels, and the next of them. -/
  text : Nat
  fresh : Nat

namespace State

/-- At the beginning of a text. -/
def start (base : Option String) (text : Nat) : State where
  steps := [.document]
  terms := []
  verbs := []
  formulas := []
  base
  prefixes := []
  text
  fresh := 0

/-- The text is skipped, and nothing of what was begun is kept. -/
def skipping (s : State) : State :=
  { s with steps := [], terms := [], verbs := [], formulas := [] }

/-- Puts steps before those to come. -/
def push (s : State) (steps : List Step) : State := { s with steps := steps ++ s.steps }

/-- Adds a term. -/
def pushTerm (s : State) (t : TermPattern) : State := { s with terms := t :: s.terms }

/-- Takes off a term. -/
def popTerm (s : State) : State := { s with terms := s.terms.drop 1 }

/-- Adds a verb. -/
def pushVerb (s : State) (term : TermPattern) (isReversed : Bool) : State :=
  { s with verbs := ⟨term, isReversed⟩ :: s.verbs }

/-- The latest term becomes a verb. -/
def termToVerb (s : State) (isReversed : Bool) : State :=
  match s.terms with
  | t :: terms => { s with terms }.pushVerb t isReversed
  | [] => s

/-- A fresh label. -/
def freshLabel (s : State) : String × State :=
  (LinkedQueries.freshLabel s.text s.fresh, { s with fresh := s.fresh + 1 })

/-- Opens a formula. -/
def openFormula (s : State) : State :=
  let (label, s) := s.freshLabel
  { s with formulas := label :: s.formulas }

/-- Closes a formula; its blank node becomes a term. -/
def closeFormula (s : State) : State :=
  match s.formulas with
  | label :: formulas => { s with formulas }.pushTerm (.blank label)
  | [] => s

/-- The graph of the statements that are read. -/
def graph (s : State) : GraphName :=
  match s.formulas with
  | label :: _ => .blank label
  | [] => .default

/-- A statement of three terms, unless it cannot stand in a dataset. -/
def statement (s : State) (subject predicate object : TermPattern) : ReadEvent :=
  match node? subject, predicate, node? object <|> literal? object with
  | some subject, .iri predicate, some object => .statement ⟨⟨subject, predicate, object⟩, s.graph⟩
  | _, _, _ => .misfit
where
  /-- The node of a term. -/
  node? : TermPattern → Option Term
    | .iri i => some (.iri i)
    | .blank l => some (.blank l)
    | _ => none
  /-- The literal of a term. -/
  literal? : TermPattern → Option Term
    | .literal l => some (.literal l)
    | _ => none

end State

/-! ## Turns -/

/-- What a step makes of a token: the new state, whether the token is used up, the number of
malformed places, and the statements, the latest first. -/
structure Turn where
  state : State
  isTaken : Bool
  faults : Nat
  statements : List ReadEvent

namespace Turn

/-- The token is used up. -/
def taken (s : State) : Turn := ⟨s, true, 0, []⟩

/-- The token is left to the next step. -/
def left (s : State) : Turn := ⟨s, false, 0, []⟩

/-- The turn with a malformed place. -/
def faulty (t : Turn) : Turn := { t with faults := t.faults + 1 }

/-- The turn behind a statement. -/
def behind (t : Turn) (statement : ReadEvent) : Turn :=
  { t with statements := t.statements ++ [statement] }

/-- The token does not fit: all that was begun is given up, but the formulas stay open. -/
def malformed (s : State) : Turn := (taken { s with steps := [] }).faulty

/-- The turns of one token together. -/
def followedBy (t next : Turn) : Turn :=
  { next with
    faults := t.faults + next.faults
    statements := next.statements ++ t.statements }

/-- The events of a token: malformed places come first, then the statements, the latest first. -/
def events (t : Turn) : List ReadEvent :=
  List.replicate t.faults .misfit ++ t.statements

end Turn

/-! ## Steps -/

/-- A declaration that a token begins; where it is written with an at sign, `after` is the step
behind it. -/
def declaration? (s : State) (token : Token) (after : Step) : Option Turn :=
  if token.isKeyword "base" then some (.taken (s.push [.baseIri]))
  else if token.isKeyword "prefix" then some (.taken (s.push [.prefixName]))
  else if token = .tag "prefix" then some (.taken (s.push [.prefixName, after]))
  else if token = .tag "base" then some (.taken (s.push [.baseIri, after]))
  else none

/-- A term of one token, or what it begins. -/
def atItem (s : State) (token : Token) : Turn :=
  match token with
  | .blank l => .taken (s.pushTerm (.blank l))
  | .variable name => .taken (s.pushTerm (.variable name))
  | .text value => .taken (s.push [.afterText value])
  | .mark "[" => .taken (s.push [.properties])
  | .mark "(" => .taken (s.push [.list])
  | .mark "\x7b" => .taken (s.openFormula.push [.formula])
  | token =>
    match token.iri? s.prefixes, token.bareLiteral? with
    | some i, _ => .taken (s.pushTerm (.iri i))
    | none, some l => .taken (s.pushTerm (.literal l))
    | none, none => .malformed s

/-- A verb of one token, or what it begins. -/
def atVerb (s : State) (token : Token) : Turn :=
  match token with
  | .word "a" => .taken (s.pushVerb (.iri (rdf ++ "type")) false)
  | .word "has" => .taken (s.push [.path, .verbEnd])
  | .word "is" => .taken (s.push [.path, .verbOf])
  | .mark "=" => .taken (s.pushVerb (.iri "http://www.w3.org/2002/07/owl#sameAs") false)
  | .mark "=>" => .taken (s.pushVerb implies false)
  | .mark "<=" => .taken (s.pushVerb implies true)
  | .mark "<-" => .taken (s.push [.path, .reversedVerbEnd])
  | _ => .left (s.push [.path, .verbEnd])
where
  /-- The implication between formulas. -/
  implies : TermPattern := .iri "http://www.w3.org/2000/10/swap/log#implies"

/-- The cell of a list behind the element that has been read. -/
def atListContinued (s : State) (token : Token) : Turn :=
  match s.terms with
  | value :: cell :: terms =>
    let s := { s with terms }
    let first := s.statement cell (.iri (rdf ++ "first")) value
    let rest (next : TermPattern) : ReadEvent := s.statement cell (.iri (rdf ++ "rest")) next
    if token = .mark ")" then ((Turn.taken s).behind (rest (.iri (rdf ++ "nil")))).behind first
    else
      let (label, s) := s.freshLabel
      (((Turn.left ((s.pushTerm (.blank label)).push [.path, .listContinued])).behind
        (rest (.blank label))).behind first)
  | _ => .malformed s

/-- What a step that was taken off the stack makes of a token. -/
def atStep (s : State) (step : Step) (token : Token) : Turn :=
  let isMark (symbol : String) : Bool := token = .mark symbol
  match step with
  | .document =>
    let s := s.push [.document]
    (declaration? s token .dot).getD (.left (s.push [.triples, .dot]))
  | .dot => if isMark "." then .taken s else (Turn.left s).faulty
  | .baseIri =>
    match token with
    | .iri i => .taken { s with base := some i }
    | _ => .malformed s
  | .prefixName =>
    match token with
    | .name space [] _ => .taken (s.push [.prefixIri space])
    | _ => .malformed s
  | .prefixIri name =>
    match token with
    | .iri i => .taken { s with prefixes := (name, i) :: s.prefixes }
    | _ => .malformed s
  | .triples => .left (s.push [.path, .afterSubject])
  | .afterSubject =>
    if isMark "." || isMark "]" || isMark "\x7d" || isMark ")" then .left s
    else .left (s.push [.predicates, .subjectEnd])
  | .subjectEnd => .left s.popTerm
  | .predicates => .left (s.push [.verb, .objects, .predicatesEnd])
  | .predicatesEnd =>
    let s := { s with verbs := s.verbs.drop 1 }
    if isMark ";" then .taken (s.push [.predicatesContinued]) else .left s
  | .predicatesContinued =>
    if isMark ";" then .taken (s.push [.predicatesContinued])
    else if isMark "." || isMark "]" || isMark "\x7d" || isMark ")" then .left s
    else .left (s.push [.verb, .objects, .predicatesEnd])
  | .objects => .left (s.push [.path, .objectsEnd])
  | .objectsEnd =>
    match s.terms, s.verbs with
    | object :: subject :: terms, verb :: _ =>
      let s := { s with terms := subject :: terms }
      let said :=
        if verb.isReversed then s.statement object verb.term subject
        else s.statement subject verb.term object
      (if isMark "," then Turn.taken (s.push [.path, .objectsEnd]) else .left s).behind said
    | _, _ => .malformed s
  | .verb => atVerb s token
  | .verbEnd => .left (s.termToVerb false)
  | .reversedVerbEnd => .left (s.termToVerb true)
  | .verbOf => if token = .word "of" then .taken (s.termToVerb true) else .malformed s
  | .path => .left (s.push [.item, .pathContinued])
  | .pathContinued =>
    if isMark "!" then .taken (s.push [.item, .pathEnd false])
    else if isMark "^" then .taken (s.push [.item, .pathEnd true])
    else .left s
  | .pathEnd isReversed =>
    match s.terms with
    | predicate :: before :: terms =>
      let (label, s) := { s with terms }.freshLabel
      let said :=
        if isReversed then s.statement (.blank label) predicate before
        else s.statement before predicate (.blank label)
      (Turn.left ((s.pushTerm (.blank label)).push [.pathContinued])).behind said
    | _ => .malformed s
  | .item => atItem s token
  | .properties =>
    if token = .word "id" then .taken (s.push [.propertiesOf])
    else
      let (label, s) := s.freshLabel
      let s := s.pushTerm (.blank label)
      if isMark "]" then .taken s else .left (s.push [.predicates, .propertiesEnd])
  | .propertiesEnd => if isMark "]" then .taken s else .malformed s
  | .propertiesOf =>
    match token.iri? s.prefixes with
    | some i => .taken ((s.pushTerm (.iri i)).push [.predicates, .propertiesEnd])
    | none => .malformed s
  | .list =>
    if isMark ")" then .taken (s.pushTerm (.iri (rdf ++ "nil")))
    else
      let (label, s) := s.freshLabel
      .left (((s.pushTerm (.blank label)).pushTerm (.blank label)).push [.path, .listContinued])
  | .listContinued => atListContinued s token
  | .afterText value =>
    match token with
    | .tag language => .taken (s.pushTerm (.literal (.tagged value language.toLower)))
    | .mark "^^" => .taken (s.push [.datatype value])
    | _ => .left (s.pushTerm (.literal (.simple value)))
  | .datatype value =>
    match token.iri? s.prefixes with
    | some d => .taken (s.pushTerm (.literal (.ofDatatype value d)))
    | none => (Turn.left { s with steps := [] }).faulty
  | .formula =>
    if isMark "\x7d" then .taken s.closeFormula
    else
      let declared :=
        if token.isKeyword "base" || token.isKeyword "prefix" then
          declaration? (s.push [.formula]) token .formulaDot
        else declaration? s token .formulaDot
      declared.getD (.left (s.push [.triples, .formulaDot]))
  | .formulaDot =>
    if isMark "\x7d" then .taken s.closeFormula
    else if isMark "." then .taken (s.push [.formula])
    else (Turn.left (s.push [.formula])).faulty

/-! ## Texts -/

/-- Takes in a token. -/
def State.next (fuel : Nat) (s : State) (token : Token) : Turn :=
  match fuel with
  | 0 => .malformed s
  | fuel + 1 =>
    match s.steps with
    | [] => .taken (if token = .mark "." then s.push [.document] else s)
    | step :: steps =>
      let turn := atStep { s with steps } step token
      if turn.isTaken then turn else turn.followedBy (State.next fuel turn.state token)

/-- Takes in the end of the text. -/
def State.finish (s : State) : List ReadEvent :=
  if s.steps.isEmpty || s.steps == [.document] then [] else [.misfit]

/-- Reads a text; events are collected last first. -/
def read (fuel : Nat) (ending : Bool) (s : State) (events : List ReadEvent) (cs : Bytes) :
    List ReadEvent :=
  match fuel with
  | 0 => events
  | fuel + 1 =>
    match Scan.skip ending cs with
    | .incomplete => events
    | .lineBreak rest => read fuel ending s events rest
    | .token [] => if ending then s.finish ++ events else events
    | .token cs =>
      match Scan.next ⟨false, true⟩ ending s.base cs with
      | .token token rest =>
        let turn := s.next (2 * s.steps.length + 32) token
        read fuel ending turn.state (turn.events.reverse ++ events) rest
      | .malformed rest => read fuel ending s.skipping (.misfit :: events) rest
      | .incomplete => if ending then .misfit :: events else events

end LinkedQueries.Rdf.NotationReader
