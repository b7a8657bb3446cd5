import LinkedQueries.Rdf.FreshLabel
import LinkedQueries.Rdf.Reading
import LinkedQueries.Rdf.Terse

/-!
# Reading Turtle and TriG

A stack of steps says what has to come next. Statements are emitted as soon as their object is
complete. A token that does not fit is one malformed place: all that was begun is given up, and
tokens are skipped up to the next dot or closing brace.

Quoted triples and annotations of triples are read as well. Collections and anonymous blank nodes
get fresh labels.
-/

namespace LinkedQueries.Rdf.TurtleReader

/-- What has to come next. -/
inductive Step where
  | document
  | dot
  | baseIri
  | prefixName
  | prefixIri (name : String)
  | triplesOrGraph
  | graphOrPredicates (label : Term)
  | anonymousOrProperties
  | subjectPropertiesEnd
  | afterSubjectProperties
  | subjectCollection
  | subjectCollectionNext
  | graphOpen
  | graphEnd
  | triples
  | triplesAnonymous
  | graphLabel
  | graphLabelEnd
  | predicates
  | predicatesEnd
  | predicatesContinued
  | objects
  | objectsEnd
  | objectsContinued
  | annotationEnd
  | verb
  | object
  | objectProperties
  | objectPropertiesEnd
  | objectCollection
  | objectCollectionNext
  | afterText (value : String) (emit : Bool)
  | datatype (value : String) (emit : Bool)
  | subjectQuotedEnd
  | objectQuotedEnd (emit : Bool)
  | quotedSubject
  | quotedObject
  | quotedAnonymousEnd
  deriving DecidableEq

/-- What the declarations of a text have set. -/
structure Context where
  /-- Whether named graphs are read. -/
  graphs : Bool
  base : Option String
  prefixes : Prefixes
  /-- The number of the text for its fresh labels, and the next of them. -/
  text : Nat
  fresh : Nat

/-- The steps to come, the next one first, with the terms read so far, the latest first. Without
steps the text is skipped. -/
structure State extends Context where
  steps : List Step
  subjects : List Term
  predicates : List String
  objects : List Term
  graph : GraphName

/-- What comes of a token: the new state, the number of malformed places, and the statements, the
latest first. -/
structure Outcome where
  state : State
  faults : Nat
  quads : List Quad

namespace Outcome

/-- Nothing comes of it but a state. -/
def of (s : State) : Outcome := ⟨s, 0, []⟩

/-- The outcome when a statement came before. -/
def behind (o : Outcome) (q : Quad) : Outcome := { o with quads := o.quads ++ [q] }

/-- The outcome with one more malformed place. -/
def faulty (o : Outcome) : Outcome := { o with faults := o.faults + 1 }

/-- The outcome as events, in order. -/
def events (o : Outcome) : List ReadEvent :=
  List.replicate o.faults .misfit ++ o.quads.map .statement

end Outcome

namespace State

/-- The state in which the text is skipped. -/
def skipping (s : State) : State :=
  { s with steps := [], subjects := [], predicates := [], objects := [], graph := .default }

/-- Gives up what was begun. -/
def malformed (s : State) : Outcome := (Outcome.of s.skipping).faulty

/-- Puts steps before those to come. -/
def push (s : State) (steps : List Step) : State := { s with steps := steps ++ s.steps }

/-- Adds a subject. -/
def pushSubject (s : State) (t : Term) : State := { s with subjects := t :: s.subjects }

/-- Adds a predicate. -/
def pushPredicate (s : State) (p : String) : State := { s with predicates := p :: s.predicates }

/-- Adds an object. -/
def pushObject (s : State) (t : Term) : State := { s with objects := t :: s.objects }

/-- Takes off a subject. -/
def popSubject (s : State) : State := { s with subjects := s.subjects.drop 1 }

/-- Takes off a predicate. -/
def popPredicate (s : State) : State := { s with predicates := s.predicates.drop 1 }

/-- Takes off an object. -/
def popObject (s : State) : State := { s with objects := s.objects.drop 1 }

/-- The triple of the latest terms. -/
def triple? (s : State) : Option Triple :=
  match s.subjects, s.predicates, s.objects with
  | subject :: _, predicate :: _, object :: _ => some ⟨subject, predicate, object⟩
  | _, _, _ => none

/-- Emits the triple of the latest terms. -/
def emit (s : State) : Outcome :=
  match s.triple? with
  | some t => (Outcome.of s).behind (t.inGraph s.graph)
  | none => .of s

/-- Adds an object and emits its triple, if it is to be emitted. -/
def addObject (s : State) (t : Term) (emit : Bool) : Outcome :=
  if emit then (s.pushObject t).emit else .of (s.pushObject t)

/-- A new anonymous blank node. -/
def anonymous (s : State) : Term × State :=
  (.blank (freshLabel s.text s.fresh), { s with fresh := s.fresh + 1 })

/-- Replaces the latest terms by their triple, which then is `f` of the state. -/
def quote (s : State) (f : State → Term → State) : State :=
  match s.triple? with
  | some t => f (s.popSubject.popPredicate.popObject) t.quoted
  | none => s

end State

/-- The IRI or labelled blank node that a token denotes. -/
def node? (c : Context) : Token → Option Term
  | .blank l => some (.blank l)
  | token => (token.iri? c.prefixes).map .iri

/-- The graph name of a node. -/
def graphName : Term → GraphName
  | .iri i => .iri i
  | .blank l => .blank l
  | _ => .default

/-- The steps of a quoted triple. -/
def quotedSteps (close : Step) : List Step := [.quotedSubject, .verb, .quotedObject, close]

/-- Takes in a token within the declarations and blocks of a text. -/
def atDocument (s : State) (token : Token) (again : State → Outcome) : Outcome :=
  let s := { s with graph := .default, steps := .document :: s.steps }
  if token.isKeyword "base" then .of (s.push [.baseIri])
  else if token.isKeyword "prefix" then .of (s.push [.prefixName])
  else if token = .tag "prefix" then .of (s.push [.prefixName, .dot])
  else if token = .tag "base" then .of (s.push [.baseIri, .dot])
  else if s.graphs && token.isKeyword "graph" then .of (s.push [.graphLabel, .graphOpen])
  else if s.graphs && token = .mark "\x7b" then again (s.push [.graphOpen])
  else again (s.push [.triplesOrGraph])

/-- Takes in a token where a subject begins; `after` are the steps behind it. -/
def atSubject (s : State) (token : Token) (after : List Step) : Outcome :=
  match token with
  | .mark "(" => .of (s.push (.subjectCollection :: .predicates :: after))
  | .mark "<<" => .of (s.push (quotedSteps .subjectQuotedEnd ++ .predicates :: after))
  | _ =>
    match node? s.toContext token with
    | some t => .of ((s.pushSubject t).push (.predicates :: after))
    | none => s.malformed

/-- Takes in a token of an object. -/
def atObject (s : State) (token : Token) (emit : Bool) : Outcome :=
  match token with
  | .text value => .of (s.push [.afterText value emit])
  | .mark "<<" => .of (s.push (quotedSteps (.objectQuotedEnd emit)))
  | _ =>
    match node? s.toContext token, token.bareLiteral? with
    | some t, _ => s.addObject t emit
    | none, some l => s.addObject (.literal l) emit
    | none, none => s.malformed

/-- Takes in a token behind an element of a collection. -/
def atCollectionNext (s : State) (token : Token) (step : Step) (again : State → Outcome) :
    Outcome :=
  let old := s.subjects.headD (.iri (rdf ++ "nil"))
  let s := s.popSubject.popObject
  let rest (t : Term) : Quad := ⟨⟨old, rdf ++ "rest", t⟩, s.graph⟩
  if token = .mark ")" then (Outcome.of s.popPredicate).behind (rest (.iri (rdf ++ "nil")))
  else
    let (new, s) := s.anonymous
    (again ((s.pushSubject new).push [.object, step])).behind (rest new)

/-- Takes in a token at a step that was taken off the stack. -/
def atStep (s : State) (step : Step) (token : Token) (again : State → Outcome) : Outcome :=
  let isMark (symbol : String) : Bool := token = .mark symbol
  match step with
  | .document => atDocument s token again
  | .dot =>
    let s := s.popSubject
    if isMark "." then .of s else (again s).faulty
  | .baseIri =>
    match token with
    | .iri i => .of { s with base := some i }
    | _ => s.malformed
  | .prefixName =>
    match token with
    | .name space [] _ => .of (s.push [.prefixIri space])
    | _ => s.malformed
  | .prefixIri name =>
    match token with
    | .iri i => .of { s with prefixes := (name, i) :: s.prefixes }
    | _ => s.malformed
  | .triplesOrGraph =>
    match token with
    | .mark "[" => .of (s.push [.anonymousOrProperties])
    | .mark "(" | .mark "<<" => atSubject s token [.dot]
    | _ =>
      match node? s.toContext token with
      | some t => .of (s.push [.graphOrPredicates t])
      | none => s.malformed
  | .graphOrPredicates label =>
    if isMark "\x7b" && s.graphs then again ({ s with graph := graphName label }.push [.graphOpen])
    else again ((s.pushSubject label).push [.predicates, .dot])
  | .anonymousOrProperties =>
    let (t, s) := s.anonymous
    if isMark "]" then .of (s.push [.graphOrPredicates t])
    else again ((s.pushSubject t).push [.predicates, .subjectPropertiesEnd, .dot])
  | .subjectPropertiesEnd =>
    if isMark "]" then .of (s.push [.afterSubjectProperties])
    else (again (s.push [.afterSubjectProperties])).faulty
  | .afterSubjectProperties =>
    if isMark "." || isMark "\x7d" then again s else again (s.push [.predicates])
  | .subjectCollection =>
    if isMark ")" then .of (s.pushSubject (.iri (rdf ++ "nil")))
    else
      let (root, s) := s.anonymous
      again ((((s.pushSubject root).pushSubject root).pushPredicate (rdf ++ "first")).push
        [.object, .subjectCollectionNext])
  | .subjectCollectionNext => atCollectionNext s token .subjectCollectionNext again
  | .graphOpen => if isMark "\x7b" then .of (s.push [.triples, .graphEnd]) else s.malformed
  | .graphEnd =>
    let s := s.popSubject
    if isMark "\x7d" then .of s
    else if isMark "." then .of (s.push [.triples, .graphEnd])
    else (again s).faulty
  | .triples =>
    if isMark "\x7d" then again s
    else if isMark "[" then
      let (t, s) := s.anonymous
      .of ((s.pushSubject t).push [.triplesAnonymous])
    else atSubject s token []
  | .triplesAnonymous =>
    if isMark "]" then .of (s.push [.predicates])
    else again (s.push [.predicates, .subjectPropertiesEnd])
  | .graphLabel =>
    if isMark "[" then .of (s.push [.graphLabelEnd])
    else
      match node? s.toContext token with
      | some t => .of { s with graph := graphName t }
      | none => s.malformed
  | .graphLabelEnd =>
    if isMark "]" then
      let (t, s) := s.anonymous
      .of { s with graph := graphName t }
    else s.malformed
  | .predicates => again (s.push [.verb, .objects, .predicatesEnd])
  | .predicatesEnd =>
    let s := s.popPredicate
    if isMark ";" then .of (s.push [.predicatesContinued]) else again s
  | .predicatesContinued =>
    if isMark ";" then .of (s.push [.predicatesContinued])
    else if isMark "." || isMark "\x7d" || isMark "]" then again s
    else again (s.push [.verb, .objects, .predicatesEnd])
  | .objects => again (s.push [.object, .objectsEnd])
  | .objectsEnd =>
    if isMark "," then .of (s.popObject.push [.object, .objectsEnd])
    else if isMark "\x7b|" then
      match s.triple? with
      | some t =>
        let s := s.popObject.pushSubject t.quoted
        .of (s.push [.predicates, .annotationEnd, .objectsContinued])
      | none => s.malformed
    else again s.popObject
  | .objectsContinued => if isMark "," then .of (s.push [.object, .objectsEnd]) else again s
  | .annotationEnd => if isMark "|\x7d" then .of s.popSubject else s.malformed
  | .verb =>
    if token = .word "a" then .of (s.pushPredicate (rdf ++ "type"))
    else
      match token.iri? s.prefixes with
      | some p => .of (s.pushPredicate p)
      | none => s.malformed
  | .object =>
    if isMark "[" then .of (s.push [.objectProperties])
    else if isMark "(" then .of (s.push [.objectCollection])
    else atObject s token true
  | .objectProperties =>
    let (t, s) := s.anonymous
    if isMark "]" then s.addObject t true
    else again ((s.pushSubject t).push [.predicates, .objectPropertiesEnd])
  | .objectPropertiesEnd =>
    match isMark "]", s.subjects with
    | true, t :: _ => s.popSubject.addObject t true
    | _, _ => s.malformed
  | .objectCollection =>
    if isMark ")" then s.addObject (.iri (rdf ++ "nil")) true
    else
      let (root, s) := s.anonymous
      let added := s.addObject root true
      let o := again (((added.state.pushSubject root).pushPredicate (rdf ++ "first")).push
        [.object, .objectCollectionNext])
      { o with quads := o.quads ++ added.quads }
  | .objectCollectionNext => atCollectionNext s token .objectCollectionNext again
  | .afterText value emit =>
    match token with
    | .tag language => s.addObject (.literal (.tagged value language.toLower)) emit
    | .mark "^^" => .of (s.push [.datatype value emit])
    | _ =>
      let added := s.addObject (.literal (.simple value)) emit
      let o := again added.state
      { o with quads := o.quads ++ added.quads }
  | .datatype value emit =>
    match token.iri? s.prefixes with
    | some d => s.addObject (.literal (.ofDatatype value d)) emit
    | none => (again s.skipping).faulty
  | .subjectQuotedEnd =>
    if isMark ">>" then .of (s.quote State.pushSubject) else s.malformed
  | .objectQuotedEnd emit =>
    let s := s.quote State.pushObject
    let o := if emit then s.emit else .of s
    if isMark ">>" then o
    else
      let failed := o.state.malformed
      { failed with quads := failed.quads ++ o.quads }
  | .quotedSubject =>
    if isMark "[" then
      let (t, s) := s.anonymous
      .of ((s.pushSubject t).push [.quotedAnonymousEnd])
    else if isMark "<<" then .of (s.push (quotedSteps .subjectQuotedEnd))
    else
      match node? s.toContext token with
      | some t => .of (s.pushSubject t)
      | none => s.malformed
  | .quotedObject =>
    if isMark "[" then
      let (t, s) := s.anonymous
      .of ((s.pushObject t).push [.quotedAnonymousEnd])
    else atObject s token false
  | .quotedAnonymousEnd => if isMark "]" then .of s else s.malformed

/-- Takes in a token; a step may leave it to the next one. -/
def State.next (fuel : Nat) (s : State) (token : Token) : Outcome :=
  match fuel with
  | 0 => s.malformed
  | fuel + 1 =>
    match s.steps with
    | [] =>
      if token = .mark "." || token = .mark "\x7d" then .of (s.push [.document]) else .of s
    | step :: steps =>
      atStep { s with steps } step token fun s => State.next fuel s token

/-- Takes in the end of the text. -/
def State.finish (s : State) : Outcome :=
  match s.steps with
  | [] | [.document] => .of s
  | .afterText value true :: _ => (s.addObject (.literal (.simple value)) true).faulty
  | _ => (Outcome.of s).faulty

/-- The state at the beginning of a text. -/
def State.start (graphs : Bool) (base : Option String) (text : Nat) : State where
  graphs
  base
  prefixes := []
  text
  fresh := 0
  steps := [.document]
  subjects := []
  predicates := []
  objects := []
  graph := .default

/-- Reads a text; events are collected last first. -/
def read (fuel : Nat) (ending : Bool) (s : State) (events : List ReadEvent) (cs : Bytes) :
    List ReadEvent :=
  match fuel with
  | 0 => events
  | fuel + 1 =>
    match Scan.skip ending cs with
    | .incomplete => events
    | .lineBreak rest => read fuel ending s events rest
    | .token [] => if ending then s.finish.events.reverse ++ events else events
    | .token cs =>
      match Scan.next ⟨false, false⟩ ending s.base cs with
      | .token token rest =>
        let o := s.next (2 * s.steps.length + 32) token
        read fuel ending o.state (o.events.reverse ++ events) rest
      | .malformed rest => read fuel ending s.skipping (.misfit :: events) rest
      | .incomplete => if ending then .misfit :: events else events

end LinkedQueries.Rdf.TurtleReader
