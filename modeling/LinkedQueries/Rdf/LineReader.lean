import LinkedQueries.Rdf.Reading
import LinkedQueries.Rdf.Scan

/-!
# Reading line formats

N-Triples and N-Quads have one statement per line. A token that does not fit is malformed, and the
rest of its line is skipped. A statement that is complete counts, whatever follows: if its dot is
missing, that is malformed, and so is a further statement on the line, but it is read.
-/

namespace LinkedQueries.Rdf.LineReader

/-- What a statement still lacks, from the inside of nested quoted triples outwards. -/
inductive Step where
  | subject
  | predicate
  | object
  | graphOrEnd
  | dot
  | afterText (value : String)
  | datatype (value : String)
  | afterQuotedSubject
  | afterQuotedObject
  | lineBreak
  deriving DecidableEq

/-- The steps to come, the next one first, and the terms read so far. Without steps the rest of the
line is skipped. -/
structure State where
  steps : List Step
  subjects : List Term
  predicates : List String
  objects : List Term

/-- At the beginning of a line. -/
def State.start : State := ⟨[.subject], [], [], []⟩

/-- In a malformed line. -/
def State.skipping : State := ⟨[], [], [], []⟩

/-- What comes of a token: the new state, the number of malformed places, and the statement. -/
structure Outcome where
  state : State
  faults : Nat
  statement : Option Quad

namespace Outcome

/-- Nothing comes of it but a state. -/
def of (s : State) : Outcome := ⟨s, 0, none⟩

/-- The outcome with one more malformed place. -/
def faulty (o : Outcome) : Outcome := { o with faults := o.faults + 1 }

/-- The events of an outcome: faults come before the statement. -/
def events (o : Outcome) : List ReadEvent :=
  List.replicate o.faults .misfit ++ o.statement.toList.map .statement

end Outcome

namespace State

/-- The innermost triple, taken off the terms. -/
def popTriple? (s : State) : Option (Triple × State) :=
  match s.subjects, s.predicates, s.objects with
  | subject :: subjects, predicate :: predicates, object :: objects =>
    some (⟨subject, predicate, object⟩, { s with subjects, predicates, objects })
  | _, _, _ => none

/-- The state at a step, with the steps behind it. -/
def toStep (s : State) (step : Step) (steps : List Step) : State :=
  { s with steps := step :: steps }

/-- Adds an object. -/
def pushObject (s : State) (t : Term) (steps : List Step) : State :=
  { s with steps := .graphOrEnd :: steps, objects := t :: s.objects }

/-- The rest of the line is skipped; a line break leaves the skipped line at once. -/
def malformed (token : Option Token) : Outcome :=
  (Outcome.of (if token.isNone then .start else .skipping)).faulty

/-- Takes in the statement that is complete, in a graph. -/
def emit (s : State) (g : GraphName) : Outcome :=
  match s.popTriple? with
  | some (t, s) => ⟨{ s with steps := [.dot] }, 0, some (t.inGraph g)⟩
  | none => malformed none

/-- Takes in a token, or the end of a line. -/
def next (fuel : Nat) (graphs : Bool) (s : State) (token : Option Token) : Outcome :=
  match fuel with
  | 0 => malformed token
  | fuel + 1 =>
    let again (s : State) : Outcome := next fuel graphs s token
    match s.steps with
    | [] => .of (if token.isNone then .start else s)
    | step :: steps =>
      match step, token with
      | .subject, none => if steps.isEmpty then .of s else malformed none
      | .subject, some (.iri i) =>
        .of { s with steps := .predicate :: steps, subjects := .iri i :: s.subjects }
      | .subject, some (.blank l) =>
        .of { s with steps := .predicate :: steps, subjects := .blank l :: s.subjects }
      | .subject, some (.mark "<<") => .of (s.toStep .subject (.afterQuotedSubject :: steps))
      | .predicate, some (.iri i) =>
        .of { s with steps := .object :: steps, predicates := i :: s.predicates }
      | .object, some (.iri i) => .of (s.pushObject (.iri i) steps)
      | .object, some (.blank l) => .of (s.pushObject (.blank l) steps)
      | .object, some (.text value) => .of (s.toStep (.afterText value) steps)
      | .object, some (.mark "<<") => .of (s.toStep .subject (.afterQuotedObject :: steps))
      | .afterText value, some (.tag language) =>
        .of (s.pushObject (.literal (.tagged value language.toLower)) steps)
      | .afterText value, some (.mark "^^") => .of (s.toStep (.datatype value) steps)
      | .afterText value, _ => again (s.pushObject (.literal (.simple value)) steps)
      | .datatype value, some (.iri d) =>
        .of (s.pushObject (.literal (.ofDatatype value d)) steps)
      | .graphOrEnd, _ =>
        if steps.isEmpty then
          match graphs, token with
          | true, some (.iri g) => s.emit (.iri g)
          | true, some (.blank g) => s.emit (.blank g)
          | _, _ =>
            let emitted := s.emit .default
            { again emitted.state with statement := emitted.statement }
        else if token = some (.mark ">>") then .of { s with steps }
        else malformed token
      | .afterQuotedSubject, _ =>
        match s.popTriple? with
        | some (t, s) =>
          again { s with steps := .predicate :: steps, subjects := t.quoted :: s.subjects }
        | none => malformed token
      | .afterQuotedObject, _ =>
        match s.popTriple? with
        | some (t, s) => again (s.pushObject t.quoted steps)
        | none => malformed token
      | .dot, some (.mark ".") => .of { s with steps := [.lineBreak] }
      | .dot, _ => (again { s with steps := [.subject] }).faulty
      | .lineBreak, none => .of .start
      | .lineBreak, _ => (again { s with steps := [.subject] }).faulty
      | _, _ => malformed token

/-- Takes in the end of the text: a statement that lacks its dot only is complete. -/
def finish (s : State) : Outcome :=
  match s.steps with
  | [.subject] | [.lineBreak] => .of s
  | [.graphOrEnd] => (s.emit .default).faulty
  | [.afterText value] => ((s.pushObject (.literal (.simple value)) []).emit .default).faulty
  | _ => (Outcome.of s).faulty

end State

/-- Reads a text; events are collected last first. -/
def read (fuel : Nat) (graphs ending : Bool) (s : State) (events : List ReadEvent) (cs : Bytes) :
    List ReadEvent :=
  let taken (token : Option Token) : Outcome := s.next 8 graphs token
  match fuel with
  | 0 => events
  | fuel + 1 =>
    match Scan.skip ending cs with
    | .incomplete => events
    | .lineBreak rest =>
      let o := taken none
      read fuel graphs ending o.state (o.events.reverse ++ events) rest
    | .token [] => if ending then s.finish.events.reverse ++ events else events
    | .token cs =>
      match Scan.next ⟨true, false⟩ ending none cs with
      | .token token rest =>
        let o := taken (some token)
        read fuel graphs ending o.state (o.events.reverse ++ events) rest
      | .malformed rest => read fuel graphs ending .skipping (.misfit :: events) rest
      | .incomplete =>
        if ending then
          State.skipping.finish.events.reverse ++ .misfit :: events
        else events

end LinkedQueries.Rdf.LineReader
