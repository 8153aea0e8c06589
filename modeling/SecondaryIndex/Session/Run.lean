import SecondaryIndex.Session.Moves

namespace SecondaryIndex.Session

/-!
# Running a session

Steps are carried out in order on an empty store.  Each is reported with its
outcome, with what its operations reported, and with what its transaction sees
afterwards.
-/

open Versioned

/-- The answer of a step in between: its own answer or its failure. -/
def answerWithin
    (attempt : Attempt Answer) :
    StateM Session Answer := do
  match ← attempt.run with
  | .ok answer => return .performed answer
  | .error failure => return .failed failure

mutual

/-- Carry out a step. -/
def runStep
    (configuration : Configuration) :
    Step → Attempt Answer
  | .command scope command =>
      runCommand configuration scope command
  | .cursors scope script => do
      let _ ← opened scope.transaction
      return .script (← runCursors configuration scope .empty script)
  | .queries scope conditions script => do
      let _ ← opened scope.transaction
      let queries ← conditions.mapM Attempt.ofConditions
      return .script (← runQueries configuration scope queries .empty script)
  | .malformed _ reason =>
      throw (.malformed reason)

/-- Carry out a script on cursors. -/
def runCursors
    (configuration : Configuration)
    (scope : Scope)
    (cursors : OrderedMap Nat Cursor) :
    List (ScriptItem CursorMove Step) → Attempt (List Answer)
  | [] =>
      return []
  | .move move :: rest => do
      let (answer, cursors) ← moveCursor scope.transaction cursors move
      return answer :: (← runCursors configuration scope cursors rest)
  | .perform step :: rest => do
      let answer ← answerWithin (runStep configuration step)
      return answer :: (← runCursors configuration scope cursors rest)

/-- Carry out a script on open queries. -/
def runQueries
    (configuration : Configuration)
    (scope : Scope)
    (queries : List (Query (Criterion Member)))
    (started : OpenQueries) :
    List (ScriptItem QueryMove Step) → Attempt (List Answer)
  | [] =>
      return []
  | .move move :: rest => do
      let (answer, started) ← moveQuery configuration scope queries started move
      return answer :: (← runQueries configuration scope queries started rest)
  | .perform step :: rest => do
      let answer ← answerWithin (runStep configuration step)
      return answer :: (← runQueries configuration scope queries started rest)

end

/-- What a step has led to: its outcome, its reports in order, and what is then seen. -/
structure StepReport where
  outcome : Except Failure Answer
  log : List LogEvent
  consultations : List Consultation
  operations : List Operation
  view : Option (List Entry)

/-- Carry out a step on fresh reports. -/
def reportStep
    (configuration : Configuration)
    (step : Step) :
    StateM Session StepReport := do
  modify fun session => { session with reports := .none }
  let outcome ← (runStep configuration step).run
  let session ← get
  let view :=
    (step.transaction?.bind session.transactions.find?).map fun current =>
      current.transaction.entries session.store
  return {
    outcome
    log := session.reports.log.reverse
    consultations := session.reports.consultations.reverse
    operations := session.reports.operations.reverse
    view }

/-- Carry out all steps of a session on an empty store. -/
def run
    (configuration : Configuration)
    (steps : List Step) :
    List StepReport :=
  (steps.mapM (reportStep configuration) start).1

end SecondaryIndex.Session
