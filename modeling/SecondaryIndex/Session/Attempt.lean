import SecondaryIndex.Member.Condition
import SecondaryIndex.Session.Answer
import SecondaryIndex.Session.State

namespace SecondaryIndex.Session

/-!
# Attempts

An attempt changes the state of the session even when it fails: what it has done
up to the failure stays done.  The errors of the index, of the store and of
record operations become failures of the step.
-/

/-- What a step does to a session. -/
abbrev Attempt (α : Type) :=
  ExceptT Failure (StateM Session) α

namespace Attempt

variable {α : Type}

/-- An operation of the index. -/
def ofIndex
    (action : Action Session α) :
    Attempt α :=
  ExceptT.mk do
    return (← action.run).mapError Failure.index

/-- A result that may be an error of the index. -/
def ofResult
    (result : Except IndexError α) :
    Attempt α :=
  ofIndex (Action.ofExcept result)

/-- A service of the store. -/
def ofStore
    (service : StateM Session (Except StoreFailure α)) :
    Attempt α :=
  ExceptT.mk do
    return (← service).mapError Failure.store

/-- An operation on a record. -/
def ofRecord
    (action : RecordAction Session α) :
    Attempt α :=
  ExceptT.mk do
    return (← action.run).mapError Failure.ofRecordError

/-- A value that has to be there. -/
def ofOption
    (failure : Failure)
    (value : Option α) :
    Attempt α :=
  match value with
  | some value => return value
  | none => throw failure

/-- Make queries of conditions. -/
def ofConditions
    (conditions : Member.QueryConditions) :
    Attempt (Query (Criterion Member)) :=
  match conditions.query with
  | .ok query => return query
  | .error _ => throw .noPattern

end Attempt

end SecondaryIndex.Session
