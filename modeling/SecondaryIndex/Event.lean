import SecondaryIndex.AccessPath
import SecondaryIndex.Schema

namespace SecondaryIndex

/-!
# What the index reports

Operations report what they do as they go: lines for a log, each question put
to the schema, and each step of a cursor.  Reports have no effect on an
operation.
-/

/-- The weight of a log line; a debug line is also kept where only debug lines are. -/
inductive LogLevel where
  | debug
  | trace
  deriving Repr, DecidableEq

/-- An event that is worth a line in a log. -/
inductive LogEvent where
  | pathSelected (typeName : String) (path : AccessPath)
  | entryWritten (typeName index : String) (entry : Bytes) (size : Nat)
  | entryRemoved (typeName index : String) (entry : Bytes)
  | iterationFailed (error : IndexError)
  | danglingCandidate (key : Bytes)
  | published (key : Bytes) (stamp : Nat) (tombstone : Bool)
  deriving Repr, DecidableEq

namespace LogEvent

/-- The weight of an event. -/
def level :
    LogEvent → LogLevel
  | .pathSelected _ _ =>
      .debug
  | .entryWritten _ _ _ _ =>
      .trace
  | .entryRemoved _ _ _ =>
      .trace
  | .iterationFailed _ =>
      .debug
  | .danglingCandidate _ =>
      .debug
  | .published _ _ _ =>
      .trace

/-- The text of an event. -/
def message :
    LogEvent → String
  | .pathSelected typeName path =>
      s!"event=strategy_selected type={typeName} strategy=" ++ path.describe
  | .entryWritten typeName index entry size =>
      s!"event=index_entry_written type={typeName} index={index} entry=" ++
        Text.escapeBytes entry ++ s!" keys={size}"
  | .entryRemoved typeName index entry =>
      s!"event=index_entry_removed type={typeName} index={index} entry=" ++
        Text.escapeBytes entry
  | .iterationFailed error =>
      "event=iterator_error error=" ++ error.message
  | .danglingCandidate key =>
      "event=dangling_candidate key=" ++ Text.escapeBytes key
  | .published key stamp tombstone =>
      "event=commit key=" ++ Text.escapeBytes key ++ s!" ts={stamp} tombstone={tombstone}"

/-- The log line of an event. -/
def line
    (event : LogEvent) :
    String :=
  match event.level with
  | .debug => "DEBUG " ++ event.message
  | .trace => "TRACE " ++ event.message

end LogEvent

/-- A report of an operation over records `R` and criteria `C`. -/
inductive Event (R C : Type) where
  | logged (event : LogEvent)
  | judged (typeName : String) (criteria : List C) (candidate : Candidate R)
  | inspected (criteria : List C)
  | advanced

end SecondaryIndex
