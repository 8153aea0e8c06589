import SecondaryIndex.Event
import SecondaryIndex.PostingList

namespace SecondaryIndex

/-!
# The environment of an operation

The index holds no state of its own.  It works inside a transaction and with a
codec that its caller supplies; both act on a state `σ` that the index does not
look into.  A read or a write may fail, and so may the codec; what has been
done to the state by then stays.  Missing keys are no failure.
-/

/-- The services an operation of the index may call. -/
structure Environment (σ R C : Type) where
  get : Bytes → StateM σ (Except StoreFailure (Option Bytes))
  set : Bytes → Bytes → StateM σ (Except StoreFailure Unit)
  delete : Bytes → StateM σ (Except StoreFailure Unit)
  entriesFrom : Bytes → StateM σ (List Entry)
  encodePostings : PostingList → StateM σ (Except CodecFailure Bytes)
  decodePostings : Bytes → StateM σ (Except CodecFailure PostingList)
  encodeRecord : R → StateM σ (Except CodecFailure Bytes)
  decodeRecord : Bytes → StateM σ (Except CodecFailure R)
  report : Event R C → StateM σ Unit

/-- An operation on a state that ends with a value or with an error. -/
abbrev Action (σ α : Type) :=
  ExceptT IndexError (StateM σ) α

namespace Action

variable {σ α : Type}

/-- The operation that leaves the state alone and ends as given. -/
def ofExcept
    (result : Except IndexError α) :
    Action σ α :=
  ExceptT.mk (pure result)

/-- A service whose failures count as errors of the store. -/
def ofStore
    (service : StateM σ (Except StoreFailure α)) :
    Action σ α :=
  ExceptT.mk do
    return (← service).mapError IndexError.store

/-- A service whose failures count as errors of the codec. -/
def ofCodec
    (service : StateM σ (Except CodecFailure α)) :
    Action σ α :=
  ExceptT.mk do
    return (← service).mapError IndexError.codec

end Action

namespace Environment

variable {σ R C : Type}

/-- Write a line to the log. -/
def log
    (environment : Environment σ R C)
    (event : LogEvent) :
    Action σ Unit :=
  environment.report (.logged event)

/-- Put a question of acceptance to the schema. -/
def judge
    (environment : Environment σ R C)
    (schema : Schema R C)
    (criteria : List C)
    (candidate : Candidate R) :
    Action σ Bool := do
  environment.report (.judged schema.typeName criteria candidate)
  Action.ofExcept (schema.accepts criteria candidate)

/-- Ask the schema whether criteria need a whole record. -/
def needsRecord
    (environment : Environment σ R C)
    (schema : Schema R C)
    (criteria : List C) :
    Action σ Bool := do
  environment.report (.inspected criteria)
  return schema.needsRecord criteria

end Environment

/-- Whether the first of some entries lies under a lead. -/
def beginsUnder
    (lead : Bytes) :
    List Entry → Bool
  | [] =>
      false
  | entry :: _ =>
      entry.1.startsWith lead

end SecondaryIndex
