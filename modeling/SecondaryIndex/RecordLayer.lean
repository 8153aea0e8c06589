import SecondaryIndex.Maintenance

namespace SecondaryIndex

/-!
# Records written together with their entries

Writing a record and maintaining its entries belong together.  These operations
pair them: a new record is indexed after it is stored, a changed record is
reindexed from the value that was stored before, and a removed record is taken
out of the entries of the value that was stored.  A failure between the two
parts leaves the first part done, so the caller has to give the transaction up.
-/

/-- Why a record operation failed: in its own access to the store or in indexing. -/
inductive RecordError where
  | store (failure : StoreFailure)
  | index (error : IndexError)
  deriving Repr, DecidableEq

/-- A record operation on a state. -/
abbrev RecordAction (σ α : Type) :=
  ExceptT RecordError (StateM σ) α

namespace RecordAction

variable {σ α : Type}

/-- A service of the store, with its own failures. -/
def ofStore
    (service : StateM σ (Except StoreFailure α)) :
    RecordAction σ α :=
  ExceptT.mk do
    return (← service).mapError RecordError.store

/-- An operation of the index. -/
def ofIndex
    (action : Action σ α) :
    RecordAction σ α :=
  ExceptT.mk do
    return (← action.run).mapError RecordError.index

end RecordAction

namespace Environment

variable {σ R C : Type}

/-- Store a record under a full key, without indexing it. -/
def storeRecord
    (environment : Environment σ R C)
    (key : Bytes)
    (record : R) :
    RecordAction σ Unit := do
  let bytes ← RecordAction.ofIndex (Action.ofCodec (environment.encodeRecord record))
  RecordAction.ofStore (environment.set key bytes)

/-- The record stored under a full key. -/
def loadRecord
    (environment : Environment σ R C)
    (key : Bytes) :
    RecordAction σ (Option R) := do
  match ← RecordAction.ofStore (environment.get key) with
  | none =>
      return none
  | some bytes =>
      some <$> RecordAction.ofIndex (Action.ofCodec (environment.decodeRecord bytes))

/-- Store a new record and index it. -/
def insertRecord
    (environment : Environment σ R C)
    (layout : KeyLayout)
    (schema : Schema R C)
    (key : Bytes)
    (record : R) :
    RecordAction σ Unit := do
  environment.storeRecord key record
  RecordAction.ofIndex (environment.indexRecord layout schema key record)

/-- Change a record and reindex it; the answer is whether there was one. -/
def updateRecord
    (environment : Environment σ R C)
    (layout : KeyLayout)
    (schema : Schema R C)
    (key : Bytes)
    (record : R) :
    RecordAction σ Bool := do
  match ← environment.loadRecord key with
  | none =>
      return false
  | some old => do
      environment.storeRecord key record
      RecordAction.ofIndex (environment.reindexRecord layout schema key old record)
      return true

/-- Remove a record and its entries; the answer is whether there was one. -/
def removeRecord
    (environment : Environment σ R C)
    (layout : KeyLayout)
    (schema : Schema R C)
    (key : Bytes) :
    RecordAction σ Bool := do
  match ← environment.loadRecord key with
  | none =>
      return false
  | some old => do
      RecordAction.ofStore (environment.delete key)
      RecordAction.ofIndex (environment.unindexRecord layout schema key old)
      return true

end Environment

end SecondaryIndex
