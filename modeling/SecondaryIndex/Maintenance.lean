import SecondaryIndex.Environment
import SecondaryIndex.KeyLayout

namespace SecondaryIndex

/-!
# Keeping index entries in step with records

Each declared index has one entry per field value, which stores the posting
list of the records with that value.  Indexing a record, removing it and
reindexing it are each a row of entry updates, carried out in order up to the
first that fails.  An entry is written only if its posting list changes, and an
entry whose list becomes empty is deleted.
-/

/-- Whether a record is to be listed or no longer to be listed. -/
inductive Change where
  | add
  | remove
  deriving Repr, DecidableEq

/-- One change to the entry that an index has for a record. -/
structure EntryUpdate (R : Type) where
  index : DeclaredIndex R
  change : Change
  record : R

namespace Change

/-- The posting list after a change; nothing if the list agrees already. -/
def revise?
    (key : Bytes)
    (list : PostingList) :
    Change → Option PostingList
  | .add =>
      list.add? key
  | .remove =>
      list.remove? key

end Change

namespace Schema

variable {R C : Type}

/-- The same change to the entries of a record in all declared indexes. -/
def updates
    (schema : Schema R C)
    (change : Change)
    (record : R) :
    List (EntryUpdate R) :=
  schema.indexes.map fun index => ⟨index, change, record⟩

end Schema

namespace Environment

variable {σ R C : Type}

/-- The posting list stored under an entry key; a missing entry lists nothing. -/
def postings
    (environment : Environment σ R C)
    (entry : Bytes) :
    Action σ PostingList := do
  match ← Action.ofStore (environment.get entry) with
  | some bytes => Action.ofCodec (environment.decodePostings bytes)
  | none => return .empty

/-- Store a posting list that has changed, or delete its entry if it is empty. -/
def storePostings
    (environment : Environment σ R C)
    (typeName index : String)
    (entry : Bytes)
    (list : PostingList) :
    Action σ Unit := do
  if list.isEmpty then
    environment.log (.entryRemoved typeName index entry)
    Action.ofStore (environment.delete entry)
  else
    let bytes ← Action.ofCodec (environment.encodePostings list)
    environment.log (.entryWritten typeName index entry list.size)
    Action.ofStore (environment.set entry bytes)

/-- Carry out one entry update for the record stored under a key. -/
def updateEntry
    (environment : Environment σ R C)
    (layout : KeyLayout)
    (typeName : String)
    (key : Bytes)
    (update : EntryUpdate R) :
    Action σ Unit := do
  match ← Action.ofExcept (update.index.valueOf update.record) with
  | none =>
      return ()
  | some value =>
      let entry ← Action.ofExcept (layout.entryKey typeName update.index.name value)
      let list ← environment.postings entry
      match update.change.revise? key list with
      | none => return ()
      | some changed => environment.storePostings typeName update.index.name entry changed

/-- Carry out entry updates in order, up to the first that fails. -/
def updateEntries
    (environment : Environment σ R C)
    (layout : KeyLayout)
    (typeName : String)
    (key : Bytes) :
    List (EntryUpdate R) → Action σ Unit
  | [] =>
      return ()
  | update :: rest => do
      environment.updateEntry layout typeName key update
      environment.updateEntries layout typeName key rest

/-- List a record, stored under a full key, in every declared index. -/
def indexRecord
    (environment : Environment σ R C)
    (layout : KeyLayout)
    (schema : Schema R C)
    (key : Bytes)
    (record : R) :
    Action σ Unit :=
  environment.updateEntries layout schema.typeName key (schema.updates .add record)

/-- Take a record, as it was indexed, out of every declared index. -/
def unindexRecord
    (environment : Environment σ R C)
    (layout : KeyLayout)
    (schema : Schema R C)
    (key : Bytes)
    (record : R) :
    Action σ Unit :=
  environment.updateEntries layout schema.typeName key (schema.updates .remove record)

/-- Move a record from the entries of its old value to those of its new value. -/
def reindexRecord
    (environment : Environment σ R C)
    (layout : KeyLayout)
    (schema : Schema R C)
    (key : Bytes)
    (old new : R) :
    Action σ Unit :=
  environment.updateEntries layout schema.typeName key
    (schema.updates .remove old ++ schema.updates .add new)

end Environment

end SecondaryIndex
