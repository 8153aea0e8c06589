import SecondaryIndex.Session.Attempt

namespace SecondaryIndex.Session

/-!
# Beginning and ending named transactions

A name stands for at most one open transaction.  Committing ends a transaction
also when the commit is refused.
-/

open Versioned

/-- The transaction of a name, which has to be open. -/
def opened
    (name : String) :
    Attempt OpenTransaction := do
  Attempt.ofOption (.unknownTransaction name) ((← get).transactions.find? name)

/-- Take the transaction of a name out of the session, as its end begins. -/
def takeTransaction
    (name : String) :
    Attempt Transaction := do
  let ending ← opened name
  modify fun session =>
    { session with transactions := session.transactions.erase name }
  return ending.transaction

/-- Open a transaction under a name; one that had the name is given up right after. -/
def beginTransaction
    (name : String) :
    StateM Session Unit :=
  modify fun session =>
    let (transaction, store) := session.store.begin
    let remaining :=
      match session.transactions.find? name with
      | some replaced => store.rollback replaced.transaction
      | none => store
    { session with
      store := remaining
      transactions := session.transactions.insert name ⟨transaction, []⟩ }

/-- Commit the transaction of a name, which ends it in any case. -/
def commitTransaction
    (name : String) :
    Attempt Unit := do
  let transaction ← takeTransaction name
  let (result, store) := (← get).store.commit transaction
  modify fun session => { session with store }
  match result with
  | .ok none =>
      return ()
  | .ok (some publication) =>
      publication.events.forM fun event => recordLog event
  | .error conflict =>
      throw (.conflict ⟨conflict.keys.mergeSort⟩)

/-- Give the transaction of a name up. -/
def rollbackTransaction
    (name : String) :
    Attempt Unit := do
  let transaction ← takeTransaction name
  modify fun session => { session with store := session.store.rollback transaction }

/-- Replace the faults of a transaction. -/
def setFaults
    (name : String)
    (faults : List Fault) :
    Attempt Unit := do
  let current ← opened name
  modify (replaceTransaction name { current with faults })

end SecondaryIndex.Session
