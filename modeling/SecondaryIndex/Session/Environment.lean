import SecondaryIndex.Binary.PostingList
import SecondaryIndex.Session.State

namespace SecondaryIndex.Session

/-!
# The environment of a named transaction

Operations of a session run on a transaction given by its name.  Every call is
kept on record before it can fail, by a fault or for want of an allowance.
-/

open Versioned

/-- Why an access is refused where no transaction of the name is open. -/
def notOpen :
    StoreFailure :=
  ⟨"no such transaction is open"⟩

/-- Call a transaction unless one of its faults strikes. -/
def call
    {α : Type}
    (name : String)
    (access : Access)
    (operation : Operation)
    (key : Bytes)
    (body : Store → Transaction → α × Transaction) :
    StateM Session (Except StoreFailure α) := do
  recordOperation operation
  let session ← get
  match session.transactions.find? name with
  | none =>
      return .error notOpen
  | some opened =>
      match opened.failure? access key with
      | some failure =>
          return .error failure
      | none =>
          let (value, transaction) := body session.store opened.transaction
          set (session.replaceTransaction name { opened with transaction })
          return .ok value

/-- The entries that a transaction sees within a bound. -/
def entriesWithin
    (name : String)
    (bound : Bound) :
    StateM Session (List Entry) := do
  let session ← get
  match session.transactions.find? name with
  | none => return []
  | some opened => return opened.transaction.entriesWithin session.store bound

/-- Use up one of a number of calls, if there is a limit and one is left. -/
def spend :
    Option Nat → Option (Option Nat)
  | none =>
      some none
  | some 0 =>
      none
  | some (left + 1) =>
      some (some left)

/-- Encode while the allowance lasts. -/
def encoding
    (bytes : Bytes) :
    StateM Session (Except CodecFailure Bytes) := do
  let session ← get
  match spend session.allowance.encodes with
  | none =>
      return .error (.encode "encode budget spent")
  | some encodes =>
      set { session with allowance := { session.allowance with encodes } }
      return .ok bytes

/-- Decode while the allowance lasts. -/
def decoding
    {α : Type}
    (result : Except Binary.ReadError α) :
    StateM Session (Except CodecFailure α) := do
  let session ← get
  match spend session.allowance.decodes with
  | none =>
      return .error (.decode "decode budget spent")
  | some decodes =>
      set { session with allowance := { session.allowance with decodes } }
      return Binary.asFailure result

/-- The services of the transaction of a name. -/
def environment
    (name : String) :
    Environment Session Member (Criterion Member) where
  get key :=
    call name .get (.get key) key fun store transaction =>
      (transaction.get store key, transaction)
  set key value :=
    call name .set (.set key) key fun _ transaction => ((), transaction.set key value)
  delete key :=
    call name .delete (.delete key) key fun _ transaction => ((), transaction.delete key)
  entriesFrom key := do
    recordOperation (.seek key)
    entriesWithin name (.atLeast key)
  encodePostings list :=
    encoding list.encode
  decodePostings bytes :=
    decoding (PostingList.decode bytes)
  encodeRecord member :=
    encoding member.encode
  decodeRecord bytes :=
    decoding (Member.decode bytes)
  report :=
    record

end SecondaryIndex.Session
