import SecondaryIndex.Member.Schema
import SecondaryIndex.Versioned.Access
import SecondaryIndex.Versioned.Commit

namespace SecondaryIndex.Session

/-!
# The state of a session

A session works on one store with any number of named transactions.  It can be
told to let accesses of a transaction fail and to let the codec fail after a
number of calls, and it keeps a record of what its operations report.
-/

open Versioned

/-- The accesses of a transaction that can be made to fail. -/
inductive Access where
  | get
  | set
  | delete
  deriving Repr, DecidableEq

/-- A fault: accesses of one kind fail, to one key or to any. -/
structure Fault where
  access : Access
  key : Option Bytes
  deriving Repr, DecidableEq

/-- How many more calls of the codec succeed; no number is no limit. -/
structure Allowance where
  encodes : Option Nat
  decodes : Option Nat
  deriving Repr, DecidableEq

/-- An open transaction with its faults. -/
structure OpenTransaction where
  transaction : Transaction
  faults : List Fault
  deriving Repr

/-- A call that reached a transaction or one of its cursors. -/
inductive Operation where
  | get (key : Bytes)
  | set (key : Bytes)
  | delete (key : Bytes)
  | seek (key : Bytes)
  | next
  deriving Repr, DecidableEq

/-- A question put to a schema, with the number of criteria it was about. -/
inductive Consultation where
  | judged (typeName : String) (criteria : Nat) (candidate : Candidate Member)
  | inspected (criteria : Nat)

/-- What operations have reported, latest first. -/
structure Reports where
  log : List LogEvent
  consultations : List Consultation
  operations : List Operation

end SecondaryIndex.Session

namespace SecondaryIndex

/-- The store of a session, its open transactions, its limits and its reports. -/
structure Session where
  store : Versioned.Store
  transactions : OrderedMap String Session.OpenTransaction
  allowance : Session.Allowance
  reports : Session.Reports

end SecondaryIndex

namespace SecondaryIndex.Session

namespace Access

/-- The name of an access. -/
def name :
    Access → String
  | .get =>
      "get"
  | .set =>
      "set"
  | .delete =>
      "delete"

end Access

namespace Fault

/-- Whether the fault lets an access to a key fail. -/
def strikes
    (access : Access)
    (key : Bytes)
    (fault : Fault) :
    Bool :=
  fault.access = access && fault.key.all (· = key)

end Fault

namespace OpenTransaction

/-- The failure of an access, if a fault strikes it. -/
def failure?
    (access : Access)
    (key : Bytes)
    (opened : OpenTransaction) :
    Option StoreFailure :=
  if opened.faults.any (Fault.strikes access key) then
    some ⟨s!"injected {access.name} failure"⟩
  else
    none

end OpenTransaction

namespace Operation

/-- The text of a call. -/
def line :
    Operation → String
  | .get key =>
      "get " ++ Text.Hex.encode key
  | .set key =>
      "set " ++ Text.Hex.encode key
  | .delete key =>
      "delete " ++ Text.Hex.encode key
  | .seek key =>
      "seek " ++ Text.Hex.encode key
  | .next =>
      "next"

end Operation

namespace Reports

/-- Nothing reported. -/
def none :
    Reports :=
  ⟨[], [], []⟩

end Reports

/-- A session on an empty store. -/
def start :
    Session where
  store :=
    .empty
  transactions :=
    .empty
  allowance :=
    ⟨Option.none, Option.none⟩
  reports :=
    .none

/-- Keep a call on record. -/
def recordOperation
    (operation : Operation) :
    StateM Session Unit :=
  modify fun session =>
    { session with
      reports :=
        { session.reports with operations := operation :: session.reports.operations } }

/-- Keep a log event on record. -/
def recordLog
    (event : LogEvent) :
    StateM Session Unit :=
  modify fun session =>
    { session with
      reports := { session.reports with log := event :: session.reports.log } }

/-- Keep a question to a schema on record. -/
def recordConsultation
    (consultation : Consultation) :
    StateM Session Unit :=
  modify fun session =>
    { session with
      reports :=
        { session.reports with
          consultations := consultation :: session.reports.consultations } }

/-- Keep a report of an operation on record. -/
def record :
    Event Member (Criterion Member) → StateM Session Unit
  | .logged event =>
      recordLog event
  | .judged typeName criteria candidate =>
      recordConsultation (.judged typeName criteria.length candidate)
  | .inspected criteria =>
      recordConsultation (.inspected criteria.length)
  | .advanced =>
      recordOperation .next

/-- Put a transaction in the place of the one of its name. -/
def replaceTransaction
    (name : String)
    (opened : OpenTransaction)
    (session : Session) :
    Session :=
  { session with transactions := session.transactions.insert name opened }

end SecondaryIndex.Session
