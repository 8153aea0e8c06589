import SecondaryIndex.Member.Record
import SecondaryIndex.RecordLayer
import SecondaryIndex.Scan
import SecondaryIndex.Versioned.Commit

namespace SecondaryIndex.Session

/-!
# The answers of a session

Each step ends with an answer or with a failure.  The answer of a script has one
part for each of its moves, and a step in between is answered with its own
answer or failure.
-/

open Versioned

/-- Why a step failed. -/
inductive Failure where
  | index (error : IndexError)
  | store (failure : StoreFailure)
  | conflict (conflict : Conflict)
  | noPattern
  | unknownTransaction (name : String)
  | unknownLayout (number : Nat)
  | unknownSchema (number : Nat)
  | unknownQuery (number : Nat)
  | malformed (reason : String)
  deriving Repr, DecidableEq

/-- What a step answers. -/
inductive Answer where
  | done
  | missing
  | truth (value : Bool)
  | number (value : Nat)
  | text (text : String)
  | bytes (value : Option Bytes)
  | member (member : Option Member)
  | entry (entry : Option Entry)
  | entries (entries : List Entry)
  | postings (entries : List (Bytes × List Bytes))
  | path (path : AccessPath)
  | records (entries : List Entry) (error : Option IndexError)
  | search (path : AccessPath) (entries : List Entry) (error : Option IndexError)
  | pulled (pull : Pull)
  | error (error : Option IndexError)
  | failed (failure : Failure)
  | performed (answer : Answer)
  | script (answers : List Answer)

namespace Failure

/-- The failure of a record operation. -/
def ofRecordError :
    RecordError → Failure
  | .store failure =>
      .store failure
  | .index error =>
      .index error

end Failure

end SecondaryIndex.Session
