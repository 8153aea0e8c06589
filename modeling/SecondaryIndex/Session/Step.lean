import SecondaryIndex.AccessPath
import SecondaryIndex.Member.Condition
import SecondaryIndex.Session.State

namespace SecondaryIndex.Session

/-!
# The steps of a session

A step works in a scope: the name of a transaction, and the numbers of a key
layout and of a schema.  Most steps are single commands.  A script moves several
cursors or several open queries of one transaction, and may have steps on other
transactions in between.  A step that cannot be read has no scope and does
nothing, but the steps behind it are carried out.
-/

/-- What a step works with. -/
structure Scope where
  transaction : String
  layout : Nat
  schema : Nat
  deriving Repr, DecidableEq

/-- The key of a record: the full key, or the primary key within its type. -/
inductive RecordRef where
  | full (key : Bytes)
  | primary (key : Bytes)
  deriving Repr, DecidableEq

/-- What can be asked of an open stream. -/
inductive StreamAction where
  | next
  | drain
  | error
  | close
  | state
  deriving Repr, DecidableEq

/-- What can be asked of a stream over a scripted producer. -/
inductive ScriptedAction where
  | act (action : StreamAction)
  | pulls
  deriving Repr, DecidableEq

/-- What can be done with one record. -/
inductive RecordCommand where
  | insert (member : Member)
  | store (member : Member)
  | update (member : Member)
  | remove
  | load
  | index (member : Member)
  | unindex (member : Member)
  | reindex (old new : Member)
  deriving Repr, DecidableEq

/-- A step that is one command. -/
inductive Command where
  | begin
  | commit
  | rollback
  | allow (allowance : Allowance)
  | fault (faults : List Fault)
  | get (key : Bytes)
  | put (key value : Bytes)
  | delete (key : Bytes)
  | dump (lead : Bytes)
  | record (key : RecordRef) (command : RecordCommand)
  | indexAnswers (index : String)
  | selectPath (conditions : Member.QueryConditions)
  | entries (index : String)
  | query (conditions : Member.QueryConditions)
  | pull (path : AccessPath) (conditions : Member.QueryConditions) (cursors : List Nat)
  | scripted (batches : List (List Bytes)) (failing : Bool) (script : List ScriptedAction)
  deriving Repr, DecidableEq

/-- A move of a numbered cursor; a cursor exists from its first move on. -/
inductive CursorMove where
  | seek (cursor : Nat) (key : Bytes)
  | next (cursor : Nat)
  | item (cursor : Nat)
  | valid (cursor : Nat) (lead : Bytes)
  | drop (cursor : Nat)
  deriving Repr, DecidableEq

/-- A move of a numbered open query. -/
inductive QueryMove where
  | start (id query : Nat)
  | act (id : Nat) (action : StreamAction)
  | intoError (id : Nat)
  | drop (id : Nat)
  deriving Repr, DecidableEq

/-- A move of a script, or a step of another transaction in between. -/
inductive ScriptItem (μ τ : Type) where
  | move (move : μ)
  | perform (step : τ)

/-- A step of a session; of one that cannot be read at most the transaction is known. -/
inductive Step where
  | command (scope : Scope) (command : Command)
  | cursors (scope : Scope) (script : List (ScriptItem CursorMove Step))
  | queries (scope : Scope) (conditions : List Member.QueryConditions)
      (script : List (ScriptItem QueryMove Step))
  | malformed (transaction : Option String) (reason : String)

namespace Step

/-- The name of the transaction that the step is about. -/
def transaction? :
    Step → Option String
  | .command scope _ =>
      some scope.transaction
  | .cursors scope _ =>
      some scope.transaction
  | .queries scope _ _ =>
      some scope.transaction
  | .malformed transaction _ =>
      transaction

end Step

end SecondaryIndex.Session
