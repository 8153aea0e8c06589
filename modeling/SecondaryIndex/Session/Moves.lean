import SecondaryIndex.Session.Commands
import SecondaryIndex.Versioned.Cursor

namespace SecondaryIndex.Session

/-!
# Moving cursors and open queries

Cursors and open queries of a script go by number.  A cursor that has not been
moved before stands nowhere.
-/

open Versioned

/-- Move a cursor of a transaction. -/
def moveCursor
    (name : String)
    (cursors : OrderedMap Nat Cursor)
    (move : CursorMove) :
    Attempt (Answer × OrderedMap Nat Cursor) := do
  let current ← opened name
  let store := (← get).store
  match move with
  | .seek cursor key =>
      recordOperation (.seek key)
      let moved := Cursor.seek store current.transaction key
      return (.entry moved.current, cursors.insert cursor moved)
  | .next cursor =>
      recordOperation .next
      let moved :=
        (cursors.findD cursor .unpositioned).advance store current.transaction
      return (.entry moved.current, cursors.insert cursor moved)
  | .item cursor =>
      return (.entry (cursors.findD cursor .unpositioned).current, cursors)
  | .valid cursor lead =>
      return (.truth ((cursors.findD cursor .unpositioned).validFor lead), cursors)
  | .drop cursor =>
      return (.done, cursors.erase cursor)

/-- The open queries of a script. -/
abbrev OpenQueries :=
  OrderedMap Nat (QueryStream Member (Criterion Member))

/-- Move an open query of a transaction. -/
def moveQuery
    (configuration : Configuration)
    (scope : Scope)
    (queries : List (Query (Criterion Member)))
    (started : OpenQueries)
    (move : QueryMove) :
    Attempt (Answer × OpenQueries) := do
  let environment := environment scope.transaction
  match move with
  | .start id number =>
      let (layout, schema) ← configured configuration scope
      let query ← Attempt.ofOption (.unknownQuery number) queries[number]?
      match ← (environment.openQuery layout schema query).run with
      | .ok opened => return (.path opened.scan.path, started.insert id opened)
      | .error error => return (.failed (.index error), started)
  | .act id action =>
      let query ← Attempt.ofOption (.unknownQuery id) (started.find? id)
      let (answer, stream) ←
        actOn environment (query.scan.producer environment) query.stream action
      return (answer, started.insert id { query with stream })
  | .intoError id =>
      let query ← Attempt.ofOption (.unknownQuery id) (started.find? id)
      return (.error query.stream.failure, started.erase id)
  | .drop id =>
      return (.done, started.erase id)

end SecondaryIndex.Session
