import SecondaryIndex.Versioned.Search

namespace SecondaryIndex.Versioned

/-!
# Cursors over a transaction

A cursor stands on an entry that its transaction sees, or nowhere.  It holds a
copy of that entry only, so each move looks at the store as it is then.
-/

/-- A cursor: the entry it stands on, if any. -/
structure Cursor where
  current : Option Entry
  deriving Repr, DecidableEq

namespace Cursor

/-- A cursor that has not been positioned. -/
def unpositioned :
    Cursor :=
  ⟨none⟩

/-- Move to the first entry at or behind a key. -/
def seek
    (store : Store)
    (transaction : Transaction)
    (key : Bytes) :
    Cursor :=
  ⟨transaction.firstWithin store (.atLeast key)⟩

/-- Move to the next entry; a cursor that stands nowhere stays there. -/
def advance
    (store : Store)
    (transaction : Transaction)
    (cursor : Cursor) :
    Cursor :=
  match cursor.current with
  | some entry => ⟨transaction.firstWithin store (.above entry.1)⟩
  | none => unpositioned

/-- Whether the cursor stands on an entry under a lead. -/
def validFor
    (lead : Bytes)
    (cursor : Cursor) :
    Bool :=
  cursor.current.any fun entry => entry.1.startsWith lead

end Cursor

end SecondaryIndex.Versioned
