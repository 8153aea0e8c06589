import SecondaryIndex.OrderedMap
import SecondaryIndex.Versioned.History

namespace SecondaryIndex.Versioned

/-!
# A store with snapshots

The store keeps the history of every key and a clock that numbers the commits.
It counts the open snapshots, and remembers which keys recent commits wrote for
as long as a snapshot is open that does not show them.
-/

/-- The last stamp that the clock can give, the largest number of eight bytes. -/
def lastStamp :
    Nat :=
  18446744073709551615

/-- The stamp after another; the clock stops at the last one. -/
def nextStamp
    (stamp : Nat) :
    Nat :=
  min (stamp + 1) lastStamp

/-- Histories, clock, open snapshots by stamp, and the keys of recent commits by stamp. -/
structure Store where
  histories : OrderedMap Bytes History
  clock : Nat
  readers : OrderedMap Nat Nat
  recent : OrderedMap Nat (List Bytes)
  deriving Repr

/-- A snapshot together with the writes that have not been committed. -/
structure Transaction where
  snapshot : Nat
  writes : OrderedMap Bytes (Option Bytes)
  deriving Repr

namespace Store

/-- The store in which nothing has been committed. -/
def empty :
    Store where
  histories :=
    .empty
  clock :=
    0
  readers :=
    .empty
  recent :=
    .empty

/-- The value of a key in a snapshot. -/
def valueAt
    (store : Store)
    (snapshot : Nat)
    (key : Bytes) :
    Option Bytes :=
  History.visible snapshot (store.histories.findD key [])

/-- Open a transaction on what has been committed so far. -/
def begin
    (store : Store) :
    Transaction × Store :=
  (⟨store.clock, .empty⟩,
    { store with
      readers := store.readers.insert store.clock (store.readers.findD store.clock 0 + 1) })

/-- Let go of one snapshot. -/
def release
    (snapshot : Nat)
    (store : Store) :
    Store :=
  match store.readers.find? snapshot with
  | none =>
      store
  | some count =>
      if count ≤ 1 then
        { store with readers := store.readers.erase snapshot }
      else
        { store with readers := store.readers.insert snapshot (count - 1) }

/-- Give up a transaction with all its writes. -/
def rollback
    (transaction : Transaction)
    (store : Store) :
    Store :=
  store.release transaction.snapshot

end Store

end SecondaryIndex.Versioned
