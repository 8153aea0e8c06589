import SecondaryIndex.Versioned.Store

namespace SecondaryIndex.Versioned

/-!
# What a transaction sees

A transaction reads its own writes first and its snapshot behind them.  The
entries it sees are listed by merging the two in key order: a write hides the
committed value of its key, and a deletion on either side hides the key.
-/

/-- Where a walk over the keys begins: at a key or behind it. -/
inductive Bound where
  | atLeast (key : Bytes)
  | above (key : Bytes)
  deriving Repr, DecidableEq

namespace Bound

/-- Whether a key lies within the bound. -/
def admits
    (key : Bytes) :
    Bound → Bool
  | .atLeast least =>
      ¬ key < least
  | .above last =>
      last < key

end Bound

/-- The entry of a key that has a value. -/
def live
    (key : Bytes)
    (value : Option Bytes) :
    List Entry :=
  match value with
  | some value => [(key, value)]
  | none => []

/-- The entries of a row of writes. -/
def liveWrites
    (writes : List (Bytes × Option Bytes)) :
    List Entry :=
  writes.flatMap fun write => live write.1 write.2

/-- The entries of histories in a snapshot with a row of writes laid over them. -/
def merge
    (snapshot : Nat) :
    List (Bytes × History) → List (Bytes × Option Bytes) → List Entry
  | [], writes =>
      liveWrites writes
  | (key, history) :: histories, writes =>
      let earlier := writes.takeWhile fun write => write.1 < key
      let later := writes.dropWhile fun write => write.1 < key
      liveWrites earlier ++
        match later with
        | [] =>
            live key (history.visible snapshot) ++ merge snapshot histories []
        | write :: others =>
            if write.1 = key then
              live key write.2 ++ merge snapshot histories others
            else
              live key (history.visible snapshot) ++
                merge snapshot histories (write :: others)

namespace Transaction

/-- The value of a key: the last write of the transaction, or else its snapshot's value. -/
def get
    (store : Store)
    (transaction : Transaction)
    (key : Bytes) :
    Option Bytes :=
  match transaction.writes.find? key with
  | some value => value
  | none => store.valueAt transaction.snapshot key

/-- Write a value. -/
def set
    (transaction : Transaction)
    (key value : Bytes) :
    Transaction :=
  { transaction with writes := transaction.writes.insert key (some value) }

/-- Delete a key, whether or not it has a value. -/
def delete
    (transaction : Transaction)
    (key : Bytes) :
    Transaction :=
  { transaction with writes := transaction.writes.insert key none }

/-- The entries within a bound, in key order. -/
def entriesWithin
    (store : Store)
    (transaction : Transaction)
    (bound : Bound) :
    List Entry :=
  merge transaction.snapshot
    (store.histories.entries.dropWhile fun history => !bound.admits history.1)
    (transaction.writes.entries.dropWhile fun write => !bound.admits write.1)

/-- All entries, in key order. -/
def entries
    (store : Store)
    (transaction : Transaction) :
    List Entry :=
  transaction.entriesWithin store (.atLeast [])

/-- The entries under a lead, in key order. -/
def entriesUnder
    (store : Store)
    (transaction : Transaction)
    (lead : Bytes) :
    List Entry :=
  (transaction.entriesWithin store (.atLeast lead)).takeWhile fun entry =>
    entry.1.startsWith lead

theorem get_set
    (store : Store)
    (transaction : Transaction)
    (key other value : Bytes) :
    (transaction.set key value).get store other =
      if other = key then some value else transaction.get store other := by
  by_cases same : other = key <;> simp [get, set, OrderedMap.find?_insert, same]

theorem get_delete
    (store : Store)
    (transaction : Transaction)
    (key other : Bytes) :
    (transaction.delete key).get store other =
      if other = key then none else transaction.get store other := by
  by_cases same : other = key <;> simp [get, delete, OrderedMap.find?_insert, same]

end Transaction

end SecondaryIndex.Versioned
