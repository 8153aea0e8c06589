import SecondaryIndex.Event
import SecondaryIndex.Versioned.Store

namespace SecondaryIndex.Versioned

/-!
# Committing a transaction

The first committer wins.  A transaction is refused if a commit that its
snapshot does not show wrote one of its keys; otherwise all its writes get the
next stamp at once.  Write sets that no open snapshot can conflict with any
more are forgotten afterwards.
-/

/-- The keys on which a commit was refused, once for each later commit that wrote them. -/
structure Conflict where
  keys : List Bytes
  deriving Repr, DecidableEq

namespace Conflict

/-- The text of a refusal. -/
def message
    (conflict : Conflict) :
    String :=
  s!"transaction write conflict on {conflict.keys.length} key(s)"

end Conflict

/-- What a commit has made visible, and under which stamp. -/
structure Publication where
  stamp : Nat
  writes : OrderedMap Bytes (Option Bytes)
  deriving Repr

namespace Publication

/-- The log events of a commit, one for each key. -/
def events
    (publication : Publication) :
    List LogEvent :=
  publication.writes.entries.map fun write =>
    .published write.1 publication.stamp write.2.isNone

end Publication

namespace Store

/-- The written keys that commits after the snapshot also wrote. -/
def conflicts
    (store : Store)
    (transaction : Transaction) :
    List Bytes :=
  let later := store.recent.entries.filter fun commit => transaction.snapshot < commit.1
  later.flatMap fun commit =>
    commit.2.filter fun key => (transaction.writes.find? key).isSome

/-- Give all writes a stamp and move the clock to it. -/
def publish
    (store : Store)
    (publication : Publication) :
    Store :=
  { store with
    histories :=
      publication.writes.entries.foldl
        (fun histories write =>
          histories.insert write.1
            (History.push publication.stamp write.2 (histories.findD write.1 [])))
        store.histories
    clock := publication.stamp
    recent := store.recent.insert publication.stamp publication.writes.keys }

/-- Forget the write sets that every open snapshot shows. -/
def prune
    (store : Store) :
    Store :=
  let horizon := store.readers.keys.head?.getD store.clock
  { store with recent := store.recent.filterKeys fun stamp => nextStamp horizon ≤ stamp }

/--
End a transaction by committing it.  Without writes there is nothing to publish
and nothing to refuse; its snapshot is let go of in any case.
-/
def commit
    (store : Store)
    (transaction : Transaction) :
    Except Conflict (Option Publication) × Store :=
  let conflicts := store.conflicts transaction
  if transaction.writes.isEmpty then
    (.ok none, store.release transaction.snapshot)
  else if conflicts.isEmpty then
    let publication := ⟨nextStamp store.clock, transaction.writes⟩
    (.ok (some publication),
      (store.publish publication).prune.release transaction.snapshot)
  else
    (.error ⟨conflicts⟩, store.release transaction.snapshot)

end Store

end SecondaryIndex.Versioned
