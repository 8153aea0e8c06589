import SecondaryIndex.Versioned.Commit
import SecondaryIndex.Versioned.Transaction

namespace SecondaryIndex.Versioned

/-!
# Interleaved transactions on one store

A world is a store with its open transactions and with the commits that have
been published so far.  Transactions are numbered in the order in which they are
opened.  Any number of them may be open at a time, and their steps follow one
another in any order; a step of a transaction that has ended does nothing.
-/

/-- A map with some writes laid over it. -/
def overlay
    (writes : OrderedMap Bytes (Option Bytes))
    (view : Bytes → Option Bytes) :
    Bytes → Option Bytes :=
  fun key => (writes.find? key).getD (view key)

/-- The map that some publications, oldest first, leave of the empty one. -/
def committed
    (publications : List Publication) :
    Bytes → Option Bytes :=
  publications.foldl (fun view publication => overlay publication.writes view) fun _ => none

/-- A store, its transactions by number, and all that has been published, oldest first. -/
structure World where
  store : Store
  transactions : List (Option Transaction)
  published : List Publication

namespace World

/-- The empty store before any transaction. -/
def start :
    World :=
  ⟨.empty, [], []⟩

/-- The transaction of a number, as long as it is open. -/
def transaction?
    (world : World)
    (number : Nat) :
    Option Transaction :=
  world.transactions[number]?.join

/-- Open a transaction under the next number. -/
def begin
    (world : World) :
    World :=
  let (transaction, store) := world.store.begin
  { world with
    store
    transactions := world.transactions ++ [some transaction] }

/-- Let an open transaction change its writes. -/
def revise
    (number : Nat)
    (change : Transaction → Transaction)
    (world : World) :
    World :=
  match world.transaction? number with
  | none =>
      world
  | some transaction =>
      { world with transactions := world.transactions.set number (some (change transaction)) }

/-- What a commit publishes, if anything. -/
def publication?
    (result : Except Conflict (Option Publication)) :
    Option Publication :=
  match result with
  | .ok publication => publication
  | .error _ => none

/-- End an open transaction by committing it. -/
def commit
    (number : Nat)
    (world : World) :
    World :=
  match world.transaction? number with
  | none =>
      world
  | some transaction =>
      let (result, store) := world.store.commit transaction
      { store
        transactions := world.transactions.set number none
        published := world.published ++ (publication? result).toList }

/-- End an open transaction by giving it up. -/
def rollback
    (number : Nat)
    (world : World) :
    World :=
  match world.transaction? number with
  | none =>
      world
  | some transaction =>
      { world with
        store := world.store.rollback transaction
        transactions := world.transactions.set number none }

end World

/-- A step of some transaction; those of an open one name its number. -/
inductive Step where
  | begin
  | set (number : Nat) (key value : Bytes)
  | delete (number : Nat) (key : Bytes)
  | commit (number : Nat)
  | rollback (number : Nat)
  deriving Repr, DecidableEq

namespace World

/-- Carry out a step. -/
def step
    (world : World) :
    Step → World
  | .begin =>
      world.begin
  | .set number key value =>
      world.revise number fun transaction => transaction.set key value
  | .delete number key =>
      world.revise number fun transaction => transaction.delete key
  | .commit number =>
      world.commit number
  | .rollback number =>
      world.rollback number

/-- Carry out steps in order. -/
def steps
    (world : World)
    (steps : List Step) :
    World :=
  steps.foldl step world

end World

/-- The world after some steps on an empty store. -/
def run
    (steps : List Step) :
    World :=
  World.start.steps steps

end SecondaryIndex.Versioned
