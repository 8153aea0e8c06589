import SecondaryIndex.Proofs.Outcome
import SecondaryIndex.Proofs.Versioned.World
import SecondaryIndex.Versioned.Access

namespace SecondaryIndex.Records

/-!
# Transactions on records

Records of several types live in one store under one key layout.  A transaction
inserts, updates and removes records, each time together with their entries.
Transactions interleave in any order; one in which an operation has failed is not
committed any more.
-/

open Versioned

/-- A type of records: its schema and how its records are stored. -/
structure RecordType where
  Record : Type
  Criterion : Type
  schema : Schema Record Criterion
  codec : Codec Record

/-- The key layout, the types of records, and how posting lists are stored. -/
structure Catalog (ι : Type) where
  layout : KeyLayout
  postings : Codec PostingList
  types : ι → RecordType

namespace Catalog

variable {ι : Type}

/-- The key of a record of a type. -/
def recordKey
    (catalog : Catalog ι)
    (type : ι)
    (primary : Bytes) :
    Except IndexError Bytes :=
  catalog.layout.recordKey (catalog.types type).schema.typeName primary

/-- The services of a transaction to operations on records of a type. -/
abbrev environment
    (catalog : Catalog ι)
    (store : Store)
    (type : ι) :
    Environment Transaction (catalog.types type).Record (catalog.types type).Criterion :=
  Transaction.environment store catalog.postings (catalog.types type).codec

/--
The layout has been checked, the types go by different names, and whatever is
written as bytes is read back as it was.
-/
structure Lawful
    (catalog : Catalog ι) :
    Prop where
  layout : ∃ options, KeyLayout.ofOptions options = .ok catalog.layout
  names :
    ∀ {type other : ι},
      (catalog.types type).schema.typeName = (catalog.types other).schema.typeName → type = other
  postings : catalog.postings.RoundTrips
  records : ∀ type, (catalog.types type).codec.RoundTrips

end Catalog

/-- An operation on the record of a type and of a primary key. -/
inductive Operation {ι : Type} (catalog : Catalog ι) where
  | insert (type : ι) (primary : Bytes) (record : (catalog.types type).Record)
  | update (type : ι) (primary : Bytes) (record : (catalog.types type).Record)
  | remove (type : ι) (primary : Bytes)

/-- Carry out an operation in a transaction; a key is inserted only where it has no record. -/
def Operation.action
    {ι : Type}
    {catalog : Catalog ι}
    (store : Store) :
    Operation catalog → RecordAction Transaction Unit
  | .insert type primary record => do
      let key ← RecordAction.ofIndex (Action.ofExcept (catalog.recordKey type primary))
      match ← RecordAction.ofStore ((catalog.environment store type).get key) with
      | some _ =>
          return ()
      | none =>
          (catalog.environment store type).insertRecord catalog.layout
            (catalog.types type).schema key record
  | .update type primary record => do
      let key ← RecordAction.ofIndex (Action.ofExcept (catalog.recordKey type primary))
      let _ ← (catalog.environment store type).updateRecord catalog.layout
        (catalog.types type).schema key record
      return ()
  | .remove type primary => do
      let key ← RecordAction.ofIndex (Action.ofExcept (catalog.recordKey type primary))
      let _ ← (catalog.environment store type).removeRecord catalog.layout
        (catalog.types type).schema key
      return ()

/-- A world with the numbers of the transactions in which an operation has failed. -/
structure RecordWorld extends World where
  broken : List Nat

/-- A step of a transaction on records. -/
inductive RecordStep {ι : Type} (catalog : Catalog ι) where
  | begin
  | operate (number : Nat) (operation : Operation catalog)
  | commit (number : Nat)
  | rollback (number : Nat)

namespace RecordWorld

variable
  {ι : Type}
  {catalog : Catalog ι}

/-- Carry out an operation in an open transaction; if it fails, the transaction is broken. -/
def operate
    (world : RecordWorld)
    (number : Nat)
    (operation : Operation catalog) :
    RecordWorld :=
  match world.transaction? number with
  | none =>
      world
  | some transaction =>
      { world.revise number fun transaction =>
          (outcome (operation.action world.store) transaction).2 with
        broken :=
          match (outcome (operation.action world.store) transaction).1 with
          | .ok _ => world.broken
          | .error _ => number :: world.broken }

/-- Carry out a step; a broken transaction is not committed. -/
def step
    (world : RecordWorld) :
    RecordStep catalog → RecordWorld
  | .begin =>
      { world.begin with broken := world.broken }
  | .operate number operation =>
      world.operate number operation
  | .commit number =>
      if number ∈ world.broken then
        world
      else
        { world.toWorld.commit number with broken := world.broken }
  | .rollback number =>
      { world.toWorld.rollback number with broken := world.broken }

end RecordWorld

/-- The world after some steps on an empty store. -/
def recordRun
    {ι : Type}
    {catalog : Catalog ι}
    (steps : List (RecordStep catalog)) :
    RecordWorld :=
  steps.foldl RecordWorld.step ⟨World.start, []⟩

end SecondaryIndex.Records
