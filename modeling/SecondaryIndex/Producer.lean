import SecondaryIndex.Environment

namespace SecondaryIndex

/-!
# Producers of candidate keys

A producer hands out candidate keys in batches until it has no more.  It is
driven with the entries that lie ahead of a cursor, and gives back those that
lie ahead of it afterwards.  A producer need not come to an end; a finite one
has a measure of what remains, so a caller can take everything it has.
-/

/-- What one pull hands out: some keys, or the word that there are no more. -/
inductive Pull where
  | batch (keys : List Bytes)
  | finished
  deriving Repr, DecidableEq

/-- What a pull ends with: its outcome, the producer after it and the entries ahead. -/
structure Pulled (π : Type) where
  outcome : Except IndexError Pull
  producer : π
  ahead : List Entry

/-- A way to pull, for a producer in a state `π` that works on a state `σ`. -/
abbrev Producer (σ π : Type) :=
  π → List Entry → StateM σ (Pulled π)

/-- How far a producer is from its end, most significant part first. -/
structure Remaining where
  stages : Nat
  entries : Nat
  keys : Nat
  deriving Repr, DecidableEq

namespace Remaining

/-- Less remains than before. -/
def Before
    (later earlier : Remaining) :
    Prop :=
  later.stages < earlier.stages ∨
    later.stages = earlier.stages ∧
      (later.entries < earlier.entries ∨
        later.entries = earlier.entries ∧ later.keys < earlier.keys)

/-- What remains together with some keys that wait outside. -/
def withKeys
    (remaining : Remaining)
    (count : Nat) :
    Remaining :=
  { remaining with keys := remaining.keys + count }

end Remaining

/--
A producer that comes to an end.  A pull that hands out keys brings it nearer:
when one of them has been used and the others are counted back in, less remains
than before.
-/
structure FiniteProducer (σ π : Type) where
  pull : Producer σ π
  remaining : π → List Entry → Remaining
  advances :
    ∀ (producer : π) (ahead : List Entry) (state : σ) (key : Bytes) (keys : List Bytes),
      (pull producer ahead state).1.outcome = .ok (.batch (key :: keys)) →
        ((remaining (pull producer ahead state).1.producer
          (pull producer ahead state).1.ahead).withKeys keys.length).Before
            (remaining producer ahead)

end SecondaryIndex
