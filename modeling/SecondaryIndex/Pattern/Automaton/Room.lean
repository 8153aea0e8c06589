namespace SecondaryIndex.Pattern.Automaton

/-!
# The room that an automaton takes

A state takes a fixed number of bytes.  What some states hold besides takes more:
a choice of bytes its transitions, and a fork its branches.  States are numbered
in the order in which they are made.  Making stops as soon as the limit is
passed, so a pattern with a huge count is refused without counting that far.
-/

/-- A number of states and the bytes that they take beyond their own. -/
structure Room where
  states : Nat
  extra : Nat
  deriving Repr, DecidableEq

namespace Room

/-- The bytes of one state. -/
def stateBytes :
    Nat :=
  32

/-- The bytes of one transition in a choice of bytes. -/
def transitionBytes :
    Nat :=
  8

/-- The bytes of one branch of a fork. -/
def branchBytes :
    Nat :=
  4

/-- The bytes that an automaton may take. -/
def limit :
    Nat :=
  10 * 1024 * 1024

/-- No room. -/
def zero :
    Room :=
  ⟨0, 0⟩

/-- The room of two parts together. -/
def add
    (left right : Room) :
    Room :=
  ⟨left.states + right.states, left.extra + right.extra⟩

/-- All bytes of the room. -/
def bytes
    (room : Room) :
    Nat :=
  room.states * stateBytes + room.extra

/-- The room of states that hold nothing besides. -/
def plain
    (count : Nat) :
    Room :=
  ⟨count, 0⟩

/-- The room of a state with a choice of bytes. -/
def choice
    (transitions : Nat) :
    Room :=
  ⟨1, transitions * transitionBytes⟩

/-- The room of further branches of a fork. -/
def branches
    (count : Nat) :
    Room :=
  ⟨0, count * branchBytes⟩

theorem bytes_add
    {left right : Room} :
    (left.add right).bytes = left.bytes + right.bytes := by
  simp only [add, bytes, Nat.add_mul]
  omega

end Room

/-- Making a part of an automaton: it uses room, and fails where the limit is passed. -/
abbrev Builder :=
  StateT Room Option

namespace Builder

/-- Use room, if the limit allows it. -/
def take
    (room : Room) :
    Builder Unit :=
  fun used =>
    let total := used.add room
    if total.bytes ≤ Room.limit then some ((), total) else none

/-- Make a state with a choice of bytes, or without one, and answer its number. -/
def makeState
    (transitions : Nat) :
    Builder Nat := do
  let used ← get
  take (.choice transitions)
  return used.states

/-- Whether a part can be made. -/
def succeeds
    {Result : Type}
    (builder : Builder Result) :
    Bool :=
  (builder.run .zero).isSome

end Builder

end SecondaryIndex.Pattern.Automaton
