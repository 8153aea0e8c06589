import Std.Data.HashMap

namespace SecondaryIndex.Pattern.Automaton

/-!
# Remembered states

States that would be equal are made once while they are remembered, and what is
forgotten is made again, so the memory has a share in the room of an automaton.
A memory has a number of places; where a state is kept follows from what it
holds, and it stays there until another state is kept at the same place.
-/

/-- A memory of states, each with what it holds and its number. -/
structure Memory where
  places : Nat
  kept : Std.HashMap Nat (List Nat × Nat)

namespace Memory

/-- A memory in which nothing is kept. -/
def empty
    (places : Nat) :
    Memory :=
  ⟨places, {}⟩

/-- Mix numbers into one word: each is joined by exclusive or, then multiplied by a prime. -/
def mix
    (content : List Nat) :
    UInt64 :=
  content.foldl (fun word value => (word ^^^ value.toUInt64) * 1099511628211)
    14695981039346656037

/-- The place of a state with the content given. -/
def place
    (memory : Memory)
    (content : List Nat) :
    Nat :=
  (mix content).toNat % memory.places

/-- The number of a state with the content given, if it is remembered. -/
def find?
    (memory : Memory)
    (content : List Nat) :
    Option Nat :=
  match memory.kept[memory.place content]? with
  | some (other, state) => if other = content then some state else none
  | none => none

/-- Keep a state. -/
def keep
    (memory : Memory)
    (content : List Nat)
    (state : Nat) :
    Memory :=
  { memory with kept := memory.kept.insert (memory.place content) (content, state) }

/-- What has just been kept is remembered. -/
theorem find?_keep
    {memory : Memory}
    {content : List Nat}
    {state : Nat} :
    (memory.keep content state).find? content = some state := by
  have same : (memory.keep content state).place content = memory.place content := rfl
  rw [find?, same, keep]
  simp

end Memory

end SecondaryIndex.Pattern.Automaton
