import SecondaryIndex.Pattern.Automaton.Memory
import SecondaryIndex.Pattern.Automaton.Room
import SecondaryIndex.Pattern.NormalForm
import SecondaryIndex.Text.Utf8Ranges

namespace SecondaryIndex.Pattern.Automaton

/-!
# The states of a character set

An automaton reads bytes, so a set becomes states for the encodings of its
characters.  Read forward, the encodings form a tree: encodings that begin alike
share a beginning, and subtrees that are equal are made once.  Read backward, a
fork leads to one chain of states for each block of encodings, and chains that
end alike share their ends.
-/

open Text (ByteBlock)

/-- A builder that remembers states. -/
abbrev SharingBuilder :=
  StateT Memory Builder

/-- The number of a state with the content given, made only if none is remembered. -/
def share
    (content : List Nat)
    (transitions : Nat) :
    SharingBuilder Nat := do
  match (← get).find? content with
  | some state =>
      return state
  | none =>
      let state ← Builder.makeState transitions
      modify fun memory => memory.keep content state
      return state

/--
Blocks by the range that they begin with, each group with what follows that
range.  Neighbours that begin alike are one group; an empty block is in none.
-/
def groups :
    List ByteBlock → List ((Nat × Nat) × List ByteBlock)
  | [] =>
      []
  | [] :: blocks =>
      groups blocks
  | (range :: tail) :: blocks =>
      match groups blocks with
      | [] =>
          [(range, [tail])]
      | (other, tails) :: others =>
          if range = other then
            (other, tail :: tails) :: others
          else
            (range, [tail]) :: (other, tails) :: others

/--
The state that reads the rest of an encoding forward: from it the blocks lead to
the target.  No block has more ranges than the first number says.
-/
def forwardState
    (target : Nat) :
    Nat → List ByteBlock → SharingBuilder Nat
  | 0, _ =>
      return target
  | length + 1, blocks =>
      match groups blocks with
      | [] =>
          return target
      | groups => do
          let transitions ← groups.mapM fun ((low, high), tails) => do
            let next ← forwardState target length tails
            return [low, high, next]
          share transitions.flatten transitions.length

/-- The state that reads a block backward and leads to the target. -/
def backwardState
    (target : Nat)
    (block : ByteBlock) :
    SharingBuilder Nat :=
  block.foldlM (fun next (low, high) => share [next, low, high] 0) target

/-- How many states are remembered at most while the states of a set are made. -/
def remembered :
    Direction → Nat
  | .forward =>
      10000
  | .backward =>
      1000

/-- Make the states of a set that has characters outside ASCII. -/
def encodedSet
    (set : CharSet) :
    Direction → Builder Unit
  | .forward => do
      let target ← Builder.makeState 0
      let blocks := ByteBlock.ofRanges set.ranges
      let _ ← (forwardState target ByteBlock.longest blocks).run (.empty (remembered .forward))
  | .backward => do
      Builder.take (.plain 1)
      let target ← Builder.makeState 0
      let chains := (ByteBlock.ofRanges set.ranges).forM fun block => do
        let _ ← backwardState target block
        Builder.take (.branches 1)
      let _ ← chains.run (.empty (remembered .backward))

/-- Make the states of a set. -/
def setStates
    (direction : Direction)
    (set : CharSet) :
    Builder Unit :=
  if set.isAscii then do
    Builder.take (.plain 1)
    Builder.take (.choice set.ranges.length)
  else
    encodedSet set direction

end SecondaryIndex.Pattern.Automaton
