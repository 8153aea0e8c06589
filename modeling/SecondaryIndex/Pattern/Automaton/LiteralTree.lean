import SecondaryIndex.Pattern.Automaton.Room

namespace SecondaryIndex.Pattern.Automaton

/-!
# The states of a choice between literals

The bytes of the literals form a tree in which literals that begin alike share a
beginning.  Where a literal ends inside the tree a mark parts the edges that
were there before from those added later, because an earlier literal is tried
first.  A node with edges is a fork: to one state for the edges of each run
between marks, and to the end for each mark.
-/

/--
A node of the tree, as the row of its edges and marks, the latest first.
-/
inductive LiteralTree where
  | bare
  | edge (byte : UInt8) (child siblings : LiteralTree)
  | mark (earlier : LiteralTree)
  deriving Repr, DecidableEq

namespace LiteralTree

/-- Whether no byte goes on from a node. -/
def isLeaf :
    LiteralTree → Bool
  | .bare =>
      true
  | .edge _ _ _ =>
      false
  | .mark earlier =>
      earlier.isLeaf

/-- The tree of one literal. -/
def ofBytes :
    List UInt8 → LiteralTree
  | [] =>
      .mark .bare
  | byte :: rest =>
      .edge byte (ofBytes rest) .bare

/-- Add a literal.  A second mark says nothing where no edge lies between. -/
def insert :
    LiteralTree → List UInt8 → LiteralTree
  | .bare, bytes =>
      ofBytes bytes
  | .mark earlier, byte :: rest =>
      .edge byte (ofBytes rest) (.mark earlier)
  | .mark earlier, [] =>
      if earlier.isLeaf then .mark earlier else .mark (.mark earlier)
  | .edge byte child siblings, [] =>
      .mark (.edge byte child siblings)
  | .edge byte child siblings, other :: rest =>
      if byte = other then
        .edge byte (child.insert rest) siblings
      else
        .edge byte child (siblings.insert (other :: rest))

/-- The room of the state for a run of edges, and of the branch that leads to it. -/
def runRoom :
    Nat → Room
  | 0 =>
      .zero
  | 1 =>
      (Room.plain 1).add (.branches 1)
  | edges =>
      (Room.choice edges).add (.branches 1)

/--
The room of the states below a fork and of its branches, given how many edges of
the run have been counted.
-/
def room
    (edges : Nat) :
    LiteralTree → Room
  | .bare =>
      runRoom edges
  | .mark earlier =>
      ((runRoom edges).add (.branches 1)).add (earlier.room 0)
  | .edge _ child siblings =>
      let below := if child.isLeaf then .zero else (Room.plain 1).add (child.room 0)
      below.add (siblings.room (edges + 1))

/-- The room of all states: the end, the fork at the root and what lies below. -/
def totalRoom
    (tree : LiteralTree) :
    Room :=
  (Room.plain 2).add (tree.room 0)

/-- The tree of literals, added in order. -/
def ofLiterals
    (literals : List (List UInt8)) :
    LiteralTree :=
  literals.foldl insert .bare

/-- Whether a literal ends at a mark of the tree. -/
def contains :
    LiteralTree → List UInt8 → Bool
  | .bare, _ =>
      false
  | .mark _, [] =>
      true
  | .mark earlier, bytes =>
      earlier.contains bytes
  | .edge _ _ siblings, [] =>
      siblings.contains []
  | .edge byte child siblings, other :: rest =>
      (byte = other && child.contains rest) || siblings.contains (other :: rest)

theorem contains_ofBytes
    {bytes other : List UInt8} :
    (ofBytes bytes).contains other = decide (other = bytes) := by
  induction bytes generalizing other with
  | nil =>
      cases other <;> simp [ofBytes, contains]
  | cons byte rest inductionHypothesis =>
      cases other with
      | nil => simp [ofBytes, contains]
      | cons head tail =>
          by_cases same : byte = head
          · simp [ofBytes, contains, inductionHypothesis, same]
          · simp [ofBytes, contains, same, Ne.symm same]

/-- A tree contains what is inserted and what it contained before. -/
theorem contains_insert
    {tree : LiteralTree}
    {bytes other : List UInt8} :
    (tree.insert bytes).contains other = (decide (other = bytes) || tree.contains other) := by
  induction tree generalizing bytes other with
  | bare =>
      simp [insert, contains, contains_ofBytes]
  | mark earlier _ =>
      cases bytes with
      | nil =>
          rw [insert]
          split <;> cases other <;> simp [contains]
      | cons byte rest =>
          cases other with
          | nil => simp [insert, contains]
          | cons head tail =>
              by_cases same : byte = head
              · simp [insert, contains, contains_ofBytes, same]
              · simp [insert, contains, same, Ne.symm same]
  | edge byte child siblings childHypothesis siblingsHypothesis =>
      cases bytes with
      | nil =>
          cases other <;> simp [insert, contains]
      | cons head tail =>
          rw [insert]
          split
          next same =>
            subst same
            cases other with
            | nil => simp [contains]
            | cons first rest =>
                by_cases alike : byte = first
                · simp [contains, childHypothesis, alike, Bool.or_assoc]
                · simp [contains, alike, Ne.symm alike]
          next differs =>
            cases other with
            | nil => simp [contains, siblingsHypothesis]
            | cons first rest =>
                rw [contains, contains, siblingsHypothesis]
                cases decide (first :: rest = head :: tail) <;> simp

end LiteralTree

end SecondaryIndex.Pattern.Automaton
