import SecondaryIndex.Pattern.CharSet

namespace SecondaryIndex.Pattern

/-!
# Pattern expressions

An expression keeps what a pattern writes: its groups, and the sequences and
alternatives that have two or more members.  How deep an expression is nested
counts every group, repetition, sequence and choice on the way to the innermost
part, and the levels inside bracketed classes.
-/

/-- A condition on a position between two characters. -/
inductive Assertion where
  | textStart
  | textEnd
  | lineStart
  | lineEnd
  | wordBoundary
  | noWordBoundary
  | wordStart
  | wordEnd
  deriving Repr, DecidableEq

namespace Assertion

/-- Whether a condition holds between the characters before and after a position. -/
def holds :
    Assertion → Option Char → Option Char → Bool
  | .textStart, before, _ =>
      before.isNone
  | .textEnd, _, after =>
      after.isNone
  | .lineStart, before, _ =>
      before.all (· = '\n')
  | .lineEnd, _, after =>
      after.all (· = '\n')
  | .wordBoundary, before, after =>
      before.any Text.isWordChar != after.any Text.isWordChar
  | .noWordBoundary, before, after =>
      before.any Text.isWordChar == after.any Text.isWordChar
  | .wordStart, before, after =>
      !before.any Text.isWordChar && after.any Text.isWordChar
  | .wordEnd, before, after =>
      before.any Text.isWordChar && !after.any Text.isWordChar

end Assertion

/--
How often a repetition asks for its body: at least, and at most if there is a
bound.  A greedy repetition tries more rounds before fewer.
-/
structure Repetition where
  least : Nat
  most : Option Nat
  greedy : Bool
  deriving Repr, DecidableEq

/--
What a pattern asks of a piece of text.  A set comes with the depth of the
brackets that write it, and a group with its number if it captures.
-/
inductive Expr where
  | empty
  | chars (set : CharSet) (nesting : Nat)
  | assertion (condition : Assertion)
  | group (number : Option Nat) (body : Expr)
  | repeated (body : Expr) (times : Repetition)
  | sequence (items : List Expr)
  | alternatives (branches : List Expr)
  deriving Repr

namespace Expr

/-- The expression of the items of a sequence. -/
def ofItems :
    List Expr → Expr
  | [] =>
      .empty
  | [item] =>
      item
  | items =>
      .sequence items

/-- The expression of the branches of a choice. -/
def ofBranches :
    List Expr → Expr
  | [branch] =>
      branch
  | branches =>
      .alternatives branches

mutual

/-- How many levels an expression has around its innermost part. -/
def depth :
    Expr → Nat
  | .empty =>
      0
  | .chars _ nesting =>
      nesting
  | .assertion _ =>
      0
  | .group _ body =>
      body.depth + 1
  | .repeated body _ =>
      body.depth + 1
  | .sequence items =>
      greatestDepth items + 1
  | .alternatives branches =>
      greatestDepth branches + 1

/-- The greatest depth among expressions. -/
def greatestDepth :
    List Expr → Nat
  | [] =>
      0
  | expr :: rest =>
      max expr.depth (greatestDepth rest)

end

end Expr

end SecondaryIndex.Pattern
