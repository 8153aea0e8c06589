import SecondaryIndex.Pattern.Expr
import SecondaryIndex.Pattern.Positions

namespace SecondaryIndex.Pattern

/-!
# Where a pattern matches in a text

An expression takes the positions of a text where a match may begin to the
positions where such a match may end.  This says all about a pattern that is
only asked whether it occurs: groups and the greed of a repetition leave no
trace in it.  For one text the expression becomes a walk, in which every set and
every condition is replaced by the positions where it holds; a repetition
without an upper bound is settled after as many rounds as there are positions.
-/

/-- What an expression asks of the positions of one text. -/
inductive Walk where
  | stay
  | advance (sources : Positions)
  | pass (gates : Positions)
  | andThen (first second : Walk)
  | orElse (left right : Walk)
  | nowhere
  | rounds (body : Walk) (least more : Nat)
  deriving Repr, DecidableEq

namespace Walk

/-- The positions where a match that begins at one of the given positions may end. -/
def ends :
    Walk → Positions → Positions
  | .stay, starts =>
      starts
  | .advance sources, starts =>
      (starts.intersection sources).next
  | .pass gates, starts =>
      starts.intersection gates
  | .andThen first second, starts =>
      second.ends (first.ends starts)
  | .orElse left right, starts =>
      (left.ends starts).union (right.ends starts)
  | .nowhere, _ =>
      .none
  | .rounds body least more, starts =>
      Positions.saturate body.ends more (Positions.iterate body.ends least starts)

end Walk

namespace Expr

/-- The positions of a text whose next character belongs to a set. -/
def sources
    (text : Array Char)
    (set : CharSet) :
    Positions :=
  .below text.size fun position => text[position]?.any set.contains

/-- The positions of a text where a condition holds. -/
def gates
    (text : Array Char)
    (condition : Assertion) :
    Positions :=
  .below (text.size + 1) fun position =>
    condition.holds (if position = 0 then none else text[position - 1]?) text[position]?

theorem contains_sources
    {text : Array Char}
    {set : CharSet}
    {position : Nat} :
    (sources text set).contains position = text[position]?.any set.contains := by
  rw [sources, Positions.contains_below]
  by_cases inside : position < text.size
  · simp [inside]
  · simp [inside]

theorem contains_gates
    {text : Array Char}
    {condition : Assertion}
    {position : Nat}
    (inside : position ≤ text.size) :
    (gates text condition).contains position =
      condition.holds (if position = 0 then none else text[position - 1]?) text[position]? := by
  rw [gates, Positions.contains_below]
  simp [Nat.lt_succ_of_le inside]

mutual

/-- The walk of an expression in a text. -/
def walk
    (text : Array Char) :
    Expr → Walk
  | .empty =>
      .stay
  | .chars set _ =>
      .advance (sources text set)
  | .assertion condition =>
      .pass (gates text condition)
  | .group _ body =>
      walk text body
  | .repeated body times =>
      .rounds (walk text body) times.least
        (match times.most with
          | some most => most - times.least
          | none => text.size + 1)
  | .sequence items =>
      walkAll text items
  | .alternatives branches =>
      walkAny text branches

/-- The walk of expressions one after another. -/
def walkAll
    (text : Array Char) :
    List Expr → Walk
  | [] =>
      .stay
  | expr :: rest =>
      .andThen (walk text expr) (walkAll text rest)

/-- The walk of one of some expressions. -/
def walkAny
    (text : Array Char) :
    List Expr → Walk
  | [] =>
      .nowhere
  | expr :: rest =>
      .orElse (walk text expr) (walkAny text rest)

end

/-- Whether the expression matches some part of a text. -/
def occursIn
    (expr : Expr)
    (text : List Char) :
    Bool :=
  let chars := text.toArray
  let everywhere := Positions.below (chars.size + 1) fun _ => true
  !((expr.walk chars).ends everywhere).isEmpty

end Expr

end SecondaryIndex.Pattern
