namespace SecondaryIndex.Pattern

/-!
# Sets of positions

A set of positions of a text is kept in the bits of a number, so that a step
from all of them at once is a shift and a mask.
-/

/-- A set of positions: a position is in the set if its bit is one. -/
structure Positions where
  bits : Nat
  deriving Repr, DecidableEq

namespace Positions

/-- The set without positions. -/
def none :
    Positions :=
  ⟨0⟩

/-- Whether a position is in the set. -/
def contains
    (positions : Positions)
    (position : Nat) :
    Bool :=
  positions.bits.testBit position

/-- Whether the set has no position. -/
def isEmpty
    (positions : Positions) :
    Bool :=
  positions = none

/-- The positions in one of two sets. -/
def union
    (left right : Positions) :
    Positions :=
  ⟨left.bits ||| right.bits⟩

/-- The positions in both of two sets. -/
def intersection
    (left right : Positions) :
    Positions :=
  ⟨left.bits &&& right.bits⟩

/-- The positions one after those of the set. -/
def next
    (positions : Positions) :
    Positions :=
  ⟨positions.bits <<< 1⟩

/-- The set together with a position. -/
def insert
    (position : Nat)
    (positions : Positions) :
    Positions :=
  ⟨positions.bits ||| 1 <<< position⟩

/-- The positions below a bound where a condition holds. -/
def below
    (bound : Nat)
    (holds : Nat → Bool) :
    Positions :=
  (List.range bound).foldl
    (fun positions position => if holds position then positions.insert position else positions)
    none

theorem contains_union
    {left right : Positions}
    {position : Nat} :
    (left.union right).contains position =
      (left.contains position || right.contains position) := by
  simp [union, contains]

theorem contains_intersection
    {left right : Positions}
    {position : Nat} :
    (left.intersection right).contains position =
      (left.contains position && right.contains position) := by
  simp [intersection, contains]

theorem contains_next_succ
    {positions : Positions}
    {position : Nat} :
    positions.next.contains (position + 1) = positions.contains position := by
  simp [next, contains]

theorem not_contains_next_zero
    {positions : Positions} :
    positions.next.contains 0 = false := by
  simp [next, contains]

theorem contains_insert
    {positions : Positions}
    {position other : Nat} :
    (positions.insert position).contains other =
      (positions.contains other || decide (position = other)) := by
  simp [insert, contains, Nat.one_shiftLeft, Nat.testBit_two_pow]

theorem contains_below
    {holds : Nat → Bool}
    {bound position : Nat} :
    (below bound holds).contains position = (decide (position < bound) && holds position) := by
  induction bound with
  | zero =>
      simp [below, none, contains]
  | succ bound inductionHypothesis =>
      have step :
          below (bound + 1) holds =
            if holds bound then (below bound holds).insert bound else below bound holds := by
        simp [below, List.range_succ]
      rw [step]
      split
      next holding =>
        rw [contains_insert, inductionHypothesis]
        by_cases equal : bound = position
        · subst equal
          simp [holding]
        · have widened : position < bound + 1 ↔ position < bound := by omega
          simp [equal, widened]
      next failing =>
        rw [inductionHypothesis]
        by_cases equal : bound = position
        · subst equal
          simp [failing]
        · have widened : position < bound + 1 ↔ position < bound := by omega
          simp [widened]

/-- Apply a step a number of times, or until it changes nothing. -/
def iterate
    (step : Positions → Positions) :
    Nat → Positions → Positions
  | 0, positions =>
      positions
  | count + 1, positions =>
      let next := step positions
      if next = positions then
        positions
      else
        iterate step count next

/-- Add what a step reaches, up to a number of times or until nothing is new. -/
def saturate
    (step : Positions → Positions) :
    Nat → Positions → Positions
  | 0, positions =>
      positions
  | count + 1, positions =>
      let wider := (step positions).union positions
      if wider = positions then
        positions
      else
        saturate step count wider

theorem iterate_of_fixed
    {step : Positions → Positions}
    {positions : Positions}
    (fixed : step positions = positions)
    (count : Nat) :
    iterate step count positions = positions := by
  cases count with
  | zero => rfl
  | succ count => simp [iterate, fixed]

/-- Stopping at a fixed point changes nothing. -/
theorem iterate_succ
    {step : Positions → Positions}
    {count : Nat}
    {positions : Positions} :
    iterate step (count + 1) positions = iterate step count (step positions) := by
  simp only [iterate]
  split
  next fixed =>
    rw [fixed, iterate_of_fixed fixed]
  next =>
    rfl

/-- Nothing that was there is lost. -/
theorem contains_saturate_of_contains
    {step : Positions → Positions}
    {count position : Nat}
    {positions : Positions}
    (present : positions.contains position = true) :
    (saturate step count positions).contains position = true := by
  induction count generalizing positions with
  | zero =>
      exact present
  | succ count inductionHypothesis =>
      simp only [saturate]
      split
      next =>
        exact present
      next =>
        exact inductionHypothesis (by simp [contains_union, present])

end Positions

end SecondaryIndex.Pattern
