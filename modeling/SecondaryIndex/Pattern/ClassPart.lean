import SecondaryIndex.Pattern.CharSet

namespace SecondaryIndex.Pattern

/-!
# Parts of a bracketed class

A part is a character, a range, a named set or a class in brackets, and parts
are put together by union and by operators.  A part remembers how deep it is
nested, because a pattern must not be nested too deep: brackets, operators and
unions of two or more parts each make a level.
-/

/-- The operators between the parts of a class. -/
inductive ClassOperator where
  | intersection
  | difference
  | symmetricDifference
  deriving Repr, DecidableEq

/-- A part of a class: what it stands for, and how deep its own parts are nested. -/
structure ClassPart where
  set : CharSet
  depth : Nat
  deriving Repr, DecidableEq

namespace ClassOperator

/-- The set that an operator makes of its operands. -/
def apply :
    ClassOperator → CharSet → CharSet → CharSet
  | .intersection, left, right =>
      left.intersection right
  | .difference, left, right =>
      left.difference right
  | .symmetricDifference, left, right =>
      left.symmetricDifference right

end ClassOperator

namespace ClassPart

/-- A part without parts of its own. -/
def leaf
    (set : CharSet) :
    ClassPart :=
  ⟨set, 0⟩

/-- The union of parts; only two or more make a new level. -/
def unions :
    List ClassPart → ClassPart
  | [] =>
      leaf .none
  | [part] =>
      part
  | parts =>
      let deepest := parts.foldl (fun deepest part => max deepest part.depth) 0
      ⟨CharSet.unions (parts.map set), deepest + 1⟩

/-- The part that an operator and its operands make. -/
def operation
    (operator : ClassOperator)
    (left right : ClassPart) :
    ClassPart :=
  ⟨operator.apply left.set right.set, max left.depth right.depth + 1⟩

/-- The class of a part in brackets. -/
def bracketed
    (negated : Bool)
    (part : ClassPart) :
    ClassPart :=
  ⟨if negated then part.set.complement else part.set, part.depth + 1⟩

end ClassPart

end SecondaryIndex.Pattern
