import SecondaryIndex.Error
import SecondaryIndex.Pattern
import SecondaryIndex.Text.Utf8

namespace SecondaryIndex

/-!
# Criteria on field values

Comparisons are made on encoded values in byte order, so they mean what the
field means wherever its encoding keeps the order.  A pattern is sought in the
value read leniently as text.  A match function looks at the whole record and
cannot judge a value alone.
-/

/-- A comparison of a value with an operand. -/
inductive Comparison where
  | equal
  | notEqual
  | greater
  | greaterOrEqual
  | less
  | lessOrEqual
  deriving Repr, DecidableEq

/-- A condition on an encoded value or on a record. -/
inductive Criterion (R : Type) where
  | compare (comparison : Comparison) (operand : Bytes)
  | oneOf (values : List Bytes)
  | pattern (sought : Pattern)
  | matchFunction (function : R → Except IndexError Bool)

namespace Comparison

/-- Whether a value stands in the relation to the operand. -/
def holds
    (value operand : Bytes) :
    Comparison → Bool
  | .equal =>
      value = operand
  | .notEqual =>
      value ≠ operand
  | .greater =>
      operand < value
  | .greaterOrEqual =>
      ¬ value < operand
  | .less =>
      value < operand
  | .lessOrEqual =>
      ¬ operand < value

/-- The name of the comparison in descriptions. -/
def name :
    Comparison → String
  | .equal =>
      "Eq"
  | .notEqual =>
      "Ne"
  | .greater =>
      "Gt"
  | .greaterOrEqual =>
      "Ge"
  | .less =>
      "Lt"
  | .lessOrEqual =>
      "Le"

end Comparison

namespace Criterion

variable {R : Type}

/-- Whether the criterion is a match function. -/
def isMatchFunction :
    Criterion R → Bool
  | .matchFunction _ =>
      true
  | _ =>
      false

/-- Judge a value and, where it is at hand, the record that it belongs to. -/
def test
    (value : Bytes)
    (record : Option R) :
    Criterion R → Except IndexError Bool
  | .compare comparison operand =>
      .ok (comparison.holds value operand)
  | .oneOf values =>
      .ok (values.contains value)
  | .pattern sought =>
      .ok (sought.occursIn (Text.Utf8.decodeLenient value))
  | .matchFunction function =>
      match record with
      | some record => function record
      | none => .error (.criteria "match function evaluated without a decoded record")

/-- Whether all criteria hold; they are tested in order up to the first that does not. -/
def testAll
    (value : Bytes)
    (record : Option R) :
    List (Criterion R) → Except IndexError Bool
  | [] =>
      .ok true
  | criterion :: rest =>
      match criterion.test value record with
      | .error error => .error error
      | .ok false => .ok false
      | .ok true => testAll value record rest

/-- Whether one of the criteria is a match function. -/
def anyMatchFunction
    (criteria : List (Criterion R)) :
    Bool :=
  criteria.any isMatchFunction

/-- The description of a criterion. -/
def describe :
    Criterion R → String
  | .compare comparison operand =>
      comparison.name ++ "(" ++ Text.listBytes operand ++ ")"
  | .oneOf values =>
      "In(" ++ Text.listing (values.map Text.listBytes) ++ ")"
  | .pattern sought =>
      "RegExp(" ++ Text.quote sought.source ++ ")"
  | .matchFunction _ =>
      "MatchFunc(..)"

end Criterion

end SecondaryIndex
