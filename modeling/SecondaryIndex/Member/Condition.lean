import SecondaryIndex.Criterion
import SecondaryIndex.Member.Record
import SecondaryIndex.Query

namespace SecondaryIndex.Member

/-!
# Conditions on members

Conditions are criteria before they are made: a pattern is still a text, and a
match function is named.  A query on members is given by its conditions in the
order in which they are to be asked.
-/

/-- A named match function on members. -/
inductive MatchFunction where
  | always
  | never
  | olderThan (age : Int)
  | hasTag (tag : String)
  | withoutTeam
  | failing
  deriving Repr, DecidableEq

/-- A condition on a value or a member. -/
inductive Condition where
  | compare (comparison : Comparison) (operand : Bytes)
  | oneOf (values : List Bytes)
  | pattern (source : String)
  | matches (function : MatchFunction)
  deriving Repr, DecidableEq

/-- A query on members: its index, the conditions on the key, and those on fields. -/
structure QueryConditions where
  index : Option String
  key : List Condition
  fields : List (String × Condition)
  deriving Repr, DecidableEq

namespace MatchFunction

/-- Judge a member. -/
def apply
    (member : Member) :
    MatchFunction → Except IndexError Bool
  | .always =>
      .ok true
  | .never =>
      .ok false
  | .olderThan age =>
      .ok (age < member.age.toNat)
  | .hasTag tag =>
      .ok (member.tags.contains tag)
  | .withoutTeam =>
      .ok member.team.isNone
  | .failing =>
      .error (.criteria s!"match function failed on {member.name}")

end MatchFunction

namespace Condition

/-- Make the criterion, unless its pattern is none. -/
def criterion :
    Condition → Except Pattern.Error (Criterion Member)
  | .compare comparison operand =>
      .ok (.compare comparison operand)
  | .oneOf values =>
      .ok (.oneOf values)
  | .pattern source =>
      (Pattern.parse source).map .pattern
  | .matches function =>
      .ok (.matchFunction fun member => function.apply member)

end Condition

namespace QueryConditions

/-- Make the query, up to the first pattern that is none. -/
def query
    (conditions : QueryConditions) :
    Except Pattern.Error (Query (Criterion Member)) := do
  let key ← conditions.key.mapM Condition.criterion
  let fields ← conditions.fields.mapM fun field =>
    (Condition.criterion field.2).map fun criterion => (field.1, criterion)
  let onKey := key.foldl (fun query criterion => query.whereKey criterion) Query.all
  let onFields := fields.foldl (fun query field => query.whereField field.1 field.2) onKey
  return match conditions.index with
    | some index => onFields.through index
    | none => onFields

end QueryConditions

end SecondaryIndex.Member
