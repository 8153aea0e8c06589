import SecondaryIndex.Criterion
import SecondaryIndex.Member.Field
import SecondaryIndex.Schema

namespace SecondaryIndex.Member

/-!
# The schema of members

Criteria on a field of a member are judged on the value that the declared index
of that name gives it, or else the field of that name; an absent value is judged
as the empty one.  Keys and index entries are judged as they are.
-/

/-- The declared index of a name on a field. -/
def index
    (name : String)
    (field : Field) :
    DeclaredIndex Member :=
  ⟨name, field.extract⟩

/-- The value under which criteria on a field judge a member. -/
def judgedValue
    (indexes : List (String × Field))
    (field : String)
    (member : Member) :
    Except IndexError Bytes := do
  let declared := (indexes.find? fun index => index.1 = field).map Prod.snd
  match declared.or (Field.ofName? field) with
  | some known => return (← known.extract field member).getD []
  | none => return []

/-- Whether a candidate satisfies all criteria. -/
def accepts
    (indexes : List (String × Field))
    (criteria : List (Criterion Member)) :
    Candidate Member → Except IndexError Bool
  | .recordKey key member =>
      Criterion.testAll key (some member) criteria
  | .recordField field _ member => do
      Criterion.testAll (← judgedValue indexes field member) (some member) criteria
  | .indexEntry _ value =>
      Criterion.testAll value none criteria

/-- The schema of members under a type name, with the given indexes. -/
def schema
    (typeName : String)
    (indexes : List (String × Field)) :
    Schema Member (Criterion Member) where
  typeName :=
    typeName
  indexes :=
    indexes.map fun declared => index declared.1 declared.2
  accepts :=
    accepts indexes
  needsRecord :=
    Criterion.anyMatchFunction

end SecondaryIndex.Member
