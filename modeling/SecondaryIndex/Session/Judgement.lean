import SecondaryIndex.Criterion

namespace SecondaryIndex.Session

/-!
# Judging values

Criteria are tried on a value one by one and all together.
-/

/-- How criteria judge one value. -/
structure Judgement where
  tests : List (Except IndexError Bool)
  all : Except IndexError Bool

/-- Judge a value, with a record or without. -/
def judge
    {R : Type}
    (criteria : List (Criterion R))
    (record : Option R)
    (value : Bytes) :
    Judgement where
  tests :=
    criteria.map fun criterion => criterion.test value record
  all :=
    Criterion.testAll value record criteria

end SecondaryIndex.Session
