import SecondaryIndex.Error

namespace SecondaryIndex

/-!
# Record types and their indexes

A schema is all that the index knows about a record type: the name that is
part of every stored key, the declared indexes, and how criteria are judged.
-/

/-- A named index and the field value it gives a record; no value means no entry. -/
structure DeclaredIndex (R : Type) where
  name : String
  extract : String → R → Except IndexError (Option Bytes)

namespace DeclaredIndex

/-- The value under which the index lists a record. -/
def valueOf
    {R : Type}
    (index : DeclaredIndex R)
    (record : R) :
    Except IndexError (Option Bytes) :=
  index.extract index.name record

end DeclaredIndex

/--
What criteria are asked to judge: the primary key of a decoded record, a field
of a decoded record, or the value of an index entry, which comes without a
record and is compared as it is.
-/
inductive Candidate (R : Type) where
  | recordKey (key : Bytes) (record : R)
  | recordField (field : String) (key : Bytes) (record : R)
  | indexEntry (index : String) (value : Bytes)

namespace Candidate

variable {R : Type}

/-- The field in question; a primary key has no field name. -/
def field :
    Candidate R → String
  | .recordKey _ _ =>
      ""
  | .recordField field _ _ =>
      field
  | .indexEntry index _ =>
      index

/-- The value at hand: an index value or the primary key of the record. -/
def value :
    Candidate R → Bytes
  | .recordKey key _ =>
      key
  | .recordField _ key _ =>
      key
  | .indexEntry _ value =>
      value

/-- Whether the primary key itself is judged. -/
def isKey :
    Candidate R → Bool
  | .recordKey _ _ =>
      true
  | _ =>
      false

/-- The decoded record, where there is one. -/
def record? :
    Candidate R → Option R
  | .recordKey _ record =>
      some record
  | .recordField _ _ record =>
      some record
  | .indexEntry _ _ =>
      none

end Candidate

/-- A record type: its name, its indexes and the judgement of criteria. -/
structure Schema (R C : Type) where
  typeName : String
  indexes : List (DeclaredIndex R)
  accepts : List C → Candidate R → Except IndexError Bool
  needsRecord : List C → Bool

namespace Schema

/-- The first declared index of a name. -/
def index?
    {R C : Type}
    (schema : Schema R C)
    (name : String) :
    Option (DeclaredIndex R) :=
  schema.indexes.find? fun index => index.name = name

end Schema

end SecondaryIndex
