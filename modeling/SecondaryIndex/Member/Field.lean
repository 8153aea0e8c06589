import SecondaryIndex.Binary.Ordered
import SecondaryIndex.Member.Record

namespace SecondaryIndex.Member

/-!
# Fields of members

A field gives a member an encoded value, no value, or a failure.  Besides the
fields that are stored there are some that only serve to try out an index: one
that is always empty, one that is always absent, one that names the index it
stands in, and two that fail.
-/

/-- What an index can be built on. -/
inductive Field where
  | name
  | team
  | age
  | ageLittleEndian
  | score
  | firstTag
  | tags
  | blob
  | active
  | empty
  | absent
  | indexName
  | failing
  | failingBelowZero
  deriving Repr, DecidableEq

namespace Field

/-- The field that a name stands for. -/
def ofName? :
    String → Option Field
  | "name" =>
      some .name
  | "team" =>
      some .team
  | "age" =>
      some .age
  | "age_le" =>
      some .ageLittleEndian
  | "score" =>
      some .score
  | "tag" =>
      some .firstTag
  | "tags" =>
      some .tags
  | "blob" =>
      some .blob
  | "active" =>
      some .active
  | "empty" =>
      some .empty
  | "none" =>
      some .absent
  | "index_name" =>
      some .indexName
  | "fail" =>
      some .failing
  | "fail_neg" =>
      some .failingBelowZero
  | _ =>
      none

/-- The failure of a field in an index of the given name. -/
def failure
    (index : String) :
    IndexError :=
  .criteria s!"index function {index} failed"

/-- The value of a field of a member, under an index of the given name. -/
def extract
    (field : Field)
    (index : String)
    (member : Member) :
    Except IndexError (Option Bytes) :=
  match field with
  | .name =>
      .ok (some (.ofText member.name))
  | .team =>
      .ok (member.team.map .ofText)
  | .age =>
      .ok (some (Binary.bigEndian 4 member.age.toNat))
  | .ageLittleEndian =>
      .ok (some (Binary.littleEndian 4 member.age.toNat))
  | .score =>
      .ok (some (Binary.orderedInt64 member.score))
  | .firstTag =>
      .ok (member.tags.head?.map .ofText)
  | .tags =>
      .ok (some (Binary.writeSequence Binary.writeText member.tags))
  | .blob =>
      .ok (some member.blob)
  | .active =>
      .ok (if member.active then some [1] else none)
  | .empty =>
      .ok (some [])
  | .absent =>
      .ok none
  | .indexName =>
      .ok (some (.ofText index))
  | .failing =>
      .error (failure index)
  | .failingBelowZero =>
      if member.score < 0 then
        .error (failure index)
      else
        .ok (some (Binary.orderedInt64 member.score))

end Field

end SecondaryIndex.Member
