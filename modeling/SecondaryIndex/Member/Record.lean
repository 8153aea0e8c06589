import SecondaryIndex.Binary.Codec

namespace SecondaryIndex

/-!
# Members

A member is the sample record type of sessions: it has a field of each kind
that an index has to deal with, among them an absent value, a list and raw
bytes.
-/

/-- A member of a team. -/
structure Member where
  name : String
  team : Option String
  age : UInt32
  score : Int64
  tags : List String
  blob : Bytes
  active : Bool
  deriving Repr, DecidableEq

namespace Member

open Binary

/-- The stored form of a member: its fields in order. -/
def encode
    (member : Member) :
    Bytes :=
  writeText member.name ++
    writeOption writeText member.team ++
    writeWord32 member.age ++
    writeInt64 member.score ++
    writeSequence writeText member.tags ++
    writeBytes member.blob ++
    writeTruth member.active

/-- Take a member from the front of the input. -/
def reader :
    Reader Member := do
  let name ← readText
  let team ← readOption readText
  let age ← readWord32
  let score ← readInt64
  let tags ← readSequence readText
  let blob ← readBytes
  let active ← readTruth
  return ⟨name, team, age, score, tags, blob, active⟩

/-- Read the stored form of a member. -/
def decode
    (bytes : Bytes) :
    Except ReadError Member :=
  reader.read bytes

/-- How members are stored. -/
def codec :
    Codec Member :=
  Binary.codec encode decode

end Member

end SecondaryIndex
