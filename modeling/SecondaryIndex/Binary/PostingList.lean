import SecondaryIndex.Binary.Codec
import SecondaryIndex.PostingList

namespace SecondaryIndex.PostingList

/-!
# The stored form of a posting list

A posting list is stored as the plain sequence of its keys.  Stored sequences
that are out of order or repeat a key are read as the set of their keys.
-/

open Binary

/-- The bytes under which an index entry is stored. -/
def encode
    (list : PostingList) :
    Bytes :=
  writeSequence writeBytes list.keys

/-- Read the stored form of an index entry. -/
def decode
    (bytes : Bytes) :
    Except ReadError PostingList :=
  ((readSequence readBytes).read bytes).map ofKeys

/-- How index entries are stored. -/
def codec :
    Codec PostingList :=
  Binary.codec encode decode

end SecondaryIndex.PostingList
