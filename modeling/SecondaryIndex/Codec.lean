import SecondaryIndex.Error

namespace SecondaryIndex

/-!
# Codecs

Posting lists and records are stored as bytes.  How they are written is left to
the caller, who promises that every value that is written is read back as it
was.  Writing and reading may fail.
-/

/-- How the values of a type are written as bytes and read back. -/
structure Codec (α : Type) where
  encode : α → Except CodecFailure Bytes
  decode : Bytes → Except CodecFailure α

namespace Codec

/-- Every value that is written is read back as it was. -/
def RoundTrips
    {α : Type}
    (codec : Codec α) :
    Prop :=
  ∀ {value : α} {bytes : Bytes},
    codec.encode value = .ok bytes → codec.decode bytes = .ok value

end Codec

end SecondaryIndex
