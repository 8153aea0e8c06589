import SecondaryIndex.Binary.Layout
import SecondaryIndex.Codec

namespace SecondaryIndex.Binary

/-!
# Codecs of the binary layout

A writer and a reader of the binary layout make a codec.  Writing never fails,
and a reading error is a failure to decode.
-/

/-- A reading error as a failure of the codec. -/
def asFailure
    {α : Type}
    (result : Except ReadError α) :
    Except CodecFailure α :=
  result.mapError fun error => .decode error.message

/-- The codec of a writer and a reader. -/
def codec
    {α : Type}
    (write : α → Bytes)
    (read : Bytes → Except ReadError α) :
    Codec α where
  encode value :=
    .ok (write value)
  decode bytes :=
    asFailure (read bytes)

end SecondaryIndex.Binary
