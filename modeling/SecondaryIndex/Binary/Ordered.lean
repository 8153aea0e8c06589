import SecondaryIndex.Binary.Layout

namespace SecondaryIndex.Binary

/-!
# Encodings that keep the order of numbers

Index values are compared byte by byte from the front.  Numbers of a fixed
width keep their order if the most significant byte comes first, and signed
numbers if, besides, the sign bit of their two's complement is turned over.
-/

/-- The given number of bytes of a number, most significant first. -/
def bigEndian
    (width value : Nat) :
    Bytes :=
  (littleEndian width value).reverse

/-- A signed number of eight bytes in an order-keeping form. -/
def orderedInt64
    (value : Int64) :
    Bytes :=
  bigEndian 8 (value.toUInt64 ^^^ 0x8000000000000000).toNat

end SecondaryIndex.Binary
