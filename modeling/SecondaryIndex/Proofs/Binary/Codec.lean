import SecondaryIndex.Binary.Codec
import SecondaryIndex.Proofs.Binary.Layout

namespace SecondaryIndex

/-!
# Codecs that round-trip

A length is written in eight bytes whatever it is, so values with longer parts
are not read back.  A codec that refuses such values round-trips.
-/

open Binary

namespace Codec

/-- A value can be written, and what is written is read back as it. -/
def Keeps
    {α : Type}
    (codec : Codec α)
    (value : α) :
    Prop :=
  ∃ bytes, codec.encode value = .ok bytes ∧ codec.decode bytes = .ok value

/-- A codec that refuses what does not fit. -/
def limited
    {α : Type}
    (codec : Codec α)
    (fits : α → Bool) :
    Codec α where
  encode value :=
    if fits value then codec.encode value else .error (.encode "a length does not fit")
  decode :=
    codec.decode

/-- A codec round-trips if it refuses what it would not read back. -/
theorem roundTrips_limited
    {α : Type}
    {codec : Codec α}
    {fits : α → Bool}
    (lawful :
      ∀ {value : α} {bytes : Bytes},
        fits value → codec.encode value = .ok bytes → codec.decode bytes = .ok value) :
    (codec.limited fits).RoundTrips := by
  intro value bytes encoded
  rw [limited] at encoded ⊢
  dsimp only at encoded ⊢
  split at encoded
  next doesFit =>
    exact lawful doesFit encoded
  next =>
    cases encoded

end Codec

/-- A writer and a reader that takes back what fits make a codec that round-trips. -/
theorem Binary.roundTrips_codec
    {α : Type}
    {write : α → Bytes}
    {reader : Reader α}
    {fits : α → Bool}
    (takes : ∀ value, fits value → reader.Takes (write value) value) :
    ((Binary.codec write reader.read).limited fits).RoundTrips := by
  apply Codec.roundTrips_limited
  intro value bytes doesFit encoded
  have written : write value = bytes :=
    Except.ok.inj encoded
  have taken := takes value doesFit []
  rw [List.append_nil, written] at taken
  show asFailure (reader.read bytes) = .ok value
  rw [Reader.read, taken]
  rfl

end SecondaryIndex
