namespace SecondaryIndex

/-!
# Byte strings

Keys, encoded field values and stored values are byte strings.  They are
compared byte by byte from the front, and a proper initial part comes before
the longer string.  This is the order of lists, so the laws of the list order
apply to keys as they are.
-/

/-- A key, an encoded field value or a stored value. -/
abbrev Bytes :=
  List UInt8

/-- A key together with the value stored under it. -/
abbrev Entry :=
  Bytes × Bytes

namespace Bytes

instance :
    Std.IsLinearOrder Bytes :=
  List.instIsLinearOrder

instance :
    Std.LawfulOrderLT Bytes :=
  inferInstanceAs (Std.LawfulOrderLT (List UInt8))

/-- The UTF-8 bytes of a text. -/
def ofText
    (text : String) :
    Bytes :=
  text.toByteArray.data.toList

/-- Whether `key` begins with `lead`. -/
def startsWith
    (key lead : Bytes) :
    Bool :=
  lead.isPrefixOf key

theorem startsWith_iff
    {key lead : Bytes} :
    key.startsWith lead = true ↔ ∃ rest, key = lead ++ rest := by
  rw [startsWith, List.isPrefixOf_iff_prefix]
  constructor
  · rintro ⟨rest, split⟩
    exact ⟨rest, split.symm⟩
  · rintro ⟨rest, split⟩
    exact ⟨rest, split.symm⟩

/-- Texts with the same UTF-8 bytes are the same text. -/
theorem ofText_injective
    {first second : String}
    (same : ofText first = ofText second) :
    first = second := by
  apply String.toByteArray_inj.1
  apply ByteArray.ext
  exact Array.toList_inj.1 same

end Bytes

end SecondaryIndex
