import SecondaryIndex.Bytes

namespace SecondaryIndex.Bytes

/-!
# The order of texts is the order of their bytes

A character with a lesser code has the lesser UTF-8 bytes, whatever follows it,
because the first byte tells how many follow and each byte behind it adds less
significant digits of the code.  So names sorted as texts are sorted by their
bytes.
-/

/-- Whether codes below a bound are in the order of their writings, whatever follows those. -/
def WrittenInOrder
    (bound : Nat)
    (write : Nat → Bytes) :
    Prop :=
  ∀ first second,
    first < second → second < bound →
      ∀ firstRest secondRest, write first ++ firstRest < write second ++ secondRest

theorem ofNat_cons_lt
    {first second : Nat}
    (firstRest secondRest : Bytes)
    (lower : first < second)
    (small : second < 256) :
    UInt8.ofNat first :: firstRest < UInt8.ofNat second :: secondRest := by
  refine List.cons_lt_cons_iff.2 (.inl ?_)
  rw [UInt8.lt_iff_toNat_lt, UInt8.toNat_ofNat', UInt8.toNat_ofNat']
  omega

/-- A leading byte with a mark keeps the order of the codes that it can hold. -/
theorem writtenInOrder_lead
    (bound mark : Nat)
    (room : bound + mark ≤ 256) :
    WrittenInOrder bound fun code => [UInt8.ofNat (code % bound + mark)] := by
  intro first second lower small firstRest secondRest
  have firstSmall := Nat.mod_eq_of_lt (Nat.lt_trans lower small)
  have secondSmall := Nat.mod_eq_of_lt small
  apply ofNat_cons_lt <;> omega

/-- Six more digits in a further byte keep the order. -/
theorem WrittenInOrder.continue
    {bound : Nat}
    {write : Nat → Bytes}
    (inOrder : WrittenInOrder bound write) :
    WrittenInOrder (bound * 64) fun code =>
      write (code / 64) ++ [UInt8.ofNat (code % 64 + 128)] := by
  intro first second lower small firstRest secondRest
  simp only [List.append_assoc, List.singleton_append]
  rcases Nat.lt_or_ge (first / 64) (second / 64) with lowerDigits | digits
  · exact inOrder _ _ lowerDigits (by omega) _ _
  · have same : first / 64 = second / 64 := by omega
    rw [same]
    apply List.append_left_lt
    apply ofNat_cons_lt <;> omega

theorem code_lt
    (character : Char) :
    character.val.toNat < 8 * 64 * 64 * 64 := by
  rcases character.valid with low | ⟨-, high⟩
  · exact Nat.lt_trans low (by decide)
  · exact Nat.lt_trans high (by decide)

/-- The bytes of a lesser character come first, whatever follows them. -/
theorem encode_lt
    {first second : Char}
    (lower : first < second)
    (firstRest secondRest : Bytes) :
    String.utf8EncodeChar first ++ firstRest < String.utf8EncodeChar second ++ secondRest := by
  have lowerCode : first.val.toNat < second.val.toNat := lower
  have below := code_lt second
  have two := (writtenInOrder_lead 32 192 (by decide)).continue
  have three := (writtenInOrder_lead 16 224 (by decide)).continue.continue
  have four := (writtenInOrder_lead 8 240 (by decide)).continue.continue.continue
  simp only [Nat.div_div_eq_div_mul, Nat.reduceMul, List.cons_append] at two three four
  simp only [String.utf8EncodeChar]
  generalize first.val.toNat = code at *
  generalize second.val.toNat = other at *
  repeat' split
  all_goals try omega
  -- Writings of one length are in order; of different lengths, the leading bytes are.
  all_goals
    first
    | exact two _ _ lowerCode (by omega) _ _
    | exact three _ _ lowerCode (by omega) _ _
    | exact four _ _ lowerCode below _ _
    | apply ofNat_cons_lt <;> omega

/-- Lesser texts have the lesser bytes. -/
theorem flatMap_encode_lt
    {first second : List Char}
    (lower : first < second) :
    first.flatMap String.utf8EncodeChar < second.flatMap String.utf8EncodeChar := by
  induction first generalizing second with
  | nil =>
      cases second with
      | nil =>
          exact absurd lower (List.lt_irrefl _)
      | cons character rest =>
          rw [List.flatMap_nil, List.flatMap_cons]
          rcases encoded : String.utf8EncodeChar character with nil | ⟨byte, bytes⟩
          · have size := String.length_utf8EncodeChar character
            rw [encoded] at size
            exact absurd size (Nat.ne_of_lt character.utf8Size_pos)
          · exact List.nil_lt_cons _ _
  | cons character rest inductionHypothesis =>
      cases second with
      | nil =>
          exact absurd lower (List.not_lt_nil _)
      | cons other others =>
          rw [List.flatMap_cons, List.flatMap_cons]
          rcases List.cons_lt_cons_iff.1 lower with lowerHead | ⟨rfl, lowerRest⟩
          · exact encode_lt lowerHead _ _
          · exact List.append_left_lt (inductionHypothesis lowerRest)

theorem ofText_eq
    (text : String) :
    ofText text = text.toList.flatMap String.utf8EncodeChar := by
  have encoded : text.toByteArray = text.toList.utf8Encode := by
    rw [← String.toByteArray_ofList, String.ofList_toList]
  rw [ofText, encoded, List.utf8Encode]
  simp

/-- Names in the order of texts are in the order of their bytes. -/
theorem ofText_lt
    {first second : String}
    (lower : first < second) :
    ofText first < ofText second := by
  rw [ofText_eq, ofText_eq]
  exact flatMap_encode_lt (String.lt_iff.1 lower)

end SecondaryIndex.Bytes
