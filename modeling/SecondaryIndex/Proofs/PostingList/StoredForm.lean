import SecondaryIndex.Proofs.Binary.Extent
import SecondaryIndex.Proofs.Binary.PostingList

namespace SecondaryIndex

/-!
# The stored form of a posting list is canonical

A posting list has one stored form, which is read back whatever follows it and
cannot be cut short.  Any sequence of keys is read as the set of its keys, and
what has been read is stored so that it is read once more.
-/

open Binary

namespace PostingList

variable
  {list : PostingList}
  {keys : List Bytes}
  {bytes : Bytes}

theorem fits_iff :
    list.fits ↔
      list.keys.length < lengthLimit ∧ ∀ key ∈ list.keys, key.length < lengthLimit := by
  simp [fits]

/-- Keys in any order and number are read as the set of them, whatever follows. -/
theorem decode_writeSequence
    (few : keys.length < lengthLimit)
    (short : ∀ key ∈ keys, key.length < lengthLimit)
    (rest : Bytes) :
    decode (writeSequence writeBytes keys ++ rest) = .ok (ofKeys keys) := by
  have taken := readSequence_takes few (fun key member => readBytes_takes (short key member)) rest
  rw [decode, Reader.read, taken]
  rfl

/-- The stored form of a list is needed whole. -/
theorem decode_cut
    (doesFit : list.fits)
    {front : Bytes}
    (beginning : front <+: list.encode)
    (cut : front ≠ list.encode) :
    decode front = .error .endOfInput := by
  obtain ⟨few, short⟩ := fits_iff.1 doesFit
  obtain ⟨back, shape⟩ := beginning
  have more : back ≠ [] := by
    intro none
    subst none
    exact cut (by rwa [List.append_nil] at shape)
  have needs :=
    readSequence_needs few
      (fun key member => readBytes_takes (short key member))
      (fun key member => readBytes_needs (short key member))
  rw [decode, Reader.read, needs front back shape.symm more]
  rfl

/-- Lists are stored alike exactly if they have the same members. -/
theorem encode_eq_iff
    {first second : PostingList}
    (firstFits : first.fits)
    (secondFits : second.fits) :
    first.encode = second.encode ↔ ∀ key, key ∈ first.keys ↔ key ∈ second.keys := by
  constructor
  · intro sameForm
    have firstRead := decode_encode firstFits []
    rw [sameForm, decode_encode secondFits []] at firstRead
    cases firstRead
    exact fun _ => Iff.rfl
  · intro sameMembers
    rw [eq_of_mem_iff sameMembers]

/-- A list that has been read fits: its keys were read with their lengths and number. -/
theorem fits_of_decode
    (isRead : decode bytes = .ok list) :
    list.fits := by
  rw [decode, Reader.read] at isRead
  cases result : StateT.run (readSequence readBytes) bytes with
  | error fault =>
      rw [result] at isRead
      cases isRead
  | ok read =>
      obtain ⟨keys, rest⟩ := read
      rw [result] at isRead
      cases isRead
      obtain ⟨few, short⟩ := readSequence_gives readBytes_gives bytes keys rest result
      exact fits_of_subset (fun _ member => mem_keys_ofKeys.1 member) few short

/-- What has been read is stored so that it is read once more. -/
theorem decode_encode_of_decode
    (isRead : decode bytes = .ok list) :
    decode list.encode = .ok list := by
  have readBack := decode_encode (fits_of_decode isRead) []
  rwa [List.append_nil] at readBack

/--
The stored form of a posting list is canonical and reading normalises.  Lists
and keys have lengths that fit in eight bytes, as all lengths in memory do.
-/
theorem stored_form_canonical :
    (∀ list : PostingList,
      list.fits →
        (∀ rest, decode (list.encode ++ rest) = .ok list) ∧
        (∀ front, front <+: list.encode → front ≠ list.encode →
          decode front = .error .endOfInput) ∧
        ∀ other : PostingList,
          other.fits →
            (list.encode = other.encode ↔ ∀ key, key ∈ list.keys ↔ key ∈ other.keys)) ∧
    (∀ keys : List Bytes,
      keys.length < lengthLimit → (∀ key ∈ keys, key.length < lengthLimit) →
        ∃ list : PostingList,
          (∀ key, key ∈ list.keys ↔ key ∈ keys) ∧
            ∀ rest, decode (writeSequence writeBytes keys ++ rest) = .ok list) ∧
    ∀ bytes list,
      decode bytes = .ok list → list.fits ∧ decode list.encode = .ok list := by
  refine ⟨?_, ?_, ?_⟩
  · intro list doesFit
    refine ⟨decode_encode doesFit, ?_, ?_⟩
    · intro front beginning cut
      exact decode_cut doesFit beginning cut
    · intro other otherFits
      exact encode_eq_iff doesFit otherFits
  · intro keys few short
    exact ⟨ofKeys keys, fun _ => mem_keys_ofKeys, decode_writeSequence few short⟩
  · intro bytes list isRead
    exact ⟨fits_of_decode isRead, decode_encode_of_decode isRead⟩

/-- A list of an empty key and another is read back, and is not read without its last byte. -/
theorem stored_form_of_two_keys :
    decode ((ofKeys [[7], []]).encode ++ [1]) = .ok (ofKeys [[7], []]) ∧
    decode ((ofKeys [[7], []]).encode.take 24) = .error .endOfInput ∧
    (ofKeys [[7], []]).encode = (ofKeys [[], [7], []]).encode ∧
    (∃ list : PostingList,
      (∀ key, key ∈ list.keys ↔ key ∈ [[7], [], [7]]) ∧
        decode (writeSequence writeBytes [[7], [], [7]] ++ []) = .ok list) ∧
    decode (ofKeys [[7], []]).encode = .ok (ofKeys [[7], []]) := by
  have firstFits : (ofKeys [[7], []]).fits := by decide
  have secondFits : (ofKeys [[], [7], []]).fits := by decide
  obtain ⟨ofList, ofSequence, ofBytes⟩ := stored_form_canonical
  obtain ⟨readBack, isCut, sameForm⟩ := ofList _ firstFits
  obtain ⟨list, members, isRead⟩ := ofSequence [[7], [], [7]] (by decide) (by decide)
  refine ⟨readBack [1], ?_, ?_, ⟨list, members, isRead []⟩, ?_⟩
  · exact isCut _ (List.take_prefix 24 _) (by decide)
  · refine (sameForm _ secondFits).2 ?_
    intro key
    simp only [mem_keys_ofKeys, List.mem_cons, List.not_mem_nil, or_false]
    tauto
  · exact (ofBytes _ _ (readBack [])).2

end PostingList

end SecondaryIndex
