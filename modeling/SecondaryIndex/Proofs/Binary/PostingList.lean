import Mathlib.Data.List.Perm.Subperm
import SecondaryIndex.Binary.PostingList
import SecondaryIndex.Proofs.Binary.Codec

namespace SecondaryIndex

/-!
# Posting lists are read back

A posting list is read back from its stored form if its lengths fit in eight
bytes, whatever follows the stored form.
-/

open Binary

namespace PostingList

/-- Whether the number of keys and their lengths fit in eight bytes. -/
def fits
    (list : PostingList) :
    Bool :=
  decide (list.keys.length < lengthLimit) &&
    list.keys.all fun key => key.length < lengthLimit

/-- The keys of a list make the list. -/
theorem ofKeys_keys
    (list : PostingList) :
    ofKeys list.keys = list :=
  eq_of_mem_iff fun _ => mem_keys_ofKeys

/-- The stored form of a list is read as the list, whatever follows it. -/
theorem decode_encode
    {list : PostingList}
    (doesFit : list.fits)
    (rest : Bytes) :
    decode (list.encode ++ rest) = .ok list := by
  simp only [fits, Bool.and_eq_true, decide_eq_true_eq, List.all_eq_true] at doesFit
  have taken :=
    readSequence_takes doesFit.1 (fun key member => readBytes_takes (doesFit.2 key member)) rest
  rw [decode, encode, Reader.read, taken]
  simp [Except.map, ofKeys_keys]

/-- A list that fits is kept. -/
theorem keeps_of_fits
    {list : PostingList}
    (doesFit : list.fits) :
    codec.Keeps list := by
  have decoded := decode_encode doesFit []
  rw [List.append_nil] at decoded
  refine ⟨list.encode, rfl, ?_⟩
  simp only [codec, Binary.codec, asFailure, decoded]
  rfl

theorem roundTrips_codec :
    (codec.limited fits).RoundTrips := by
  apply Codec.roundTrips_limited
  intro list bytes doesFit encoded
  obtain ⟨written, encodedToo, decoded⟩ := keeps_of_fits doesFit
  cases encodedToo.symm.trans encoded
  exact decoded

/-- A list fits if its keys are among some keys that fit. -/
theorem fits_of_subset
    {list : PostingList}
    {keys : List Bytes}
    (among : list.keys ⊆ keys)
    (few : keys.length < lengthLimit)
    (short : ∀ key ∈ keys, key.length < lengthLimit) :
    list.fits := by
  simp only [fits, Bool.and_eq_true, decide_eq_true_eq, List.all_eq_true]
  refine ⟨?_, fun key listed => short key (among listed)⟩
  exact Nat.lt_of_le_of_lt (List.subperm_of_subset list.nodup_keys among).length_le few

end PostingList

end SecondaryIndex
