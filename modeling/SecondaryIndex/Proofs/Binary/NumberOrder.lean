import SecondaryIndex.Binary.Ordered
import SecondaryIndex.Proofs.Binary.Layout
import SecondaryIndex.Proofs.Bytes

namespace SecondaryIndex.Binary

/-!
# Encodings that keep the order of numbers

Of two numbers that fit a width, the smaller one is written with the bytes that come
first, if the most significant byte is written first.  The two's complement of a signed
number with its top bit turned over is the number moved up by half the range, so it keeps
the order as well.
-/

/-- Of two byte strings of one length, the longer parts decide before the last bytes do. -/
theorem append_singleton_lt_iff
    {first second : Bytes}
    (sameLength : first.length = second.length)
    (last other : UInt8) :
    first ++ [last] < second ++ [other] ↔ first < second ∨ first = second ∧ last < other := by
  induction first generalizing second with
  | nil =>
      cases List.length_eq_zero_iff.1 sameLength.symm
      rw [List.nil_append, List.nil_append, List.cons_lt_cons_iff]
      simp
  | cons byte first inductionHypothesis =>
      cases second with
      | nil =>
          cases sameLength
      | cons otherByte second =>
          have sameRest : first.length = second.length := Nat.succ.inj sameLength
          rw [List.cons_append, List.cons_append, List.cons_lt_cons_iff,
            inductionHypothesis sameRest, List.cons_lt_cons_iff, List.cons.injEq, and_or_left,
            or_assoc, and_assoc]

theorem length_bigEndian
    (width value : Nat) :
    (bigEndian width value).length = width := by
  rw [bigEndian, List.length_reverse, length_littleEndian]

/-- A number is written with its last digit behind the others. -/
theorem bigEndian_succ
    (width value : Nat) :
    bigEndian (width + 1) value = bigEndian width (value / 256) ++ [UInt8.ofNat (value % 256)] := by
  rw [bigEndian, littleEndian, List.reverse_cons, bigEndian]

/-- Numbers that fit their width are told apart by their bytes. -/
theorem bigEndian_inj
    {width first second : Nat}
    (firstFits : first < 256 ^ width)
    (secondFits : second < 256 ^ width) :
    bigEndian width first = bigEndian width second ↔ first = second := by
  rw [bigEndian, bigEndian, List.reverse_inj]
  constructor
  · intro same
    rw [← ofLittleEndian_littleEndian firstFits, same, ofLittleEndian_littleEndian secondFits]
  · rintro rfl
    rfl

/-- Numbers that fit their width have the order of their bytes. -/
theorem bigEndian_lt_iff
    {width first second : Nat}
    (firstFits : first < 256 ^ width)
    (secondFits : second < 256 ^ width) :
    bigEndian width first < bigEndian width second ↔ first < second := by
  induction width generalizing first second with
  | zero =>
      rw [Nat.pow_zero, Nat.lt_one_iff] at firstFits secondFits
      rw [firstFits, secondFits]
      simp [bigEndian, littleEndian]
  | succ width inductionHypothesis =>
      rw [Nat.pow_succ] at firstFits secondFits
      have firstUpper : first / 256 < 256 ^ width := Nat.div_lt_of_lt_mul (by omega)
      have secondUpper : second / 256 < 256 ^ width := Nat.div_lt_of_lt_mul (by omega)
      have sameLength :
          (bigEndian width (first / 256)).length = (bigEndian width (second / 256)).length := by
        rw [length_bigEndian, length_bigEndian]
      have digits :
          UInt8.ofNat (first % 256) < UInt8.ofNat (second % 256) ↔ first % 256 < second % 256 := by
        rw [UInt8.lt_iff_toNat_lt, UInt8.toNat_ofNat', UInt8.toNat_ofNat']
        omega
      rw [bigEndian_succ, bigEndian_succ, append_singleton_lt_iff sameLength,
        inductionHypothesis firstUpper secondUpper, bigEndian_inj firstUpper secondUpper, digits]
      omega

/-- To turn over a bit that is not set, and above all that are, is to add it. -/
theorem xor_two_pow_of_lt
    {value bit : Nat}
    (below : value < 2 ^ bit) :
    value ^^^ 2 ^ bit = value + 2 ^ bit := by
  have apart := Nat.two_pow_add_eq_or_of_lt below 1
  rw [Nat.mul_one] at apart
  rw [Nat.add_comm, apart]
  apply Nat.eq_of_testBit_eq
  intro place
  rw [Nat.testBit_xor, Nat.testBit_or, Nat.testBit_two_pow]
  by_cases isBit : bit = place
  · subst isBit
    simp [Nat.testBit_lt_two_pow below]
  · simp [isBit]

/-- How numbers are written: with or without a sign, and in how many bytes. -/
structure NumberFormat where
  signed : Bool
  width : Nat

namespace NumberFormat

/-- How many numbers can be written. -/
def size
    (format : NumberFormat) :
    Nat :=
  256 ^ format.width

/-- The top bit of the width, by which two's complement tells the sign. -/
def topBit
    (format : NumberFormat) :
    Nat :=
  format.size / 2

/-- Whether a number can be written. -/
def InRange
    (format : NumberFormat)
    (number : Int) :
    Prop :=
  if format.signed then
    -(format.topBit : Int) ≤ number ∧ number < format.topBit
  else
    0 ≤ number ∧ number < format.size

instance
    (format : NumberFormat)
    (number : Int) :
    Decidable (format.InRange number) :=
  inferInstanceAs (Decidable (ite _ _ _))

/-- The two's complement of a number; that of a number without sign is the number. -/
def twosComplement
    (format : NumberFormat)
    (number : Int) :
    Nat :=
  (number % format.size).toNat

/-- The bytes of a number, most significant first, with the top bit turned over for the sign. -/
def encode
    (format : NumberFormat)
    (number : Int) :
    Bytes :=
  bigEndian format.width
    (if format.signed then format.twosComplement number ^^^ format.topBit
      else format.twosComplement number)

/-- Where a number stands among those that can be written, from the least on. -/
def position
    (format : NumberFormat)
    (number : Int) :
    Nat :=
  (if format.signed then number + format.topBit else number).toNat

variable
  {format : NumberFormat}
  {number other : Int}

/-- If any signed number can be written, the width has a top bit. -/
theorem topBit_eq_two_pow
    (some : 0 < format.topBit) :
    ∃ bit, format.topBit = 2 ^ bit ∧ format.size = 2 * 2 ^ bit := by
  obtain ⟨signed, width⟩ := format
  cases width with
  | zero =>
      have none : (⟨signed, 0⟩ : NumberFormat).topBit = 0 := by
        simp [topBit, size]
      rw [none] at some
      exact absurd some (Nat.lt_irrefl 0)
  | succ width =>
      have size : (⟨signed, width + 1⟩ : NumberFormat).size = 2 * 2 ^ (8 * width + 7) := by
        rw [NumberFormat.size, show (256 : Nat) = 2 ^ 8 from rfl, ← Nat.pow_mul, Nat.mul_succ,
          ← Nat.pow_succ']
      refine ⟨8 * width + 7, ?_, size⟩
      rw [topBit, size]
      omega

/-- A number is written as its position. -/
theorem encode_eq
    (inRange : format.InRange number) :
    format.encode number = bigEndian format.width (format.position number) := by
  rw [InRange] at inRange
  rw [encode, position, twosComplement]
  congr 1
  cases signed : format.signed with
  | false =>
      simp only [signed, Bool.false_eq_true, if_false] at inRange ⊢
      rw [Int.emod_eq_of_lt inRange.1 inRange.2]
  | true =>
      simp only [signed, if_true] at inRange ⊢
      obtain ⟨lower, upper⟩ := inRange
      have some : 0 < format.topBit := by
        omega
      obtain ⟨bit, isTopBit, isSize⟩ := topBit_eq_two_pow some
      rw [isTopBit] at lower upper ⊢
      by_cases negative : number < 0
      · -- The two's complement of a negative number has the top bit, which is taken away.
        have wraps : (number % format.size).toNat = (number + (2 ^ bit : Nat)).toNat + 2 ^ bit := by
          rw [← Int.add_emod_right, Int.emod_eq_of_lt (by omega) (by omega)]
          omega
        have below : (number + (2 ^ bit : Nat)).toNat < 2 ^ bit := by
          omega
        rw [wraps, ← xor_two_pow_of_lt below, Nat.xor_assoc, Nat.xor_self, Nat.xor_zero]
      · have plain : (number % format.size).toNat = number.toNat := by
          rw [Int.emod_eq_of_lt (by omega) (by omega)]
        have below : number.toNat < 2 ^ bit := by
          omega
        rw [plain, xor_two_pow_of_lt below]
        omega

theorem position_lt_size
    (inRange : format.InRange number) :
    format.position number < format.size := by
  rw [InRange] at inRange
  rw [position]
  cases signed : format.signed with
  | false =>
      simp only [signed, Bool.false_eq_true, if_false] at inRange ⊢
      omega
  | true =>
      simp only [signed, if_true] at inRange ⊢
      have half : 2 * format.topBit ≤ format.size := by
        rw [topBit]
        omega
      omega

/-- Positions have the order of the numbers. -/
theorem position_lt_iff
    (inRange : format.InRange number)
    (otherInRange : format.InRange other) :
    format.position number < format.position other ↔ number < other := by
  rw [InRange] at inRange otherInRange
  rw [position, position]
  cases signed : format.signed with
  | false =>
      simp only [signed, Bool.false_eq_true, if_false] at inRange otherInRange ⊢
      omega
  | true =>
      simp only [signed, if_true] at inRange otherInRange ⊢
      omega

/-- Encodings have the order of the numbers. -/
theorem encode_lt_iff
    (inRange : format.InRange number)
    (otherInRange : format.InRange other) :
    format.encode number < format.encode other ↔ number < other := by
  rw [encode_eq inRange, encode_eq otherInRange,
    bigEndian_lt_iff (position_lt_size inRange) (position_lt_size otherInRange),
    position_lt_iff inRange otherInRange]

/-- Different numbers are written differently. -/
theorem encode_inj
    (inRange : format.InRange number)
    (otherInRange : format.InRange other) :
    format.encode number = format.encode other ↔ number = other := by
  constructor
  · intro same
    have notBelow := mt (encode_lt_iff inRange otherInRange).2 (by rw [same]; exact Std.lt_irrefl)
    have notAbove := mt (encode_lt_iff otherInRange inRange).2 (by rw [same]; exact Std.lt_irrefl)
    omega
  · rintro rfl
    rfl

end NumberFormat

/-- Signed numbers of eight bytes are written in the format of that width. -/
theorem orderedInt64_eq_encode
    (value : Int64) :
    orderedInt64 value = NumberFormat.encode ⟨true, 8⟩ value.toInt := by
  have bits : value.toInt = (value.toUInt64.toNat : Int).bmod (2 ^ 64) :=
    value.toBitVec.toInt_eq_toNat_bmod
  have fits := value.toUInt64.toNat_lt
  have wraps : NumberFormat.twosComplement ⟨true, 8⟩ value.toInt = value.toUInt64.toNat := by
    rw [NumberFormat.twosComplement, NumberFormat.size, bits,
      show (256 ^ 8 : Nat) = 2 ^ 64 from rfl, Int.bmod_emod,
      Int.emod_eq_of_lt (by omega) (by omega)]
    rfl
  rw [orderedInt64, NumberFormat.encode, if_pos rfl, wraps, UInt64.toNat_xor]
  rfl

end SecondaryIndex.Binary
