import Mathlib.Algebra.Group.Nat.Defs
import SecondaryIndex.Binary.Layout

namespace SecondaryIndex.Binary

/-!
# Reading back what has been written

A reader takes back a written value and leaves what follows it.  A length is
written in eight bytes, so this holds for values whose lengths fit there.
-/

/-- Whatever follows some bytes, a reader takes a value from them and leaves the rest. -/
def Reader.Takes
    {α : Type}
    (reader : Reader α)
    (bytes : Bytes)
    (value : α) :
    Prop :=
  ∀ rest, StateT.run reader (bytes ++ rest) = .ok (value, rest)

namespace Reader.Takes

variable {α β : Type}

theorem pure
    (value : α) :
    Reader.Takes (Pure.pure value) [] value :=
  fun _ => rfl

/-- A composed reader takes one part after the other. -/
theorem bind
    {reader : Reader α}
    {next : α → Reader β}
    {first second : Bytes}
    {value : α}
    {result : β}
    (takes : reader.Takes first value)
    (takesNext : (next value).Takes second result) :
    Reader.Takes (reader >>= next) (first ++ second) result := by
  intro rest
  rw [List.append_assoc, StateT.run_bind, takes]
  exact takesNext rest

end Reader.Takes

/-- The first number that a length cannot be. -/
def lengthLimit :
    Nat :=
  256 ^ 8

section Numbers

theorem length_littleEndian
    (width value : Nat) :
    (littleEndian width value).length = width := by
  induction width generalizing value with
  | zero =>
      rfl
  | succ width inductionHypothesis =>
      rw [littleEndian, List.length_cons, inductionHypothesis]

/-- A number that fits its width is the number that its bytes write. -/
theorem ofLittleEndian_littleEndian
    {width value : Nat}
    (fits : value < 256 ^ width) :
    ofLittleEndian (littleEndian width value) = value := by
  induction width generalizing value with
  | zero =>
      have isZero : value = 0 := by
        simpa using fits
      rw [isZero]
      rfl
  | succ width inductionHypothesis =>
      have upperFits : value / 256 < 256 ^ width := by
        rw [Nat.pow_succ] at fits
        exact Nat.div_lt_of_lt_mul (by rwa [Nat.mul_comm] at fits)
      have lower : (UInt8.ofNat (value % 256)).toNat = value % 256 := by
        rw [UInt8.toNat_ofNat']
        omega
      rw [littleEndian, ofLittleEndian, inductionHypothesis upperFits, lower]
      omega

theorem readFixed_takes
    {width value : Nat}
    (fits : value < 256 ^ width) :
    (readFixed width).Takes (littleEndian width value) value := by
  intro rest
  have enough : ¬ (littleEndian width value ++ rest).length < width := by
    rw [List.length_append, length_littleEndian]
    omega
  have taken : (littleEndian width value ++ rest).take width = littleEndian width value := by
    rw [List.take_append_of_le_length (Nat.le_of_eq (length_littleEndian width value).symm)]
    exact List.take_of_length_le (Nat.le_of_eq (length_littleEndian width value))
  have left : (littleEndian width value ++ rest).drop width = rest :=
    List.drop_left' (length_littleEndian width value)
  simp only [readFixed, StateT.run, enough, if_false, taken, left,
    ofLittleEndian_littleEndian fits]

theorem readNat64_takes
    {value : Nat}
    (fits : value < lengthLimit) :
    readNat64.Takes (writeNat64 value) value :=
  readFixed_takes fits

end Numbers

section Sequences

/-- A byte string whose length fits is read back. -/
theorem readBytes_takes
    {bytes : Bytes}
    (fits : bytes.length < lengthLimit) :
    readBytes.Takes (writeBytes bytes) bytes := by
  refine (readNat64_takes fits).bind ?_
  intro rest
  have enough : ¬ (bytes ++ rest).length < bytes.length := by
    rw [List.length_append]
    omega
  simp [StateT.run]

variable
  {α : Type}
  {readItem : Reader α}
  {writeItem : α → Bytes}
  {items : List α}

/-- Items that are read back one by one are read back in a row. -/
theorem readItems_takes
    (each : ∀ item ∈ items, readItem.Takes (writeItem item) item) :
    (readItems readItem items.length).Takes (items.flatMap writeItem) items := by
  induction items with
  | nil =>
      exact .pure []
  | cons item items inductionHypothesis =>
      have first := each item List.mem_cons_self
      have others :=
        inductionHypothesis fun other member => each other (List.mem_cons_of_mem _ member)
      have shape :
          (item :: items).flatMap writeItem =
            writeItem item ++ (items.flatMap writeItem ++ []) := by
        rw [List.flatMap_cons, List.append_nil]
      rw [shape]
      exact first.bind (others.bind (.pure _))

/-- A sequence is read back if its length fits and its items are read back. -/
theorem readSequence_takes
    (fits : items.length < lengthLimit)
    (each : ∀ item ∈ items, readItem.Takes (writeItem item) item) :
    (readSequence readItem).Takes (writeSequence writeItem items) items :=
  (readNat64_takes fits).bind (readItems_takes each)

end Sequences

end SecondaryIndex.Binary
