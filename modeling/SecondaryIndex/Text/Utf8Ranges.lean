import SecondaryIndex.Text.CodeRanges

namespace SecondaryIndex.Text

/-!
# Ranges of characters as bytes

A range of characters is a row of blocks: the encodings in a block have the same
length, and each of their bytes runs through a range of its own, whatever the
other bytes are.  A range is cut where the length changes; within one length the
blocks follow from the digits of its ends to the base of 64, since every byte
after the first holds one such digit.
-/

/-- Encodings of one length: for each byte its first and its last value. -/
abbrev ByteBlock :=
  List (Nat × Nat)

namespace ByteBlock

/-- The mark of a byte that goes on with a character. -/
def continuation :
    Nat :=
  0x80

/-- The bytes that end a block in which every continuation is allowed. -/
def full
    (count : Nat) :
    ByteBlock :=
  List.replicate count (continuation, continuation + 63)

/--
The blocks of a range of values that are written by a marked first byte and a
number of continuation bytes, in ascending order.
-/
def ofValues :
    (continuations mark first last : Nat) → List ByteBlock
  | 0, mark, first, last =>
      [[(mark + first, mark + last)]]
  | count + 1, mark, first, last =>
      let size := 1 <<< (6 * (count + 1))
      let low := first / size
      let high := last / size
      let lowTail := first % size
      let highTail := last % size
      let leading (value : Nat) (tails : List ByteBlock) :=
        tails.map fun tail => (mark + value, mark + value) :: tail
      if low = high then
        leading low (ofValues count continuation lowTail highTail)
      else
        let fromStart := lowTail = 0
        let toEnd := highTail = size - 1
        let start := if fromStart then low else low + 1
        let stop := if toEnd then high else high - 1
        (if fromStart then []
          else leading low (ofValues count continuation lowTail (size - 1))) ++
        (if start ≤ stop then [(mark + start, mark + stop) :: full (count + 1)] else []) ++
        (if toEnd then [] else leading high (ofValues count continuation 0 highTail))

/--
The ranges of characters that have encodings of one length, each with the number
of continuation bytes and the mark of the first byte.
-/
def lengths :
    List ((Nat × Nat) × Nat × Nat) :=
  [ ((0x00, 0x7F), 0, 0x00), ((0x80, 0x7FF), 1, 0xC0), ((0x800, 0xD7FF), 2, 0xE0),
    ((0xE000, 0xFFFF), 2, 0xE0), ((0x10000, 0x10FFFF), 3, 0xF0) ]

/-- The blocks of the characters in some ranges, in ascending order. -/
def ofRanges
    (ranges : CodeRanges) :
    List ByteBlock :=
  ranges.flatMap fun range =>
    lengths.flatMap fun (whole, continuations, mark) =>
      (CodeRanges.within whole [range]).flatMap fun part =>
        ofValues continuations mark part.1 part.2

/-- The greatest number of bytes in an encoding. -/
def longest :
    Nat :=
  4

theorem mem_of_mem_when
    {condition : Prop}
    [Decidable condition]
    {block : ByteBlock}
    {blocks : List ByteBlock}
    (member : block ∈ if condition then blocks else []) :
    block ∈ blocks := by
  split at member
  · exact member
  · cases member

theorem mem_of_mem_unless
    {condition : Prop}
    [Decidable condition]
    {block : ByteBlock}
    {blocks : List ByteBlock}
    (member : block ∈ if condition then [] else blocks) :
    block ∈ blocks := by
  split at member
  · cases member
  · exact member

/-- A block has one range for the first byte and one for each continuation. -/
theorem length_of_mem_ofValues
    {continuations mark first last : Nat}
    {block : ByteBlock}
    (member : block ∈ ofValues continuations mark first last) :
    block.length = continuations + 1 := by
  induction continuations generalizing mark first last block with
  | zero =>
      simp only [ofValues, List.mem_singleton] at member
      simp [member]
  | succ count inductionHypothesis =>
      have leading :
          ∀ {value low high : Nat},
            block ∈ (ofValues count continuation low high).map
                (fun tail => (mark + value, mark + value) :: tail) →
              block.length = count + 1 + 1 := by
        intro value low high found
        obtain ⟨tail, inTail, rfl⟩ := List.mem_map.mp found
        simp [inductionHypothesis inTail]
      simp only [ofValues] at member
      split at member
      · exact leading member
      · rcases List.mem_append.mp member with earlier | after
        · rcases List.mem_append.mp earlier with before | between
          · exact leading (mem_of_mem_unless before)
          · simp [List.mem_singleton.mp (mem_of_mem_when between), full]
        · exact leading (mem_of_mem_unless after)

/-- No encoding is longer than the longest. -/
theorem length_le_of_mem_ofRanges
    {ranges : CodeRanges}
    {block : ByteBlock}
    (member : block ∈ ofRanges ranges) :
    block.length ≤ longest := by
  simp only [ofRanges, List.mem_flatMap] at member
  obtain ⟨_, _, ⟨whole, continuations, mark⟩, length, _, _, inside⟩ := member
  rw [length_of_mem_ofValues inside]
  have bounded : ∀ entry ∈ lengths, entry.2.1 + 1 ≤ longest := by decide
  exact bounded _ length

end ByteBlock

end SecondaryIndex.Text
