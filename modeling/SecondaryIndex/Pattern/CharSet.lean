import SecondaryIndex.Text.Blank
import SecondaryIndex.Text.CaseFold
import SecondaryIndex.Text.DecimalDigit
import SecondaryIndex.Text.WordChar

namespace SecondaryIndex.Pattern

/-!
# Sets of characters

A character set is kept as ranges that do not touch, so sets with the same
members are equal and the number of ranges says how much room a set takes in an
automaton.  Folding a set adds every character that equals a member up to case.
-/

/-- A set of characters, as ranges of code points. -/
structure CharSet where
  ranges : Text.CodeRanges
  deriving Repr, DecidableEq

namespace CharSet

/-- The set without members. -/
def none :
    CharSet :=
  ⟨[]⟩

/-- The set of all characters. -/
def all :
    CharSet :=
  ⟨[(0, 0x10FFFF)]⟩

/-- The characters from a first to a last code point. -/
def range
    (first last : Nat) :
    CharSet :=
  ⟨[(first, last)]⟩

/-- The set of one character. -/
def single
    (char : Char) :
    CharSet :=
  range char.toNat char.toNat

/-- The decimal digits. -/
def digits :
    CharSet :=
  ⟨Text.decimalDigits⟩

/-- The white space characters. -/
def blanks :
    CharSet :=
  ⟨Text.blanks⟩

/-- The word characters. -/
def wordChars :
    CharSet :=
  ⟨Text.wordChars⟩

/-- The characters in one of two sets. -/
def union
    (left right : CharSet) :
    CharSet :=
  ⟨left.ranges.union right.ranges⟩

/-- The characters in one of some sets. -/
def unions
    (sets : List CharSet) :
    CharSet :=
  sets.foldr union none

/-- The characters in both of two sets. -/
def intersection
    (left right : CharSet) :
    CharSet :=
  ⟨left.ranges.intersection right.ranges⟩

/-- The characters in one set and not in the other. -/
def difference
    (left right : CharSet) :
    CharSet :=
  ⟨left.ranges.difference right.ranges⟩

/-- The characters in exactly one of two sets. -/
def symmetricDifference
    (left right : CharSet) :
    CharSet :=
  (left.union right).difference (left.intersection right)

/-- The characters outside a set. -/
def complement
    (set : CharSet) :
    CharSet :=
  all.difference set

/-- The characters that equal a member up to case. -/
def folded
    (set : CharSet) :
    CharSet :=
  ⟨set.ranges.folded⟩

/-- The set, folded where case is to be ignored. -/
def foldedWhen
    (ignoreCase : Bool)
    (set : CharSet) :
    CharSet :=
  if ignoreCase then set.folded else set

/-- Whether a character belongs to the set. -/
def contains
    (set : CharSet)
    (char : Char) :
    Bool :=
  set.ranges.contains char

/-- Whether all members are ASCII characters. -/
def isAscii
    (set : CharSet) :
    Bool :=
  set.ranges.all fun range => range.2 < 0x80

/-- The member of a set with one member. -/
def single? :
    CharSet → Option Char
  | ⟨[(first, last)]⟩ =>
      if first = last then some (Char.ofNat first) else Option.none
  | _ =>
      Option.none

theorem contains_all
    {char : Char} :
    all.contains char = true := by
  have valid : char.toNat < 0x110000 :=
    char.valid.elim (fun low => Nat.lt_trans low (by decide)) And.right
  simp only [contains, all, Text.CodeRanges.contains_cons]
  exact .inl ⟨Nat.zero_le _, Nat.le_of_lt_succ valid⟩

theorem contains_union
    {left right : CharSet}
    {char : Char} :
    (left.union right).contains char = true ↔
      left.contains char = true ∨ right.contains char = true :=
  Text.CodeRanges.contains_union

theorem contains_intersection
    {left right : CharSet}
    {char : Char} :
    (left.intersection right).contains char = true ↔
      left.contains char = true ∧ right.contains char = true :=
  Text.CodeRanges.contains_intersection

theorem contains_difference
    {left right : CharSet}
    {char : Char} :
    (left.difference right).contains char = true ↔
      left.contains char = true ∧ ¬ right.contains char = true :=
  Text.CodeRanges.contains_difference

/-- Folding loses no member. -/
theorem contains_foldedWhen_of_contains
    {ignoreCase : Bool}
    {set : CharSet}
    {char : Char}
    (member : set.contains char = true) :
    (set.foldedWhen ignoreCase).contains char = true := by
  cases ignoreCase with
  | false => exact member
  | true => exact Text.CodeRanges.contains_folded_of_contains member

theorem contains_complement
    {set : CharSet}
    {char : Char} :
    set.complement.contains char = true ↔ ¬ set.contains char = true := by
  rw [complement, contains_difference]
  simp [contains_all]

/-- The named classes of ASCII characters. -/
def ascii? :
    String → Option CharSet
  | "alnum" =>
      some (unions [range 0x30 0x39, range 0x41 0x5A, range 0x61 0x7A])
  | "alpha" =>
      some (unions [range 0x41 0x5A, range 0x61 0x7A])
  | "ascii" =>
      some (range 0x00 0x7F)
  | "blank" =>
      some (unions [range 0x09 0x09, range 0x20 0x20])
  | "cntrl" =>
      some (unions [range 0x00 0x1F, range 0x7F 0x7F])
  | "digit" =>
      some (range 0x30 0x39)
  | "graph" =>
      some (range 0x21 0x7E)
  | "lower" =>
      some (range 0x61 0x7A)
  | "print" =>
      some (range 0x20 0x7E)
  | "punct" =>
      some (unions [range 0x21 0x2F, range 0x3A 0x40, range 0x5B 0x60, range 0x7B 0x7E])
  | "space" =>
      some (unions [range 0x09 0x0D, range 0x20 0x20])
  | "upper" =>
      some (range 0x41 0x5A)
  | "word" =>
      some (unions [range 0x30 0x39, range 0x41 0x5A, range 0x5F 0x5F, range 0x61 0x7A])
  | "xdigit" =>
      some (unions [range 0x30 0x39, range 0x41 0x46, range 0x61 0x66])
  | _ =>
      Option.none

end CharSet

end SecondaryIndex.Pattern
