namespace SecondaryIndex.Text

/-!
# Sets of code points as ranges

Character properties are tables of disjoint code point ranges in ascending
order; both ends of a range belong to it.  No character has a code point from
0xD800 to 0xDFFF, so the ranges on the two sides of this gap are neighbours.
Ranges are kept apart: what is inserted grows together with its neighbours, so
two sets with the same characters are the same list.
-/

/-- Ranges of code points, each with its first and its last member. -/
abbrev CodeRanges :=
  List (Nat × Nat)

/-- The code point of the next character. -/
def codeAfter
    (code : Nat) :
    Nat :=
  if code = 0xD7FF then 0xE000 else code + 1

/-- The code point of the character before. -/
def codeBefore
    (code : Nat) :
    Nat :=
  if code = 0xE000 then 0xD7FF else code - 1

namespace CodeRanges

/-- Whether a code point lies in one of the ranges. -/
def containsCode
    (ranges : CodeRanges)
    (code : Nat) :
    Bool :=
  ranges.any fun range => range.1 ≤ code && code ≤ range.2

/-- Whether a character lies in one of the ranges. -/
def contains
    (ranges : CodeRanges)
    (char : Char) :
    Bool :=
  ranges.containsCode char.toNat

/-- Add a range at its place; ranges that it meets or touches become one with it. -/
def insert :
    Nat × Nat → CodeRanges → CodeRanges
  | range, [] =>
      [range]
  | range, head :: rest =>
      if codeAfter range.2 < head.1 then
        range :: head :: rest
      else if codeAfter head.2 < range.1 then
        head :: insert range rest
      else
        insert (min range.1 head.1, max range.2 head.2) rest

/-- The code points in one of two sets. -/
def union
    (left right : CodeRanges) :
    CodeRanges :=
  left.foldr insert right

/-- The part of the ranges inside one range. -/
def within
    (range : Nat × Nat)
    (ranges : CodeRanges) :
    CodeRanges :=
  ranges.flatMap fun other =>
    let low := max range.1 other.1
    let high := min range.2 other.2
    if low ≤ high then [(low, high)] else []

/-- The part of the ranges outside one range. -/
def without
    (ranges : CodeRanges)
    (range : Nat × Nat) :
    CodeRanges :=
  ranges.flatMap fun other =>
    let below := (other.1, min other.2 (codeBefore range.1))
    let above := (max other.1 (codeAfter range.2), other.2)
    (if other.1 < range.1 then [below] else []) ++ (if range.2 < other.2 then [above] else [])

/-- The code points in both of two sets. -/
def intersection
    (left right : CodeRanges) :
    CodeRanges :=
  right.flatMap fun range => left.within range

/-- The code points in one set and not in the other. -/
def difference
    (left right : CodeRanges) :
    CodeRanges :=
  right.foldl without left

theorem containsCode_iff
    {ranges : CodeRanges}
    {code : Nat} :
    ranges.containsCode code = true ↔ ∃ range ∈ ranges, range.1 ≤ code ∧ code ≤ range.2 := by
  simp [containsCode]

theorem contains_iff
    {ranges : CodeRanges}
    {char : Char} :
    ranges.contains char = true ↔
      ∃ range ∈ ranges, range.1 ≤ char.toNat ∧ char.toNat ≤ range.2 :=
  containsCode_iff

theorem contains_of_mem
    {ranges : CodeRanges}
    {range : Nat × Nat}
    {char : Char}
    (member : range ∈ ranges)
    (inside : range.1 ≤ char.toNat ∧ char.toNat ≤ range.2) :
    ranges.contains char = true :=
  contains_iff.mpr ⟨range, member, inside⟩

/-- Ranges with the capital letters of ASCII contain each of them. -/
theorem contains_of_isUpper
    {ranges : CodeRanges}
    {char : Char}
    (member : (0x41, 0x5A) ∈ ranges)
    (upper : char.isUpper = true) :
    ranges.contains char = true :=
  contains_of_mem member (of_decide_eq_true upper)

/-- Ranges with the small letters of ASCII contain each of them. -/
theorem contains_of_isLower
    {ranges : CodeRanges}
    {char : Char}
    (member : (0x61, 0x7A) ∈ ranges)
    (lower : char.isLower = true) :
    ranges.contains char = true :=
  contains_of_mem member
    ((Bool.and_eq_true_iff.mp lower).imp of_decide_eq_true of_decide_eq_true)

/-- Ranges with the digits of ASCII contain each of them. -/
theorem contains_of_isDigit
    {ranges : CodeRanges}
    {char : Char}
    (member : (0x30, 0x39) ∈ ranges)
    (digit : char.isDigit = true) :
    ranges.contains char = true :=
  contains_of_mem member
    ((Bool.and_eq_true_iff.mp digit).imp of_decide_eq_true of_decide_eq_true)

@[simp]
theorem contains_nil
    {char : Char} :
    contains [] char = false :=
  rfl

theorem contains_cons
    {range : Nat × Nat}
    {ranges : CodeRanges}
    {char : Char} :
    contains (range :: ranges) char = true ↔
      (range.1 ≤ char.toNat ∧ char.toNat ≤ range.2) ∨ ranges.contains char = true := by
  simp [contains_iff]

theorem contains_append
    {left right : CodeRanges}
    {char : Char} :
    contains (left ++ right) char = true ↔
      left.contains char = true ∨ right.contains char = true := by
  simp [contains, containsCode]

/-- A character has a code point below the gap or above it. -/
theorem toNat_outside_gap
    (char : Char) :
    char.toNat < 0xD800 ∨ 0xDFFF < char.toNat :=
  char.valid.imp id And.left

theorem contains_insert
    {range : Nat × Nat}
    {ranges : CodeRanges}
    {char : Char} :
    (insert range ranges).contains char = true ↔
      (range.1 ≤ char.toNat ∧ char.toNat ≤ range.2) ∨ ranges.contains char = true := by
  induction ranges generalizing range with
  | nil =>
      rw [insert, contains_cons]
  | cons head rest inductionHypothesis =>
      rw [insert]
      split
      · rw [contains_cons]
      · split
        · rw [contains_cons, inductionHypothesis, contains_cons]
          constructor <;> rintro (first | second | third) <;> simp [*]
        next noGapAbove noGapBelow =>
          rw [inductionHypothesis, contains_cons, ← or_assoc]
          have outside := toNat_outside_gap char
          have joined :
              (min range.1 head.1 ≤ char.toNat ∧ char.toNat ≤ max range.2 head.2) ↔
                (range.1 ≤ char.toNat ∧ char.toNat ≤ range.2) ∨
                  (head.1 ≤ char.toNat ∧ char.toNat ≤ head.2) := by
            simp only [codeAfter] at noGapAbove noGapBelow
            split at noGapAbove <;> split at noGapBelow <;> omega
          rw [joined]

theorem contains_union
    {left right : CodeRanges}
    {char : Char} :
    (left.union right).contains char = true ↔
      left.contains char = true ∨ right.contains char = true := by
  induction left with
  | nil =>
      simp [union]
  | cons head rest inductionHypothesis =>
      have step : union (head :: rest) right = insert head (union rest right) := rfl
      rw [step, contains_insert, inductionHypothesis, contains_cons, or_assoc]

theorem contains_within
    {range : Nat × Nat}
    {ranges : CodeRanges}
    {char : Char} :
    (ranges.within range).contains char = true ↔
      (range.1 ≤ char.toNat ∧ char.toNat ≤ range.2) ∧ ranges.contains char = true := by
  induction ranges with
  | nil =>
      simp [within]
  | cons head rest inductionHypothesis =>
      rw [contains_cons, and_or_left, ← inductionHypothesis]
      simp only [within, List.flatMap_cons, contains_append]
      refine or_congr ?_ Iff.rfl
      split
      all_goals
        simp only [contains_cons, contains_nil, Bool.false_eq_true, or_false, false_iff]
      all_goals omega

theorem contains_without
    {range : Nat × Nat}
    {ranges : CodeRanges}
    {char : Char} :
    (ranges.without range).contains char = true ↔
      ranges.contains char = true ∧ ¬ (range.1 ≤ char.toNat ∧ char.toNat ≤ range.2) := by
  induction ranges with
  | nil =>
      simp [without]
  | cons head rest inductionHypothesis =>
      have outside := toNat_outside_gap char
      rw [contains_cons, or_and_right, ← inductionHypothesis]
      simp only [without, List.flatMap_cons, contains_append, codeBefore, codeAfter]
      refine or_congr ?_ Iff.rfl
      repeat' split
      all_goals
        simp only [contains_cons, contains_nil, Bool.false_eq_true, or_false, false_or,
          false_iff]
      all_goals omega

theorem contains_intersection
    {left right : CodeRanges}
    {char : Char} :
    (left.intersection right).contains char = true ↔
      left.contains char = true ∧ right.contains char = true := by
  induction right with
  | nil =>
      simp [intersection]
  | cons head rest inductionHypothesis =>
      have step :
          left.intersection (head :: rest) = left.within head ++ left.intersection rest := by
        simp [intersection]
      rw [step, contains_append, contains_within, inductionHypothesis, contains_cons,
        and_or_left, and_comm]

theorem contains_difference
    {left right : CodeRanges}
    {char : Char} :
    (left.difference right).contains char = true ↔
      left.contains char = true ∧ ¬ right.contains char = true := by
  induction right generalizing left with
  | nil =>
      simp [difference]
  | cons head rest inductionHypothesis =>
      have step : left.difference (head :: rest) = (left.without head).difference rest := rfl
      rw [step, inductionHypothesis, contains_without, contains_cons, not_or, and_assoc]

end CodeRanges

end SecondaryIndex.Text
