import SecondaryIndex.Text.CodeRanges

namespace SecondaryIndex.Text

/-!
# White space

The characters with the property White_Space.
-/

/-- The white space characters. -/
def blanks :
    CodeRanges :=
  [ (0x9, 0xD), (0x20, 0x20), (0x85, 0x85), (0xA0, 0xA0), (0x1680, 0x1680), (0x2000, 0x200A),
    (0x2028, 0x2029), (0x202F, 0x202F), (0x205F, 0x205F), (0x3000, 0x3000) ]

/-- Whether a character is white space. -/
def isBlank
    (char : Char) :
    Bool :=
  blanks.contains char

/-- Every white space character of ASCII is in the table. -/
theorem isBlank_of_isWhitespace
    {char : Char}
    (white : char.isWhitespace = true) :
    isBlank char = true := by
  simp [Char.isWhitespace] at white
  rcases white with ((equal | equal) | equal) | equal <;> subst equal <;> decide

end SecondaryIndex.Text
