namespace SecondaryIndex.Pattern

/-!
# Why a text is no pattern
-/

/-- What is wrong with the text of a pattern. -/
inductive Error where
  | unclosedGroup
  | unopenedGroup
  | unclosedClass
  | unclosedRepetition
  | nothingToRepeat
  | missingCount
  | countTooLarge
  | emptyRange
  | unknownEscape
  | unfinishedEscape
  | noCharacter
  | noCharacterInClass
  | unknownFlag
  | repeatedFlag
  | danglingNegation
  | badGroupName
  | repeatedGroupName
  | lookAround
  | backReference
  | tooDeep
  | tooLarge
  deriving Repr, DecidableEq

end SecondaryIndex.Pattern
