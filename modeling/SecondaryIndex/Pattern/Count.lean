import SecondaryIndex.Pattern.Error
import SecondaryIndex.Pattern.Expr
import SecondaryIndex.Text.Blank

namespace SecondaryIndex.Pattern

/-!
# Counted repetitions

A count in braces is a number, a number with a comma, or two numbers.  White
space may stand around a number, and a question mark after the brace asks for
few rounds before many.
-/

/-- The largest count that a repetition can be given. -/
def largestCount :
    Nat :=
  4294967295

/-- Read a decimal number with white space around it. -/
def readDecimal
    (input : List Char) :
    Except Error (Nat × Nat) :=
  let leading := input.takeWhile Text.isBlank
  let digits := (input.drop leading.length).takeWhile Char.isDigit
  let trailing := (input.drop (leading.length + digits.length)).takeWhile Text.isBlank
  let value := digits.foldl (fun value digit => value * 10 + (digit.toNat - '0'.toNat)) 0
  if digits.isEmpty then
    .error .missingCount
  else if largestCount < value then
    .error .countTooLarge
  else
    .ok (value, leading.length + digits.length + trailing.length)

/-- Read what follows a count: its closing brace and, if it is there, the mark for few. -/
def readCountEnd
    (least : Nat)
    (most : Option Nat)
    (width : Nat) :
    List Char → Except Error (Repetition × Nat)
  | '}' :: '?' :: _ =>
      .ok (⟨least, most, false⟩, width + 2)
  | '}' :: _ =>
      .ok (⟨least, most, true⟩, width + 1)
  | _ =>
      .error .unclosedRepetition

/-- Read a counted repetition after its opening brace. -/
def readCount
    (input : List Char) :
    Except Error (Repetition × Nat) := do
  if input.isEmpty then
    throw .unclosedRepetition
  let (least, width) ← readDecimal input
  match input.drop width with
  | ',' :: '}' :: rest =>
      readCountEnd least none (width + 1) ('}' :: rest)
  | ',' :: rest =>
      let (most, more) ← readDecimal rest
      let (times, whole) ← readCountEnd least (some most) (width + 1 + more) (rest.drop more)
      if most < least then
        throw .emptyRange
      return (times, whole)
  | rest =>
      readCountEnd least (some least) width rest

end SecondaryIndex.Pattern
