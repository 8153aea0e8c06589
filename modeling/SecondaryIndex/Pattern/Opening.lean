import SecondaryIndex.Pattern.Error
import SecondaryIndex.Text.Alphabetic
import SecondaryIndex.Text.Numeric

namespace SecondaryIndex.Pattern

/-!
# What an opening parenthesis begins

A parenthesis opens a plain group, a named group or a group with switches of its
own; or it only changes the switches for the rest of the group around it.
-/

/-- The switches of a group. -/
structure Flags where
  ignoreCase : Bool
  manyLines : Bool
  dotMatchesNewline : Bool
  deriving Repr, DecidableEq

/-- What an opening parenthesis begins. -/
inductive Opening where
  | plain
  | named (name : String)
  | flagged (flags : Flags)
  | setting (flags : Flags)
  deriving Repr, DecidableEq

/-- Switches as they are read: which letters have stood, and whether a minus has. -/
structure FlagReader where
  flags : Flags
  stood : List Char
  negated : Bool
  dangling : Bool

/-- Read the switches up to the colon or the closing parenthesis, counting characters. -/
def readFlags
    (reader : FlagReader)
    (width : Nat) :
    List Char → Except Error (Opening × Nat)
  | [] =>
      .error .unclosedGroup
  | ':' :: _ =>
      if reader.dangling then
        .error .danglingNegation
      else
        .ok (.flagged reader.flags, width + 1)
  | ')' :: _ =>
      if reader.dangling then
        .error .danglingNegation
      else if reader.stood.isEmpty then
        .error .nothingToRepeat
      else
        .ok (.setting reader.flags, width + 1)
  | char :: rest =>
      if reader.stood.contains char then
        .error .repeatedFlag
      else
        let stood := char :: reader.stood
        let value := !reader.negated
        match char with
        | '-' =>
            readFlags { reader with stood, negated := true, dangling := true }
              (width + 1) rest
        | 'i' =>
            readFlags
              { reader with
                flags := { reader.flags with ignoreCase := value }, stood, dangling := false }
              (width + 1) rest
        | 'm' =>
            readFlags
              { reader with
                flags := { reader.flags with manyLines := value }, stood, dangling := false }
              (width + 1) rest
        | 's' =>
            readFlags
              { reader with
                flags := { reader.flags with dotMatchesNewline := value }, stood,
                dangling := false }
              (width + 1) rest
        | _ =>
            .error .unknownFlag

/-- Whether a character may stand first in the name of a group. -/
def isNameStart
    (char : Char) :
    Bool :=
  char = '_' || Text.isAlphabetic char

/-- Whether a character may stand later in the name of a group. -/
def isNamePart
    (char : Char) :
    Bool :=
  ['_', '.', '[', ']'].contains char || Text.isAlphabetic char || Text.isNumeric char

/-- Read the name of a group and the angle bracket after it. -/
def readGroupName
    (input : List Char) :
    Except Error (String × Nat) :=
  let name := input.takeWhile (· ≠ '>')
  if name.length = input.length then
    .error .badGroupName
  else
    match name with
    | first :: rest =>
        if isNameStart first && rest.all isNamePart then
          .ok (String.ofList name, name.length + 1)
        else
          .error .badGroupName
    | [] =>
        .error .badGroupName

/-- Read what an opening parenthesis begins, under the switches in force. -/
def readOpening
    (flags : Flags) :
    List Char → Except Error (Opening × Nat)
  | '?' :: '=' :: _ =>
      .error .lookAround
  | '?' :: '!' :: _ =>
      .error .lookAround
  | '?' :: '<' :: '=' :: _ =>
      .error .lookAround
  | '?' :: '<' :: '!' :: _ =>
      .error .lookAround
  | '?' :: 'P' :: '<' :: rest => do
      let (name, width) ← readGroupName rest
      return (.named name, width + 3)
  | '?' :: '<' :: rest => do
      let (name, width) ← readGroupName rest
      return (.named name, width + 2)
  | '?' :: rest =>
      readFlags ⟨flags, [], false, false⟩ 1 rest
  | _ =>
      .ok (.plain, 0)

end SecondaryIndex.Pattern
