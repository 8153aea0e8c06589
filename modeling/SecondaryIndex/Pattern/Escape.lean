import SecondaryIndex.Pattern.Error
import SecondaryIndex.Pattern.Expr
import SecondaryIndex.Text.Hex

namespace SecondaryIndex.Pattern

/-!
# Escapes in a pattern

An escape is read the same way wherever it stands.  Its reader is given the text
after the backslash, and answers what the escape means and how many characters
it takes.
-/

/-- What an escape stands for. -/
inductive Escape where
  | char (char : Char)
  | set (set : CharSet)
  | assertion (condition : Assertion)
  deriving Repr, DecidableEq

/-- The characters with a meaning of their own somewhere in a pattern. -/
def metaCharacters :
    List Char :=
  ['\\', '.', '+', '*', '?', '(', ')', '|', '[', ']', '{', '}', '^', '$', '#', '&', '-', '~']

/-- Whether a backslash may stand before a character to take its meaning away. -/
def isEscapable
    (char : Char) :
    Bool :=
  metaCharacters.contains char ||
    (char.toNat < 0x80 && !char.isAlphanum && char != '<' && char != '>')

/-- The number that hexadecimal digits write, if there is a character of that number. -/
def charOfHex?
    (digits : List Char) :
    Option Char := do
  let values ← digits.mapM Text.Hex.digit?
  let code := values.foldl (fun code value => code * 16 + value) 0
  if code.isValidChar then
    return Char.ofNat code
  else
    none

/-- Read a character given by hexadecimal digits, a fixed number of them or any in braces. -/
def readHex
    (width : Nat) :
    List Char → Except Error (Char × Nat)
  | [] =>
      .error .unfinishedEscape
  | '{' :: rest =>
      let digits := rest.takeWhile (· ≠ '}')
      if digits.length = rest.length then
        .error .unfinishedEscape
      else if digits.isEmpty then
        .error .noCharacter
      else
        match charOfHex? digits with
        | some char => .ok (char, digits.length + 2)
        | none => .error .noCharacter
  | rest =>
      let digits := rest.take width
      if digits.length < width then
        .error .unfinishedEscape
      else
        match charOfHex? digits with
        | some char => .ok (char, width)
        | none => .error .noCharacter

/-- Read an escape after its backslash. -/
def readEscape :
    List Char → Except Error (Escape × Nat)
  | [] =>
      .error .unfinishedEscape
  | 'x' :: rest => do
      let (char, width) ← readHex 2 rest
      return (.char char, width + 1)
  | 'u' :: rest => do
      let (char, width) ← readHex 4 rest
      return (.char char, width + 1)
  | 'U' :: rest => do
      let (char, width) ← readHex 8 rest
      return (.char char, width + 1)
  | 'd' :: _ =>
      .ok (.set .digits, 1)
  | 'D' :: _ =>
      .ok (.set CharSet.digits.complement, 1)
  | 's' :: _ =>
      .ok (.set .blanks, 1)
  | 'S' :: _ =>
      .ok (.set CharSet.blanks.complement, 1)
  | 'w' :: _ =>
      .ok (.set .wordChars, 1)
  | 'W' :: _ =>
      .ok (.set CharSet.wordChars.complement, 1)
  | 'a' :: _ =>
      .ok (.char '\x07', 1)
  | 'f' :: _ =>
      .ok (.char '\x0c', 1)
  | 't' :: _ =>
      .ok (.char '\t', 1)
  | 'n' :: _ =>
      .ok (.char '\n', 1)
  | 'r' :: _ =>
      .ok (.char '\r', 1)
  | 'v' :: _ =>
      .ok (.char '\x0b', 1)
  | 'A' :: _ =>
      .ok (.assertion .textStart, 1)
  | 'z' :: _ =>
      .ok (.assertion .textEnd, 1)
  | 'b' :: _ =>
      .ok (.assertion .wordBoundary, 1)
  | 'B' :: _ =>
      .ok (.assertion .noWordBoundary, 1)
  | '<' :: _ =>
      .ok (.assertion .wordStart, 1)
  | '>' :: _ =>
      .ok (.assertion .wordEnd, 1)
  | char :: _ =>
      if char.isDigit then
        .error .backReference
      else if isEscapable char then
        .ok (.char char, 1)
      else
        .error .unknownEscape

end SecondaryIndex.Pattern
