import SecondaryIndex.Pattern.ClassPart
import SecondaryIndex.Pattern.Escape

namespace SecondaryIndex.Pattern

/-!
# Bracketed character classes

A class is read with the stack of the classes that are open.  An open class
holds the parts read so far and, after an operator, the part to the left of it.
Operators bind less tightly than the union of parts and group from the left.
Under the switch for case every single part is folded when it is read: a union
of folded sets is folded, and so is what an operator or a complement makes of
them.
-/

/-- A class whose closing bracket has not been read. -/
structure OpenClass where
  negated : Bool
  pending : Option (ClassPart × ClassOperator)
  parts : List ClassPart
  deriving Repr, DecidableEq

namespace OpenClass

/-- Add a part. -/
def add
    (part : ClassPart)
    (current : OpenClass) :
    OpenClass :=
  { current with parts := part :: current.parts }

/-- What has been read so far, with the operator that waits for its right operand applied. -/
def settled
    (current : OpenClass) :
    ClassPart :=
  let union := ClassPart.unions current.parts
  match current.pending with
  | some (left, operator) => .operation operator left union
  | none => union

/-- Begin the right operand of an operator. -/
def operate
    (operator : ClassOperator)
    (current : OpenClass) :
    OpenClass :=
  { current with pending := some (current.settled, operator), parts := [] }

/-- The part that a class makes when it ends here. -/
def close
    (current : OpenClass) :
    ClassPart :=
  .bracketed current.negated current.settled

end OpenClass

/--
Read what may stand only at the very front of a class: the sign of a
complement, hyphens, and a closing bracket that is a member.
-/
def readClassStart
    (input : List Char) :
    Except Error (OpenClass × Nat) :=
  let negated := input.head? = some '^'
  let sign := if negated then 1 else 0
  let hyphens := (input.drop sign).takeWhile (· = '-')
  let parts := hyphens.map fun hyphen => .leaf (.single hyphen)
  match input.drop (sign + hyphens.length) with
  | [] =>
      .error .unclosedClass
  | ']' :: rest =>
      if hyphens.isEmpty then
        if rest.isEmpty then
          .error .unclosedClass
        else
          .ok (⟨negated, none, [.leaf (.single ']')]⟩, sign + 1)
      else
        .ok (⟨negated, none, parts⟩, sign + hyphens.length)
  | _ =>
      .ok (⟨negated, none, parts⟩, sign + hyphens.length)

/-- Read a named ASCII class after its opening bracket, if there is one. -/
def readAsciiClass?
    (ignoreCase : Bool) :
    List Char → Option (CharSet × Nat)
  | ':' :: input => do
      let negated := input.head? = some '^'
      let sign := if negated then 1 else 0
      let name := (input.drop sign).takeWhile (· ≠ ':')
      match input.drop (sign + name.length) with
      | ':' :: ']' :: _ =>
          let set ← CharSet.ascii? (String.ofList name)
          let folded := set.foldedWhen ignoreCase
          return (if negated then folded.complement else folded, sign + name.length + 3)
      | _ =>
          none
  | _ =>
      none

/-- Read a character or a set of characters inside a class. -/
def readClassItem :
    List Char → Except Error (Escape × Nat)
  | [] =>
      .error .unclosedClass
  | '\\' :: rest => do
      let (escape, width) ← readEscape rest
      return (escape, width + 1)
  | char :: _ =>
      .ok (.char char, 1)

/-- Read a range of characters, or a single item, inside a class. -/
def readClassRange
    (input : List Char) :
    Except Error (CharSet × Nat) := do
  let (first, width) ← readClassItem input
  let alone : Except Error (CharSet × Nat) :=
    match first with
    | .char char => .ok (.single char, width)
    | .set set => .ok (set, width)
    | .assertion _ => .error .noCharacterInClass
  match input.drop width with
  | [] =>
      throw .unclosedClass
  | '-' :: ']' :: _ =>
      alone
  | '-' :: '-' :: _ =>
      alone
  | '-' :: rest =>
      let (last, more) ← readClassItem rest
      match first, last with
      | .char low, .char high =>
          if high < low then
            throw .emptyRange
          return (.range low.toNat high.toNat, width + 1 + more)
      | _, _ =>
          throw .noCharacterInClass
  | _ =>
      alone

/--
Read parts and closing brackets until no class is open.  The answer has the
outermost class and the text after its closing bracket.
-/
def readClassParts
    (ignoreCase : Bool)
    (current : OpenClass)
    (outer : List OpenClass)
    (input : List Char) :
    Except Error (ClassPart × List Char) :=
  match input with
  | [] =>
      .error .unclosedClass
  | '[' :: rest =>
      match readAsciiClass? ignoreCase rest with
      | some (set, width) =>
          readClassParts ignoreCase (current.add (.leaf set)) outer (rest.drop width)
      | none =>
          match readClassStart rest with
          | .error error => .error error
          | .ok (inner, width) =>
              readClassParts ignoreCase inner (current :: outer) (rest.drop width)
  | ']' :: rest =>
      match outer with
      | [] => .ok (current.close, rest)
      | next :: others => readClassParts ignoreCase (next.add current.close) others rest
  | '&' :: '&' :: rest =>
      readClassParts ignoreCase (current.operate .intersection) outer rest
  | '-' :: '-' :: rest =>
      readClassParts ignoreCase (current.operate .difference) outer rest
  | '~' :: '~' :: rest =>
      readClassParts ignoreCase (current.operate .symmetricDifference) outer rest
  | char :: rest =>
      match readClassRange (char :: rest) with
      | .error error => .error error
      | .ok (set, width) =>
          let part := ClassPart.leaf (set.foldedWhen ignoreCase)
          readClassParts ignoreCase (current.add part) outer (rest.drop (width - 1))
termination_by input.length
decreasing_by all_goals simp only [List.length_cons, List.length_drop]; omega

/-- Read a class after its opening bracket; the answer has the text after the class. -/
def readClass
    (ignoreCase : Bool)
    (input : List Char) :
    Except Error (ClassPart × List Char) := do
  let (current, width) ← readClassStart input
  readClassParts ignoreCase current [] (input.drop width)

end SecondaryIndex.Pattern
