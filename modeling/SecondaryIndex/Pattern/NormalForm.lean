import SecondaryIndex.Pattern.Expr

namespace SecondaryIndex.Pattern

/-!
# Normal forms of expressions

An automaton is built from the normal form of an expression.  In it a set of one
character is a literal and neighbouring literals are one; sequences and choices
are flat; a choice between characters or sets is a set; and what all branches of
a choice begin with stands in front of the choice.  A normal form matches what
the expression matches, usually with fewer states.
-/

/-- The way in which a text is read. -/
inductive Direction where
  | forward
  | backward
  deriving Repr, DecidableEq

/-- An expression in normal form. -/
inductive NormalForm where
  | empty
  | literal (text : List Char)
  | chars (set : CharSet)
  | assertion (condition : Assertion)
  | capture (number : Nat) (body : NormalForm)
  | repeated (body : NormalForm) (times : Repetition)
  | sequence (items : List NormalForm)
  | alternatives (branches : List NormalForm)
  deriving Repr, BEq

namespace NormalForm

mutual

/-- Whether no match takes a character. -/
def isWidthless :
    NormalForm → Bool
  | .empty =>
      true
  | .literal _ =>
      false
  | .chars _ =>
      false
  | .assertion _ =>
      true
  | .capture _ body =>
      body.isWidthless
  | .repeated body _ =>
      body.isWidthless
  | .sequence items =>
      areWidthless items
  | .alternatives branches =>
      areWidthless branches

/-- Whether no match of any of the normal forms takes a character. -/
def areWidthless :
    List NormalForm → Bool
  | [] =>
      true
  | form :: rest =>
      form.isWidthless && areWidthless rest

end

/-- The normal form of one character of a set. -/
def ofSet
    (set : CharSet) :
    NormalForm :=
  match set.single? with
  | some char => .literal [char]
  | none => .chars set

/-- The normal form of a repetition.  What takes no character need not be repeated. -/
def ofRepetition
    (body : NormalForm)
    (times : Repetition) :
    NormalForm :=
  let once (count : Nat) := if body.isWidthless then min count 1 else count
  let most :=
    match times.most with
    | some most => some (once most)
    | none => if body.isWidthless then some 1 else none
  let times := { times with least := once times.least, most }
  if times.most = some 0 then
    .empty
  else if times.least = 1 ∧ times.most = some 1 then
    body
  else
    .repeated body times

/-- The items of a normal form in a sequence. -/
def items :
    NormalForm → List NormalForm
  | .empty =>
      []
  | .sequence items =>
      items
  | form =>
      [form]

/-- Put neighbouring literals together. -/
def joinLiterals :
    List NormalForm → List NormalForm
  | [] =>
      []
  | .literal text :: rest =>
      match joinLiterals rest with
      | .literal more :: others => .literal (text ++ more) :: others
      | others => .literal text :: others
  | form :: rest =>
      form :: joinLiterals rest

/-- The normal form of a sequence. -/
def ofSequence
    (forms : List NormalForm) :
    NormalForm :=
  match joinLiterals (forms.flatMap items) with
  | [] => .empty
  | [item] => item
  | items => .sequence items

/-- The branches of a normal form in a choice. -/
def branches :
    NormalForm → List NormalForm
  | .alternatives branches =>
      branches
  | form =>
      [form]

/-- The character of a literal of one character. -/
def char? :
    NormalForm → Option Char
  | .literal [char] =>
      some char
  | _ =>
      none

/-- The set of a normal form that is one character of a set. -/
def set? :
    NormalForm → Option CharSet
  | .chars set =>
      some set
  | _ =>
      none

/-- The items of a sequence. -/
def sequence? :
    NormalForm → Option (List NormalForm)
  | .sequence items =>
      some items
  | _ =>
      none

/-- The set that a choice between characters or between sets amounts to. -/
def choiceSet?
    (branches : List NormalForm) :
    Option CharSet :=
  match branches.mapM char? with
  | some members => some (.unions (members.map .single))
  | none => (branches.mapM set?).map .unions

/-- The normal form of a choice whose branches have no common beginning. -/
def ofBranches
    (forms : List NormalForm) :
    NormalForm :=
  match forms.flatMap branches with
  | [branch] => branch
  | branches =>
      match choiceSet? branches with
      | some set => ofSet set
      | none => .alternatives branches

/-- What two sequences of items begin with. -/
def commonItems :
    List NormalForm → List NormalForm → List NormalForm
  | left :: lefts, right :: rights =>
      if left == right then left :: commonItems lefts rights else []
  | _, _ =>
      []

/-- What all branches of a choice begin with, if they are sequences. -/
def commonBeginning
    (branches : List NormalForm) :
    List NormalForm :=
  match branches.mapM sequence? with
  | some (first :: others) => others.foldl commonItems first
  | _ => []

/-- The normal form of a choice. -/
def ofChoice
    (forms : List NormalForm) :
    NormalForm :=
  match ofBranches forms with
  | .alternatives branches =>
      let beginning := commonBeginning branches
      if beginning.isEmpty then
        .alternatives branches
      else
        let rests := branches.map fun branch => ofSequence (branch.items.drop beginning.length)
        ofSequence (beginning ++ [ofBranches rests])
  | form =>
      form

mutual

/--
The least number of characters that a match takes; there is none if nothing can
match.
-/
def leastLength? :
    NormalForm → Option Nat
  | .empty =>
      some 0
  | .literal text =>
      some text.length
  | .chars set =>
      if set = .none then none else some 1
  | .assertion _ =>
      some 0
  | .capture _ body =>
      body.leastLength?
  | .repeated body times =>
      body.leastLength?.map (· * times.least)
  | .sequence items =>
      leastTotal? items
  | .alternatives branches =>
      leastOfEach? branches

/-- The least number of characters that normal forms take one after another. -/
def leastTotal? :
    List NormalForm → Option Nat
  | [] =>
      some 0
  | form :: rest => do
      return (← form.leastLength?) + (← leastTotal? rest)

/-- The least number of characters that one of some normal forms takes, if each can match. -/
def leastOfEach? :
    List NormalForm → Option Nat
  | [] =>
      none
  | [form] =>
      form.leastLength?
  | form :: rest => do
      return min (← form.leastLength?) (← leastOfEach? rest)

end

mutual

/--
Whether every match, read in a direction, starts where a condition holds, as far
as the form shows it.
-/
def startsWith
    (direction : Direction)
    (condition : Assertion) :
    NormalForm → Bool
  | .empty =>
      false
  | .literal _ =>
      false
  | .chars _ =>
      false
  | .assertion other =>
      other = condition
  | .capture _ body =>
      startsWith direction condition body
  | .repeated body times =>
      times.least ≠ 0 && startsWith direction condition body
  | .sequence items =>
      sequenceStartsWith direction condition items
  | .alternatives branches =>
      allStartWith direction condition branches

/-- Whether an item starts with a condition and none read before it takes a character. -/
def sequenceStartsWith
    (direction : Direction)
    (condition : Assertion) :
    List NormalForm → Bool
  | [] =>
      false
  | form :: rest =>
      match direction with
      | .forward =>
          startsWith direction condition form ||
            (form.isWidthless && sequenceStartsWith direction condition rest)
      | .backward =>
          sequenceStartsWith direction condition rest ||
            (areWidthless rest && startsWith direction condition form)

/-- Whether all branches start with a condition. -/
def allStartWith
    (direction : Direction)
    (condition : Assertion) :
    List NormalForm → Bool
  | [] =>
      true
  | form :: rest =>
      startsWith direction condition form && allStartWith direction condition rest

end

end NormalForm

namespace Expr

mutual

/-- The normal form of an expression. -/
def normalForm :
    Expr → NormalForm
  | .empty =>
      .empty
  | .chars set _ =>
      .ofSet set
  | .assertion condition =>
      .assertion condition
  | .group (some number) body =>
      .capture number body.normalForm
  | .group none body =>
      body.normalForm
  | .repeated body times =>
      .ofRepetition body.normalForm times
  | .sequence items =>
      .ofSequence (normalForms items)
  | .alternatives branches =>
      .ofChoice (normalForms branches)

/-- The normal forms of expressions. -/
def normalForms :
    List Expr → List NormalForm
  | [] =>
      []
  | expr :: rest =>
      expr.normalForm :: normalForms rest

end

end Expr

end SecondaryIndex.Pattern
