import SecondaryIndex.Pattern.Bracket
import SecondaryIndex.Pattern.Count
import SecondaryIndex.Pattern.Opening

namespace SecondaryIndex.Pattern

/-!
# Reading a pattern

The text of a pattern is read from left to right with the stack of the groups
that are open.  A group remembers the alternatives it has finished and the
items of the one being read, both latest first, and the switches in force, so
closing a group brings back the switches of the group around it.  A repetition
takes the latest item as its body; a change of switches is no body.
-/

/-- A group whose closing parenthesis has not been read, with its number if it captures. -/
structure OpenGroup where
  number : Option Nat
  flags : Flags
  branches : List Expr
  items : List (Option Expr)
  deriving Repr

namespace OpenGroup

/-- A group in which nothing has been read. -/
def start
    (number : Option Nat)
    (flags : Flags) :
    OpenGroup :=
  ⟨number, flags, [], []⟩

/-- Add an item. -/
def add
    (item : Expr)
    (current : OpenGroup) :
    OpenGroup :=
  { current with items := some item :: current.items }

/-- The sequence of the items of the branch being read; a change of switches asks nothing. -/
def sequence
    (current : OpenGroup) :
    Expr :=
  .ofItems (current.items.reverse.map fun item => item.getD .empty)

/-- Finish a branch. -/
def nextBranch
    (current : OpenGroup) :
    OpenGroup :=
  { current with branches := current.sequence :: current.branches, items := [] }

/-- What stands in a group that ends here. -/
def body
    (current : OpenGroup) :
    Expr :=
  .ofBranches (current.sequence :: current.branches).reverse

/-- The expression of a group that ends here. -/
def close
    (current : OpenGroup) :
    Expr :=
  .group current.number current.body

/-- Repeat the latest item. -/
def repeatLast
    (times : Repetition)
    (current : OpenGroup) :
    Except Error OpenGroup :=
  match current.items with
  | some body :: earlier =>
      .ok { current with items := some (.repeated body times) :: earlier }
  | _ =>
      .error .nothingToRepeat

/-- Change the switches from here on. -/
def set
    (flags : Flags)
    (current : OpenGroup) :
    OpenGroup :=
  { current with flags, items := none :: current.items }

end OpenGroup

/-- Read whether a repetition is greedy, and how many characters say that it is not. -/
def readGreed :
    List Char → Bool × Nat
  | '?' :: _ =>
      (false, 1)
  | _ =>
      (true, 0)

/-- The characters that a dot stands for. -/
def dot
    (flags : Flags) :
    CharSet :=
  if flags.dotMatchesNewline then .all else (CharSet.single '\n').complement

/-- The expression of one character. -/
def literal
    (flags : Flags)
    (char : Char) :
    Expr :=
  .chars ((CharSet.single char).foldedWhen flags.ignoreCase) 0

/-- The expression of an escape. -/
def escaped
    (flags : Flags) :
    Escape → Expr
  | .char char =>
      literal flags char
  | .set set =>
      .chars set 0
  | .assertion condition =>
      .assertion condition

/-- How many characters lie between a text and the rest of it. -/
def consumed
    (input rest : List Char) :
    Nat :=
  input.length - rest.length

/-- The capturing groups that have been opened: how many, and the names among them. -/
structure Captures where
  count : Nat
  names : List String
  deriving Repr, DecidableEq

namespace Captures

/-- The number of the next capturing group. -/
def next
    (captures : Captures) :
    Nat :=
  captures.count + 1

/-- Open a capturing group, which may have a name. -/
def add
    (name : Option String)
    (captures : Captures) :
    Captures :=
  ⟨captures.next, name.toList ++ captures.names⟩

end Captures

/-- Read a pattern from where the groups given are open, with the captures so far. -/
def readFrom
    (captures : Captures)
    (current : OpenGroup)
    (outer : List OpenGroup)
    (input : List Char) :
    Except Error Expr :=
  match input with
  | [] =>
      if outer.isEmpty then .ok current.body else .error .unclosedGroup
  | '(' :: rest =>
      match readOpening current.flags rest with
      | .error error =>
          .error error
      | .ok (.plain, width) =>
          readFrom (captures.add none) (.start (some captures.next) current.flags)
            (current :: outer) (rest.drop width)
      | .ok (.flagged flags, width) =>
          readFrom captures (.start none flags) (current :: outer) (rest.drop width)
      | .ok (.setting flags, width) =>
          readFrom captures (current.set flags) outer (rest.drop width)
      | .ok (.named name, width) =>
          if captures.names.contains name then
            .error .repeatedGroupName
          else
            readFrom (captures.add (some name)) (.start (some captures.next) current.flags)
              (current :: outer) (rest.drop width)
  | ')' :: rest =>
      match outer with
      | [] => .error .unopenedGroup
      | next :: others => readFrom captures (next.add current.close) others rest
  | '|' :: rest =>
      readFrom captures current.nextBranch outer rest
  | '[' :: rest =>
      match readClass current.flags.ignoreCase rest with
      | .error error => .error error
      | .ok (part, after) =>
          readFrom captures (current.add (.chars part.set part.depth)) outer
            (rest.drop (consumed rest after))
  | '?' :: rest =>
      let (greedy, width) := readGreed rest
      match current.repeatLast ⟨0, some 1, greedy⟩ with
      | .error error => .error error
      | .ok next => readFrom captures next outer (rest.drop width)
  | '*' :: rest =>
      let (greedy, width) := readGreed rest
      match current.repeatLast ⟨0, none, greedy⟩ with
      | .error error => .error error
      | .ok next => readFrom captures next outer (rest.drop width)
  | '+' :: rest =>
      let (greedy, width) := readGreed rest
      match current.repeatLast ⟨1, none, greedy⟩ with
      | .error error => .error error
      | .ok next => readFrom captures next outer (rest.drop width)
  | '{' :: rest =>
      match readCount rest with
      | .error error => .error error
      | .ok (times, width) =>
          match current.repeatLast times with
          | .error error => .error error
          | .ok next => readFrom captures next outer (rest.drop width)
  | '\\' :: rest =>
      match readEscape rest with
      | .error error => .error error
      | .ok (escape, width) =>
          readFrom captures (current.add (escaped current.flags escape)) outer (rest.drop width)
  | '.' :: rest =>
      readFrom captures (current.add (.chars (dot current.flags) 0)) outer rest
  | '^' :: rest =>
      let condition := if current.flags.manyLines then .lineStart else .textStart
      readFrom captures (current.add (.assertion condition)) outer rest
  | '$' :: rest =>
      let condition := if current.flags.manyLines then .lineEnd else .textEnd
      readFrom captures (current.add (.assertion condition)) outer rest
  | char :: rest =>
      readFrom captures (current.add (literal current.flags char)) outer rest
termination_by input.length
decreasing_by all_goals simp only [List.length_cons, List.length_drop]; omega

/-- Read the text of a pattern. -/
def Expr.ofText
    (source : String) :
    Except Error Expr :=
  readFrom ⟨0, []⟩ (.start none ⟨false, false, false⟩) [] source.toList

end SecondaryIndex.Pattern
