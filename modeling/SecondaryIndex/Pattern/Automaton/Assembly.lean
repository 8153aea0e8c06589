import SecondaryIndex.Pattern.Automaton.LiteralTree
import SecondaryIndex.Pattern.Automaton.SetStates

namespace SecondaryIndex.Pattern.Automaton

/-!
# Assembling an automaton

Every normal form becomes a fragment of an automaton with one beginning and one
end.  Fragments are put together by links from ends to beginnings: a link from a
fork is a further branch of it and takes room, one from any other state does
not.  A pattern can be used if its automata for both directions fit the limit.
-/

/-- The kind of state at the end of a fragment. -/
inductive Ending where
  | single
  | fork
  deriving Repr, DecidableEq

/-- Link the end of a fragment to a state. -/
def link :
    Ending → Builder Unit
  | .single =>
      return
  | .fork =>
      Builder.take (.branches 1)

/-- Make a state without branches as a fragment. -/
def singleState :
    Builder Ending := do
  Builder.take (.plain 1)
  return .single

/-- Make a number of copies of a fragment, one after another. -/
def copies
    (fragment : Builder Ending) :
    Nat → Builder Ending
  | 0 =>
      singleState
  | 1 =>
      fragment
  | count + 2 => do
      link (← fragment)
      copies fragment (count + 1)

/-- Make a number of copies each of which may be the last; a fork stands before each. -/
def optionalCopies
    (fragment : Builder Ending)
    (ending : Ending) :
    Nat → Builder Ending
  | 0 =>
      return ending
  | count + 1 => do
      Builder.take (.plain 1)
      link ending
      let next ← fragment
      Builder.take (.branches 2)
      optionalCopies fragment next count

/--
Make a fragment that can be gone through any number of times.  A body that
always takes a character leads back to a fork before it; otherwise going on from
the body and passing it by are told apart by two forks.
-/
def anyNumber
    (takesCharacter : Bool)
    (fragment : Builder Ending) :
    Builder Ending := do
  if takesCharacter then
    Builder.take (.plain 1)
    link (← fragment)
    Builder.take (.branches 1)
    return .fork
  else
    link (← fragment)
    Builder.take (.plain 3)
    Builder.take (.branches 4)
    return .single

/-- Make a fragment that can be gone through once or more often, by a fork behind it. -/
def onceOrMore
    (fragment : Builder Ending) :
    Builder Ending := do
  link (← fragment)
  Builder.take (.plain 1)
  Builder.take (.branches 1)
  return .fork

/-- Make a repetition of a fragment. -/
def repetition
    (takesCharacter : Bool)
    (fragment : Builder Ending)
    (times : Repetition) :
    Builder Ending :=
  match times.least, times.most with
  | 0, none =>
      anyNumber takesCharacter fragment
  | 1, none =>
      onceOrMore fragment
  | least, none => do
      link (← copies fragment (least - 1))
      onceOrMore fragment
  | 0, some 1 => do
      Builder.take (.plain 1)
      let ending ← fragment
      Builder.take (.plain 1)
      Builder.take (.branches 2)
      link ending
      return .single
  | least, some most =>
      if least = most then
        copies fragment least
      else do
        let ending ← copies fragment least
        Builder.take (.plain 1)
        link (← optionalCopies fragment ending (most - least))
        return .single

/-- The number of bytes of a text. -/
def byteLength
    (text : List Char) :
    Nat :=
  text.foldl (fun total char => total + char.utf8Size) 0

/-- The bytes of a literal in the order in which they are read. -/
def bytesRead
    (text : List Char) :
    Direction → List UInt8
  | .forward =>
      text.flatMap String.utf8EncodeChar
  | .backward =>
      (text.flatMap String.utf8EncodeChar).reverse

/-- The text of a literal. -/
def literal? :
    NormalForm → Option (List Char)
  | .literal text =>
      some text
  | _ =>
      none

/-- Link a fork to a branch, and the end of the branch to the end of all. -/
def linkBranch
    (ending : Ending) :
    Builder Unit := do
  Builder.take (.branches 1)
  link ending

mutual

/-- Make the fragment of a normal form. -/
def assemble
    (direction : Direction) :
    NormalForm → Builder Ending
  | .empty =>
      singleState
  | .literal text => do
      Builder.take (.plain (byteLength text))
      return .single
  | .chars set => do
      setStates direction set
      return .single
  | .assertion _ =>
      singleState
  | .capture _ body =>
      match direction with
      | .forward => do
          Builder.take (.plain 1)
          link (← assemble direction body)
          singleState
      | .backward =>
          assemble direction body
  | .repeated body times =>
      repetition (body.leastLength?.any (· ≠ 0)) (assemble direction body) times
  | .sequence items =>
      assembleSequence direction items
  | .alternatives branches =>
      match branches.mapM literal? with
      | some texts => do
          let literals := texts.map fun text => bytesRead text direction
          Builder.take (LiteralTree.ofLiterals literals).totalRoom
          return .single
      | none => do
          assembleBranches direction 0 branches
          return .single

/-- Make the fragments of normal forms one after another, in the order of reading. -/
def assembleSequence
    (direction : Direction) :
    List NormalForm → Builder Ending
  | [] =>
      singleState
  | [item] =>
      assemble direction item
  | item :: rest =>
      match direction with
      | .forward => do
          link (← assemble direction item)
          assembleSequence direction rest
      | .backward => do
          link (← assembleSequence direction rest)
          assemble direction item

/--
Make the branches of a choice, given how many have been made.  The fork before
the branches and the end behind them are made after the second branch.
-/
def assembleBranches
    (direction : Direction)
    (made : Nat) :
    List NormalForm → Builder Unit
  | [] =>
      return
  | branch :: rest => do
      let ending ← assemble direction branch
      if made = 1 then
        Builder.take (.plain 2)
      linkBranch ending
      assembleBranches direction (made + 1) rest

end

/-- The condition that an anchored pattern starts with, read in a direction. -/
def anchor :
    Direction → Assertion
  | .forward =>
      .textStart
  | .backward =>
      .textEnd

/--
Make the automaton of a pattern.  Unless every match starts at an end of the
text, a loop over any byte stands in front.  Read forward, the whole is a
capture of its own; a last state says that there is a match.
-/
def assembleWhole
    (direction : Direction)
    (form : NormalForm) :
    Builder Unit := do
  if form.startsWith direction (anchor direction) then
    Builder.take (.plain 1)
  else
    Builder.take (.plain 2)
    Builder.take (.choice 1)
    Builder.take (.branches 2)
  let whole :=
    match direction with
    | .forward => .capture 0 form
    | .backward => form
  link (← assemble direction whole)
  Builder.take (.plain 1)

/-- Whether the automata of a pattern for both directions fit the limit. -/
def fits
    (form : NormalForm) :
    Bool :=
  [.forward, .backward].all fun direction => (assembleWhole direction form).succeeds

end SecondaryIndex.Pattern.Automaton
