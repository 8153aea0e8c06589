import SecondaryIndex.Pattern.Automaton.Assembly
import SecondaryIndex.Pattern.Parser
import SecondaryIndex.Pattern.Walk

namespace SecondaryIndex

/-!
# Patterns

A text is a pattern if it can be read, is not nested too deep and fits the limit
on the room of its automata.
-/

/-- A pattern: its text and what the text says. -/
structure Pattern where
  source : String
  expr : Pattern.Expr
  deriving Repr

namespace Pattern

/-- How deep a pattern may be nested. -/
def depthLimit :
    Nat :=
  250

/-- Read a pattern. -/
def parse
    (source : String) :
    Except Error Pattern := do
  let expr ← Expr.ofText source
  if depthLimit < expr.depth then
    throw .tooDeep
  if !Automaton.fits expr.normalForm then
    throw .tooLarge
  return ⟨source, expr⟩

/-- Whether the pattern matches some part of a text. -/
def occursIn
    (pattern : Pattern)
    (text : List Char) :
    Bool :=
  pattern.expr.occursIn text

end Pattern

end SecondaryIndex
