import TypeHints.Expression.Statements
import TypeHints.Expression.Values

/-!
# The grammar of type expressions

The readers of the constructs that nest are tied to one another: a text of some length nests them
only so deep, so that as many levels of them are enough. `parse?` reads a whole text as one type.
-/

namespace TypeHints.Expression

namespace Nested

/-- The readers that go one level deeper than given ones. -/
def deeper (R : Nested) : Nested where
  type := Reader.type R
  operatorType := Reader.operatorType R
  bareType := Reader.bareType R
  value := Reader.value R
  operand := Reader.operand R
  unary := Reader.unary R
  target := Reader.target R
  binding := Reader.binding R
  statement := Reader.statement R

/-- The readers that go a number of levels deep. -/
def level : Nat → Nested
  | 0 => none
  | n + 1 => (level n).deeper

end Nested

namespace Reader

/-- Read the type of a text as a whole. The word `intrinsic` on its own is a keyword. -/
def whole (R : Nested) : Reader Node := do
  let c ← here
  if c.isWord "intrinsic" && !c.next.isSign .dot then
    pass
    return .unsupported .other c.token.start (← stopped)
  else R.type

end Reader

/-- The type that a text spells, if the text is one well-formed type from its first character to its
last. The text is read with a semicolon behind it, which has to follow the type at once. -/
def parse? (text : List Char) : Option Node :=
  let R := Nested.level (4 * text.length + 16)
  match (Reader.whole R).run (Cursor.ofText (text ++ [';'])) with
  | (.ok node, c) =>
    if c.isSign .semicolon ∧ c.token.prior = text.length ∧ c.rest = [] ∧ !c.hollow then some node
    else none
  | (.error (), _) => none

end TypeHints.Expression
