import TypeHints.Expression.Beginning
import TypeHints.Expression.Node

/-!
# Constructs that nest

Types, values, patterns and statements contain one another. Their readers are written over a record
of the readers of what they contain, `Nested`; the grammar ties the record to itself, level by
level.
-/

namespace TypeHints.Expression

/-- What a value is, as far as what surrounds it asks. -/
inductive Form where
  /-- A name on its own. -/
  | name
  /-- Something else that may be assigned to or called; `chained` says that it is part of an
  optional chain. -/
  | target (chained : Bool)
  /-- Something of that kind with type arguments behind it. -/
  | applied (chained : Bool)
  /-- Any other value. -/
  | other
deriving DecidableEq, Repr

namespace Form

/-- Whether a value is part of an optional chain. -/
def isChained : Form → Bool
  | .target chained => chained
  | .applied chained => chained
  | .name | .other => false

/-- Whether a value has type arguments behind it. -/
def isApplied : Form → Bool
  | .applied _ => true
  | _ => false

end Form

/-- The readers of the constructs that nest. -/
structure Nested where
  /-- A type. -/
  type : Reader Node
  /-- A type that begins with a type operator, or one of higher rank. -/
  operatorType : Reader Node
  /-- A type without suffixes. -/
  bareType : Reader Node
  /-- A value other than a list of values. The argument says whether the parameters of an arrow
  function may have a result type behind them. -/
  value : Bool → Reader Form
  /-- An operand, with its operators in front of it. -/
  operand : Reader Form
  /-- An operand that no power may follow, with its operators in front of it. -/
  unary : Reader Form
  /-- A value that may be assigned to or called. -/
  target : Reader Form
  /-- A name or pattern that something is bound to. -/
  binding : Reader Unit
  /-- A statement. -/
  statement : Reader Unit

namespace Nested

/-- The readers that read nothing. -/
def none : Nested where
  type := Reader.fail
  operatorType := Reader.fail
  bareType := Reader.fail
  value _ := Reader.fail
  operand := Reader.fail
  unary := Reader.fail
  target := Reader.fail
  binding := Reader.fail
  statement := Reader.fail

end Nested

/-! ### Values in the places they are read from -/

namespace Reader

variable (R : Nested)

/-- Read a value of any form. -/
def valueOf : Reader Unit := do let _ ← R.value true

/-- Read a list of values with commas between them, as one value. -/
def valueList : Reader Form :=
  within ({ · with inDecorator := false }) do
    let first ← R.value true
    repeating (fun _ => do
      if ← sign? .comma then
        let _ ← R.value true
        return some .other
      else return none) first

/-- Read a list of values where `in` is an operator. -/
def closedList : Reader Unit := within ({ · with withoutIn := false }) do let _ ← valueList R

/-- Read a type and forget it. -/
def typeOf : Reader Unit := do let _ ← R.type

/-- Read a type behind a colon, if there is one. -/
def annotation : Reader Unit := do if ← sign? .colon then typeOf R

/-- Read a value behind an equals sign, if there is one; whether there was. -/
def initial : Reader Bool := do
  if ← sign? .equals then
    valueOf R
    return true
  else return false

end Reader

end TypeHints.Expression
