import TypeHints.Number.Binary64
import TypeHints.Text.Quote

/-!
# Literal values

The values that a literal type admits: texts, numbers, booleans, big integers, null and undefined.
`Literal.plain` is the text of the bare value and `Literal.repr` its spelling in a type expression.
-/

namespace TypeHints

/-- A value that a literal type admits. -/
inductive Literal where
  | string (value : String)
  | number (value : Binary64)
  | bool (value : Bool)
  | bigint (value : Int)
  | null
  | undefined
deriving DecidableEq, Repr, Inhabited

namespace Literal

/-- The text of the bare value. -/
def plain : Literal → String
  | .string s => s
  | .number x => x.toText
  | .bool b => if b then "true" else "false"
  | .bigint i => decimalInt i
  | .null => "null"
  | .undefined => "undefined"

/-- The name of the kind of value; null is named by itself. -/
def kindName : Literal → String
  | .string _ => "string"
  | .number _ => "number"
  | .bool _ => "boolean"
  | .bigint _ => "bigint"
  | .null => "null"
  | .undefined => "undefined"

/-- The key of a literal: its kind and its bare text, null by its kind alone. -/
def key (v : Literal) : String :=
  match v with
  | .null => "null"
  | v => v.kindName ++ ":" ++ v.plain

/-- The spelling in a type expression: texts are quoted, big integers carry their suffix. -/
def repr : Literal → String
  | .string s => Text.quote s
  | .bigint i => decimalInt i ++ "n"
  | v => v.plain

end Literal

end TypeHints
