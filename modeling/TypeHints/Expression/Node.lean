import TypeHints.Literal

/-!
# Type expressions

The part of the type grammar that means something as a hint, as a tree. A type of any other form is
well-formed but unsupported; the tree keeps only where it stands in the text, and what the forms
around it ask of it.
-/

namespace TypeHints.Expression

/-- The keywords that are types on their own. -/
inductive Keyword where
  | any | unknown | undefined | void
  | string | number | boolean | bigint | symbol | object
deriving DecidableEq, Repr

namespace Keyword

/-- The keyword that a word spells. -/
def ofWord? : String → Option Keyword
  | "any" => some .any
  | "unknown" => some .unknown
  | "undefined" => some .undefined
  | "void" => some .void
  | "string" => some .string
  | "number" => some .number
  | "boolean" => some .boolean
  | "bigint" => some .bigint
  | "symbol" => some .symbol
  | "object" => some .object
  | _ => none

/-- The name that a keyword is looked up by, for those that a scope may shadow. -/
def scopeName? : Keyword → Option String
  | .string => some "string"
  | .number => some "number"
  | .boolean => some "boolean"
  | .bigint => some "bigint"
  | .symbol => some "symbol"
  | .object => some "object"
  | .any | .unknown | .undefined | .void => none

end Keyword

/-- The forms of unsupported types that the forms around them tell apart. -/
inductive Unread where
  /-- A type with a question mark behind it; as an element of a tuple it is an optional element. -/
  | questioned
  /-- A function type with bare types for parameters. -/
  | looseFunction
  | other
deriving DecidableEq, Repr

/-- A type expression. -/
inductive Node where
  /-- A keyword type. -/
  | keyword (k : Keyword)
  /-- A name with its members, and its type arguments if it has any. -/
  | reference (root : String) (members : List String) (args : Option (List Node))
  /-- A union; a leading bar makes a union of one. -/
  | union (members : List Node)
  /-- The array type of an element type. -/
  | array (element : Node)
  /-- A tuple type; labels of elements leave no trace. -/
  | tuple (elements : List Node)
  /-- A literal type. -/
  | literal (value : Literal)
  /-- A type in parentheses. -/
  | group (inner : Node)
  /-- A type of another form, from the place `start` to the place `stop` of the text. -/
  | unsupported (form : Unread) (start stop : Nat)
deriving Repr, Inhabited

/-- Whether a type is, within any parentheses, a function type with bare types for parameters. -/
def Node.isLooseFunction : Node → Bool
  | .group inner => inner.isLooseFunction
  | .unsupported .looseFunction _ _ => true
  | _ => false

end TypeHints.Expression
