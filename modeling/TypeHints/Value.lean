import TypeHints.Hint

/-!
# Runtime values

The values that a program hands in: the raw hints that its annotations hold, the exports of its
modules, the members of its classes and the values that are checked against hints. A class is known
by its label; its declaration stands in a class table (`TypeHints.Classes`).
-/

namespace TypeHints

/-- A function that is no class. -/
structure PlainFunction where
  name : String
  /-- How many parameters it names. -/
  arity : Nat
  /-- Its source text. -/
  source : String
  /-- What a call without arguments gives, where that is a literal value. -/
  result? : Option Literal
deriving DecidableEq, Repr

/-- A runtime value. -/
inductive Value where
  | undefined
  | null
  | bool (b : Bool)
  | number (x : Binary64)
  | bigint (i : Int)
  | string (s : String)
  | symbol (description : String)
  /-- A class itself. -/
  | ofClass (id : Label)
  /-- The object that was made for the instances of a class to share their members through. -/
  | prototype (id : Label)
  /-- An object of a class, with no members of its own. -/
  | instance (id : Label)
  | function (f : PlainFunction)
  | array (elements : List Value)
  /-- A plain object. -/
  | object (members : List (String × Value))
  /-- An object without ancestors. -/
  | bare (members : List (String × Value))
  /-- A primitive value wrapped into an object of its class. -/
  | boxed (inner : Value)
  | hint (h : Hint)
  /-- The object that the resolution of a forward reference is kept in. -/
  | cell (r : ForwardRef)
deriving Repr, Inhabited

namespace Value

/-- A function whose source is not shown. -/
def native (name : String) (arity : Nat) : Value :=
  .function ⟨name, arity, "function " ++ name ++ "() \x7b [native code] \x7d", none⟩

/-- The primitive type of a value that belongs to one. -/
def primitive? : Value → Option Primitive
  | .bool _ => some .boolean
  | .number _ => some .number
  | .bigint _ => some .bigint
  | .string _ => some .string
  | .symbol _ => some .symbol
  | _ => none

/-- The value that a literal type admits. -/
def ofLiteral : Literal → Value
  | .string s => .string s
  | .number x => .number x
  | .bool b => .bool b
  | .bigint i => .bigint i
  | .null => .null
  | .undefined => .undefined

/-- The literal that admits just this value. -/
def literal? : Value → Option Literal
  | .string s => some (.string s)
  | .number x => some (.number x)
  | .bool b => some (.bool b)
  | .bigint i => some (.bigint i)
  | .null => some .null
  | .undefined => some .undefined
  | _ => none

/-- The own members of an object that was written down member by member. -/
def written? : Value → Option (List (String × Value))
  | .object ms => some ms
  | .bare ms => some ms
  | _ => none

/-- Whether a value counts as a hint: it is one, or an object that names one of the kinds of
hints. -/
def isHint (v : Value) : Bool :=
  match v with
  | .hint _ => true
  | v =>
    match v.written?.bind (List.lookup "kind") with
    | some (.string k) => Hint.kindNames.contains k
    | _ => false

end Value

end TypeHints
