import TypeHints.Hint.Builtin

/-!
# Plain hints

Primitives and classes can be checked directly. `Value.isInstance` checks a value against a class. A
primitive value counts as an instance of its wrapper and of the root class. For any other value a
class may bring a test of its own along; without one, the instances of a class are the values that
inherit from its shared object. `isPlainSubtype` orders plain hints: a primitive lies below itself,
its wrapper class and the root class, a class below itself and below the classes that its shared
object is an instance of.
-/

namespace TypeHints

/-- A hint that can be checked directly. -/
inductive PlainHint where
  | primitive (p : Primitive)
  | ofClass (c : ClassHint)
deriving DecidableEq, Repr

namespace PlainHint

/-- A plain hint as a hint. -/
def toHint : PlainHint → Hint
  | .primitive p => .primitive p
  | .ofClass c => .ofClass c

end PlainHint

/-- The plain hint that a hint is. -/
def Hint.plain? : Hint → Option PlainHint
  | .primitive p => some (.primitive p)
  | .ofClass c => some (.ofClass c)
  | _ => none

namespace Value

/-- The shared objects that a value inherits from, nearest first; primitive values, null and
undefined inherit from none. -/
def ancestors (cs : Classes) : Value → List Label
  | .ofClass _ => cs.sharedLine Builtin.functionId
  | .function _ => cs.sharedLine Builtin.functionId
  | .prototype id => (cs.sharedLine id).tail
  | .instance id => cs.sharedLine (cs.sharedOf id)
  | .array _ => cs.sharedLine Builtin.arrayId
  | .object _ => cs.sharedLine Builtin.objectId
  | .boxed v => cs.sharedLine ((v.primitive?.bind Builtin.wrapper?).getD Builtin.objectId)
  | .hint _ => cs.sharedLine Builtin.objectId
  | .cell _ => cs.sharedLine Builtin.objectId
  | .undefined | .null | .bool _ | .number _ | .bigint _ | .string _ | .symbol _ | .bare _ => []

/-- Whether a value is an instance of a class. -/
def isInstance (cs : Classes) (v : Value) (id : Label) : Bool :=
  match v.primitive? with
  | some p => Builtin.wrapper? p = some id || id = Builtin.objectId
  | none =>
    match cs.test? id with
    | some test => test v
    | none => (v.ancestors cs).contains (cs.sharedOf id)

/-- The name of the type that a value has beside its classes: that of its primitive type, else
undefined, function or object; null counts as an object. -/
def typeName : Value → String
  | .undefined => "undefined"
  | .bool _ => "boolean"
  | .number _ => "number"
  | .bigint _ => "bigint"
  | .string _ => "string"
  | .symbol _ => "symbol"
  | .ofClass _ | .function _ => "function"
  | .prototype id => if id = Builtin.functionId then "function" else "object"
  | .null | .instance _ | .array _ | .object _ | .bare _ | .boxed _ | .hint _ | .cell _ => "object"

/-- Whether a value satisfies a plain hint. -/
def isInstanceOfPlain (cs : Classes) (v : Value) : PlainHint → Bool
  | .primitive p => v.typeName = p.name
  | .ofClass c => v.isInstance cs c.id

end Value

/-- Whether a class is another one, or what its instances share is an instance of the other one. -/
def Classes.isSubclass (cs : Classes) (child base : Label) : Bool :=
  child = base || (Value.prototype (cs.sharedOf child)).isInstance cs base

/-- Whether values of the one plain hint are values of the other. -/
def isPlainSubtype (cs : Classes) : PlainHint → PlainHint → Bool
  | .primitive p, .primitive q => p.name = q.name
  | .primitive p, .ofClass c => Builtin.wrapper? p = some c.id || c.id = Builtin.objectId
  | .ofClass _, .primitive _ => false
  | .ofClass c, .ofClass d => cs.isSubclass c.id d.id

end TypeHints
