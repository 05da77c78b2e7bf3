import TypeHints.Literal

/-!
# Hints

A hint is a tree that describes a type. Its leaves are primitives, classes, literals, the
parameters, templates and aliases that a program declares, and forward references, the placeholders
of names that are not defined yet. Unions, tuples and applications are composite. A deferred hint is
a text that has not been read, and means what it means at the place where it is read.

Two hints built apart are two hints, even if they look alike: declared things are identified by the
label they were declared under, and a composite hint carries the label it was built under. Labels
come from one supply, so equality of hints is identity. `Hint.beq_iff` makes it decidable.

What a declaration says beside its name and its parameters is not part of the tree: bounds,
constraints and bodies are found by label in the world, and resolutions of references in the store.
So a hint can be built before what it refers to is known.
-/

namespace TypeHints

/-- The mark of a declared thing or of a composite hint; no two of them share one. -/
abbrev Label := Nat

/-- A primitive type. -/
inductive Primitive where
  | string | number | boolean | bigint | symbol
  /-- A type that was written down by hand, under any name. -/
  | written (label : Label) (name : String)
deriving DecidableEq, Repr

namespace Primitive

/-- The primitive types that have a name in the builtin namespace. -/
def all : List Primitive := [.string, .number, .boolean, .bigint, .symbol]

/-- The name of a primitive type. -/
def name : Primitive → String
  | .string => "string"
  | .number => "number"
  | .boolean => "boolean"
  | .bigint => "bigint"
  | .symbol => "symbol"
  | .written _ name => name

end Primitive

/-- A class as a hint, with the name that it is shown by. -/
structure ClassHint where
  id : Label
  name : String
deriving DecidableEq, Repr

/-- A placeholder that a template or an alias declares. A variadic one binds a run of arguments. -/
structure TypeParameter where
  id : Label
  name : String
  variadic : Bool
deriving DecidableEq, Repr

/-- A template with its parameters, and the class that its instances belong to, if there is one. -/
structure Template where
  id : Label
  name : String
  params : List TypeParameter
  class? : Option Label
deriving DecidableEq, Repr

/-- A type alias. What it stands for is read when it is needed. -/
structure Alias where
  id : Label
  name : String
  params : List TypeParameter
deriving DecidableEq, Repr

/-- Whether a forward reference may be applied to arguments. A sealed one has been applied
already. -/
inductive RefKind where
  | subscriptable | sealed
deriving DecidableEq, Repr

/-- The name of a kind of reference. -/
def RefKind.name : RefKind → String
  | .subscriptable => "subscriptable"
  | .sealed => "sealed"

/-- A placeholder for a name that was not defined when it was met: the name, absolute or relative to
the scope that it was met in. -/
structure ForwardRef where
  id : Label
  name : String
  scope : String
  kind : RefKind
  owner? : Option Label
deriving DecidableEq, Repr

/-- What can be applied to arguments. -/
inductive Origin where
  | template (t : Template)
  | alias (a : Alias)
  | forwardRef (r : ForwardRef)
deriving DecidableEq, Repr

/-- A hint. -/
inductive Hint where
  /-- Everything satisfies it. -/
  | any
  | primitive (p : Primitive)
  | ofClass (c : ClassHint)
  | literal (label : Label) (value : Literal)
  | union (label : Label) (members : List Hint)
  | tuple (label : Label) (elements : List Hint)
  | parameter (p : TypeParameter)
  | template (t : Template)
  | alias (a : Alias)
  /-- An origin applied to arguments, as many as were written. -/
  | subscripted (label : Label) (origin : Origin) (args : List Hint)
  | forwardRef (r : ForwardRef)
  /-- A text still to be read as an expression. -/
  | deferred (label : Label) (text : String)
deriving Repr, Inhabited

namespace Origin

/-- An origin as a hint. -/
def toHint : Origin → Hint
  | .template t => .template t
  | .alias a => .alias a
  | .forwardRef r => .forwardRef r

/-- The name of an origin. -/
def name : Origin → String
  | .template t => t.name
  | .alias a => a.name
  | .forwardRef r => r.name

end Origin

namespace Hint

/-- The origin that a hint is, if it can be applied to arguments. -/
def origin? : Hint → Option Origin
  | .template t => some (.template t)
  | .alias a => some (.alias a)
  | .forwardRef r => some (.forwardRef r)
  | _ => none

/-- The name of the kind of a hint. -/
def kindName : Hint → String
  | .any => "any"
  | .primitive _ => "primitive"
  | .ofClass _ => "class"
  | .literal _ _ => "literal"
  | .union _ _ => "union"
  | .tuple _ _ => "tuple"
  | .parameter _ => "typeParameter"
  | .template _ => "generic"
  | .alias _ => "alias"
  | .subscripted _ _ _ => "subscripted"
  | .forwardRef _ => "forwardRef"
  | .deferred _ _ => "deferred"

/-- The label that a hint is known by. The hints that need none to be told apart have labels of
their own among those of the builtin namespace; a class hint has the label of its class. -/
def label : Hint → Label
  | .any => 0
  | .primitive .string => 41
  | .primitive .number => 42
  | .primitive .boolean => 43
  | .primitive .bigint => 44
  | .primitive .symbol => 45
  | .primitive (.written l _) => l
  | .ofClass c => c.id
  | .literal l _ => l
  | .union l _ => l
  | .tuple l _ => l
  | .parameter p => p.id
  | .template t => t.id
  | .alias a => a.id
  | .subscripted l _ _ => l
  | .forwardRef r => r.id
  | .deferred l _ => l

/-- The names of all kinds of hints. -/
def kindNames : List String :=
  ["any", "primitive", "class", "literal", "union", "tuple", "typeParameter", "generic", "alias",
    "subscripted", "forwardRef", "deferred"]

/-- The children that a sane hint is taken apart into. A template has its parameters as children. -/
def children : Hint → List Hint
  | .union _ hs => hs
  | .tuple _ hs => hs
  | .template t => t.params.map .parameter
  | .subscripted _ _ hs => hs
  | _ => []

/-! ### Equality -/

mutual

/-- Whether two hints are the same. -/
def beq : Hint → Hint → Bool
  | .any, .any => true
  | .primitive p, .primitive q => p = q
  | .ofClass c, .ofClass d => c = d
  | .literal l v, .literal m w => l = m && v = w
  | .union l hs, .union m ks => l = m && beqList hs ks
  | .tuple l hs, .tuple m ks => l = m && beqList hs ks
  | .parameter p, .parameter q => p = q
  | .template t, .template u => t = u
  | .alias a, .alias b => a = b
  | .subscripted l o hs, .subscripted m p ks => l = m && (o = p && beqList hs ks)
  | .forwardRef r, .forwardRef s => r = s
  | .deferred l t, .deferred m u => l = m && t = u
  | _, _ => false

/-- Whether two lists of hints are the same. -/
def beqList : List Hint → List Hint → Bool
  | [], [] => true
  | h :: hs, k :: ks => beq h k && beqList hs ks
  | _, _ => false

end

mutual

theorem beq_iff : ∀ a b : Hint, beq a b = true ↔ a = b
  | .any, b => by cases b <;> simp [beq]
  | .primitive _, b => by cases b <;> simp [beq]
  | .ofClass _, b => by cases b <;> simp [beq]
  | .literal _ _, b => by cases b <;> simp [beq]
  | .union _ hs, b => by cases b <;> simp [beq, beqList_iff hs]
  | .tuple _ hs, b => by cases b <;> simp [beq, beqList_iff hs]
  | .parameter _, b => by cases b <;> simp [beq]
  | .template _, b => by cases b <;> simp [beq]
  | .alias _, b => by cases b <;> simp [beq]
  | .subscripted _ _ hs, b => by cases b <;> simp [beq, beqList_iff hs]
  | .forwardRef _, b => by cases b <;> simp [beq]
  | .deferred _ _, b => by cases b <;> simp [beq]

theorem beqList_iff : ∀ as bs : List Hint, beqList as bs = true ↔ as = bs
  | [], bs => by cases bs <;> simp [beqList]
  | h :: hs, bs => by cases bs <;> simp [beqList, beq_iff h, beqList_iff hs]

end

instance : DecidableEq Hint := fun a b => decidable_of_iff _ (beq_iff a b)

end Hint

end TypeHints
