import TypeHints.Dict
import TypeHints.Value

/-!
# Classes

A class table declares each class with its name, its parent and its members. A class is two objects.
The constructor carries the static members and inherits those of its parent. The shared object
carries what instances share, and inherits what the shared object of another class offers. Mostly
the two lines run side by side, but nothing forces them to: a constructor can be given the shared
object of another class, and then its instances are the instances of that class too.

Both lines lead to objects that are older, so every line ends: `lineage` lists a class with the
classes that it inherits statics from, `sharedLine` a shared object with the ones that it inherits
from, nearest first. A shared object is known by the label of the class that it was made for.
-/

namespace TypeHints

/-- The declaration of a class. -/
structure ClassDecl where
  name : String
  /-- The class that it inherits static members from. -/
  parent? : Option Label
  statics : List (String × Value)
  /-- The members that the instances of the class share, beside the class itself. -/
  shared : List (String × Value)
  /-- The class whose shared object the own shared object inherits from. -/
  above? : Option Label := parent?
  /-- The class whose shared object has been put in the place of its own. It is not that of the class
  of functions: what has a function for its shared object cannot back a hint, and counts as a plain
  function. -/
  borrowed? : Option Label := none
  /-- The test that the class brings along for what counts as its instance. -/
  test? : Option (Value → Bool) := none
deriving Inhabited

/-- The declaration of a class with a shared object of its own, without members, that inherits from
that of its parent. -/
def ClassDecl.ofParent (name : String) (parent? : Option Label) (statics : List (String × Value)) :
    ClassDecl where
  name := name
  parent? := parent?
  statics := statics
  shared := []

/-- The declarations of the classes of a program. -/
abbrev Classes := Dict Label ClassDecl

/-! ### Lines -/

section Climbing

variable {up : Label → Option Label}

/-- The first `n` labels on the way up from a label, itself included. -/
def climb (up : Label → Option Label) : Nat → Label → List Label
  | 0, _ => []
  | n + 1, id => id :: match up id with
    | some p => climb up n p
    | none => []

end Climbing

namespace Classes

/-- The static members of a class. -/
def statics (cs : Classes) (id : Label) : List (String × Value) :=
  ((cs.get? id).map ClassDecl.statics).getD []

/-- The name of a class: a static text of that name, else the one it was declared under. -/
def name (cs : Classes) (id : Label) : String :=
  match (cs.statics id).lookup "name" with
  | some (.string s) => s
  | _ => ((cs.get? id).map ClassDecl.name).getD ""

/-- The parent of a class; only a class declared before it counts. -/
def parent? (cs : Classes) (id : Label) : Option Label :=
  (cs.get? id).bind fun d => d.parent?.filter (· < id)

/-- A class and those that it inherits static members from, nearest first. -/
def lineage (cs : Classes) (id : Label) : List Label := climb cs.parent? (id + 1) id

/-- The shared object that the one made for a class inherits from; only an older one counts. -/
def above? (cs : Classes) (id : Label) : Option Label :=
  (cs.get? id).bind fun d => d.above?.filter (· < id)

/-- The shared object that was made for a class and those that it inherits from, nearest first. -/
def sharedLine (cs : Classes) (id : Label) : List Label := climb cs.above? (id + 1) id

/-- The shared object that a class has: the one made for it, unless it has been given another. -/
def sharedOf (cs : Classes) (id : Label) : Label :=
  ((cs.get? id).bind ClassDecl.borrowed?).getD id

/-- The test that a class brings along or inherits for what counts as its instance. -/
def test? (cs : Classes) (id : Label) : Option (Value → Bool) :=
  (cs.lineage id).findSome? fun c => (cs.get? c).bind ClassDecl.test?

/-- The own members of a class: its length, its name, its shared object and its statics. -/
def member? (cs : Classes) (id : Label) (name : String) : Option Value :=
  match (cs.statics id).lookup name with
  | some v => some v
  | none =>
    match name with
    | "length" => some (.number (.ofInt 0))
    | "name" => some (.string (cs.name id))
    | "prototype" => some (.prototype (cs.sharedOf id))
    | _ => none

/-- The own members of the shared object that was made for a class. -/
def sharedMember? (cs : Classes) (id : Label) (name : String) : Option Value :=
  if name = "constructor" then some (.ofClass id)
  else (((cs.get? id).map ClassDecl.shared).getD []).lookup name

end Classes

end TypeHints
