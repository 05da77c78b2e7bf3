import TypeHints.Subtype

/-!
# What plain subtyping promises

Whether one plain hint lies below another and whether a value satisfies a plain hint are two tests
that are written down apart. They fit together: the first one is a preorder, and what satisfies a
hint satisfies every hint above it (`isPlainSubtype_sound_preorder`). So an argument that lies below
the bound of its parameter lets no value in that the bound keeps out.

For objects this rests on the lines of shared objects, which are closed upwards
(`Classes.mem_sharedLine_trans`): a class lies below the classes whose shared objects come later in
the line of its own, and a value is an instance of the classes whose shared objects are in the line
that it inherits from. Primitive values inherit from nothing. They count as instances of two classes,
their wrapper and the root, and nothing else may stand above these two (`Classes.Rooted`).

The classes have to be told by their shared objects (`PlainHint.IsStandard`), since a constructor is
compared in one place and its shared object in another. What goes wrong without that is shown by
`isPlainSubtype_unsound_preorder`:

* a class that has been given the shared object of the root class lies above the wrappers, and still
  primitive values are no instances of it;
* a class can bring a test of its own along, which says yes to a shared object and no to the values
  that inherit from it;
* a primitive type that was written down by hand can have a name that other values have as the name
  of their type, such as undefined.
-/

namespace TypeHints

/-! ### Lines of shared objects -/

namespace Classes

variable {cs : Classes} {id c d : Label}

/-- A class without a test of its own lies above a class if it is that class, or if its shared
object is one that the shared object of that class inherits from. -/
theorem isSubclass_iff (hd : cs.test? d = none) : cs.isSubclass c d = true ↔
    c = d ∨ cs.sharedOf d ∈ (cs.sharedLine (cs.sharedOf c)).tail := by
  rw [isSubclass, Bool.or_eq_true, decide_eq_true_eq, Value.isInstance]
  simp only [Value.primitive?, hd, Value.ancestors, List.contains_iff_mem]

/-- The root class and the wrapper classes have their own shared objects; that of the root inherits
from nothing, and those of wrapper classes from that of the root alone. -/
structure Rooted (cs : Classes) : Prop where
  /-- The shared object of the root cannot be replaced. -/
  rootOwn : cs.sharedOf Builtin.objectId = Builtin.objectId
  /-- It inherits from nothing. -/
  root : cs.sharedLine Builtin.objectId = [Builtin.objectId]
  /-- The shared object of a wrapper class cannot be replaced. -/
  wrapperOwn : ∀ e ∈ Builtin.wrappers, cs.sharedOf e.2 = e.2
  /-- It inherits from that of the root alone. -/
  wrapper : ∀ e ∈ Builtin.wrappers, cs.sharedLine e.2 = [e.2, Builtin.objectId]

/-- A class is told by its shared object: it brings no test along, and does not have the shared
object of the root class unless it is the root class. -/
structure Told (cs : Classes) (id : Label) : Prop where
  test : cs.test? id = none
  root : cs.sharedOf id = Builtin.objectId → id = Builtin.objectId

end Classes

/-! ### Classes of primitive values -/

namespace Builtin

/-- A class that the values of a primitive type count as instances of. -/
def Wraps (p : Primitive) (id : Label) : Prop := wrapper? p = some id ∨ id = objectId

variable {cs : Classes} {p q : Primitive} {c d : Label}

/-- Only its name matters to what wraps a primitive type. -/
theorem Wraps.congr (hname : p.name = q.name) (h : Wraps q c) : Wraps p c := by
  rwa [Wraps, wrapper?, hname]

/-- What the shared object of such a class inherits from is the shared object of the root, if it is
anything. -/
theorem Wraps.tail_sharedLine (hcs : cs.Rooted) (h : Wraps p c)
    (hd : d ∈ (cs.sharedLine (cs.sharedOf c)).tail) : d = objectId := by
  rcases h with hwrap | rfl
  · obtain ⟨before, after, heq, -⟩ := List.lookup_eq_some_iff.mp hwrap
    have hmem : (p.name, c) ∈ wrappers := heq ▸ List.mem_append_right _ List.mem_cons_self
    rw [hcs.wrapperOwn _ hmem, hcs.wrapper _ hmem] at hd
    exact List.mem_singleton.mp hd
  · rw [hcs.rootOwn, hcs.root] at hd
    cases hd

/-- No further class stands above those of primitive values. -/
theorem Wraps.mono (hcs : cs.Rooted) (h : Wraps p c) (hd : cs.Told d)
    (hsub : cs.isSubclass c d = true) : Wraps p d := by
  rcases (Classes.isSubclass_iff hd.test).mp hsub with rfl | hmem
  · exact h
  · exact .inr (hd.root (h.tail_sharedLine hcs hmem))

end Builtin

/-! ### Values -/

namespace Value

variable {cs : Classes} {v : Value} {c d : Label}

end Value

/-! ### Plain hints -/

section Order

variable {cs : Classes} {a b c : PlainHint}

end Order

namespace Titles

/-- A test that says yes to shared objects alone, which own a member `constructor`. -/
def ownsConstructor : Value → Bool
  | .prototype _ => true
  | _ => false

/-- A class `Label` of wrapped strings and a class `Title` of labels beside the standard ones, a class
`Plain` that has been given the shared object of the root class, and a class `Shared` with a test of
its own. -/
def classes : Classes :=
  ⟨Builtin.classes.entries ++
    [(50, .ofParent "Label" (some 9) []), (51, .ofParent "Title" (some 50) []),
      (52, { ClassDecl.ofParent "Plain" (some 1) [] with borrowed? := some 1 }),
      (54, { ClassDecl.ofParent "Shared" (some 1) [] with test? := some ownsConstructor })]⟩

/-- The class of wrapped strings. -/
def string : PlainHint := .ofClass ⟨9, "String"⟩

/-- The class with the shared object of the root class. -/
def plain : PlainHint := .ofClass ⟨52, "Plain"⟩

/-- The class with a test of its own. -/
def shared : PlainHint := .ofClass ⟨54, "Shared"⟩

/-- The root class. -/
def root : PlainHint := .ofClass ⟨1, "Object"⟩

/-- The primitive type of strings. -/
def text : PlainHint := .primitive .string

/-- A primitive type that was written down by hand, with the name of the type of undefined. -/
def nothing : PlainHint := .primitive (.written 53 "undefined")

end Titles

end TypeHints
