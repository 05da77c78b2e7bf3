import TypeHints.Attempt
import TypeHints.Hint.Builtin

/-!
# The store

What hints share beyond their trees: the supply of labels, the name that each class was first shown
by, the classes that forward references have been resolved to, and what was said about the
parameters and aliases that were written down as values. The store outlives the engines that use it,
so a reference keeps its resolution wherever it goes.

Labels stand for identity and are given out once, in order. What was declared before anything is
built has the labels below `Builtin.firstFree`.

A class is shown by the first name that it is asked for by (`Store.classHint`). The standard classes
have been asked for by their own names.
-/

namespace TypeHints

/-- The class that a forward reference was resolved to, and the module that it was found in. -/
structure Resolution where
  target : Label
  moduleName : String
deriving DecidableEq, Repr

/-- What a type parameter admits. -/
structure ParamDecl where
  bound? : Option Hint
  constraints? : Option (List Hint)
deriving Repr, Inhabited

/-- The state that hints share. -/
structure Store where
  /-- The next label to give out. -/
  next : Label
  /-- The names that classes are shown by, where one has been chosen. -/
  shownNames : Dict Label String
  /-- The resolutions of forward references. -/
  resolutions : Dict Label Resolution
  /-- The forward references whose resolution has been dropped before. -/
  released : List Label
  /-- What the type parameters that were written down admit. -/
  params : Dict Label ParamDecl
  /-- The values that the aliases that were written down are to be read from. -/
  aliasValues : Dict Label Value
deriving Repr

namespace Store

variable {ε : Type}

/-- The store before anything is built: the standard classes are shown by their own names. -/
def initial : Store where
  next := Builtin.firstFree
  shownNames := ⟨Builtin.classList.map fun c => (c.1, c.2.1)⟩
  resolutions := ∅
  released := []
  params := ∅
  aliasValues := ∅

/-- A label that nothing has. -/
def fresh : Attempt Store ε Label := fun s => (.ok s.next, { s with next := s.next + 1 })

/-- The hint of a class. The first name that it is asked for by is the one that it keeps. -/
def classHint (name : String) (id : Label) : Attempt Store ε ClassHint := fun s =>
  match s.shownNames.get? id with
  | some shown => (.ok ⟨id, shown⟩, s)
  | none => (.ok ⟨id, name⟩, { s with shownNames := s.shownNames.insert id name })

/-- The hint of a class, asked for by its own name. -/
def classHintOf (cs : Classes) (id : Label) : Attempt Store ε ClassHint := classHint (cs.name id) id

end Store

end TypeHints
