import TypeHints.Substitution

/-!
# Sane hints

A sane hint is a reduced hint with what its children are reduced under: the bindings in force, the
guard of aliases and parameters that are being expanded on the way here, and the overrides that have
been applied. A child takes all three over from its parent; its own bindings win over the parent's.

Bindings are merged whole. The scope of a parameter is not that of the template which declares it: a
binding is in force below a model until another application binds the same parameter. Where a child
binds a parameter afresh, the parameter leaves the guard, since it stands for something else from
there on. Nothing else ever leaves a guard.

The model of everything that need not be checked is one model, `Sane.ignorable`. It hands nothing
on, and whether a model is ignorable is asked of its hint alone.
-/

namespace TypeHints

/-- The aliases, applications of aliases and parameters that are being expanded, in order of
entry. -/
structure Guard where
  label : Label
  hints : List Hint
deriving DecidableEq

namespace Guard

/-- Nothing is being expanded. -/
def empty : Guard := ⟨0, []⟩

/-- Whether a hint is being expanded. -/
def has (g : Guard) (h : Hint) : Bool := h ∈ g.hints

/-- The guard with one more hint. -/
def add (label : Label) (g : Guard) (h : Hint) : Guard :=
  ⟨label, if h ∈ g.hints then g.hints else g.hints ++ [h]⟩

/-- Whether a hint is a parameter that a table binds. -/
def isRebound (t : Table) : Hint → Bool
  | .parameter p => t.entries.contains p
  | _ => false

/-- The guard of a child whose own bindings are given: parameters that they bind afresh are no
longer being expanded. A guard that loses nothing stays the same. -/
def withoutRebound (label : Label) (g : Guard) : Option Table → Guard
  | none => g
  | some t =>
    if g.hints.any (isRebound t) then ⟨label, g.hints.filter fun h => !isRebound t h⟩ else g

end Guard

/-- The bindings of a parent with those of a child over them. If one of them binds nothing, the
other one is the result. -/
def Table.merge (label : Label) (parent : Table) : Option Table → Table
  | none => parent
  | some child =>
    if child.entries.isEmpty then parent
    else if parent.entries.isEmpty then child
    else ⟨label, parent.entries.insertAll child.entries.entries⟩

/-- A reduced hint with what its children are reduced under. -/
structure Sane where
  label : Label
  hint : Hint
  table : Table
  guard : Guard
  /-- The names of the classes whose overrides have been applied. -/
  overridden : List String
deriving DecidableEq

namespace Sane

/-- The model of everything that need not be checked. -/
def ignorable : Sane := ⟨0, .any, .empty, .empty, []⟩

/-- Whether a model need not be checked. -/
def isIgnorable (s : Sane) : Bool := s.hint = .any

/-- The model of a hint below a parent, with bindings of its own. -/
def create (label : Label) (hint : Hint) (parent? : Option Sane) (table? : Option Table) :
    Sane where
  label := label
  hint := hint
  table := Table.merge label ((parent?.map Sane.table).getD .empty) table?
  guard := ((parent?.map Sane.guard).getD .empty).withoutRebound label table?
  overridden := (parent?.map Sane.overridden).getD []

/-- The model with a hint that is being expanded. -/
def expanding (label : Label) (s : Sane) (h : Hint) : Sane :=
  { s with label := label, guard := s.guard.add label h }

/-- The model with an override that has been applied. -/
def overriding (label : Label) (s : Sane) (name : String) : Sane :=
  { s with
    label := label
    overridden := if name ∈ s.overridden then s.overridden else s.overridden ++ [name] }

end Sane

end TypeHints
