import TypeHints.Forward.Modules
import TypeHints.Forward.Registry
import TypeHints.Subtype

/-!
# Resolving forward references

A reference is resolved when a question about its class comes up. Its name is tried as it stands if
it is dotted, then inside each scope around the one it was met in, innermost first. The class found
is kept in the store until the module that it was found in is loaded anew or dropped.

The first candidate that leads to anything decides: if that is no class, the resolution fails, and
candidates behind it are not tried. A failure is not kept, so that the next question searches again,
and may find what has been loaded since.

What is kept is not compared with what a search would find now. Loading a module can bring a nearer
candidate in, and then the class that is kept stays all the same.
-/

namespace TypeHints

namespace ForwardRef

/-- A scope and the scopes around it, innermost first. -/
def enclosingScopes (scope : String) : List String :=
  let parts := Text.segments scope
  (List.range parts.length).map fun i => Text.dotted (parts.take (parts.length - i))

/-- The qualified names that a reference may stand for, in the order in which they are tried. -/
def candidates (r : ForwardRef) : List String :=
  (if r.name.toList.contains '.' then [r.name] else []) ++
    (enclosingScopes r.scope).map fun s => s ++ "." ++ r.name

/-- What a reference stands for among the loaded modules: a class and the module it was found in. -/
def find (w : World) (s : Store) (ms : Modules) (r : ForwardRef) : Except Cause Resolution :=
  match r.candidates.findSome? fun c => (ms.lookupQualified w s c).map fun found => (c, found) with
  | none => .error (.unresolvable r.name r.scope)
  | some (c, moduleName, v) =>
    match v.hintClass? with
    | some id => .ok ⟨id, moduleName⟩
    | none => .error (.notAClass r.name c v)

/-- The class that a reference stands for: the one kept, else the one found now. -/
def resolve (w : World) (ms : Modules) (r : ForwardRef) : Attempt Store Cause Label := fun s =>
  match s.resolutions.get? r.id with
  | some kept => (.ok kept.target, s)
  | none =>
    match r.find w s ms with
    | .error e => (.error e, s)
    | .ok found =>
      (.ok found.target, { s with resolutions := s.resolutions.insert r.id found })

/-- Whether a value is an instance of the class that a reference stands for. -/
def isSatisfiedBy (w : World) (ms : Modules) (r : ForwardRef) (v : Value) :
    Attempt Store Cause Bool := do
  return v.isInstance w.classes (← r.resolve w ms)

end ForwardRef

namespace Registry

/-- The references whose resolution is kept, all of them or those found in one module. -/
def resolved (g : Registry) (moduleName? : Option String) (s : Store) : List ForwardRef :=
  g.entries.filter fun r =>
    match s.resolutions.get? r.id, moduleName? with
    | none, _ => false
    | some _, none => true
    | some kept, some m => kept.moduleName = m

/-- Drop the resolutions that are kept, all of them or those found in one module; how many there
were. -/
def invalidate (g : Registry) (moduleName? : Option String) (s : Store) : Nat × Store :=
  let dropped := g.resolved moduleName? s
  (dropped.length,
    { s with
      resolutions := dropped.foldl (fun d r => d.erase r.id) s.resolutions
      released := s.released ++ dropped.map ForwardRef.id })

end Registry

end TypeHints
