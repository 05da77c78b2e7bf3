import TypeHints.Forward.Resolution
import TypeHints.Interner
import TypeHints.Substitution

/-!
# Engines

An engine is what sanitizing runs against: the loaded modules, the forward references, the outcomes
of substitutions and the interned hints. Calls at different sites share it, so each finds what
others have left there.

Loading a module anew, or dropping it, drops the resolutions that were found in it; the classes that
references have been resolved to are kept in the store and not here, so that a reference has one
resolution in all engines. The other parts only grow: references are never forgotten, outcomes are
kept whatever is loaded, and representatives stay. To drop a module that is not loaded does nothing.
-/

namespace TypeHints

/-- The state that sites share. -/
structure Engine where
  modules : Modules
  refs : Registry
  substitutions : Substitution.Cache
  interner : Interner

namespace Engine

/-- An engine that nothing has run against. -/
def fresh : Engine := ⟨∅, .empty, ∅, .empty⟩

/-- Load a module, or load it anew; how many resolutions that drops. -/
def reload (e : Engine) (name : String) (exports : List (String × Value)) (s : Store) :
    Nat × Engine × Store :=
  let dropped := e.refs.invalidate (some name) s
  (dropped.1, { e with modules := e.modules.insert name exports }, dropped.2)

/-- Drop a module; how many resolutions that drops. A module that is not loaded drops none. -/
def unload (e : Engine) (name : String) (s : Store) : Nat × Engine × Store :=
  if e.modules.contains name then
    let dropped := e.refs.invalidate (some name) s
    (dropped.1, { e with modules := e.modules.erase name }, dropped.2)
  else (0, e, s)

end Engine

end TypeHints
