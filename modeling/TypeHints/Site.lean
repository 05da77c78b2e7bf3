import TypeHints.Config
import TypeHints.Engine
import TypeHints.Forward.Evaluation

/-!
# Sites

A site is one place whose hints are sanitized: its settings and the names that its texts may use. A
run at a site holds the engine, the store, the forward scope of the site once a text has asked for
it, and the lines logged so far.

The scope is made when a text asks for it first, and stays with the run. Its names are the builtin
ones, then the classes around the place from outside in, then those of the place itself, later ones
winning. A text that is a bare name is looked up at once, by the engine; any other text is read as a
type expression, by the evaluator. `Site.isPlainName` decides between the two: the words that the
grammar reads as types are no names, but those which a scope may shadow are.

When a site is finished, its scope is given up, and what its lookups have found is handed back.
-/

namespace TypeHints

/-- A place whose hints are sanitized. -/
structure Site where
  config : Config
  /-- The scope that texts stand in. -/
  scopeName : String
  /-- The names of the place beyond the builtin ones. -/
  names : List (String × Hint)
  /-- The classes around the place, outermost first. -/
  classStack : List Label
  owner? : Option Label

/-- The state of a run at a site. -/
structure Run where
  store : Store
  engine : Engine
  scope? : Option Scope
  log : List String

namespace Run

variable {ε : Type}

/-- An action on the store. -/
def onStore {α : Type} (a : Attempt Store ε α) : Attempt Run ε α := fun r =>
  match a r.store with
  | (x, s) => (x, { r with store := s })

/-- A fresh label. -/
def fresh : Attempt Run ε Label := onStore Store.fresh

/-- The representative of a hint. -/
def intern (h : Hint) : Attempt Run ε Hint := fun r =>
  match r.engine.interner.intern h with
  | (h', i) => (.ok h', { r with engine := { r.engine with interner := i } })

/-- An action on the names of a scope. -/
def onNames {α : Type} (scope : Scope) (a : Attempt Naming Cause α) :
    Attempt Run Cause α := fun r =>
  match a ⟨scope, r.engine.refs, r.store⟩ with
  | (x, n) =>
    (x, { r with
      store := n.store
      engine := { r.engine with refs := n.refs }
      scope? := some n.scope })

end Run

namespace Site

variable {ε : Type}

/-- The words that the grammar reads as types and not as names, beside those a scope may shadow. -/
def typeWords : List String :=
  ["any", "unknown", "never", "void", "undefined", "null", "true", "false", "this"]

/-- Whether a text is a bare name. -/
def isPlainName (text : String) : Bool := Text.isIdentifier text && !typeWords.contains text

/-- Log a line, if the settings ask for it. -/
def log (site : Site) (message : String) : Attempt Run ε Unit :=
  if site.config.verbose then
    .modify fun r => { r with log := r.log ++ ["[hintwarden] " ++ message] }
  else pure ()

/-- The hints of classes under their own names. -/
def classNames (w : World) : List Label → Attempt Run ε (List (String × Hint))
  | [] => pure []
  | id :: ids => do
    let c ← Run.onStore (Store.classHintOf w.classes id)
    return (w.classes.name id, .ofClass c) :: (← classNames w ids)

/-- A new forward scope of the site: the names of the place win over the classes around it. -/
def makeScope (w : World) (site : Site) : Attempt Run Cause Scope := do
  let classes ← classNames w site.classStack
  Attempt.ofExcept
    (Scope.create site.scopeName (Members.assigned (classes ++ site.names)) site.owner?)

/-- The forward scope of the site, made when it is first asked for. -/
def forwardScope (w : World) (site : Site) : Attempt Run Cause Scope := do
  match (← Attempt.get).scope? with
  | some s => return s
  | none =>
    let s ← makeScope w site
    Attempt.modify fun r => { r with scope? := some s }
    return s

/-- Read a text against the names of a scope: a bare name is looked up, anything else is evaluated as
an expression. -/
def readText (w : World) (text : String) : Attempt Naming Cause Hint :=
  if isPlainName (Text.trim text) then Naming.lookup (Text.trim text) (some .engine)
  else Expression.evaluate w text

/-- The hint of a text in the forward scope of the site. -/
def destringify (w : World) (site : Site) (text : String) : Attempt Run Cause Hint := do
  let scope ← site.forwardScope w
  let h ← Run.onNames scope (readText w text)
  site.log (site.scopeName ++ ": destringified " ++ Text.quote text ++ " to " ++ h.repr)
  return h

/-- Give the forward scope up; the names that its lookups found. -/
def finish : Attempt Run ε (List (String × Hint)) := fun r =>
  match r.scope? with
  | none => (.ok [], r)
  | some s => (.ok s.minify, { r with scope? := none })

end Site

end TypeHints
