import TypeHints.Forward.Registry
import TypeHints.Forward.Trust

/-!
# Forward scopes

A forward scope holds the names that texts at one place may use: the builtin namespace, then the
names of the place itself. A trusted lookup of another name makes a forward reference, which becomes
an entry of the scope. The scope records which names lookups have found; `Scope.minify` lists just
those.

Names of the place win over builtin ones of the same name. An entry that lookups make stays, so that
a name stands for one hint until the scope is cleared. A name that is no dotted identifier is
refused unless it is an entry already, and it is refused before the trust of the caller is asked
for.

`Naming` is what a lookup needs beside the scope: the registry in which references are made, and the
store with its supply of labels. Reading a text is an action on it.
-/

namespace TypeHints

/-- The names that the texts at one place may use. -/
structure Scope where
  name : String
  entries : Dict String Hint
  /-- The names that lookups have found, in order of first success. -/
  recorded : List String
  owner? : Option Label
deriving Repr

namespace Scope

/-- A scope with the builtin names and names of its own, which win. -/
def create (name : String) (seed : List (String × Hint)) (owner? : Option Label) :
    Except Cause Scope := do
  let name ← validDotted "Forward scope name" name
  return ⟨name, Dict.ofList (Builtin.scope ++ seed), [], owner?⟩

/-- How many names a scope holds. -/
def size (s : Scope) : Nat := s.entries.size

/-- Whether a scope holds a name. -/
def has (s : Scope) (name : String) : Bool := s.entries.contains name

/-- Record that a name was found. -/
def record (s : Scope) (name : String) : Scope :=
  if name ∈ s.recorded then s else { s with recorded := s.recorded ++ [name] }

theorem entries_record (s : Scope) (name : String) : (s.record name).entries = s.entries := by
  unfold record
  split <;> rfl

/-- The names found so far with their hints, in order of first success. -/
def minify (s : Scope) : List (String × Hint) :=
  s.recorded.filterMap fun n => (s.entries.get? n).map fun h => (n, h)

/-- Forget all names and the owner. -/
def clear (s : Scope) : Scope := { s with entries := ∅, recorded := [], owner? := none }

end Scope

/-- What names are looked up against: a scope, the registry behind it and the store. -/
structure Naming where
  scope : Scope
  refs : Registry
  store : Store
deriving Repr

namespace Naming

/-- An action on the store. -/
def onStore {α : Type} (a : Attempt Store Cause α) : Attempt Naming Cause α := fun n =>
  match a n.store with
  | (r, s) => (r, { n with store := s })

/-- An action on the registry that may use a fresh label. -/
def onRefs {α : Type} (a : Label → Attempt Registry Cause α) : Attempt Naming Cause α := do
  let label ← onStore Store.fresh
  fun n =>
    match a label n.refs with
    | (r, g) => (r, { n with refs := g })

/-- Look a name up. A trusted caller gets a forward reference for a name that the scope does not
hold. -/
def lookup (name : String) (trust? : Option Trust) : Attempt Naming Cause Hint := fun n =>
  match n.scope.entries.get? name with
  | some h => (.ok h, { n with scope := n.scope.record name })
  | none =>
    match validDotted "Forward reference" name with
    | .error e => (.error e, n)
    | .ok _ =>
      if isTrusted trust? then
        let make (l : Label) := Registry.make l .subscriptable name n.scope.name n.scope.owner?
        match onRefs make n with
        | (.error e, n') => (.error e, n')
        | (.ok r, n') =>
          (.ok (.forwardRef r),
            { n' with
              scope :=
                { n'.scope with entries := n'.scope.entries.insert name (.forwardRef r) }.record
                  name })
      else (.error (.unknownName n.scope.name name), n)

end Naming

end TypeHints
