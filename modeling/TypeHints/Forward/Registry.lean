import TypeHints.Cause
import TypeHints.Text.Identifier

/-!
# The registry of forward references

A registry makes forward references and keeps one for each scope, name and kind, so that making one
twice gives the same reference. Both names of a reference have to be dotted identifiers.

A reference that has been made is found before its names are checked; since they were checked when
it was made, that is no difference. The three parts of its key are joined by a character that no
identifier holds. The owner of a reference is that of the first request: later ones do not change
it.

A reference is subscriptable or sealed. `Registry.member` keeps the kind of the reference that it
goes on from, and `Registry.sealedTwin` is what arguments are applied to; a sealed reference has no
twin. Nothing is ever taken from a registry.
-/

namespace TypeHints

/-- A text that has to be a dotted identifier; `label` says in a message what it names. -/
def validDotted (label text : String) : Except Cause String :=
  if Text.isDottedIdentifier text then .ok text else .error (.invalidName label text)

/-- The forward references made so far, by key. -/
structure Registry where
  refs : Dict String ForwardRef
deriving Repr

namespace Registry

/-- No references. -/
def empty : Registry := ⟨∅⟩

/-- The key of a reference. The separator is part of no identifier. -/
def refKey (kind : RefKind) (name scope : String) : String :=
  scope ++ "\x00" ++ name ++ "\x00" ++ kind.name

/-- The references made so far, oldest first. -/
def entries (g : Registry) : List ForwardRef := g.refs.values

/-- How many references there are. -/
def size (g : Registry) : Nat := g.refs.size

/-- The reference to `name` from `scope`: the one made before, else a new one with the given
label. -/
def make (label : Label) (kind : RefKind) (name scope : String) (owner? : Option Label) :
    Attempt Registry Cause ForwardRef := fun g =>
  match g.refs.get? (refKey kind name scope) with
  | some r => (.ok r, g)
  | none =>
    match validDotted "Forward reference" name,
        validDotted ("Forward reference " ++ Text.quote name ++ " scope name") scope with
    | .error e, _ => (.error e, g)
    | .ok _, .error e => (.error e, g)
    | .ok _, .ok _ =>
      let r : ForwardRef := ⟨label, name, scope, kind, owner?⟩
      (.ok r, ⟨g.refs.insert (refKey kind name scope) r⟩)

/-- The reference to a member of what a reference names. -/
def member (label : Label) (r : ForwardRef) (name : String) : Attempt Registry Cause ForwardRef :=
  make label r.kind (r.name ++ "." ++ name) r.scope r.owner?

/-- The sealed reference that arguments for a reference are applied to. -/
def sealedTwin (label : Label) (r : ForwardRef) : Attempt Registry Cause ForwardRef :=
  match r.kind with
  | .sealed => .fail (.alreadySubscripted r.name)
  | .subscriptable => make label .sealed r.name r.scope r.owner?

end Registry

end TypeHints
