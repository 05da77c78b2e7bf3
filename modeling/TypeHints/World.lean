import TypeHints.Store
import TypeHints.Value.Call

/-!
# The world of declarations

What a program declares beside its hints: its classes, the bounds and constraints of its type
parameters, and the bodies of its aliases. An alias stands for a raw hint that is built anew each
time it is read; its body is a `Recipe`, and `Recipe.build` carries it out.

Reading an alias can fail, with a message or with any value (`AliasBody`). A hint that a recipe
holds already is the same each time; what it builds has new labels at each reading. So two readings
of one alias need not give the same hint, and sometimes not even hints of one key.

Parameters and aliases may also be declared while a raw hint is read, by objects that were written
down as values. What these say goes into the store, and `World.under` is the world together with it.
Labels tell the two sources apart.
-/

namespace TypeHints

/-- How to build a hint. -/
inductive HintRecipe where
  | existing (h : Hint)
  | ofClass (id : Label)
  | literal (v : Literal)
  | union (members : List HintRecipe)
  | tuple (elements : List HintRecipe)
  | subscripted (origin : Origin) (args : List HintRecipe)
  | deferred (text : String)
deriving Repr, Inhabited

namespace HintRecipe

variable {ε : Type}

mutual

/-- Build a hint; whatever is new in it gets fresh labels. -/
def build (cs : Classes) : HintRecipe → Attempt Store ε Hint
  | .existing h => pure h
  | .ofClass id => do return .ofClass (← Store.classHintOf cs id)
  | .literal v => do return .literal (← Store.fresh) v
  | .union rs => do
    let hs ← buildAll cs rs
    return .union (← Store.fresh) hs
  | .tuple rs => do
    let hs ← buildAll cs rs
    return .tuple (← Store.fresh) hs
  | .subscripted o rs => do
    let hs ← buildAll cs rs
    return .subscripted (← Store.fresh) o hs
  | .deferred t => do return .deferred (← Store.fresh) t

/-- Build hints, first to last. -/
def buildAll (cs : Classes) : List HintRecipe → Attempt Store ε (List Hint)
  | [] => pure []
  | r :: rs => do
    let h ← build cs r
    let hs ← buildAll cs rs
    return h :: hs

end

end HintRecipe

/-- How to build a raw hint. -/
inductive Recipe where
  | value (v : Value)
  | list (elements : List Recipe)
  | hint (r : HintRecipe)
deriving Repr, Inhabited

namespace Recipe

variable {ε : Type}

mutual

/-- Build a raw hint. -/
def build (cs : Classes) : Recipe → Attempt Store ε Value
  | .value v => pure v
  | .list rs => do return .array (← buildAll cs rs)
  | .hint r => do return .hint (← r.build cs)

/-- Build raw hints, first to last. -/
def buildAll (cs : Classes) : List Recipe → Attempt Store ε (List Value)
  | [] => pure []
  | r :: rs => do
    let v ← build cs r
    let vs ← buildAll cs rs
    return v :: vs

end

end Recipe

/-- What reading an alias does. -/
inductive AliasBody where
  /-- It gives a raw hint, built anew each time. -/
  | value (r : Recipe)
  /-- It fails with a message. -/
  | failure (message : String)
  /-- It fails with any value. -/
  | thrown (v : Value)
deriving Repr, Inhabited

/-- What reading an alias does whose value was written down. -/
def AliasBody.ofValue (cs : Classes) (v : Value) : AliasBody :=
  match v.call? cs with
  | some (.ok u) => .value (.value u)
  | some (.error f) => .failure f.message
  | none => .failure "alias.value is not a function"

/-- The declarations of a program. -/
structure World where
  classes : Classes
  params : Dict Label ParamDecl
  aliases : Dict Label AliasBody

namespace World

/-- The world of the builtin namespace. -/
def builtin : World := ⟨Builtin.classes, ∅, ∅⟩

/-- The world together with what was declared by writing it down. -/
def under (w : World) (s : Store) : World :=
  { w with
    params := w.params.insertAll s.params.entries
    aliases := w.aliases.insertAll (s.aliasValues.entries.map fun e =>
      (e.1, AliasBody.ofValue w.classes e.2)) }

/-- A world to which nothing was added by writing it down is the same world. -/
theorem under_eq {w : World} {s : Store} (hp : s.params = ∅) (ha : s.aliasValues = ∅) :
    w.under s = w := by
  simp only [under, hp, ha]
  rfl

/-- The bound of a parameter, if it has one. -/
def bound? (w : World) (p : TypeParameter) : Option Hint :=
  (w.params.get? p.id).bind ParamDecl.bound?

/-- The constraints of a parameter; none is the same as an empty list. -/
def constraints (w : World) (p : TypeParameter) : List Hint :=
  ((w.params.get? p.id).bind ParamDecl.constraints?).getD []

end World

end TypeHints
