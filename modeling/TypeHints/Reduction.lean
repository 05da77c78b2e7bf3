import TypeHints.Coercion
import TypeHints.Sane
import TypeHints.Site

/-!
# Reduction

Reducing a hint gives the form that checks are made from: aliases and deferred texts are followed,
parameters are replaced by what they are bound to, nested unions are flattened, and a class with an
override is replaced. Reduction is shallow; the children of the result are reduced one by one, with
the result as their parent.

Each form of hint has a step of its own (`reduceStep`), which ends in a model or says what to go on
with. What may lead back to where it came from is guarded in different ways:

* a parameter, an alias or an application of an alias that comes up while it is being expanded is
  ignored. An application is recognized by its representative, so two spellings of one application
  are the same;
* an override is applied once on the way from the root, by the name that the class is shown by;
* a text is not guarded, and neither is a chain of aliases that are built anew each time.

So a chain may be longer than any bound. It is followed to a depth that is a parameter of `reduce`;
a longer chain is a crash. The bindings that an application makes are those of the engine, and an
application that has been seen is not checked again. The bindings of an alias are in force below
what it stands for, and its value is interned before reduction goes on.
-/

namespace TypeHints

/-! ### Unions -/

namespace Hint

mutual

/-- The members of a union that are no unions themselves, at any depth, from left to right; any
other hint is its own leaf. -/
def leaves : Hint → List Hint
  | .union _ hs => leavesAll hs
  | h => [h]

/-- The leaves of hints, in order. -/
def leavesAll : List Hint → List Hint
  | [] => []
  | h :: hs => leaves h ++ leavesAll hs

end

/-- The hints without those whose key has come before. -/
def distinct (seen : List String) : List Hint → List Hint
  | [] => []
  | h :: hs =>
    if h.stableKey ∈ seen then distinct seen hs
    else h :: distinct (h.stableKey :: seen) hs

/-- The members of a flat union without repetitions. -/
def flatMembers (hs : List Hint) : List Hint := distinct [] (leavesAll hs)

end Hint

/-! ### Steps -/

namespace Run

/-- The world together with what was declared by writing it down so far. -/
def world (w : World) : Attempt Run Failure World := do return w.under (← Attempt.get).store

/-- The bindings of an application. -/
def substitute (w : World) (hint : Hint) (params : List TypeParameter) (args : List Hint) :
    Attempt Run Failure (Option Table) := do
  let label ← fresh
  fun r =>
    match Substitution.build (w.under r.store) label hint params args r.engine.substitutions with
    | (outcome, cache) =>
      (outcome.result.mapError .cause,
        { r with engine := { r.engine with substitutions := cache } })

/-- The hint of a raw hint as a root: coerced and interned. -/
def coerceRoot (w : World) (raw : Value) : Attempt Run Failure Hint := do
  intern (← onStore (coerceKeyed w raw))

/-- The model of a hint below a parent. -/
def model (hint : Hint) (parent? : Option Sane) (table? : Option Table) :
    Attempt Run Failure Sane := do
  return Sane.create (← fresh) hint parent? table?

/-- The parent, else a model of the hint itself. -/
def ancestry (hint : Hint) (parent? : Option Sane) : Attempt Run Failure Sane :=
  match parent? with
  | some p => pure p
  | none => model hint none none

/-- A model with one more hint that is being expanded. -/
def expanding (s : Sane) (h : Hint) : Attempt Run Failure Sane := do
  return s.expanding (← fresh) h

end Run

/-- The message of a value that an alias has thrown: the text of the value, but nothing for an object
that only inherits from the class of errors. -/
def thrownMessage (w : World) (v : Value) : Except Failure String :=
  if v.isInstance w.classes Builtin.errorId then .ok ""
  else (v.text? w.classes).mapError fun f => .crash (.noText f)

namespace AliasBody

/-- Read the body of an alias of the given name. -/
def read (w : World) (name : String) : AliasBody → Attempt Store Failure Value
  | .value recipe => recipe.build w.classes
  | .failure message => .fail (.cause (.unreadableAlias name message))
  | .thrown v => do
    let message ← Attempt.ofExcept (thrownMessage w v)
    .fail (.cause (.unreadableAlias name message))

/-- The hint that the body of an alias of the given name stands for, read and coerced anew. -/
def hint (w : World) (name : String) (b : AliasBody) : Attempt Store Failure Hint := do
  coerceKeyed w (← b.read w name)

end AliasBody

/-- The hint that an alias stands for. -/
def aliasValue (w : World) (a : Alias) : Attempt Run Failure Hint := do
  match (← Run.world w).aliases.get? a.id with
  | none => .fail (.cause (.unreadableAlias a.name ""))
  | some b => Run.onStore (b.hint w a.name)

/-- How bindings are logged. -/
def bindingText (t : Table) : String :=
  Text.joinWith ", " (t.entries.entries.map fun e => e.1.name ++ "=" ++ e.2.repr)

/-! ### Reduction

Each form of hint has a step of its own. A step ends in a model, or says which hint to go on with
and below which parent; `reduce` takes one step after another.
-/

/-- Where a step of reduction leads. -/
inductive Stage where
  /-- Reduction ends in a model. -/
  | done (s : Sane)
  /-- Reduction goes on with a hint below a parent. -/
  | goOn (hint : Hint) (parent? : Option Sane)
deriving DecidableEq

namespace Run

/-- End in the model of a hint below a parent. -/
def settle (hint : Hint) (parent? : Option Sane) (table? : Option Table) :
    Attempt Run Failure Stage := do
  return .done (← model hint parent? table?)

end Run

section Steps

variable (w : World) (site : Site)

/-- Reduce a class: by its override, unless there is none or it has been applied on the way here. -/
def reduceClass (c : ClassHint) (parent? : Option Sane) : Attempt Run Failure Stage :=
  match site.config.overrides.get? c.name with
  | none => Run.settle (.ofClass c) parent? none
  | some replacement => do
    let ancestry ← Run.ancestry (.ofClass c) parent?
    if c.name ∈ ancestry.overridden then Run.settle (.ofClass c) parent? none
    else
      site.log ("overriding " ++ c.name ++ " with " ++ Text.quote replacement)
      let nested := ancestry.overriding (← Run.fresh) c.name
      let h ← (site.destringify w replacement).mapFailure .cause
      return .goOn h (some nested)

/-- The union of members that are flat and differ: the given one if it has just these members. -/
def canonicalUnion (label : Label) (hs members : List Hint) : Attempt Run Failure Hint :=
  if members = hs then pure (.union label hs)
  else do Run.intern (.union (← Run.fresh) members)

/-- Reduce a union: flat and without repetitions; a single member is reduced in its place. -/
def reduceUnion (label : Label) (hs : List Hint) (parent? : Option Sane) :
    Attempt Run Failure Stage :=
  if Hint.any ∈ Hint.flatMembers hs then return .done .ignorable
  else
    match Hint.flatMembers hs with
    | [] => .fail (.cause .emptyUnion)
    | [h] => return .goOn h parent?
    | members => do Run.settle (← canonicalUnion label hs members) parent? none

/-- Reduce a parameter: by its binding, else its bound, else its constraints, else it is
ignorable. -/
def reduceParameter (p : TypeParameter) (parent? : Option Sane) : Attempt Run Failure Stage := do
  let ancestry ← Run.ancestry (.parameter p) parent?
  if ancestry.guard.has (.parameter p) then
    site.log ("type parameter " ++ p.name ++ " recurses; ignoring")
    return .done .ignorable
  else
    let nested ← Run.expanding ancestry (.parameter p)
    let w ← Run.world w
    match ancestry.table.get? p, w.bound? p, w.constraints p with
    | some h, _, _ => return .goOn h (some nested)
    | none, some bound, _ => return .goOn bound (some nested)
    | none, none, [] => return .done .ignorable
    | none, none, hs => return .goOn (.union (← Run.fresh) hs) (some nested)

/-- The hint that an alias or an application of it is guarded by. -/
def guardKey (a : Alias) : Option (Label × List Hint) → Attempt Run Failure Hint
  | some (label, args) => Run.intern (.subscripted label (.alias a) args)
  | none => pure (.alias a)

/-- The bindings that an application of an alias makes; an alias alone makes none. -/
def aliasTable (a : Alias) : Option (Label × List Hint) → Attempt Run Failure (Option Table)
  | some (label, args) => Run.substitute w (.subscripted label (.alias a) args) a.params args
  | none => pure none

/-- What an alias or an application of it stands for, and the parent that this is reduced below;
nothing if it is being expanded already. -/
def expandAlias (a : Alias) (application? : Option (Label × List Hint)) (parent? : Option Sane) :
    Attempt Run Failure (Option (Hint × Sane)) := do
  let ancestry ← Run.ancestry (.alias a) parent?
  let key ← guardKey a application?
  if ancestry.guard.has key then return none
  else
    let table? ← aliasTable w a application?
    let carrier ← Run.expanding (← Run.model (.alias a) (some ancestry) table?) key
    return some (← aliasValue w a, carrier)

/-- Reduce an alias or an application of it: by what it stands for, under the bindings that the
application makes. -/
def reduceAlias (a : Alias) (application? : Option (Label × List Hint)) (parent? : Option Sane) :
    Attempt Run Failure Stage := do
  match ← expandAlias w a application? parent? with
  | none =>
    site.log ("type alias " ++ a.name ++ " recurses; ignoring")
    return .done .ignorable
  | some (value, carrier) => return .goOn (← Run.intern value) (some carrier)

/-- Reduce an application of a template: the template under the bindings that the application
makes. -/
def reduceTemplate (label : Label) (t : Template) (args : List Hint) (parent? : Option Sane) :
    Attempt Run Failure Stage := do
  let hint := Hint.subscripted label (.template t) args
  let table? ← Run.substitute w hint t.params args
  match table? with
  | some table => site.log (hint.repr ++ " binds " ++ bindingText table)
  | none => pure ()
  Run.settle (.template t) parent? table?

/-- One step of reduction. -/
def reduceStep (hint : Hint) (parent? : Option Sane) : Attempt Run Failure Stage :=
  match hint with
  | .any => return .done .ignorable
  | .ofClass c => reduceClass w site c parent?
  | .union label hs => reduceUnion label hs parent?
  | .parameter p => reduceParameter w site p parent?
  | .subscripted label (.template t) args => reduceTemplate w site label t args parent?
  | .subscripted label (.alias a) args => reduceAlias w site a (some (label, args)) parent?
  | .alias a => reduceAlias w site a none parent?
  | .deferred _ text => do
    return .goOn (← (site.destringify w text).mapFailure .cause) parent?
  | .primitive _ | .literal _ _ | .tuple _ _ | .template _ | .forwardRef _
  | .subscripted _ (.forwardRef _) _ => Run.settle hint parent? none

end Steps

/-- Reduce a hint below a parent, following chains of at most the given length. -/
def reduce (w : World) (site : Site) : Nat → Hint → Option Sane → Attempt Run Failure Sane
  | 0, _, _ => .fail (.crash .tooDeep)
  | depth + 1, hint, parent? => do
    match ← reduceStep w site hint parent? with
    | .done s => pure s
    | .goOn h p? => reduce w site depth h p?

end TypeHints
