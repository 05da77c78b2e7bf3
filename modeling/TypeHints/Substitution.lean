import TypeHints.Cause
import TypeHints.Hint.Key
import TypeHints.Subtype
import TypeHints.World

/-!
# Substitution

Applying a template or an alias to arguments binds its parameters: `Substitution.compute` checks how
many arguments there are, pairs parameters with arguments and checks bounds. `Substitution.build`
keeps each outcome, failures too, under the labels of the hint, the parameters and the arguments, so
that the same application has one outcome.

There is nothing to bind where no parameters are declared, whatever the arguments, and where each
parameter stands for itself. Otherwise there has to be an argument, and a parameter for every one;
parameters behind the last argument stay unbound. Pairs in which a parameter stands for itself are
left out, and of the pairs of one parameter the last one counts.

A bound is checked where that can be done at once: the parameter is singular, and the bound and the
argument are plain hints, primitives or classes. Other arguments are let through. A variadic
parameter is paired with one argument like any other, and is not checked.

A `Table` carries the label under which it was built. The label under which an outcome is kept is
that of the first call, which asked for it anew.
-/

namespace TypeHints

/-- An immutable map from type parameters to hints, with the label it was built under. -/
structure Table where
  label : Label
  entries : Dict TypeParameter Hint
deriving DecidableEq

namespace Table

/-- The table that binds nothing. -/
def empty : Table := ⟨0, ∅⟩

/-- What a parameter is bound to. -/
def get? (t : Table) (p : TypeParameter) : Option Hint := t.entries.get? p

/-- The parameters that are bound, in order. -/
def keys (t : Table) : List TypeParameter := t.entries.keys

end Table

namespace Substitution

/-- The pairs of parameters and arguments at the same position, without those where a parameter
stands for itself. -/
def kept (params : List TypeParameter) (args : List Hint) : List (TypeParameter × Hint) :=
  (params.zip args).filter fun e => e.2 ≠ .parameter e.1

/-- The violation at one pair, if there is one. Only a plain argument of a singular parameter with a
plain bound can violate it. -/
def violation? (w : World) (hint : Hint) (e : TypeParameter × Hint) : Option Cause :=
  if e.1.variadic then none
  else
    match w.bound? e.1 with
    | none => none
    | some bound =>
      match bound.plain?, e.2.plain? with
      | some b, some a =>
        if isPlainSubtype w.classes a b then none
        else some (.boundViolated hint e.1 e.2 bound)
      | _, _ => none

/-- The bindings that `hint`, whose origin declares `params`, makes by its arguments; nothing if
there is nothing to bind. Parameters without an argument stay unbound. -/
def compute (w : World) (hint : Hint) (params : List TypeParameter) (args : List Hint) :
    Except Cause (Option (Dict TypeParameter Hint)) :=
  if params.isEmpty || Hint.sameList args (params.map .parameter) then .ok none
  else if args.isEmpty then .error (.noArguments hint)
  else if params.length < args.length then
    .error (.tooManyArguments hint args.length params.length)
  else
    let bindings := Dict.ofList (kept params args)
    match bindings.entries.findSome? (violation? w hint) with
    | some c => .error c
    | none => .ok (some bindings)

/-- The outcome of an application, with the label it is known by. -/
structure Outcome where
  label : Label
  result : Except Cause (Option Table)

/-- The outcomes so far, by key. -/
abbrev Cache := Dict String Outcome

/-- The key of an application: the labels of the hint, the parameters and the arguments. -/
def cacheKey (hint : Hint) (params : List TypeParameter) (args : List Hint) : String :=
  Text.joinWith "|" [decimal hint.label,
    Text.joinWith "," (params.map fun p => decimal p.id),
    Text.joinWith "," (args.map fun h => decimal h.label)]

/-- The outcome of an application: the one kept, else a new one under the given label. -/
def build (w : World) (label : Label) (hint : Hint) (params : List TypeParameter)
    (args : List Hint) (cache : Cache) : Outcome × Cache :=
  let key := cacheKey hint params args
  match cache.get? key with
  | some outcome => (outcome, cache)
  | none =>
    let outcome : Outcome :=
      ⟨label, (compute w hint params args).map fun t => t.map fun entries => ⟨label, entries⟩⟩
    (outcome, cache.insert key outcome)

end Substitution

end TypeHints
