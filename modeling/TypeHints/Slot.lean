import TypeHints.Cause

/-!
# Slots of callables

What is checked in a slot of a callable is not always what is annotated: an asynchronous callable is
annotated with a promise and checked against what it promises, a generator is checked against the
bare template of its annotation, and a rest parameter is annotated with an array and checked item by
item.

All of this looks at the template that the annotation is or applies. A promise that is not applied
promises anything, and so does an array that is not applied. Arguments behind the first one are not
looked at, and how many there are is not checked here.

The result of an asynchronous callable or a generator has to be of its kind, unless it admits
everything; what is annotated for a rest parameter may be anything.
-/

namespace TypeHints

/-- The kinds of callables. -/
inductive CallableKind where
  | function | async | generator | asyncGenerator
deriving DecidableEq, Repr

/-- The kinds of parameters. -/
inductive ParameterKind where
  | positional | optional | rest
deriving DecidableEq, Repr

namespace Hint

/-- The template that a hint is or applies. -/
def template? : Hint → Option Template
  | .template t => some t
  | .subscripted _ (.template t) _ => some t
  | _ => none

/-- The first argument of a hint; a hint without arguments leaves it open. -/
def firstArgument : Hint → Hint
  | .subscripted _ _ (h :: _) => h
  | _ => .any

/-- What an asynchronous callable is checked against, given its annotation. -/
def promised (callable : String) (h : Hint) : Except Cause Hint :=
  if h = .any then .ok h
  else if h.template? = some Builtin.promise then .ok h.firstArgument
  else .error (.notPromise callable h)

/-- What a generator is checked against, given its annotation and the templates that fit. -/
def generated (callable : String) (templates : List Template) (h : Hint) : Except Cause Hint :=
  if h = .any then .ok h
  else
    match h.template? with
    | some t =>
      if t ∈ templates then .ok (.template t) else .error (.notGenerator callable h templates)
    | none => .error (.notGenerator callable h templates)

/-- What the result of a callable is checked against, given its annotation. -/
def returned (kind : CallableKind) (callable : String) (h : Hint) : Except Cause Hint :=
  match kind with
  | .function => .ok h
  | .async => h.promised callable
  | .generator => h.generated callable Builtin.generatorResults
  | .asyncGenerator => h.generated callable Builtin.asyncGeneratorResults

/-- What each item of a rest parameter is checked against, given its annotation. -/
def restItem (h : Hint) : Hint :=
  if h.template? = some Builtin.array ∨ h.template? = some Builtin.readonlyArray then
    h.firstArgument
  else h

end Hint

end TypeHints
