import TypeHints.Reduction
import TypeHints.Slot

/-!
# Sanitizing hints

Three ways lead into reduction: the annotation of a slot of a callable, a hint that stands for
itself, and a child of a hint that has been reduced. Each gives a sane hint or a diagnostic under
the label of the site that the caller names, and follows a chain of hints to a depth that the caller
chooses.

A root and the annotation of a slot are raw hints: they are coerced, and the representative of what
they stand for is taken. A child is a hint already, and only replaced by its representative.

The annotation of a slot is written back as soon as it is coerced. So it is a hint from then on,
even if shaping or reducing it fails; an annotation that is refused stays as it is. The text of a
result or of a rest parameter is read before the slot is shaped, but what is written back is the
deferred hint.

A crash is no diagnostic. It is handed on as it is, and no label is put in it.
-/

namespace TypeHints

/-- How long a chain of hints is followed where nothing else is asked for. -/
def depthLimit : Nat := 2000

/-- How sanitizing ends when it gives no sane hint. -/
inductive Report where
  | diagnostic (d : Diagnostic)
  | crash (c : Crash)

/-- A failure as the report under the label of a site. -/
def Failure.report (label : String) : Failure → Report
  | .cause c => .diagnostic (c.diagnostic.atSite label)
  | .crash c => .crash c

/-- Sanitize a hint that stands for itself. -/
def sanitizeRoot (w : World) (site : Site) (depth : Nat) (raw : Value) (label : String) :
    Attempt Run Report Sane :=
  Attempt.mapFailure (Failure.report label) do
    reduce w site depth (← Run.coerceRoot w raw) none

/-- Sanitize a child of a hint that has been reduced. -/
def sanitizeChild (w : World) (site : Site) (depth : Nat) (parent : Sane) (hint : Hint)
    (label : String) : Attempt Run Report Sane :=
  Attempt.mapFailure (Failure.report label) do
    reduce w site depth (← Run.intern hint) (some parent)

/-- The slot of the result of a callable. -/
def returnSlot : String := "return"

/-- A callable with the annotations of its slots. -/
structure Callable where
  name : String
  kind : CallableKind
  annotations : Dict String Value

/-- The hint of a deferred text, and any other hint itself. -/
def resolveDeferred (w : World) (site : Site) : Hint → Attempt Run Failure Hint
  | .deferred _ text => (site.destringify w text).mapFailure .cause
  | h => pure h

/-- What a slot is checked against, given its coerced annotation. -/
def shapeSlot (w : World) (site : Site) (callable : Callable) (slot : String) (kind : ParameterKind)
    (hint : Hint) : Attempt Run Failure Hint :=
  if slot = returnSlot then do
    let h ← resolveDeferred w site hint
    Attempt.ofExcept ((h.returned callable.kind callable.name).mapError .cause)
  else
    match kind with
    | .rest => do return (← resolveDeferred w site hint).restItem
    | .positional | .optional => pure hint

/-- Sanitize the annotation of a slot of a callable. The coerced annotation is written back,
whatever comes of it afterwards; a slot without annotation is ignorable. -/
def sanitizeSlot (w : World) (site : Site) (depth : Nat) (slot : String) (kind : ParameterKind)
    (label : String) : Attempt (Callable × Run) Report Sane := fun (callable, run) =>
  match callable.annotations.get? slot with
  | none => (.ok .ignorable, callable, run)
  | some .undefined => (.ok .ignorable, callable, run)
  | some raw =>
    match Run.coerceRoot w raw run with
    | (.error f, run') => (.error (f.report label), callable, run')
    | (.ok hint, run') =>
      let callable' :=
        { callable with annotations := callable.annotations.insert slot (.hint hint) }
      let shaped : Attempt Run Report Sane := Attempt.mapFailure (Failure.report label) do
        reduce w site depth (← shapeSlot w site callable slot kind hint) none
      match shaped run' with
      | (r, run'') => (r, callable', run'')

end TypeHints
