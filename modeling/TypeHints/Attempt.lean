/-!
# Fallible actions on a state

An `Attempt σ ε α` acts on a state `σ` and ends in a value or in a failure. The state reached is
kept in both cases: a step that fails late has still recorded what it did before. That is the reason
for not using a transformer stack that drops the state of a failing action.
-/

namespace TypeHints

/-- An action on a state `σ` that ends in a value of `α` or in a failure of `ε`, and keeps the state
it reached in either case. -/
def Attempt (σ ε α : Type) : Type := σ → Except ε α × σ

namespace Attempt

variable {σ ε α β : Type}

/-- Run the action from a state. -/
def run (a : Attempt σ ε α) (s : σ) : Except ε α × σ := a s

/-- Succeed with a value, leaving the state alone. -/
protected def pure (a : α) : Attempt σ ε α := fun s => (.ok a, s)

/-- Fail, leaving the state alone. -/
def fail (e : ε) : Attempt σ ε α := fun s => (.error e, s)

/-- Run `a`, then `f` on its value, unless `a` failed. -/
protected def bind (a : Attempt σ ε α) (f : α → Attempt σ ε β) : Attempt σ ε β := fun s =>
  match a s with
  | (.ok x, s') => f x s'
  | (.error e, s') => (.error e, s')

instance : Monad (Attempt σ ε) where
  pure := Attempt.pure
  bind := Attempt.bind

/-- The state. -/
def get : Attempt σ ε σ := fun s => (.ok s, s)

/-- Change the state. -/
def modify (f : σ → σ) : Attempt σ ε Unit := fun s => (.ok (), f s)

/-- An outcome that does not touch the state. -/
def ofExcept (r : Except ε α) : Attempt σ ε α := fun s => (r, s)

/-- Read a failure as another kind of failure. -/
def mapFailure {δ : Type} (f : ε → δ) (a : Attempt σ ε α) : Attempt σ δ α := fun s =>
  match a s with
  | (.ok x, s') => (.ok x, s')
  | (.error e, s') => (.error (f e), s')

end Attempt

/-- All values of a list of outcomes, or the first failure among them. -/
def collect {ε α : Type} : List (Except ε α) → Except ε (List α)
  | [] => .ok []
  | .error e :: _ => .error e
  | .ok x :: rest => (collect rest).map (x :: ·)

@[simp] theorem collect_map_ok {ε α : Type} (xs : List α) :
    collect (xs.map (Except.ok : α → Except ε α)) = .ok xs := by
  induction xs with
  | nil => rfl
  | cons x xs ih => simp [collect, ih, Except.map]

end TypeHints
