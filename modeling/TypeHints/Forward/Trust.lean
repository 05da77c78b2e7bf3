/-!
# Trust

Looking up a name that is not defined yet makes a forward reference, but only for the engine itself
and the evaluator of expressions. Everyone else is told that the name is unknown.
-/

namespace TypeHints

/-- Who looks a name up. -/
inductive Trust where
  | engine | evaluator
  /-- Someone who shows a token of their own. -/
  | foreign
deriving DecidableEq, Repr

/-- Whether a caller may defer names, given the token shown, if any. -/
def isTrusted : Option Trust → Bool
  | some .engine => true
  | some .evaluator => true
  | some .foreign => false
  | none => false

end TypeHints
