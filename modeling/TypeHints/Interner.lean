import TypeHints.Dict
import TypeHints.Hint.Key

/-!
# Interning

An interner keeps one hint for each structural key: the first one that came. Only composite hints
and literals are interned; everything else is its own representative, since declared things are
identified by their labels already and a text means something else at each place.

Representatives are kept for the life of the engine. As keys can collide, a representative need not
look like the hint that it stands for, but it always has its key.
-/

namespace TypeHints

/-- The representatives so far, by key. -/
structure Interner where
  hints : Dict String Hint

namespace Interner

/-- No representatives. -/
def empty : Interner := ⟨∅⟩

/-- How many representatives there are. -/
def size (i : Interner) : Nat := i.hints.size

/-- Whether a hint is of a kind that is interned. -/
def isInternable : Hint → Bool
  | .subscripted _ _ _ | .union _ _ | .tuple _ _ | .literal _ _ => true
  | _ => false

/-- The representative of a hint; a hint with a new key becomes one. -/
def intern (h : Hint) (i : Interner) : Hint × Interner :=
  if isInternable h then
    match i.hints.get? h.stableKey with
    | some found => (found, i)
    | none => (h, ⟨i.hints.insert h.stableKey h⟩)
  else (h, i)

end Interner

end TypeHints
