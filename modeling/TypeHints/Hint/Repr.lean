import TypeHints.Hint
import TypeHints.Text.Quote
import TypeHints.Text.Segments

/-!
# Hints as type expressions

`Hint.repr` writes a hint the way it would be written as a type expression. Everything that is
declared is written by its name.
-/

namespace TypeHints.Hint

mutual

/-- A hint written as a type expression. -/
def repr : Hint → String
  | .any => "any"
  | .primitive p => p.name
  | .ofClass c => c.name
  | .literal _ v => v.repr
  | .union _ hs => Text.joinWith " | " (reprs hs)
  | .tuple _ hs => "[" ++ Text.joinWith ", " (reprs hs) ++ "]"
  | .parameter p => p.name
  | .template t => t.name
  | .alias a => a.name
  | .subscripted _ o hs => o.name ++ "<" ++ Text.joinWith ", " (reprs hs) ++ ">"
  | .forwardRef r => r.name
  | .deferred _ t => Text.quote t

/-- Hints written as type expressions, in order. -/
def reprs : List Hint → List String
  | [] => []
  | h :: hs => h.repr :: reprs hs

end

theorem reprs_eq_map : ∀ hs : List Hint, reprs hs = hs.map repr
  | [] => rfl
  | h :: hs => by simp [reprs, reprs_eq_map hs]

end TypeHints.Hint
