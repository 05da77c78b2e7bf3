import TypeHints.Hint
import TypeHints.Number.Decimal
import TypeHints.Text.Collation
import TypeHints.Text.Quote
import TypeHints.Text.Segments

/-!
# Structural keys

The key of a hint is a text that says how it is built. Declared things are keyed by number, so that
two classes of one name differ; the numbering is a parameter. The members of a union are put in
dictionary order, so the order in which they were written is no part of the key. Keys are plain
joins without escapes, so hints of different shape can share one:

* the literal `"a|union:lit:string:b"` in a union has the key of two members, the second one a
  union;
* nested tuples share keys, since the end of an inner one is not marked.

Nothing that a hint is declared with is part of its key, neither its name nor its parameters: a
number says it all. The name that a class is shown by is no part of it either.

The numbering of the library itself is `standardNumber`, and keys under it are `Hint.stableKey`.
-/

namespace TypeHints

/-! ### Texts in dictionary order -/

/-- Put a text in front of the first one that comes after it. -/
def insertText (s : String) : List String → List String
  | [] => [s]
  | t :: ts => if Text.collateLE s t then s :: t :: ts else t :: insertText s ts

/-- Texts in dictionary order. -/
def sortTexts : List String → List String
  | [] => []
  | s :: ss => insertText s (sortTexts ss)

theorem insertText_perm (s : String) (ts : List String) : (insertText s ts).Perm (s :: ts) := by
  induction ts with
  | nil => exact .refl _
  | cons t ts ih =>
    simp only [insertText]
    split
    · exact .refl _
    · exact (ih.cons t).trans (.swap s t ts)

theorem sortTexts_perm (ss : List String) : (sortTexts ss).Perm ss := by
  induction ss with
  | nil => exact .refl _
  | cons s ss ih => exact (insertText_perm s _).trans (ih.cons s)

namespace Hint

/-- The key of a declared thing: the name of its kind and its number. -/
def nominalKey (kind : String) (number : Label → Nat) (id : Label) : String :=
  kind ++ ":" ++ decimal (number id)

/-- The key of an origin. -/
def originKey (number : Label → Nat) : Origin → String
  | .template t => nominalKey "generic" number t.id
  | .alias a => nominalKey "alias" number a.id
  | .forwardRef r => nominalKey "forwardRef" number r.id

mutual

/-- The structural key of a hint. -/
def key (number : Label → Nat) : Hint → String
  | .any => "any"
  | .primitive p => "prim:" ++ p.name
  | .ofClass c => nominalKey "class" number c.id
  | .literal _ v => "lit:" ++ v.key
  | .union _ hs => "union:" ++ Text.joinWith "|" (sortTexts (keys number hs))
  | .tuple _ hs => "tuple:" ++ Text.joinWith "," (keys number hs)
  | .parameter p => nominalKey "typeParameter" number p.id
  | .template t => originKey number (.template t)
  | .alias a => originKey number (.alias a)
  | .subscripted _ o hs =>
    "sub:" ++ originKey number o ++ "<" ++ Text.joinWith "," (keys number hs) ++ ">"
  | .forwardRef r => originKey number (.forwardRef r)
  | .deferred _ t => "deferred:" ++ Text.quote t

/-- The structural keys of hints, in order. -/
def keys (number : Label → Nat) : List Hint → List String
  | [] => []
  | h :: hs => h.key number :: keys number hs

end

theorem keys_eq_map (number : Label → Nat) : ∀ hs : List Hint, keys number hs = hs.map (key number)
  | [] => rfl
  | h :: hs => by simp [keys, keys_eq_map number hs]

/-- The number that the library itself keys a declared thing by. -/
def standardNumber (id : Label) : Nat := 100000 + id

/-- The structural key of a hint under the library's own numbering. -/
def stableKey (h : Hint) : String := h.key standardNumber

/-- Whether two hints are the same or share a key. -/
def similar (a b : Hint) : Bool := a = b || a.stableKey = b.stableKey

/-- Whether two lists hold the same hints in the same order. -/
def sameList (as bs : List Hint) : Bool := as = bs

end Hint

end TypeHints
