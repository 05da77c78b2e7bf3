import TypeHints.Text.Canonical
import TypeHints.Text.Weights

/-!
# Dictionary order of texts

The root order of collation on ASCII: texts are compared ignoring case first, with punctuation
before digits and digits before letters; texts that differ in case alone are told apart at the first
difference, lower case first. Characters beyond ASCII come last, by code point. Texts tie if they
have the same characters in canonical form, apart from those without weight and between those of one
weight: then the order does not tell them apart.
-/

namespace TypeHints.Text

/-- White space, punctuation and symbols of ASCII in their collation order. -/
def punctuationOrder : List Char :=
  ['\t', '\n', '\x0b', '\x0c', '\r', ' ', '_', '-', ',', ';', ':', '!', '?', '.', '\x27', '\x22',
   '(', ')', '[', ']', '\x7b', '\x7d', '@', '*', '/', '\\', '&', '#', '%', '\x60', '^', '+', '<',
   '=', '>', '|', '~', '$']

/-- The primary weight of a character: its place when case is ignored. -/
def primaryWeight (c : Char) : Nat :=
  if '0' ≤ c ∧ c ≤ '9' then 100 + (c.toNat - '0'.toNat)
  else if 'a' ≤ c ∧ c ≤ 'z' then 200 + (c.toNat - 'a'.toNat)
  else if 'A' ≤ c ∧ c ≤ 'Z' then 200 + (c.toNat - 'A'.toNat)
  else if c.toNat < 128 then punctuationOrder.idxOf c
  else 1000 + c.toNat

/-- The tertiary weight of a character: upper case comes after lower case. -/
def caseWeight (c : Char) : Nat := if 'A' ≤ c ∧ c ≤ 'Z' then 1 else 0

/-- Lexicographic comparison of weights, the shorter first. -/
def compareWeights : List Nat → List Nat → Ordering
  | [], [] => .eq
  | [], _ :: _ => .lt
  | _ :: _, [] => .gt
  | x :: xs, y :: ys => if x < y then .lt else if y < x then .gt else compareWeights xs ys

/-- The characters of a text as far as dictionary order sees them. -/
def weighted (s : String) : List Char := ((canonical s.toList).filter hasWeight).map leader

/-- Dictionary order: first without case, then by case. -/
def collate (s t : String) : Ordering :=
  (compareWeights ((weighted s).map primaryWeight) ((weighted t).map primaryWeight)).then
    (compareWeights ((weighted s).map caseWeight) ((weighted t).map caseWeight))

/-- Whether a text comes no later than another in dictionary order. -/
def collateLE (s t : String) : Bool := collate s t ≠ .gt

end TypeHints.Text
