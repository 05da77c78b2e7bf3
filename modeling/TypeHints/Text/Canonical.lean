import TypeHints.Text.CombiningClasses
import TypeHints.Text.Decompositions

/-!
# Canonical form

Texts that differ in how their accents are spelled have one canonical form: every character is
decomposed, and the marks behind a character are put in the order of their combining classes. Marks
of one class keep their order.
-/

namespace TypeHints.Text

/-- The parts of a syllable of Hangul: its consonant, its vowel, and its last consonant if it has
one. -/
def syllableParts (i : Nat) : List Nat :=
  [0x1100 + i / 588, 0x1161 + i % 588 / 28] ++ if i % 28 = 0 then [] else [0x11a7 + i % 28]

/-- The characters that a character decomposes into. -/
def decompose (c : Char) : List Char :=
  let n := c.toNat
  if n < 0xc0 then [c]
  else if 0xac00 ≤ n && n ≤ 0xd7a3 then (syllableParts (n - 0xac00)).map Char.ofNat
  else
    match decomposition? n with
    | some parts => parts.map Char.ofNat
    | none => [c]

/-- Put a character in front of a text in canonical order. A mark goes behind the marks of lower
classes. -/
def insertMark (c : Char) : List Char → List Char
  | [] => [c]
  | d :: ds =>
    if combiningClass d ≠ 0 ∧ combiningClass d < combiningClass c then d :: insertMark c ds
    else c :: d :: ds

/-- The canonical form of a text. -/
def canonical (cs : List Char) : List Char := (cs.flatMap decompose).foldr insertMark []

end TypeHints.Text
