import TypeHints.Text.IdentifierRanges
import TypeHints.Text.Segments

/-!
# Identifiers and dotted names

An identifier begins with a letter of `ID_Start`, an underscore or a dollar sign and goes on with
characters of `ID_Continue`, dollar signs and the two zero-width joiners. A dotted name is one or
more identifiers with dots between them: `name` and `a.b.c`, but not the empty text, `a.`, `.a` or
`a..b`.
-/

namespace TypeHints.Text

/-- A letter of ASCII. -/
def isAsciiLetter (c : Char) : Bool := ('a' ≤ c && c ≤ 'z') || ('A' ≤ c && c ≤ 'Z')

/-- A digit of ASCII. -/
def isDigit (c : Char) : Bool := '0' ≤ c && c ≤ '9'

/-- The zero-width joiner and non-joiner. -/
def isJoiner (c : Char) : Bool := c = '\u200c' || c = '\u200d'

/-- A character that may begin an identifier. -/
def isIdStart (c : Char) : Bool :=
  if c.toNat < 128 then isAsciiLetter c || c = '_' || c = '$'
  else inRanges idStartRanges c.toNat || inRanges idStartRangesLater c.toNat

/-- A character that may continue an identifier. -/
def isIdContinue (c : Char) : Bool :=
  if c.toNat < 128 then isAsciiLetter c || isDigit c || c = '_' || c = '$'
  else inRanges idContinueRanges c.toNat || inRanges idContinueRangesLater c.toNat || isJoiner c

/-- Whether the characters spell an identifier. -/
def isIdentifierChars : List Char → Bool
  | [] => false
  | c :: cs => isIdStart c && cs.all isIdContinue

/-- Whether a text is an identifier. -/
def isIdentifier (s : String) : Bool := isIdentifierChars s.toList

/-- Whether a text is a dotted name. -/
def isDottedIdentifier (s : String) : Bool := (segments s).all isIdentifier

end TypeHints.Text
