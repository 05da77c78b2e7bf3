/-!
# White space

The characters that count as white space at the ends of a text: the space separators, the horizontal
and vertical tab, the form feed, the byte order mark and the four line terminators. The next-line
control U+0085 and the zero-width space U+200B are not among them.
-/

namespace TypeHints.Text

/-- The characters that end a line. -/
def isLineEnd (c : Char) : Bool :=
  c = '\n' || c = '\r' || c = '\u2028' || c = '\u2029'

/-- The space separators: space, no-break space and the spaces of the general punctuation block. -/
def isSpaceSeparator (c : Char) : Bool :=
  c = ' ' || c = '\u00a0' || c = '\u1680' || ('\u2000' ≤ c && c ≤ '\u200a') || c = '\u202f' ||
    c = '\u205f' || c = '\u3000'

/-- White space at the ends of a text. -/
def isBlank (c : Char) : Bool :=
  isLineEnd c || isSpaceSeparator c || c = '\t' || c = '\x0b' || c = '\x0c' || c = '\ufeff'

/-- The text without white space at its ends. -/
def trimChars (cs : List Char) : List Char :=
  ((cs.dropWhile isBlank).reverse.dropWhile isBlank).reverse

/-- The text without white space at its ends. -/
def trim (s : String) : String := String.ofList (trimChars s.toList)

end TypeHints.Text
