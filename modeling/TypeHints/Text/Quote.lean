import TypeHints.Text.Units

/-!
# Quoted texts

A text in double quotes, in the form of a JSON string: the quote, the backslash, the controls below
U+0020 and lone halves of pairs are escaped, everything else stands for itself.
-/

namespace TypeHints.Text

/-- A hexadecimal digit, in lower case. -/
def hexDigit (n : Nat) : Char :=
  if n < 10 then Char.ofNat (48 + n) else Char.ofNat (87 + n)

/-- The escape of a 16-bit unit. -/
def unitEscape (n : Nat) : List Char :=
  ['\\', 'u', hexDigit (n / 4096 % 16), hexDigit (n / 256 % 16), hexDigit (n / 16 % 16),
    hexDigit (n % 16)]

/-- How a character is written between the quotes. -/
def escapeChar (c : Char) : List Char :=
  if c = '\x22' then ['\\', '\x22']
  else if c = '\\' then ['\\', '\\']
  else if c = '\x08' then ['\\', 'b']
  else if c = '\t' then ['\\', 't']
  else if c = '\n' then ['\\', 'n']
  else if c = '\x0c' then ['\\', 'f']
  else if c = '\r' then ['\\', 'r']
  else if c.toNat < 32 then unitEscape c.toNat
  else
    match half? c with
    | some u => unitEscape u
    | none => [c]

/-- Whether two characters stand for the halves of one pair. -/
def isPair (c d : Char) : Bool := (half? c).any isHighHalf && (half? d).any isLowHalf

/-- The characters between the quotes. -/
def escaped : List Char → List Char
  | [] => []
  | [c] => escapeChar c
  | c :: d :: cs => if isPair c d then c :: d :: escaped cs else escapeChar c ++ escaped (d :: cs)

/-- A text between double quotes, with escapes. -/
def quoteChars (cs : List Char) : List Char := '\x22' :: (escaped cs ++ ['\x22'])

/-- A text between double quotes, with escapes. -/
def quote (s : String) : String := String.ofList (quoteChars s.toList)

end TypeHints.Text
