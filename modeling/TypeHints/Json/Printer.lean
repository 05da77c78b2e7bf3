import TypeHints.Json
import TypeHints.Text.Quote
import TypeHints.Text.Segments

/-!
# Writing JSON

`Json.compress` writes a JSON value on one line in ASCII alone: every other character is written as
the escapes of its 16-bit units. A number that is not finite has no JSON form and is written as
null.
-/

namespace TypeHints.Json

/-- A quoted character in ASCII. -/
def asciiChar (c : Char) : List Char :=
  if c.toNat < 0x7f then [c] else (Text.unitsOfChar c).flatMap Text.unitEscape

/-- A text as a JSON text in ASCII. -/
def quoteAscii (s : String) : String :=
  String.ofList ((Text.quoteChars s.toList).flatMap asciiChar)

mutual

/-- A JSON value on one line. -/
def compress : Json → String
  | .null => "null"
  | .bool b => if b then "true" else "false"
  | .num x => if x.isFinite then x.toText else "null"
  | .str s => quoteAscii s
  | .arr vs => "[" ++ Text.joinWith "," (compressAll vs) ++ "]"
  | .obj ms => "\x7b" ++ Text.joinWith "," (compressMembers ms) ++ "\x7d"

/-- JSON values, each on one line. -/
def compressAll : List Json → List String
  | [] => []
  | v :: vs => compress v :: compressAll vs

/-- The members of an object, each with its name. -/
def compressMembers : List (String × Json) → List String
  | [] => []
  | (k, v) :: ms => (quoteAscii k ++ ":" ++ compress v) :: compressMembers ms

end

end TypeHints.Json
