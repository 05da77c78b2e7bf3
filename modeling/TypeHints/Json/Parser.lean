import TypeHints.Json
import TypeHints.Text.Units

/-!
# Reading JSON texts

`Json.parse?` reads a text that is exactly one JSON value between blanks. Reading goes by recursive
descent with a bound on the steps that the length of the text supplies.
-/

namespace TypeHints.Json

/-- The blanks between tokens. -/
def isGap (c : Char) : Bool := c = ' ' || c = '\t' || c = '\n' || c = '\r'

/-- The text without leading blanks. -/
def skipGap (cs : List Char) : List Char := cs.dropWhile isGap

/-- Four hexadecimal digits, and the rest. -/
def hex4? : List Char → Option (Nat × List Char)
  | a :: b :: c :: d :: rest => do
    let x ← digitValue? 16 a
    let y ← digitValue? 16 b
    let z ← digitValue? 16 c
    let w ← digitValue? 16 d
    some (((x * 16 + y) * 16 + z) * 16 + w, rest)
  | _ => none

/-- The units of the characters of a string up to its closing quote, and the rest. -/
def stringBody? : Nat → List Char → Option (List Nat × List Char)
  | 0, _ => none
  | _ + 1, [] => none
  | n + 1, c :: cs =>
    if c = '\x22' then some ([], cs)
    else if c.toNat < 32 then none
    else if c = '\\' then
      match cs with
      | [] => none
      | e :: rest =>
        let plain (x : Char) := (stringBody? n rest).map fun r => (x.toNat :: r.1, r.2)
        if e = '\x22' then plain '\x22'
        else if e = '\\' then plain '\\'
        else if e = '/' then plain '/'
        else if e = 'b' then plain '\x08'
        else if e = 'f' then plain '\x0c'
        else if e = 'n' then plain '\n'
        else if e = 'r' then plain '\r'
        else if e = 't' then plain '\t'
        else if e = 'u' then
          match hex4? rest with
          | none => none
          | some (u, rest') => (stringBody? n rest').map fun r => (u :: r.1, r.2)
        else none
    else (stringBody? n cs).map fun r => (Text.unitsOfChar c ++ r.1, r.2)

/-- A string from behind its opening quote, and the rest. -/
def string? (cs : List Char) : Option (String × List Char) :=
  (stringBody? (cs.length + 1) cs).map fun r => (String.ofList (Text.ofUnits r.1), r.2)

/-- The whole part of a number: zero alone, or digits that do not begin with zero. -/
def whole? (cs : List Char) : Option (List Char × List Char) :=
  match Binary64.digitRun cs with
  | ([], _) => none
  | (['0'], rest) => some (['0'], rest)
  | ('0' :: _ :: _, _) => none
  | (ds, rest) => some (ds, rest)

/-- The digits behind the point, if there is a point. -/
def part? : List Char → Option (List Char × List Char)
  | '.' :: cs =>
    match Binary64.digitRun cs with
    | ([], _) => none
    | r => some r
  | cs => some ([], cs)

/-- The digits of an exponent behind its sign. -/
def exponentDigits? (negative : Bool) (cs : List Char) : Option (Int × List Char) :=
  match Binary64.digitRun cs with
  | ([], _) => none
  | (ds, rest) => some (if negative then -(ofDigits 10 ds : Int) else ofDigits 10 ds, rest)

/-- The exponent, if there is one. -/
def power? : List Char → Option (Int × List Char)
  | [] => some (0, [])
  | c :: cs =>
    if c = 'e' ∨ c = 'E' then
      match cs with
      | '-' :: r => exponentDigits? true r
      | '+' :: r => exponentDigits? false r
      | r => exponentDigits? false r
    else some (0, c :: cs)

/-- A number from behind its sign, and the rest. -/
def number? (negative : Bool) (cs : List Char) : Option (Json × List Char) := do
  let (ds, cs) ← whole? cs
  let (fs, cs) ← part? cs
  let (e, cs) ← power? cs
  some (.num (Binary64.ofDecimal negative (ofDigits 10 (ds ++ fs)) (e - fs.length)), cs)

/-- Drop an expected character. -/
def expect? (c : Char) : List Char → Option (List Char)
  | [] => none
  | d :: cs => if d = c then some cs else none

mutual

/-- A value at the front of a text, and the rest. -/
def value? : Nat → List Char → Option (Json × List Char)
  | 0, _ => none
  | n + 1, cs =>
    match skipGap cs with
    | 'n' :: 'u' :: 'l' :: 'l' :: rest => some (.null, rest)
    | 't' :: 'r' :: 'u' :: 'e' :: rest => some (.bool true, rest)
    | 'f' :: 'a' :: 'l' :: 's' :: 'e' :: rest => some (.bool false, rest)
    | '-' :: rest => number? true rest
    | '[' :: rest =>
      match skipGap rest with
      | ']' :: rest => some (.arr [], rest)
      | rest => (elements? n rest).map fun r => (.arr r.1, r.2)
    | c :: rest =>
      if c = '\x22' then (string? rest).map fun r => (.str r.1, r.2)
      else if c = '\x7b' then
        match expect? '\x7d' (skipGap rest) with
        | some rest => some (.obj [], rest)
        | none => (members? n rest).map fun r => (.obj (Members.ordered r.1), r.2)
      else number? false (c :: rest)
    | [] => none

/-- The elements of an array up to its end, and the rest. -/
def elements? : Nat → List Char → Option (List Json × List Char)
  | 0, _ => none
  | n + 1, cs => do
    let (v, cs) ← value? n cs
    match skipGap cs with
    | ']' :: rest => some ([v], rest)
    | ',' :: rest =>
      let (vs, rest) ← elements? n rest
      some (v :: vs, rest)
    | _ => none

/-- The members of an object up to its end, and the rest. -/
def members? : Nat → List Char → Option (List (String × Json) × List Char)
  | 0, _ => none
  | n + 1, cs => do
    let cs ← expect? '\x22' (skipGap cs)
    let (k, cs) ← string? cs
    let cs ← expect? ':' (skipGap cs)
    let (v, cs) ← value? n cs
    match skipGap cs with
    | ',' :: rest =>
      let (ms, rest) ← members? n rest
      some ((k, v) :: ms, rest)
    | cs =>
      let rest ← expect? '\x7d' cs
      some ([(k, v)], rest)

end

/-- The value that a text spells, if it spells one. -/
def parse? (text : String) : Option Json :=
  let cs := text.toList
  match value? (2 * cs.length + 2) cs with
  | some (v, rest) => if (skipGap rest).isEmpty then some v else none
  | none => none

end TypeHints.Json
