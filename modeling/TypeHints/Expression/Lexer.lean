import TypeHints.Expression.Token
import TypeHints.Text.Blank
import TypeHints.Text.Identifier
import TypeHints.Text.Units

/-!
# Cutting a type expression into tokens

`token` cuts the next token from the front of a text, as long as possible. Blanks and comments
separate tokens. A closing angle bracket is always a token on its own, since brackets nest; what
else depends on the place, the body of a regular expression and the parts of a template behind a
substitution, is cut on demand.
-/

namespace TypeHints.Expression.Lexing

open TypeHints.Text

/-- The characters left over after some were read. -/
abbrev Rest := List Char

/-! ### Blanks and comments -/

/-- A blank within a line. -/
def isGap (c : Char) : Bool :=
  isSpaceSeparator c || c = '\t' || c = '\x0b' || c = '\x0c' || c = '\u0085' || c = '\u200b' ||
    c = '\ufeff'

/-- What lies between two tokens. -/
structure Gap where
  /-- The text behind it. -/
  rest : Rest
  /-- How many characters it has. -/
  size : Nat
  /-- How many characters it has before its first comment, if it has one. -/
  remark? : Option Nat
  /-- Whether a line ends in it. -/
  lineEnd : Bool
  /-- Whether a line ends at its very end. -/
  atLineStart : Bool
  /-- Whether every comment in it ends. -/
  closed : Bool

/-- Where in a gap the reader is. -/
inductive GapPart where
  | blank | lineComment | blockComment

/-- The gap at the front of a text, given the part of it before the text. Where `decorated` says so,
one star behind the end of a line belongs to the gap. -/
def gapFrom : Bool → GapPart → Gap → List Char → Gap
  | _, .blockComment, g, [] => { g with rest := [], closed := false }
  | _, _, g, [] => { g with rest := [] }
  | decorated, .blank, g, '/' :: '/' :: cs =>
    gapFrom decorated .lineComment
      { g with size := g.size + 2, remark? := g.remark?.or (some g.size), atLineStart := false } cs
  | decorated, .blank, g, '/' :: '*' :: cs =>
    gapFrom decorated .blockComment
      { g with size := g.size + 2, remark? := g.remark?.or (some g.size), atLineStart := false } cs
  | decorated, .blockComment, g, '*' :: '/' :: cs =>
    gapFrom decorated .blank { g with size := g.size + 2 } cs
  | decorated, .blockComment, g, c :: cs =>
    gapFrom decorated .blockComment
      { g with size := g.size + 1, lineEnd := g.lineEnd || isLineEnd c } cs
  | decorated, part, g, c :: cs =>
    if isLineEnd c then
      gapFrom decorated .blank
        { g with size := g.size + 1, lineEnd := true, atLineStart := true } cs
    else
      match part with
      | .lineComment => gapFrom decorated .lineComment { g with size := g.size + 1 } cs
      | _ =>
        if isGap c then
          gapFrom decorated .blank { g with size := g.size + 1, atLineStart := false } cs
        else if decorated && g.lineEnd && c = '*' &&
            !(cs.head?.any fun d => d = '*' || d = '=') then
          gapFrom false .blank { g with size := g.size + 1, atLineStart := false } cs
        else { g with rest := c :: cs }

/-- The gap at the front of a text. -/
def gap (decorated : Bool) (cs : List Char) : Gap :=
  gapFrom decorated .blank ⟨cs, 0, none, false, false, true⟩ cs

/-- Whether a line that begins with these characters is a mark that a merge of texts has left. -/
def isMergeMark : List Char → Bool
  | [] => false
  | c :: cs =>
    (c = '<' || c = '|' || c = '=' || c = '>') && cs.take 6 = List.replicate 6 c &&
      match cs.drop 6 with
      | [] => false
      | d :: _ => c = '=' || d = ' '

/-! ### Words -/

/-- A character that may begin a word. -/
def isWordStart (c : Char) : Bool :=
  if c.toNat < 128 then isIdStart c else inRanges idStartRanges c.toNat

/-- A character that may continue a word. -/
def isWordPart (c : Char) : Bool :=
  if c.toNat < 128 then isIdContinue c else inRanges idContinueRanges c.toNat || isJoiner c

/-- The hexadecimal digits at the front. -/
def hexRun (cs : List Char) : List Char × Rest :=
  (cs.takeWhile fun c => (digitValue? 16 c).isSome, cs.dropWhile fun c => (digitValue? 16 c).isSome)

/-- The code point of a Unicode escape from behind its `\u`: four digits, or digits in braces up to
U+10FFFF. -/
def codePoint? : List Char → Option (Nat × Rest)
  | [] => none
  | c :: cs =>
    if c = '\x7b' then
      match hexRun cs with
      | (ds, d :: rest) =>
        if d = '\x7d' ∧ ds ≠ [] ∧ ofDigits 16 ds ≤ 0x10FFFF then some (ofDigits 16 ds, rest)
        else none
      | (_, []) => none
    else
      let ds := (c :: cs).take 4
      if ds.length = 4 ∧ ds.all fun d => (digitValue? 16 d).isSome then
        some (ofDigits 16 ds, (c :: cs).drop 4)
      else none

/-- The characters of a word, whether any was escaped, and the rest. `first` says that the next
character is the first. -/
def wordRun : Nat → Bool → List Char → List Char × Bool × Rest
  | 0, _, cs => ([], false, cs)
  | _ + 1, _, [] => ([], false, [])
  | n + 1, first, '\\' :: 'u' :: cs =>
    match codePoint? cs with
    | some (p, rest) =>
      let c := Char.ofNat p
      if c.toNat = p && (if first then isWordStart c else isWordPart c) then
        let r := wordRun n false rest
        (c :: r.1, true, r.2.2)
      else ([], false, '\\' :: 'u' :: cs)
    | none => ([], false, '\\' :: 'u' :: cs)
  | n + 1, first, c :: cs =>
    if (if first then isWordStart c else isWordPart c) then
      let r := wordRun n false cs
      (c :: r.1, r.2.1, r.2.2)
    else ([], false, c :: cs)

/-- A word at the front. -/
def word? (cs : List Char) : Option (Lexeme × Rest) :=
  match wordRun cs.length true cs with
  | ([], _, _) => none
  | (w, escaped, rest) => some (.word (String.ofList w) escaped, rest)

/-! ### Numbers -/

/-- Digits in a base with single separators between them. `separable` says that the character before
is a digit. -/
def fragment? (base : Nat) : Bool → List Char → Option (List Char × Rest)
  | _, [] => some ([], [])
  | separable, c :: cs =>
    if c = '_' then
      match cs with
      | d :: _ =>
        if separable ∧ (digitValue? base d).isSome then fragment? base false cs else none
      | [] => none
    else if (digitValue? base c).isSome then do
      let (ds, rest) ← fragment? base true cs
      some (c :: ds, rest)
    else some ([], c :: cs)

/-- Whether the text does not go on with a word. -/
def noWordFollows : List Char → Bool
  | [] => true
  | c :: _ => !isWordStart c

/-- An integer in a base from behind its mark, with the suffix of big integers if there is one. -/
def radixNumber? (base : Nat) (cs : List Char) : Option (Lexeme × Rest) := do
  let (ds, rest) ← fragment? base false cs
  if ds = [] then none
  else
    match rest with
    | 'n' :: rest => some (.bigint (ofDigits base ds), rest)
    | rest => some (.number (Binary64.ofDecimal false (ofDigits base ds) 0), rest)

/-- The digits of an exponent with its sign. -/
def exponent? (cs : List Char) : Option (Int × Rest) :=
  let signed : Bool × Rest := match cs with
    | '+' :: r => (false, r)
    | '-' :: r => (true, r)
    | r => (false, r)
  match fragment? 10 false signed.2 with
  | some (d :: ds, rest) =>
    some (if signed.1 then -(ofDigits 10 (d :: ds) : Int) else ofDigits 10 (d :: ds), rest)
  | _ => none

/-- What follows the whole part of a decimal number. -/
def afterWhole? (whole : List Char) (cs : List Char) : Option (Lexeme × Rest) := do
  let (part, fractional, cs) ← (match cs with
    | '.' :: r => (fragment? 10 false r).map fun p => (p.1, true, p.2)
    | r => some ([], false, r))
  let (e, scientific, cs) ← (match cs with
    | 'e' :: r => (exponent? r).map fun p => (p.1, true, p.2)
    | 'E' :: r => (exponent? r).map fun p => (p.1, true, p.2)
    | r => some (0, false, r))
  let value := Binary64.ofDecimal false (ofDigits 10 (whole ++ part)) (e - part.length)
  match fractional || scientific, cs with
  | false, 'n' :: rest =>
    if noWordFollows rest then some (.bigint (ofDigits 10 whole), rest) else none
  | _, rest => if noWordFollows rest then some (.number value, rest) else none

/-- A number at the front, which begins with a digit or with a point before a digit. A decimal
number has no leading zeros. -/
def number? : List Char → Option (Lexeme × Rest)
  | '0' :: 'x' :: cs => radixNumber? 16 cs
  | '0' :: 'X' :: cs => radixNumber? 16 cs
  | '0' :: 'b' :: cs => radixNumber? 2 cs
  | '0' :: 'B' :: cs => radixNumber? 2 cs
  | '0' :: 'o' :: cs => radixNumber? 8 cs
  | '0' :: 'O' :: cs => radixNumber? 8 cs
  | '0' :: c :: cs => if isDigit c || c = '_' then none else afterWhole? ['0'] (c :: cs)
  | cs => do
    let (ds, rest) ← fragment? 10 false cs
    afterWhole? ds rest

/-! ### Strings and templates -/

/-- The units that an escape stands for, from behind its backslash. -/
def escape? : List Char → Option (List Nat × Rest)
  | [] => none
  | c :: cs =>
    if c = '0' then
      match cs with
      | d :: _ => if isDigit d then none else some ([0], cs)
      | [] => some ([0], cs)
    else if isDigit c then none
    else if c = 'b' then some ([8], cs)
    else if c = 't' then some ([9], cs)
    else if c = 'n' then some ([10], cs)
    else if c = 'v' then some ([11], cs)
    else if c = 'f' then some ([12], cs)
    else if c = 'r' then some ([13], cs)
    else if c = 'u' then (codePoint? cs).map fun r => (unitsOfCodePoint r.1, r.2)
    else if c = 'x' then
      let ds := cs.take 2
      if ds.length = 2 ∧ ds.all fun d => (digitValue? 16 d).isSome then
        some ([ofDigits 16 ds], cs.drop 2)
      else none
    else if c = '\r' then
      match cs with
      | '\n' :: rest => some ([], rest)
      | rest => some ([], rest)
    else if isLineEnd c then some ([], cs)
    else some (unitsOfChar c, cs)

/-- The units of a string up to its closing quote, and the rest. The number bounds the steps. -/
def stringBody? (mark : Char) : Nat → List Char → Option (List Nat × Rest)
  | 0, _ => none
  | _ + 1, [] => none
  | n + 1, c :: cs =>
    if c = mark then some ([], cs)
    else if c = '\n' ∨ c = '\r' then none
    else if c = '\\' then do
      let (ps, rest) ← escape? cs
      let (qs, rest) ← stringBody? mark n rest
      some (ps ++ qs, rest)
    else do
      let (qs, rest) ← stringBody? mark n cs
      some (unitsOfChar c ++ qs, rest)

/-- A string from behind its opening quote. -/
def string? (mark : Char) (cs : List Char) : Option (Lexeme × Rest) :=
  (stringBody? mark (cs.length + 1) cs).map fun r => (.string (String.ofList (ofUnits r.1)), r.2)

/-- The part of a template up to its end or to a substitution: whether it ended, whether all escapes
in it are valid, and the rest. The number bounds the steps. -/
def templatePart? : Nat → List Char → Option (Bool × Bool × Rest)
  | 0, _ => none
  | _ + 1, [] => none
  | n + 1, c :: cs =>
    if c = '\x60' then some (true, true, cs)
    else if c = '\\' then
      match escape? cs, cs with
      | some (_, rest), _ => templatePart? n rest
      | none, _ :: rest => do
        let (ended, _, rest) ← templatePart? n rest
        some (ended, false, rest)
      | none, [] => none
    else
      match c, cs with
      | '$', d :: rest => if d = '\x7b' then some (false, true, rest) else templatePart? n cs
      | _, _ => templatePart? n cs

/-- A template from behind its opening mark: whole, or up to its first substitution. -/
def template? (cs : List Char) : Option (Lexeme × Rest) :=
  (templatePart? (cs.length + 1) cs).map fun
    | (true, sound, rest) => (.template sound, rest)
    | (false, sound, rest) => (.templateHead sound, rest)

/-- A template from behind a substitution, up to the next one or to the end. Where `tagged` says so,
invalid escapes are allowed. -/
def templateRest? (tagged : Bool) (cs : List Char) : Option (Lexeme × Rest) :=
  match templatePart? (cs.length + 1) cs with
  | some (ended, sound, rest) =>
    if sound || tagged then some (if ended then .templateTail else .templateMiddle, rest) else none
  | none => none

/-! ### Regular expressions -/

/-- The text behind the body of a regular expression and its closing slash. A slash in brackets or
behind a backslash does not close it, and it cannot go beyond its line. -/
def patternBody? : (inBrackets escaped : Bool) → List Char → Option Rest
  | _, _, [] => none
  | inBrackets, escaped, c :: cs =>
    if isLineEnd c then none
    else if escaped then patternBody? inBrackets false cs
    else if c = '\\' then patternBody? inBrackets true cs
    else if c = '[' then patternBody? true false cs
    else if c = ']' then patternBody? false false cs
    else if c = '/' ∧ !inBrackets then some cs
    else patternBody? inBrackets false cs

/-- The text behind a regular expression and its flags, from behind its opening slash. -/
def pattern? (cs : List Char) : Option Rest :=
  (patternBody? false false cs).map (·.dropWhile isWordPart)

/-! ### Signs -/

/-- The signs by their texts, longer ones first. -/
def signs : List (String × Sign) :=
  [("===", .binary "==="), ("!==", .binary "!=="), ("**=", .change "**="), ("&&=", .change "&&="),
   ("||=", .change "||="), ("??=", .change "??="), ("<<=", .change "<<="), ("...", .ellipsis),
   ("==", .binary "=="), ("!=", .binary "!="), ("=>", .arrow), ("**", .star2), ("*=", .change "*="),
   ("&&", .binary "&&"), ("&=", .change "&="), ("||", .binary "||"), ("|=", .change "|="),
   ("??", .question2), ("++", .step), ("+=", .change "+="), ("--", .step), ("-=", .change "-="),
   ("/=", .change "/="), ("%=", .change "%="), ("^=", .change "^="), ("<<", .less2),
   ("<=", .binary "<="), ("(", .openParen), (")", .closeParen), ("[", .openBracket),
   ("]", .closeBracket), ("\x7b", .openBrace), ("\x7d", .closeBrace), ("<", .less), (">", .greater),
   (",", .comma), (".", .dot), ("?", .question), (":", .colon), (";", .semicolon), ("|", .bar),
   ("&", .ampersand), ("=", .equals), ("+", .plus), ("-", .minus), ("*", .star), ("/", .slash),
   ("!", .exclaim), ("~", .tilde), ("@", .at), ("%", .binary "%"), ("^", .binary "^")]

/-- The first of the signs that the text begins with, and the rest. -/
def signAmong? (cs : List Char) : List (String × Sign) → Option (Sign × Rest)
  | [] => none
  | (text, s) :: ss =>
    match dropLead? text.toList cs with
    | some rest => some (s, rest)
    | none => signAmong? cs ss

/-- A sign at the front. A question mark and a dot are two signs if a digit follows. -/
def sign? (cs : List Char) : Option (Sign × Rest) :=
  match cs with
  | '?' :: '.' :: rest =>
    if rest.head?.any isDigit then some (.question, '.' :: rest) else some (.questionDot, rest)
  | cs => signAmong? cs signs

/-- The signs that closing angle brackets form with what follows the first of them where a value is
read, longer ones first. -/
def greaterSigns : List (String × Sign) :=
  [(">>=", .change ">>>="), (">>", .binary ">>>"), (">=", .change ">>="), (">", .binary ">>"),
   ("=", .binary ">=")]

/-! ### The next token -/

/-- The token at the front of a text that does not begin with a gap. -/
def lexeme? : List Char → Option (Lexeme × Rest)
  | [] => some (.finish, [])
  | c :: cs =>
    if c = '\x22' ∨ c = '\x27' then string? c cs
    else if c = '\x60' then template? cs
    else if isDigit c then number? (c :: cs)
    else if c = '.' ∧ (cs.head?.any isDigit) then number? (c :: cs)
    else if c = '#' then
      match word? cs with
      | some (.word w _, rest) => some (.privateWord ("#" ++ w), rest)
      | _ => none
    else if c = '\\' ∨ isWordStart c then word? (c :: cs)
    else (sign? (c :: cs)).map fun r => (.sign r.1, r.2)

/-- The next token of a text from the place `place` on, and the rest. Where there is none, the rest
is of no use. -/
def token (decorated : Bool) (place : Nat) (cs : List Char) : Token × Rest :=
  let g := gap decorated cs
  let start := place + g.size
  let (lexeme, rest) :=
    if !g.closed || (g.atLineStart && isMergeMark g.rest) then (.unknown, [])
    else (lexeme? g.rest).getD (.unknown, [])
  (⟨lexeme, place, (g.remark?.map (place + ·)).getD start, start, g.lineEnd⟩, rest)

end TypeHints.Expression.Lexing
