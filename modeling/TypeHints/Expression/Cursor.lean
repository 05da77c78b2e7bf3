import TypeHints.Attempt
import TypeHints.Expression.Lexer

/-!
# Reading at a cursor

A cursor stands at a token of a text. What it may look at is a function on cursors; what reads on is
a `Reader`, which fails where the text is not well-formed. Some words mean different things in
different surroundings, which the mode of a cursor records; `within` changes it for one reader.
`attempt` goes back to where it began when its reader fails.
-/

namespace TypeHints.Expression

/-- What the surroundings of a cursor make of words and signs. -/
structure Mode where
  /-- In the body of a generator, where `yield` is no name. -/
  inGenerator : Bool
  /-- In the body of an asynchronous function, where `await` is no name. -/
  inAsync : Bool
  /-- In a decorator, where a bracket behind a value is not part of it. -/
  inDecorator : Bool
  /-- Where `in` is no operator. -/
  withoutIn : Bool
  /-- Where a type is no conditional type. -/
  withoutChoice : Bool
  /-- Where a star at the start of a line is passed over. -/
  decorated : Bool
deriving DecidableEq, Repr

namespace Mode

/-- The mode outside of everything. -/
def plain : Mode := ⟨false, false, false, false, false, false⟩

/-- The mode in the body of a function of the given kind. -/
def body (generator async : Bool) (m : Mode) : Mode :=
  { m with inGenerator := generator, inAsync := async }

end Mode

/-- A place in a text with the token there. -/
structure Cursor where
  token : Token
  /-- Where the token stops. -/
  stop : Nat
  /-- The text behind the token. -/
  rest : List Char
  mode : Mode
  /-- Whether a reference with an empty list of type arguments has been read. -/
  hollow : Bool
  /-- The places of parentheses that are known not to begin an arrow function. -/
  settled : List Nat

namespace Cursor

/-- The cursor at the token behind a place. -/
def seek (c : Cursor) (place : Nat) (cs : List Char) : Cursor :=
  let (token, rest) := Lexing.token c.mode.decorated place cs
  let size := cs.length - rest.length
  { c with token := token, stop := place + size, rest := rest }

/-- The cursor at the first token of a text. -/
def ofText (cs : List Char) : Cursor :=
  seek ⟨⟨.finish, 0, 0, 0, false⟩, 0, cs, .plain, false, []⟩ 0 cs

/-- The cursor at the next token. -/
def next (c : Cursor) : Cursor := c.seek c.stop c.rest

/-- The cursor with another token in place of the current one, which ends at another place. -/
def retoken (c : Cursor) (lexeme : Lexeme) (rest : List Char) : Cursor :=
  { c with
    token := { c.token with lexeme := lexeme }
    stop := c.stop + c.rest.length - rest.length
    rest := rest }

/-! ### Looking at the token -/

/-- What the token is. -/
def lexeme (c : Cursor) : Lexeme := c.token.lexeme

/-- Whether a line ends before the token. -/
def afterLineEnd (c : Cursor) : Bool := c.token.afterLineEnd

/-- Whether the token is a given sign. -/
def isSign (c : Cursor) (s : Sign) : Bool := c.lexeme = .sign s

/-- Whether the token is one of some signs. -/
def isSignIn (c : Cursor) (ss : List Sign) : Bool :=
  match c.lexeme with
  | .sign s => ss.contains s
  | _ => false

/-- The word that the token is. -/
def word? (c : Cursor) : Option String :=
  match c.lexeme with
  | .word w _ => some w
  | _ => none

/-- Whether the token is a given word, however it is spelled. -/
def isWord (c : Cursor) (w : String) : Bool := c.word? = some w

/-- Whether the token is one of some words. -/
def isWordIn (c : Cursor) (ws : List String) : Bool := c.word?.any ws.contains

/-- Whether the token is a word of any kind: an identifier, a keyword or a private word. -/
def isAnyWord (c : Cursor) : Bool :=
  match c.lexeme with
  | .word _ _ | .privateWord _ => true
  | _ => false

/-- Whether the token is a private word. -/
def isPrivateWord (c : Cursor) : Bool :=
  match c.lexeme with
  | .privateWord _ => true
  | _ => false

/-- Whether the token is a text in quotes. -/
def isString (c : Cursor) : Bool :=
  match c.lexeme with
  | .string _ => true
  | _ => false

/-- Whether the token is a number or a big integer. -/
def isNumber (c : Cursor) : Bool :=
  match c.lexeme with
  | .number _ | .bigint _ => true
  | _ => false

/-- Whether the token is a template or the beginning of one. -/
def isTemplate (c : Cursor) : Bool :=
  match c.lexeme with
  | .template _ | .templateHead _ => true
  | _ => false

/-- Whether the token is a keyword that is spelled with escapes. -/
def isEscapedKeyword (c : Cursor) : Bool :=
  match c.lexeme with
  | .word w escaped => escaped && isKeyword w
  | _ => false

/-- Whether the token may be bound as a name. -/
def isBindable (c : Cursor) : Bool := c.word?.any fun w => !reservedWords.contains w

/-- Whether the token is an identifier here. -/
def isIdentifier (c : Cursor) : Bool :=
  c.isBindable && !(c.isWord "yield" && c.mode.inGenerator) && !(c.isWord "await" && c.mode.inAsync)

/-- Whether the token is a word that may modify a declaration. -/
def isModifier (c : Cursor) : Bool := c.isWordIn modifierWords

/-- Whether the token is a name that a member can have without brackets. -/
def isPropertyWord (c : Cursor) : Bool := c.isAnyWord || c.isString || c.isNumber

/-- Whether something that a semicolon ends may end before the token. -/
def endsStatement (c : Cursor) : Bool :=
  c.isSign .semicolon || c.isSign .closeBrace || c.lexeme = .finish || c.afterLineEnd

end Cursor

/-! ### Readers -/

/-- A reader of a part of the text. -/
abbrev Reader (α : Type) : Type := Attempt Cursor Unit α

namespace Reader

variable {α σ : Type}

/-- Fail: the text is not well-formed. -/
def fail : Reader α := Attempt.fail ()

/-- The cursor. -/
def here : Reader Cursor := Attempt.get

/-- Go on only if a condition holds. -/
def require (b : Bool) : Reader Unit := if b then pure () else fail

/-- Pass over a token that serves as a name, however it is spelled. -/
def passName : Reader Unit := do
  require ((← here).lexeme ≠ .unknown)
  Attempt.modify Cursor.next

/-- Pass over a token. A keyword cannot be spelled with escapes. -/
def pass : Reader Unit := do
  require (!(← here).isEscapedKeyword)
  passName

/-- Pass over a token that meets a condition. -/
def expect (p : Cursor → Bool) : Reader Unit := do
  require (p (← here))
  pass

/-- Pass over a token if it meets a condition; whether it did. -/
def optional (p : Cursor → Bool) : Reader Bool := do
  if p (← here) then
    pass
    return true
  else return false

/-- Read a sign. -/
def sign (s : Sign) : Reader Unit := expect (·.isSign s)

/-- Read a sign if it comes next; whether it did. -/
def sign? (s : Sign) : Reader Bool := optional (·.isSign s)

/-- Read a keyword. -/
def word (w : String) : Reader Unit := expect (·.isWord w)

/-- Read a keyword if it comes next; whether it did. -/
def word? (w : String) : Reader Bool := optional (·.isWord w)

/-- Run a reader in another mode. -/
def within (f : Mode → Mode) (r : Reader α) : Reader α := do
  let mode := (← here).mode
  Attempt.modify fun c => { c with mode := f c.mode }
  let x ← r
  Attempt.modify fun c => { c with mode := mode }
  return x

/-- Run a reader that may decline. If it fails or declines, the cursor goes back to where it was;
only what has been settled remains. -/
def attempt (r : Reader (Option α)) : Reader (Option α) := fun c =>
  match r c with
  | (.ok (some x), d) => (.ok (some x), d)
  | (_, d) => (.ok none, { c with settled := d.settled })

/-- Repeat a reader on a state until it declines. The number bounds the steps. -/
def repeatFrom (step : σ → Reader (Option σ)) : Nat → σ → Reader σ
  | 0, _ => fail
  | n + 1, s => do
    match ← step s with
    | some t => repeatFrom step n t
    | none => return s

/-- Repeat a reader on a state until it declines; each time it has to read something. -/
def repeating (step : σ → Reader (Option σ)) (s : σ) : Reader σ := do
  repeatFrom step ((← here).rest.length + 2) s

/-- Items with commas between them, and perhaps one behind the last, up to an end. The number bounds
the steps. -/
def separatedFrom (starts ends : Cursor → Bool) (item : Reader α) : Nat → Reader (List α)
  | 0 => fail
  | n + 1 => do
    if starts (← here) then
      let x ← item
      if ← sign? .comma then return x :: (← separatedFrom starts ends item n)
      else
        require (ends (← here))
        return [x]
    else
      require (ends (← here))
      return []

/-- Items with commas between them, and perhaps one behind the last, up to an end. -/
def separated (starts ends : Cursor → Bool) (item : Reader α) : Reader (List α) := do
  separatedFrom starts ends item ((← here).rest.length + 2)

/-- Items with commas between them up to a closing sign, which is read too. -/
def enclosed (starts : Cursor → Bool) (item : Reader α) (close : Sign) : Reader (List α) := do
  let xs ← separated starts (·.isSign close) item
  sign close
  return xs

/-- Items one after another, up to an end. -/
def sequence (starts ends : Cursor → Bool) (item : Reader Unit) : Reader Unit :=
  repeating (fun _ => do
    let c ← here
    if ends c then return none
    else
      require (starts c)
      item
      return some ()) ()

/-- Read the end of a statement or of a declaration: a semicolon, or nothing where one may be left
out. -/
def endStatement : Reader Unit := do
  let c ← here
  require c.endsStatement
  if c.isSign .semicolon then pass

/-- Where the last token that was read stops. -/
def stopped : Reader Nat := do return (← here).token.prior

end Reader

end TypeHints.Expression
