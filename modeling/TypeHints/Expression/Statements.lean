import TypeHints.Expression.Declarations

/-!
# Reading statements

The statements of a body, which are read only to know that they are well-formed.
-/

namespace TypeHints.Expression.Reader

variable (R : Nested)

/-! ### Parts of statements -/

/-- Read values in parentheses. -/
def condition : Reader Unit := do
  sign .openParen
  closedList R
  sign .closeParen

/-- Read values, unless the statement ends here. -/
def resultValue? : Reader Unit := do if !(← here).endsStatement then closedList R

/-- Read a label, unless the statement ends here. -/
def labelName? : Reader Unit := do if !(← here).endsStatement then identifier

/-! ### Loops -/

/-- Whether the head of a loop declares resources here. The word `of` is the name of one only if its
declaration goes on. -/
def opensHeadUsing (c : Cursor) : Bool :=
  c.isWord "using" &&
    if c.next.isWord "of" then c.next.next.isSignIn [.equals, .semicolon, .colon]
    else c.next.followsUsing

/-- Read what the head of a loop begins with. -/
def loopStart : Reader Unit := do
  let c ← here
  if !c.isSign .semicolon then
    if c.isWordIn ["var", "let", "const"] || opensHeadUsing c || c.startsAwaitUsing then
      declarators R true
    else
      within ({ · with withoutIn := true }) do let _ ← valueList R

/-- Read a loop from the word `for` on. -/
def forLoop : Reader Unit := do
  word "for"
  let awaited ← word? "await"
  sign .openParen
  loopStart R
  if awaited || (← here).isWord "of" then
    word "of"
    within ({ · with withoutIn := false }) (valueOf R)
  else if ← word? "in" then closedList R
  else
    sign .semicolon
    if !(← here).isSignIn [.semicolon, .closeParen] then closedList R
    sign .semicolon
    if !(← here).isSign .closeParen then closedList R
  sign .closeParen
  R.statement

/-- Read a loop from the word `do` on. -/
def doLoop : Reader Unit := do
  word "do"
  R.statement
  word "while"
  condition R
  let _ ← sign? .semicolon

/-! ### Branches -/

/-- Read the choice between two statements from the word `if` on. -/
def branch : Reader Unit := do
  word "if"
  condition R
  R.statement
  if ← word? "else" then R.statement

/-- Read a case of a switch. -/
def switchCase : Reader Unit := do
  if ← word? "case" then closedList R else word "default"
  sign .colon
  sequence (·.startsStatement) (fun c => c.isSign .closeBrace || c.isWordIn ["case", "default"])
    R.statement

/-- Read a switch. -/
def switch : Reader Unit := do
  word "switch"
  condition R
  sign .openBrace
  sequence (·.isWordIn ["case", "default"]) (·.isSign .closeBrace) (switchCase R)
  sign .closeBrace

/-- Read a block with what catches its failures and with what is done in the end. One of the two has
to be there. -/
def guarded : Reader Unit := do
  word "try"
  block R
  let caught ← word? "catch"
  if caught then
    if ← sign? .openParen then
      declarator R false
      sign .closeParen
    block R
  if !caught || (← here).isWord "finally" then
    word "finally"
    block R

/-! ### Statements of any kind -/

/-- Read values as a statement, or a name as the label of a statement. -/
def valueStatement : Reader Unit := do
  let form ← within ({ · with withoutIn := false }) (valueList R)
  if form = .name && (← here).isSign .colon then
    pass
    R.statement
  else endStatement

/-- The words that begin a declaration if what follows them goes on with one. -/
def declarationWords : List String :=
  ["async", "interface", "type", "module", "namespace", "declare", "const", "enum", "export",
   "import", "private", "protected", "public", "abstract", "accessor", "static", "readonly",
   "global"]

/-- Read a statement that begins with a word. -/
def wordStatement (w : String) : Reader Unit := do
  let c ← here
  match w with
  | "function" => functionDeclaration R []
  | "class" => classRest R []
  | "if" => branch R
  | "do" => doLoop R
  | "while" =>
    pass
    condition R
    R.statement
  | "for" => forLoop R
  | "continue" | "break" =>
    pass
    labelName?
    endStatement
  | "return" =>
    pass
    resultValue? R
    endStatement
  | "with" =>
    pass
    condition R
    R.statement
  | "switch" => switch R
  | "throw" =>
    pass
    require !((← here).afterLineEnd)
    closedList R
    endStatement
  | "try" => guarded R
  | "debugger" =>
    pass
    endStatement
  | _ =>
    if w = "var" || c.startsLet || c.startsUsing || c.startsAwaitUsing then
      declarators R false
      endStatement
    else if declarationWords.contains w && c.startsDeclaration then declaration R
    else valueStatement R

/-- Read a statement. -/
def statement : Reader Unit := do
  let c ← here
  match c.lexeme with
  | .word w _ => wordStatement R w
  | .sign .semicolon => pass
  | .sign .openBrace => block R
  | .sign .at => declaration R
  | _ => valueStatement R

end TypeHints.Expression.Reader
