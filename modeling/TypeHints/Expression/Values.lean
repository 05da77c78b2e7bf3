import TypeHints.Expression.Classes

/-!
# Reading values

Values stand in type expressions as computed names, as initial values, in decorators and in bodies.
They are read only to know that they are well-formed; what is kept is their `Form`. The operators
between two operands are read in one run, since how they group does not show.
-/

namespace TypeHints.Expression

namespace Form

/-- Whether a value is itself a link of an optional chain, so that what follows it is one too. -/
def isLink : Form → Bool
  | .target chained => chained
  | .name | .applied _ | .other => false

end Form

namespace Reader

variable (R : Nested)

/-! ### Signs that depend on the place -/

/-- Join a closing angle bracket with the signs behind it to the operator that they form between
values. -/
def joinGreater : Reader Unit :=
  Attempt.modify fun c =>
    if c.isSign .greater then
      match Lexing.signAmong? c.rest Lexing.greaterSigns with
      | some (s, rest) => c.retoken (.sign s) rest
      | none => c
    else c

/-- Read the type arguments of a value, if what comes next can only be type arguments. -/
def valueTypeArguments? : Reader (Option Unit) :=
  attempt do
    splitLess
    sign .less
    let _ ← separated (·.startsTypeArgument) (·.isSign .greater) R.type
    joinGreater
    sign .greater
    require (← here).followsTypeArguments
    return some ()

/-- Read a regular expression from its opening slash on. -/
def pattern : Reader Unit := do
  let c ← here
  let body := if c.isSign .slash then c.rest else '=' :: c.rest
  match Lexing.pattern? body with
  | some rest =>
    Attempt.modify fun c => c.retoken .pattern rest
    pass
  | none => fail

/-- Read a template. Only a tagged one may have invalid escapes. -/
def template (tagged : Bool) : Reader Unit := do
  match (← here).lexeme with
  | .template sound =>
    require (sound || tagged)
    pass
  | .templateHead sound =>
    require (sound || tagged)
    pass
    substitutions tagged (closedList R)
  | _ => fail

/-! ### Lists -/

/-- Read an argument of a call: a value, perhaps spread. -/
def argument : Reader Unit := do
  let _ ← sign? .ellipsis
  valueOf R

/-- Read the arguments of a call in parentheses. -/
def arguments : Reader Unit := do
  sign .openParen
  let _ ← within ({ · with withoutIn := false, inDecorator := false })
    (separated (·.startsArgument) (·.isSign .closeParen) (argument R))
  sign .closeParen

/-- Read the elements of an array value. An element may be missing. -/
def arrayValue : Reader Unit := do
  sign .openBracket
  let _ ← enclosed (·.startsElement)
    (do if !(← here).isSign .comma then argument R) .closeBracket

/-- Read a property of an object value. -/
def property : Reader Unit := do
  if ← sign? .ellipsis then valueOf R
  else
    let ms ← modifiers R false false
    if ← accessorWord? then accessor R
    else
      let generator ← sign? .star
      let bindable := (← here).isIdentifier
      propertyName R
      let _ ← sign? .question
      let _ ← sign? .exclaim
      let c ← here
      if generator || c.isSignIn [.openParen, .less] then method R generator (ms.contains "async")
      else
        within ({ · with withoutIn := false }) do
          if bindable && !c.isSign .colon then
            let _ ← initial R
          else
            sign .colon
            valueOf R

/-- Read an object value. -/
def objectValue : Reader Unit := do
  sign .openBrace
  let _ ← enclosed (·.startsProperty) (property R) .closeBrace

/-! ### Functions -/

/-- Read a function value. -/
def functionValue : Reader Unit :=
  within ({ · with inDecorator := false }) do
    let async ← word? "async"
    word "function"
    let generator ← sign? .star
    if (← here).isBindable then boundName
    signature R generator async
    functionBody R generator async

/-- Read the body of an arrow function: a block or a value. -/
def arrowBody (async allowsResult : Bool) : Reader Unit := do
  let c ← here
  if c.isSign .openBrace then functionBody R false async
  else
    require !(c.isSign .at)
    within (Mode.body false async) do let _ ← R.value allowsResult

/-- Read an arrow function with its parameters in parentheses. Where it is not certain that there is
one, it is taken for one also if its arrow is missing in front of a block; then the text is not
well-formed, and no token follows. -/
def fullArrow (certain allowsResult : Bool) : Reader (Option Unit) := do
  let async ← word? "async"
  typeParameters R
  parameters R false async
  let colon := (← here).isSign .colon
  let result? ← result? R
  if !certain && (← here).isSign .openBrace && !result?.any Node.isLooseFunction then
    Attempt.modify fun c => c.retoken .unknown []
  else
    sign .arrow
    arrowBody R async allowsResult
    require (allowsResult || !colon || (← here).isSign .colon)
  return some ()

/-- Read an arrow function with its parameters in parentheses, if there is one. -/
def fullArrow? (allowsResult : Bool) : Reader (Option Unit) := do
  let c ← here
  match c.arrowOutlook with
  | .sure => fullArrow R true true
  | .hopeless => return none
  | .open =>
    if c.settled.contains c.token.start then return none
    else
      match ← attempt (fullArrow R false allowsResult) with
      | some () => return some ()
      | none =>
        Attempt.modify fun d => { d with settled := c.token.start :: d.settled }
        return none

/-- Read an asynchronous arrow function with one bare parameter, if there is one. -/
def asyncArrow? (allowsResult : Bool) : Reader (Option Unit) := do
  let c ← here
  let d := c.next
  if c.isWord "async" && !d.afterLineEnd && d.isIdentifier && d.next.isSign .arrow &&
      !d.next.afterLineEnd then
    pass
    passName
    pass
    arrowBody R true allowsResult
    return some ()
  else return none

/-! ### Values that may be assigned to or called -/

/-- Read the name of a member from behind its dot. No private name may stand in an optional chain,
and no member may follow type arguments. -/
def member (chained : Bool) (form : Form) : Reader Form := do
  require !form.isApplied
  let c ← here
  let _ ← memberName true
  require !(chained && c.isPrivateWord)
  return .target chained

/-- Read a computed member from its bracket on. -/
def computedMember (chained : Bool) : Reader Form := do
  sign .openBracket
  closedList R
  sign .closeBracket
  return .target chained

/-- Read a link of an optional chain that is a member or a template. -/
def chainLink (form : Form) : Reader Form := do
  sign .questionDot
  let c ← here
  if c.isAnyWord then member true form
  else if c.isSign .openBracket then computedMember R true
  else
    template R true
    return .target true

/-- Read one access behind a value, if there is one: a member, a template, an assertion that there
is a value, or type arguments. Where `chains` says so, an optional chain may begin. -/
def access? (chains : Bool) (form : Form) : Reader (Option Form) := do
  let c ← here
  let d := c.next
  if chains && c.isSign .questionDot && (d.isAnyWord || d.isSign .openBracket || d.isTemplate) then
    return some (← chainLink R form)
  else if ← sign? .dot then return some (← member form.isLink form)
  else if c.isSign .openBracket && !c.mode.inDecorator then
    return some (← computedMember R form.isLink)
  else if c.isTemplate then
    template R true
    return some (.target form.isChained)
  else if c.isSign .exclaim && !c.afterLineEnd then
    pass
    return some (.target form.isLink)
  else if (← valueTypeArguments? R).isSome then return some (.applied form.isLink)
  else return none

/-- Read one access or call behind a value, if there is one. -/
def callOrAccess? (form : Form) : Reader (Option Form) := do
  match ← access? R true form with
  | some next => return some next
  | none =>
    if ← sign? .questionDot then
      let _ ← valueTypeArguments? R
      if (← here).isTemplate then template R true else arguments R
      return some (.target true)
    else if (← here).isSign .openParen then
      arguments R
      return some (.target form.isChained)
    else return none

/-- Read the value that a word begins. -/
def wordValue (w : String) : Reader Form := do
  let c ← here
  if ["this", "super", "null", "true", "false"].contains w then
    pass
    return .target false
  else if w = "class" then
    classRest R []
    return .target false
  else if w = "function" || (w = "async" && c.next.isWord "function" && !c.next.afterLineEnd) then
    functionValue R
    return .target false
  else
    identifier
    return .name

/-- Read the value that a sign begins. -/
def signValue (s : Sign) : Reader Form := do
  match s with
  | .openParen =>
    pass
    closedList R
    sign .closeParen
  | .openBracket => arrayValue R
  | .openBrace => objectValue R
  | .slash | .change "/=" => pattern
  | .at => classRest R (← modifiers R false false)
  | _ => fail
  return .target false

/-- Read a value without what is accessed or called behind it, and without the word `new` before
it. -/
def bareValue : Reader Form := do
  match (← here).lexeme with
  | .word w _ => wordValue R w
  | .sign s => signValue R s
  | .string _ | .number _ | .bigint _ | .privateWord _ =>
    pass
    return .target false
  | .template _ | .templateHead _ =>
    template R false
    return .target false
  | .templateMiddle | .templateTail | .pattern | .finish | .unknown => fail

/-- Whether a new object is made here. -/
def opensNew (c : Cursor) : Bool := c.isWord "new" && !c.next.isSign .dot

/-- Read what follows the word `new`: the value that makes the object, and the arguments. -/
def newRest (form : Form) : Reader Form := do
  let _ ← repeating (access? R false) form
  require !((← here).isSign .questionDot)
  if (← here).isSign .openParen then arguments R
  return .target false

/-- Read a value without what is accessed or called behind it. -/
def headValue : Reader Form := do
  let news ← repeating (fun k => do
    if opensNew (← here) then
      pass
      return some (k + 1)
    else return none) 0
  let form ←
    if ← word? "new" then do
      sign .dot
      anyName
      pure (.target false)
    else bareValue R
  let (_, form) ← repeating (fun (k, form) => do
    match k with
    | 0 => return none
    | k + 1 => return some (k, ← newRest R form)) (news, form)
  return form

/-- Read a value that may be assigned to or called, or another one that such a value can begin
with. -/
def target : Reader Form := do
  let c ← here
  let form ←
    if c.isWord "import" then do
      require (c.next.isSignIn [.openParen, .less, .dot])
      pass
      if ← sign? .dot then anyName
      pure (.target false)
    else do
      let form ← headValue R
      if c.isWord "super" then require ((← here).isSignIn [.openParen, .dot, .openBracket])
      pure form
  repeating (callOrAccess? R) form

/-! ### Operators -/

/-- Read a value with a step before or behind it, or without one. -/
def stepped : Reader Form := do
  if ← sign? .step then
    let _ ← R.target
    return .other
  else
    let form ← target R
    if ← optional fun c => c.isSign .step && !c.afterLineEnd then return .other
    else return form

/-- Read an operand that no power may follow, with its operators in front of it. -/
def unary : Reader Form := do
  let c ← here
  if c.isSignIn [.plus, .minus, .tilde, .exclaim] || c.isWordIn operatorWords ||
      (c.isWord "await" && (c.mode.inAsync || c.next.followsOnLine)) then
    pass
    let _ ← R.unary
    return .other
  else if ← sign? .less then
    typeOf R
    sign .greater
    let _ ← R.unary
    return .other
  else stepped R

/-- Read an operand, with its operators in front of it or with powers behind it. -/
def operand : Reader Form := do
  let c ← here
  let signed := c.isSignIn [.plus, .minus, .tilde, .exclaim, .less]
  if signed || c.isWordIn ("await" :: operatorWords) then
    let form ← unary R
    require !((← here).isSign .star2)
    return form
  else
    let form ← stepped R
    repeating (fun _ => do
      if ← sign? .star2 then
        let _ ← R.operand
        return some .other
      else return none) form

/-- Read operands with operators between them. -/
def operation : Reader Form := do
  let form ← operand R
  repeating (fun _ => do
    joinGreater
    let c ← here
    if !c.isOperator then return none
    else if c.isWordIn ["as", "satisfies"] then
      if c.afterLineEnd then return none
      else
        pass
        typeOf R
        return some .other
    else
      pass
      let _ ← R.operand
      return some .other) form

/-- Read the rest of a yielded value from the word `yield` on. -/
def yielded : Reader Unit := do
  pass
  let c ← here
  if !c.afterLineEnd && (c.isSign .star || c.startsValue) then
    let _ ← sign? .star
    valueOf R

/-- Read what follows operands: an arrow and its body, an assignment, or the two branches of a
condition. -/
def afterOperation (allowsResult : Bool) (form : Form) : Reader Form := do
  let c ← here
  if form = .name && c.isSign .arrow then
    pass
    arrowBody R false allowsResult
    return .other
  else if form ≠ .other && c.isAssignment then
    pass
    let _ ← R.value allowsResult
    return .other
  else if c.isSign .question then
    pass
    within ({ · with withoutIn := false, inDecorator := false }) do let _ ← R.value false
    sign .colon
    let _ ← R.value allowsResult
    return .other
  else return form

/-- Read a value other than a list of values. -/
def value (allowsResult : Bool) : Reader Form := do
  let c ← here
  if c.isWord "yield" && (c.mode.inGenerator || c.next.followsOnLine) then
    yielded R
    return .other
  else
    match ← fullArrow? R allowsResult with
    | some () => return .other
    | none =>
      match ← asyncArrow? R allowsResult with
      | some () => return .other
      | none => afterOperation R allowsResult (← operation R)

end Reader

end TypeHints.Expression
