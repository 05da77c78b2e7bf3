import TypeHints.Expression.Binding

/-!
# Signatures and bodies

What functions and methods declare: decorators and modifiers, type parameters, parameters, the type
of the result, and a body.
-/

namespace TypeHints.Expression.Reader

variable (R : Nested)

/-! ### Modifiers -/

/-- Read a run of decorators. -/
def decorators : List String → Reader (List String) :=
  repeating fun ms => do
    if ← sign? .at then
      let _ ← within ({ · with inDecorator := true }) R.target
      return some ("@" :: ms)
    else return none

/-- Whether the word here is a modifier, behind the given ones. Where `constant` says so, `const` is
one like others; where `blocks` says so, `static` is none in front of a brace. -/
def modifiesAfter (constant blocks : Bool) (ms : List String) (c : Cursor) : Bool :=
  if c.isWord "const" && constant then c.next.followsModifierOnLine
  else if c.isWord "static" && ((blocks && c.next.isSign .openBrace) || ms.contains "static") then
    false
  else c.isModifier && c.modifies

/-- Read a run of modifiers behind the given ones. -/
def modifierRun (constant blocks : Bool) : List String → Reader (List String) :=
  repeating fun ms => do
    let c ← here
    if modifiesAfter constant blocks ms c then
      pass
      return some (c.word?.getD "" :: ms)
    else return none

/-- Read modifiers alone. -/
def plainModifiers (constant : Bool) : Reader (List String) := modifierRun constant false []

/-- Read decorators and modifiers, and a second run of each if both come again. -/
def modifiers (constant blocks : Bool) : Reader (List String) := do
  let leading ← decorators R []
  let ms ← modifierRun constant blocks leading
  if ms.length = leading.length then return ms
  let trailing ← decorators R ms
  if trailing.length = ms.length then return ms
  modifierRun constant blocks trailing

/-! ### Type parameters -/

/-- Read a type parameter with its constraint and its default, if it has them. A constraint that
only begins a value is read as one. -/
def typeParameter : Reader Unit := do
  let _ ← plainModifiers true
  identifier
  if ← word? "extends" then
    let c ← here
    if c.startsType || !c.startsValue then typeOf R
    else
      let _ ← R.operand
  if ← sign? .equals then typeOf R

/-- Read type parameters in angle brackets, if there are any. -/
def typeParameters : Reader Unit := do
  if ← sign? .less then
    let _ ← enclosed (·.startsTypeParameter) (typeParameter R) .greater

/-! ### Parameters -/

/-- Read a parameter. Its decorators stand in the mode around the function. -/
def parameter (outerAsync : Bool) : Reader Unit := do
  let ms ← within ({ · with inAsync := outerAsync }) (modifiers R false false)
  if (← here).isWord "this" then
    require ms.isEmpty
    passName
    annotation R
  else
    let _ ← sign? .ellipsis
    binding R
    let _ ← sign? .question
    annotation R
    let _ ← initial R

/-- Read the parameters of a function of the given kind, in parentheses. -/
def parameters (generator async : Bool) : Reader Unit := do
  sign .openParen
  let outer := (← here).mode.inAsync
  let _ ← within (Mode.body generator async)
    (separated (·.startsParameter) (·.isSign .closeParen) (parameter R outer))
  sign .closeParen

/-! ### Results -/

/-- Read a type, or a claim that a parameter has one. -/
def typeOrClaim : Reader Node := do
  let c ← here
  if c.isIdentifier && c.next.isWord "is" && !c.next.afterLineEnd then
    passName
    pass
    let _ ← R.type
    return .unsupported .other c.token.start (← stopped)
  else R.type

/-- Read the type of a result. -/
def resultType : Reader Node := within ({ · with withoutChoice := false }) (typeOrClaim R)

/-- Read the type of a result behind a colon, if there is one. -/
def result? : Reader (Option Node) := do
  if ← sign? .colon then return some (← resultType R) else return none

/-- Read the type of a result behind a colon, if there is one, and forget it. -/
def result : Reader Unit := do let _ ← result? R

/-- Read the type parameters, parameters and result of a function of the given kind. -/
def signature (generator async : Bool) : Reader Unit := do
  typeParameters R
  parameters R generator async
  result R

/-! ### Bodies -/

/-- Read a block of statements. No equals sign may follow it. -/
def block : Reader Unit := do
  sign .openBrace
  sequence (·.startsStatement) (·.isSign .closeBrace) R.statement
  sign .closeBrace
  require (!(← here).isSign .equals)

/-- Read the body of a function of the given kind. -/
def functionBody (generator async : Bool) : Reader Unit :=
  within (fun m => { m.body generator async with inDecorator := false }) (block R)

/-- Read the body of a function of the given kind, or an end where it has none. -/
def bodyOrEnd (generator async : Bool) : Reader Unit := do
  let c ← here
  if !c.isSign .openBrace && c.endsStatement then endStatement else functionBody R generator async

/-- Read the rest of an accessor from its name on. -/
def accessor : Reader Unit := do
  propertyName R
  signature R false false
  bodyOrEnd R false false

/-- Read the rest of a method from behind its name. -/
def method (generator async : Bool) : Reader Unit := do
  signature R generator async
  bodyOrEnd R generator async

/-- Read one of the words `get` and `set` if it makes what follows an accessor; whether it does. -/
def accessorWord? : Reader Bool := optional fun c => c.isWordIn ["get", "set"] && c.modifies

end TypeHints.Expression.Reader
