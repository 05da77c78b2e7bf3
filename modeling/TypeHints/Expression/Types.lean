import TypeHints.Expression.Signature

/-!
# Reading types

Unions, intersections, operators, arrays, tuples, references and literals, and also function,
object, mapped, conditional, import and template types, which are read only to know that they are
well-formed.
-/

namespace TypeHints.Expression.Reader

variable (R : Nested)

/-- The type of another form that began at a place and has just been read. -/
def otherFrom (start : Nat) : Reader Node := do return .unsupported .other start (← stopped)

/-! ### Function types -/

/-- Pass over the name or pattern of a parameter behind its modifiers. -/
def parameterStart : Reader Unit := do
  let _ ← plainModifiers false
  let c ← here
  if c.isIdentifier || c.isWord "this" then passName
  else
    require (c.isSignIn [.openBracket, .openBrace])
    binding R

/-- Whether the parenthesis here can only open the parameters of a function. -/
def opensParameters (c : Cursor) : Bool :=
  c.isSign .openParen &&
    (c.next.isSignIn [.closeParen, .ellipsis] ||
      match (parameterStart R).run c.next with
      | (.ok _, d) =>
        d.isSignIn [.colon, .comma, .question, .equals] ||
          (d.isSign .closeParen && d.next.isSign .arrow)
      | (.error _, _) => false)

/-- Whether a function or constructor type begins here. -/
def opensFunction (c : Cursor) : Bool :=
  c.isSign .less || c.isWord "new" || (c.isWord "abstract" && c.next.isWord "new") ||
    opensParameters R c

/-- Read a function or constructor type. -/
def functionType : Reader Unit := do
  let _ ← word? "abstract"
  let _ ← word? "new"
  typeParameters R
  parameters R false false
  sign .arrow
  let _ ← resultType R

/-- Read the rest of a path, whose root has just been passed. -/
def looseNamepath : Reader Unit := do
  let c ← here
  if !c.isSign .comma then
    require (c.lexeme ≠ .unknown)
    let skipped := c.rest.takeWhile fun d =>
      !(d = ',' || d = '\x7d' || d = ' ' || d = '\t' || d = '\x0b' || d = '\x0c')
    let d := c.seek (c.stop + skipped.length) (c.rest.drop skipped.length)
    require (d.isSign .comma)
    Attempt.modify fun _ => d

/-- Read a parameter of a function type with bare types: a type, perhaps behind `this:` or `new:`,
with the marks of a variable number of arguments and of an optional one. -/
def looseParameter : Reader Unit := do
  if (← here).isWordIn ["this", "new"] then
    passName
    sign .colon
  within ({ · with decorated := true }) do
    if ← word? "module" then looseNamepath
    else
      let _ ← sign? .ellipsis
      let _ ← typeOrClaim R
  let _ ← sign? .equals

/-- Read a function type with bare types from behind the word `function`. -/
def looseFunction : Reader Unit := do
  sign .openParen
  let _ ← within (Mode.body false false)
    (separated (·.startsLooseParameter) (·.isSign .closeParen) (looseParameter R))
  sign .closeParen
  result R

/-! ### Names -/

/-- Read the name of a member from behind its dot. A name that begins the line behind the dot is
none if a word follows it on its line. -/
def memberName (allowPrivate : Bool) : Reader String := do
  let c ← here
  require !(c.afterLineEnd && c.next.isAnyWord && !c.next.afterLineEnd)
  match c.lexeme with
  | .word w _ =>
    passName
    return w
  | .privateWord w =>
    require allowPrivate
    pass
    return w
  | _ => fail

/-- Read the members behind a root name. A dot before type arguments is passed over. -/
def members : Reader (List String) := do
  let names ← repeating (fun names => do
    if ← sign? .dot then
      if (← here).isSign .less then return none
      else return some ((← memberName false) :: names)
    else return none) []
  return names.reverse

/-- Read a name with its members. -/
def dottedName : Reader (String × List String) := do
  let root ← match (← here).lexeme with
    | .word w _ => pure w
    | .privateWord w => pure w
    | _ => fail
  passName
  return (root, ← members)

/-- Pass over the first of two angle brackets. -/
def splitLess : Reader Unit :=
  Attempt.modify fun c => if c.isSign .less2 then c.retoken (.sign .less) ('<' :: c.rest) else c

/-- Read type arguments from behind the opening angle bracket. -/
def typeArguments : Reader (List Node) :=
  enclosed (·.startsTypeArgument) R.type .greater

/-- Read the type arguments of a type, if there are any on its line. -/
def typeArguments? : Reader (Option (List Node)) := do
  let c ← here
  if !c.afterLineEnd && c.isSignIn [.less, .less2] then
    splitLess
    pass
    return some (← typeArguments R)
  else return none

/-- Read a name with its members and type arguments. -/
def reference : Reader Node := do
  let (root, ms) ← dottedName
  let args? ← typeArguments? R
  if args?.any List.isEmpty then Attempt.modify fun c => { c with hollow := true }
  return .reference root ms args?

/-! ### Members of object types -/

/-- Read the end of a member of a type: a comma, or the end of a statement. -/
def endMember : Reader Unit := do if !(← sign? .comma) then endStatement

/-- Read the rest of an index signature. -/
def indexSignature : Reader Unit := do
  sign .openBracket
  let _ ← enclosed (·.startsParameter) (parameter R false) .closeBracket
  annotation R
  endMember

/-- Read a member of an object type. -/
def typeMember : Reader Unit := do
  let c ← here
  if c.isSignIn [.openParen, .less] then
    signature R false false
    endMember
  else if c.isWord "new" && c.next.isSignIn [.openParen, .less] then
    pass
    signature R false false
    endMember
  else
    let _ ← plainModifiers false
    if ← accessorWord? then
      propertyName R
      signature R false false
      if (← here).isSign .openBrace then functionBody R false false else endMember
    else if (← here).startsIndexSignature then indexSignature R
    else
      propertyName R
      let _ ← sign? .question
      if (← here).isSignIn [.openParen, .less] then signature R false false
      else
        annotation R
        let _ ← initial R
      endMember

/-- Read the members of an object type up to its closing brace, which is read too. -/
def typeMembers : Reader Unit := do
  sequence (·.startsTypeMember) (·.isSign .closeBrace) (typeMember R)
  sign .closeBrace

/-- Read a mapped type. -/
def mappedType : Reader Unit := do
  sign .openBrace
  if ← optional (·.isSignIn [.plus, .minus]) then word "readonly"
  else
    let _ ← word? "readonly"
  sign .openBracket
  anyName
  word "in"
  typeOf R
  if ← word? "as" then typeOf R
  sign .closeBracket
  if ← optional (·.isSignIn [.plus, .minus]) then sign .question
  else
    let _ ← sign? .question
  annotation R
  endStatement
  typeMembers R

/-! ### Import and template types -/

/-- Read the attributes of an import in braces. -/
def importAttributes : Reader Unit := do
  sign .openBrace
  let _ ← enclosed (fun c => c.isAnyWord || c.isString)
    (do
      if (← here).isAnyWord then anyName else quotedText
      sign .colon
      valueOf R) .closeBrace

/-- Read an import type from the word `import` on. -/
def importType : Reader Unit := do
  word "import"
  sign .openParen
  typeOf R
  if ← sign? .comma then
    sign .openBrace
    expect (·.isWordIn ["with", "assert"])
    sign .colon
    importAttributes R
    let _ ← sign? .comma
    sign .closeBrace
  sign .closeParen
  if ← sign? .dot then
    let _ ← dottedName
  let _ ← typeArguments? R

/-- Read what follows a substitution of a template; whether another substitution follows. -/
def templateRest (tagged : Bool) : Reader Bool := do
  let c ← here
  require (c.isSign .closeBrace)
  match Lexing.templateRest? tagged c.rest with
  | none => fail
  | some (lexeme, rest) =>
    Attempt.modify fun c => c.retoken lexeme rest
    pass
    return lexeme = .templateMiddle

/-- Read the substitutions of a template, each by the same reader, from behind its head. -/
def substitutions (tagged : Bool) (item : Reader Unit) : Reader Unit :=
  repeating (fun again => do
    if again then
      item
      return some (← templateRest tagged)
    else return none) true >>= fun _ => pure ()

/-! ### Tuples -/

/-- Read an element of a tuple behind its label. -/
def bareElement : Reader Node := do
  let start := (← here).token.start
  if ← sign? .ellipsis then
    typeOf R
    otherFrom start
  else
    match ← R.type with
    | .unsupported .questioned _ stop => return .unsupported .other start stop
    | node => return node

/-- Read an element of a tuple, with its label if it has one. -/
def element : Reader Node := do
  let c ← here
  if c.startsLabel then
    let spread ← sign? .ellipsis
    anyName
    let optional ← sign? .question
    sign .colon
    let node ← bareElement R
    if spread || optional then otherFrom c.token.start else return node
  else bareElement R

/-! ### Types without suffixes -/

/-- Read a type behind a leading question mark. In front of some signs there is none. -/
def nullable : Reader Unit := do
  let c ← here
  if !c.isSignIn [.comma, .closeBrace, .closeParen, .greater, .equals, .bar] then typeOf R

/-- Read the type that a word begins. -/
def wordType (w : String) : Reader Node := do
  let c ← here
  let start := c.token.start
  if keywordTypes.contains w then
    if c.next.isSign .dot then reference R
    else
      pass
      match Keyword.ofWord? w with
      | some k => return .keyword k
      | none => otherFrom start
  else if w = "void" then
    pass
    return .keyword .void
  else if w = "null" then
    pass
    return .literal .null
  else if w = "true" || w = "false" then
    pass
    return .literal (.bool (w = "true"))
  else if w = "this" then
    pass
    if (← here).isWord "is" && !(← here).afterLineEnd then
      pass
      typeOf R
    otherFrom start
  else if w = "typeof" then
    pass
    if (← here).isWord "import" then importType R
    else
      let _ ← dottedName
      let d ← here
      if !d.afterLineEnd && d.isSign .less then
        pass
        let _ ← typeArguments R
    otherFrom start
  else if w = "function" then
    if c.next.isSign .openParen then
      pass
      looseFunction R
      return .unsupported .looseFunction c.token.lead (← stopped)
    else
      passName
      return .reference w [] none
  else if w = "import" then
    importType R
    otherFrom start
  else if w = "asserts" && c.next.isAnyWord && !c.next.afterLineEnd then
    pass
    if (← here).isWord "this" then pass else identifier
    if ← word? "is" then typeOf R
    otherFrom start
  else reference R

/-- Read the type that a sign begins. -/
def signType (s : Sign) : Reader Node := do
  let c ← here
  let start := c.token.start
  match s with
  | .minus =>
    pass
    match (← here).lexeme with
    | .number x =>
      pass
      return .literal (.number x.negate)
    | .bigint _ =>
      pass
      otherFrom start
    | _ => fail
  | .star =>
    pass
    return .unsupported .other c.token.lead (← stopped)
  | .change "*=" =>
    Attempt.modify fun c => c.retoken (.sign .star) ('=' :: c.rest)
    pass
    return .unsupported .other c.token.lead (← stopped)
  | .question =>
    pass
    nullable R
    return .unsupported .other c.token.lead (← stopped)
  | .question2 =>
    Attempt.modify fun c => c.retoken (.sign .question) ('?' :: c.rest)
    pass
    nullable R
    return .unsupported .other c.token.lead (← stopped)
  | .exclaim =>
    pass
    let _ ← R.bareType
    return .unsupported .other c.token.lead (← stopped)
  | .openBrace =>
    if c.startsMapped then mappedType R
    else
      pass
      typeMembers R
    otherFrom start
  | .openBracket =>
    pass
    return .tuple (← enclosed (·.startsTypeArgument) (element R) .closeBracket)
  | .openParen =>
    pass
    let node ← R.type
    sign .closeParen
    return .group node
  | _ => fail

/-- Read a type without suffixes. -/
def bareType : Reader Node := do
  let c ← here
  match c.lexeme with
  | .word w _ => wordType R w
  | .privateWord _ => reference R
  | .sign s => signType R s
  | .string s =>
    pass
    return .literal (.string s)
  | .number x =>
    pass
    return .literal (.number x)
  | .bigint i =>
    pass
    return .literal (.bigint i)
  | .template _ =>
    pass
    otherFrom c.token.start
  | .templateHead sound =>
    require sound
    pass
    substitutions false (typeOf R)
    otherFrom c.token.start
  | .templateMiddle | .templateTail | .pattern | .finish | .unknown => fail

/-! ### Suffixes, operators, unions -/

/-- Read one suffix of a type, if there is one on its line. The type began with the given token. -/
def suffix? (first : Token) (node : Node) : Reader (Option Node) := do
  let c ← here
  if c.afterLineEnd then return none
  else if c.isSign .exclaim then
    pass
    return some (.unsupported .other first.lead (← stopped))
  else if c.isSign .question then
    if c.next.startsType then return none
    else
      pass
      return some (.unsupported .questioned first.lead (← stopped))
  else if c.isSign .openBracket then
    pass
    if (← here).startsType then
      typeOf R
      sign .closeBracket
      return some (← otherFrom first.start)
    else
      sign .closeBracket
      return some (.array node)
  else return none

/-- Read a type with its suffixes. -/
def suffixedType : Reader Node := do
  let first := (← here).token
  repeating (suffix? R first) (← bareType R)

/-- Read the bound of an inferred type. Where a conditional type may stand, a bound in front of a
question mark is none, but the condition of such a type. -/
def inferBound? : Reader (Option Unit) := do
  if ← word? "extends" then
    let _ ← within ({ · with withoutChoice := true }) R.type
    let c ← here
    return if c.mode.withoutChoice || !c.isSign .question then some () else none
  else return none

/-- Read a type with the type operators in front of it. -/
def operatorType : Reader Node := do
  let c ← here
  if c.isWordIn ["keyof", "unique", "readonly"] then
    pass
    let _ ← R.operatorType
    otherFrom c.token.start
  else if c.isWord "infer" then
    pass
    identifier
    let d ← here
    match ← inferBound? R with
    | some () => pure ()
    | none => Attempt.modify fun e => { d with settled := e.settled }
    otherFrom c.token.start
  else within ({ · with withoutChoice := false }) (suffixedType R)

/-- Read parts with a sign between them, and perhaps one in front. No function type may be a part.
Without the sign there is one part. -/
def joined (s : Sign) (part : Reader Node) : Reader (Node ⊕ List Node) := do
  let leading ← sign? s
  let one : Reader Node := do
    require !(opensFunction R (← here))
    part
  let first ← if leading then one else part
  if leading || (← here).isSign s then
    let parts ← repeating (fun parts => do
      if ← sign? s then return some ((← one) :: parts) else return none) [first]
    return .inr parts.reverse
  else return .inl first

/-- Read an intersection, or the one type it consists of. -/
def intersection : Reader Node := do
  let start := (← here).token.start
  match ← joined R .ampersand (operatorType R) with
  | .inl node => return node
  | .inr _ => otherFrom start

/-- Read a union, or the one type it consists of. -/
def union : Reader Node := do
  match ← joined R .bar (intersection R) with
  | .inl node => return node
  | .inr nodes => return .union nodes

/-- Read a type in the mode of its surroundings. -/
def choice : Reader Node := do
  let start := (← here).token.start
  if opensFunction R (← here) then
    functionType R
    otherFrom start
  else
    let node ← union R
    let c ← here
    if !c.mode.withoutChoice && !c.afterLineEnd && c.isWord "extends" then
      pass
      let _ ← within ({ · with withoutChoice := true }) R.type
      sign .question
      typeOf R
      sign .colon
      typeOf R
      otherFrom start
    else return node

/-- Read a type. -/
def type : Reader Node := within (Mode.body false false) (choice R)

end TypeHints.Expression.Reader
