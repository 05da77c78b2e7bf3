import TypeHints.Expression.Cursor

/-!
# What begins at a cursor

Which construct a cursor stands at is decided by its token and the few tokens behind it, before
anything is read. Each decision is a function on cursors. Where more has to be looked at, a run of
modifiers or of opening parentheses, the length of the text bounds the search.
-/

namespace TypeHints.Expression.Cursor

/-! ### Types and parameters -/

/-- Whether something that a parameter binds begins here. -/
def startsBinding (c : Cursor) : Bool :=
  c.isSignIn [.openBrace, .openBracket] || c.isPrivateWord || c.isBindable

/-- Whether a type begins here, also at the start of a parameter. -/
def startsPlainType (c : Cursor) : Bool :=
  c.isIdentifier || c.isWordIn typeWords || c.isString || c.isNumber || c.isTemplate ||
    c.isSignIn
      [.openBrace, .openBracket, .less, .bar, .ampersand, .star, .question, .exclaim, .ellipsis]

/-- Whether a parameter begins here. -/
def startsParameter (c : Cursor) : Bool :=
  c.isSignIn [.ellipsis, .at] || c.startsBinding || c.isModifier || c.startsPlainType

/-- Whether a type begins here. An opening parenthesis begins one if a type or a parameter follows.
The number bounds the search. -/
def startsTypeWithin : Nat → Cursor → Bool
  | 0, _ => false
  | n + 1, c =>
    c.startsPlainType || c.isWord "function" || (c.isSign .minus && c.next.isNumber) ||
      (c.isSign .openParen &&
        (c.next.isSign .closeParen || c.next.startsParameter || startsTypeWithin n c.next))

/-- Whether a type begins here. -/
def startsType (c : Cursor) : Bool := startsTypeWithin (c.rest.length + 1) c

/-- Whether a parameter of a function type with bare types begins here. -/
def startsLooseParameter (c : Cursor) : Bool := c.startsParameter || c.startsType

/-- Whether a type parameter begins here. -/
def startsTypeParameter (c : Cursor) : Bool := c.isWordIn ["in", "const"] || c.isIdentifier

/-- Whether a type argument begins here. -/
def startsTypeArgument (c : Cursor) : Bool := c.isSign .comma || c.startsType

/-- Whether an element of a tuple begins here with a label. -/
def startsLabel (c : Cursor) : Bool :=
  let c := if c.isSign .ellipsis then c.next else c
  c.isAnyWord &&
    (c.next.isSign .colon || (c.next.isSign .question && c.next.next.isSign .colon))

/-- Whether a mapped type begins with the brace here. -/
def startsMapped (c : Cursor) : Bool :=
  let c := c.next
  if c.isSignIn [.plus, .minus] then c.next.isWord "readonly"
  else
    let c := if c.isWord "readonly" then c.next else c
    c.isSign .openBracket && c.next.isIdentifier && c.next.next.isWord "in"

/-! ### Modifiers -/

/-- Whether a word before this token can be a modifier of what begins here. -/
def followsModifier (c : Cursor) : Bool :=
  c.isSignIn [.openBracket, .openBrace, .star, .ellipsis] || c.isPropertyWord

/-- Whether the word `export` before this token can be a modifier of what begins here. -/
def followsExport (c : Cursor) : Bool :=
  c.isSign .at || (!c.isSignIn [.star, .openBrace] && !c.isWord "as" && c.followsModifier)

/-- Whether the word `default` before this token can be a modifier of what begins here. -/
def followsDefault (c : Cursor) : Bool :=
  c.isWordIn ["class", "function", "interface"] || c.isSign .at ||
    (c.isWord "abstract" && c.next.isWord "class" && !c.next.afterLineEnd) ||
    (c.isWord "async" && c.next.isWord "function" && !c.next.afterLineEnd)

/-- Whether this token is on the line of a word before it that can be a modifier of what begins
here. -/
def followsModifierOnLine (c : Cursor) : Bool := !c.afterLineEnd && c.followsModifier

/-- Whether the word here, a modifier by its spelling, is one by what follows it. -/
def modifies (c : Cursor) : Bool :=
  let d := c.next
  match c.word? with
  | some "const" => d.isWord "enum"
  | some "export" =>
    if d.isWord "default" then d.next.followsDefault
    else if d.isWord "type" then d.next.followsExport
    else d.followsExport
  | some "default" => d.followsDefault
  | some "static" => d.followsModifier
  | some "get" | some "set" => d.isSign .openBracket || d.isPropertyWord
  | _ => d.followsModifierOnLine

/-- The cursor behind a run of words that may be modifiers. The number bounds the search. -/
def skipModifiers : Nat → Cursor → Cursor
  | 0, c => c
  | n + 1, c => if c.isModifier then skipModifiers n c.next else c

/-! ### Members -/

/-- Whether a member of an object type begins here. -/
def startsTypeMember (c : Cursor) : Bool :=
  c.isSignIn [.openParen, .less] || c.isWordIn ["get", "set"] ||
    (let d := skipModifiers c.rest.length c
     d.isSign .openBracket ||
       (let e := if d.isPropertyWord then d.next else d
        (c.isModifier || d.isPropertyWord) &&
          (e.isSignIn [.openParen, .less, .question, .colon, .comma] || e.endsStatement)))

/-- Whether an index signature begins here, rather than a computed name. -/
def startsIndexSignature (c : Cursor) : Bool :=
  let c₁ := c.next
  let afterName (d : Cursor) : Bool :=
    d.isSignIn [.colon, .comma] ||
      (d.isSign .question && d.next.isSignIn [.colon, .comma, .closeBracket])
  c.isSign .openBracket &&
    (c₁.isSignIn [.ellipsis, .closeBracket] ||
      (if c₁.isModifier then c₁.next.isIdentifier || afterName c₁.next
       else c₁.isIdentifier && afterName c₁.next))

/-- The last word of a run of modifiers, if there is one. The number bounds the search. -/
def lastModifier? : Nat → Option String → Cursor → Option String
  | 0, w?, _ => w?
  | n + 1, w?, c => if c.isModifier then lastModifier? n c.word? c.next else w?

/-- Whether a run of modifiers has one that only a member of a class can have. -/
def hasMemberModifier : Nat → Cursor → Bool
  | 0, _ => false
  | n + 1, c => c.isModifier && (c.isWordIn memberModifierWords || hasMemberModifier n c.next)

/-- Whether a member of a class begins here. -/
def startsClassMember (c : Cursor) : Bool :=
  let d := skipModifiers c.rest.length c
  let named := d.isPropertyWord
  let e := if named then d.next else d
  c.isSignIn [.at, .semicolon] || hasMemberModifier c.rest.length c || d.isSign .star ||
    e.isSign .openBracket ||
    (let keyword? : Option String :=
       if named then d.word?.filter isKeyword else lastModifier? c.rest.length none c
     if named && keyword?.isNone then true
     else
       match keyword? with
       | none => false
       | some w =>
         w = "get" || w = "set" ||
           e.isSignIn [.openParen, .less, .exclaim, .colon, .equals, .question] || e.endsStatement)

/-- Whether a property of an object value begins here. -/
def startsProperty (c : Cursor) : Bool :=
  c.isSignIn [.openBracket, .star, .ellipsis, .dot] || c.isPropertyWord

/-- Whether an element of an array pattern begins here. -/
def startsArrayBinding (c : Cursor) : Bool := c.isSignIn [.comma, .ellipsis] || c.startsBinding

/-- Whether an element of an object pattern begins here. -/
def startsObjectBinding (c : Cursor) : Bool :=
  c.isSignIn [.openBracket, .ellipsis] || c.isPropertyWord

/-! ### Values -/

/-- Whether an operator between two operands comes here. -/
def isOperator (c : Cursor) : Bool :=
  match c.lexeme with
  | .sign s =>
    match s with
    | .less | .less2 | .greater | .question2 | .bar | .ampersand | .plus | .minus | .star | .slash
    | .star2 | .binary _ => true
    | _ => false
  | .word w _ =>
    w = "instanceof" || w = "as" || w = "satisfies" || (w = "in" && !c.mode.withoutIn)
  | _ => false

/-- Whether an operator that assigns to its left operand comes here. -/
def isAssignment (c : Cursor) : Bool :=
  match c.lexeme with
  | .sign .equals | .sign (.change _) => true
  | _ => false

/-- Whether a value that may be assigned to or called begins here. -/
def startsTarget (c : Cursor) : Bool :=
  c.isIdentifier || c.isWordIn targetWords || c.isNumber || c.isString || c.isTemplate ||
    c.isSignIn [.openParen, .openBracket, .openBrace, .slash, .change "/="] ||
    (c.isWord "import" && c.next.isSignIn [.openParen, .less, .dot])

/-- Whether a value begins here. An operator whose left operand is missing counts too. -/
def startsValue (c : Cursor) : Bool :=
  c.startsTarget || c.isPrivateWord || c.isWordIn operatorWords || c.isWordIn ["await", "yield"] ||
    c.isSignIn [.plus, .minus, .tilde, .exclaim, .step, .less, .at] || c.isOperator

/-- Whether an argument of a call begins here. -/
def startsArgument (c : Cursor) : Bool := c.isSign .ellipsis || c.startsValue

/-- Whether an element of an array value begins here. -/
def startsElement (c : Cursor) : Bool := c.isSignIn [.comma, .dot] || c.startsArgument

/-- Whether type arguments of a value can stand before this token. -/
def followsTypeArguments (c : Cursor) : Bool :=
  if c.isSign .openParen || c.isTemplate then true
  else if c.isSignIn [.less, .greater, .plus, .minus] then false
  else c.afterLineEnd || c.isOperator || !c.startsValue

/-- Whether an operand on the line of the word before it begins here. -/
def followsOnLine (c : Cursor) : Bool :=
  (c.isAnyWord || c.isNumber || c.isString) && !c.afterLineEnd

/-- How likely it is that an arrow function begins at a cursor. -/
inductive Outlook where
  | sure | open | hopeless
deriving DecidableEq, Repr

/-- How likely it is that an arrow function with parameters in parentheses begins here, from the
opening parenthesis or angle bracket on. -/
def parenthesesOutlook (c : Cursor) : Outlook :=
  let d := c.next
  if c.isSign .less then if d.isIdentifier || d.isWord "const" then .open else .hopeless
  else if d.isSign .closeParen then
    if d.next.isSignIn [.arrow, .colon, .openBrace] then .sure else .hopeless
  else if d.isSignIn [.openBracket, .openBrace] then .open
  else if d.isSign .ellipsis then .sure
  else if d.isModifier && !d.isWord "async" && d.next.isIdentifier then
    if d.next.isWord "as" then .hopeless else .sure
  else if !d.isIdentifier && !d.isWord "this" then .hopeless
  else
    let e := d.next
    if e.isSign .colon then .sure
    else if e.isSign .question then
      if e.next.isSignIn [.colon, .comma, .equals, .closeParen] then .sure else .hopeless
    else if e.isSignIn [.comma, .equals, .closeParen] then .open
    else .hopeless

/-- How likely it is that an arrow function with parameters in parentheses begins here. -/
def arrowOutlook (c : Cursor) : Outlook :=
  if c.isSignIn [.openParen, .less] then c.parenthesesOutlook
  else if c.isWord "async" && !c.next.afterLineEnd && c.next.isSignIn [.openParen, .less] then
    c.next.parenthesesOutlook
  else .hopeless

/-! ### Declarations and statements -/

/-- Whether the word `using` before this token declares what begins here. -/
def followsUsing (c : Cursor) : Bool := (c.isBindable || c.isSign .openBrace) && !c.afterLineEnd

/-- Whether a declaration of resources begins here. -/
def startsUsing (c : Cursor) : Bool := c.isWord "using" && c.next.followsUsing

/-- Whether a declaration of asynchronous resources begins here. -/
def startsAwaitUsing (c : Cursor) : Bool := c.isWord "await" && c.next.startsUsing

/-- Whether a declaration of variables in a block begins with the word `let` here. -/
def startsLet (c : Cursor) : Bool :=
  c.isWord "let" && (c.next.isBindable || c.next.isSignIn [.openBrace, .openBracket])

/-- Whether a declaration begins here. The number bounds the search. -/
def startsDeclarationWithin : Nat → Cursor → Bool
  | 0, _ => false
  | n + 1, c =>
    let d := c.next
    match c.word? with
    | none => false
    | some w =>
      if ["var", "let", "const", "function", "class", "enum"].contains w then true
      else if w = "using" then c.startsUsing
      else if w = "await" then c.startsAwaitUsing
      else if ["interface", "type", "defer"].contains w then d.isIdentifier && !d.afterLineEnd
      else if w = "module" || w = "namespace" then
        (d.isIdentifier || d.isString) && !d.afterLineEnd
      else if ["abstract", "accessor", "async", "declare", "private", "protected", "public",
          "readonly"].contains w then
        !d.afterLineEnd && ((w = "declare" && d.isWord "type") || startsDeclarationWithin n d)
      else if w = "global" then
        d.isSign .openBrace || d.isWord "export" || (d.word?.any fun v => !isKeyword v)
      else if w = "import" then d.isString || d.isSignIn [.star, .openBrace] || d.isAnyWord
      else if w = "export" then
        let e := if d.isWord "type" then d.next else d
        e.isSignIn [.equals, .star, .openBrace, .at] || e.isWordIn ["default", "as"] ||
          startsDeclarationWithin n d
      else if w = "static" then startsDeclarationWithin n d
      else false

/-- Whether a declaration begins here. -/
def startsDeclaration (c : Cursor) : Bool := startsDeclarationWithin (c.rest.length + 1) c

/-- The words that begin a statement wherever they stand. -/
def statementWords : List String :=
  ["var", "let", "using", "function", "class", "enum", "if", "do", "while", "for", "continue",
   "break", "return", "with", "switch", "throw", "try", "debugger", "catch", "finally", "async",
   "declare", "interface", "module", "namespace", "type", "global", "defer"]

/-- Whether a statement begins here. -/
def startsStatement (c : Cursor) : Bool :=
  c.isSignIn [.at, .semicolon, .openBrace] || c.isWordIn statementWords ||
    (if c.isWord "import" then c.startsDeclaration || c.next.isSignIn [.openParen, .less, .dot]
     else if c.isWordIn ["const", "export"] then c.startsDeclaration
     else if c.isWordIn ["accessor", "public", "private", "protected", "static", "readonly"] then
       c.startsDeclaration || !(c.next.isAnyWord && !c.next.afterLineEnd)
     else c.startsValue)

/-- Whether a base of a class begins here. A brace begins one only if the body of the class can
follow what it encloses. -/
def startsHeritage (c : Cursor) : Bool :=
  if c.isSign .openBrace then
    !c.next.isSign .closeBrace || c.next.next.isSignIn [.comma, .openBrace] ||
      c.next.next.isWordIn ["extends", "implements"]
  else c.startsTarget && !(c.isWordIn ["implements", "extends"] && c.next.startsValue)

/-- Whether an item of an import or export list begins here. -/
def startsSpecifier (c : Cursor) : Bool :=
  c.isString || (c.isAnyWord && !(c.isWord "from" && c.next.isString))

end TypeHints.Expression.Cursor
