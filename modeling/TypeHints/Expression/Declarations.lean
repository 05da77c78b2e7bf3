import TypeHints.Expression.Classes

/-!
# Reading declarations

Variables, functions, interfaces, enumerations, namespaces, imports and exports. They stand in
bodies, and are read only to know that they are well-formed.
-/

namespace TypeHints.Expression.Reader

variable (R : Nested)

/-! ### Variables -/

/-- Read one declared variable. Where `assertable` says so, an exclamation mark may follow a name on
its line. -/
def declarator (assertable : Bool) : Reader Unit := do
  let named := (← here).isBindable
  binding R
  let _ ← optional fun c => assertable && named && !c.afterLineEnd && c.isSign .exclaim
  annotation R
  let _ ← initial R

/-- Whether declared variables end here. -/
def endsDeclarators (c : Cursor) : Bool := c.endsStatement || c.isWordIn ["in", "of"]

/-- Read declared variables. In the head of a loop the word `of` behind the first word may already
end them. -/
def declarators (inHead : Bool) : Reader Unit := do
  if (← here).startsAwaitUsing then pass
  expect (·.isWordIn ["var", "let", "const", "using"])
  let c ← here
  if !(c.isWord "of" && c.next.isIdentifier && c.next.next.isSign .closeParen) then
    let _ ← within ({ · with withoutIn := inHead })
      (separated (·.startsBinding) endsDeclarators (declarator R !inHead))

/-! ### Functions and types -/

/-- Read a function behind its modifiers. -/
def functionDeclaration (ms : List String) : Reader Unit := do
  word "function"
  let generator ← sign? .star
  if !ms.contains "default" || (← here).isBindable then boundName
  within (declaredMode ms) (method R generator (ms.contains "async"))

/-- Read an interface. -/
def interfaceDeclaration : Reader Unit := do
  word "interface"
  identifier
  typeParameters R
  heritage R
  sign .openBrace
  typeMembers R

/-- Read an alias of a type, which may be the keyword `intrinsic`. -/
def aliasDeclaration : Reader Unit := do
  word "type"
  require !((← here).afterLineEnd)
  identifier
  typeParameters R
  sign .equals
  if ← optional fun c => c.isWord "intrinsic" && !c.next.isSign .dot then pure () else typeOf R
  endStatement

/-- Read a member of an enumeration. -/
def enumMember : Reader Unit := do
  propertyName R
  let _ ← within ({ · with withoutIn := false }) (initial R)

/-- Read an enumeration. -/
def enumDeclaration : Reader Unit := do
  word "enum"
  identifier
  sign .openBrace
  let _ ← within (Mode.body false false)
    (separated (fun c => c.isSign .openBracket || c.isPropertyWord) (·.isSign .closeBrace)
      (enumMember R))
  sign .closeBrace

/-! ### Namespaces -/

/-- Read the statements of a namespace in braces. -/
def namespaceBody : Reader Unit := do
  sign .openBrace
  sequence (·.startsStatement) (·.isSign .closeBrace) R.statement
  sign .closeBrace

/-- Read the rest of a dotted name, from its first dot on. -/
def dottedRest (name : Reader Unit) : Reader Unit :=
  repeating (fun _ => do
    if ← sign? .dot then
      name
      return some ()
    else return none) ()

/-- Read a namespace, or the description of a module or of the global scope. -/
def namespaceDeclaration : Reader Unit := do
  let c ← here
  if c.isWord "global" || (c.isWord "module" && c.next.isString) then
    if c.isWord "module" then pass
    passName
    if (← here).isSign .openBrace then namespaceBody R else endStatement
  else
    expect (·.isWordIn ["namespace", "module"])
    identifier
    dottedRest anyName
    namespaceBody R

/-! ### Imports and exports -/

/-- Read the name of a module. Any values may stand for it. -/
def moduleName : Reader Unit := do
  if (← here).isString then pass
  else
    let _ ← valueList R

/-- Read the attributes of an import, if there are any on its line. -/
def attributes? : Reader Unit := do
  if ← optional fun c => !c.afterLineEnd && c.isWordIn ["with", "assert"] then importAttributes R

/-- Whether the name of something exported stands here. -/
def opensExportedName (c : Cursor) : Bool := c.isAnyWord || c.isString

/-- Read the name of something exported. -/
def exportedName : Reader Cursor := do
  let c ← here
  if c.isString then pass else anyName
  return c

/-- Read the names of an item behind the word `type`, which may be a mark or itself a name: the last
name, and whether another one may follow. -/
def typeSpecifier (first : Cursor) : Reader (Cursor × Bool) := do
  let c ← here
  if c.isWord "as" then
    passName
    let d ← here
    if d.isWord "as" then
      passName
      if opensExportedName (← here) then return (← exportedName, false) else return (d, false)
    else if opensExportedName d then return (← exportedName, false)
    else return (c, false)
  else if opensExportedName c then return (← exportedName, true)
  else return (first, true)

/-- Read an item of an import or export list: a name, perhaps with another one for it. What is
imported is bound as an identifier. -/
def specifier (importing : Bool) : Reader Unit := do
  let first ← exportedName
  let (name, open?) ← if first.isWord "type" then typeSpecifier first else pure (first, true)
  let name ←
    if open? then do
      if ← word? "as" then exportedName else pure name
    else pure name
  require (!importing || (!name.isString && (name.isIdentifier || !name.word?.any isKeyword)))

/-- Read an import or export list in braces. -/
def specifiers (importing : Bool) : Reader Unit := do
  sign .openBrace
  let _ ← enclosed (·.startsSpecifier) (specifier importing) .closeBrace

/-- Read an identifier if one comes next; whether it did. -/
def identifier? : Reader Bool := do
  if (← here).isIdentifier then
    passName
    return true
  else return false

/-- Whether the word `type` behind `import` and before this token is a mark rather than a name. -/
def followsImportType (c : Cursor) : Bool :=
  (!c.isWord "from" || (c.isIdentifier && (c.next.isWord "from" || c.next.isSign .equals))) &&
    (c.isIdentifier || c.isSignIn [.star, .openBrace])

/-- Whether the word `defer` behind `import` and before this token is a mark rather than a name. -/
def followsImportDefer (c : Cursor) : Bool :=
  if c.isWord "from" then !c.next.isString else !c.isSignIn [.comma, .equals]

/-- Read what an import binds to a name from its equals sign on. -/
def importAlias : Reader Unit := do
  sign .equals
  let c ← here
  if c.isWord "require" && c.next.isSign .openParen then
    pass
    pass
    moduleName R
    sign .closeParen
  else
    identifier
    dottedRest identifier
  endStatement

/-- Read an import. -/
def importDeclaration : Reader Unit := do
  word "import"
  let first ← here
  let named ← identifier?
  let c ← here
  let typed := first.isWord "type" && followsImportType c
  let deferred := named && !typed && first.isWord "defer" && followsImportDefer c
  let named ← if typed || deferred then identifier? else pure named
  let d ← here
  if named && !deferred && !d.isSign .comma && !d.isWord "from" then importAlias R
  else
    if named || d.isSignIn [.star, .openBrace] then
      if !named || (← sign? .comma) then
        if ← sign? .star then
          word "as"
          identifier
        else specifiers true
      word "from"
    moduleName R
    attributes? R
    endStatement

/-- Read an export behind its modifiers. -/
def exportDeclaration : Reader Unit := do
  word "export"
  within ({ · with inAsync := true }) do
    if ← optional fun c => c.isWord "default" || c.isSign .equals then valueOf R
    else if ← word? "as" then
      word "namespace"
      identifier
    else
      let _ ← word? "type"
      if ← sign? .star then
        if ← word? "as" then
          let _ ← exportedName
        word "from"
        moduleName R
        attributes? R
      else
        specifiers false
        let c ← here
        if c.isWord "from" || (c.isString && !c.afterLineEnd) then
          word "from"
          moduleName R
          attributes? R
  endStatement

/-! ### Declarations of any kind -/

/-- Read a declaration with its decorators and modifiers. -/
def declaration : Reader Unit := do
  let ms ← modifiers R false false
  let c ← here
  match c.word? with
  | some "function" => functionDeclaration R ms
  | some "class" => classRest R ms
  | some "interface" => interfaceDeclaration R
  | some "type" => aliasDeclaration R
  | some "enum" => enumDeclaration R
  | some "import" => importDeclaration R
  | some "export" => exportDeclaration R
  | some w =>
    if ["global", "module", "namespace"].contains w then namespaceDeclaration R
    else
      declarators R false
      endStatement
  | none => fail

end TypeHints.Expression.Reader
