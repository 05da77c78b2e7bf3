import TypeHints.Expression.Types

/-!
# Classes

The declaration of a class, from the word `class` to the end of its body. It is the same as a
statement and as a value.
-/

namespace TypeHints.Expression.Reader

variable (R : Nested)

/-! ### Bases -/

/-- Read a base of a class with its type arguments, if it has any. -/
def base : Reader Unit := do
  let form ← R.target
  if !form.isApplied && (← here).isSign .less then
    pass
    let _ ← typeArguments R

/-- Read the bases of a class or of an interface. -/
def heritage : Reader Unit :=
  repeating (fun _ => do
    if ← optional (·.isWordIn ["extends", "implements"]) then
      let _ ← separated (·.startsHeritage)
        (fun c => c.isSign .openBrace || c.isWordIn ["extends", "implements"]) (base R)
      return some ()
    else return none) ()

/-! ### Members -/

/-- Read the rest of a field from behind its name. On its line an exclamation mark may follow a name
without a question mark; nothing that goes on with the field may follow it. -/
def field (questioned : Bool) : Reader Unit := do
  let _ ← optional fun c => !questioned && !c.afterLineEnd && c.isSign .exclaim
  annotation R
  let _ ← within (fun m => { m.body false false with withoutIn := false }) (initial R)
  let c ← here
  require !(c.isSign .openParen || (c.isSign .at && !c.afterLineEnd))
  endStatement

/-- Whether a constructor begins here. -/
def opensConstructor (c : Cursor) : Bool :=
  c.isWord "constructor" || (c.lexeme = .string "constructor" && c.next.isSign .openParen)

/-- Read a member of a class. -/
def classMember : Reader Unit := do
  if !(← sign? .semicolon) then
    let ms ← modifiers R true true
    let c ← here
    if c.isWord "static" && c.next.isSign .openBrace then
      pass
      within (Mode.body false true) (block R)
    else if ← accessorWord? then accessor R
    else if opensConstructor c then
      pass
      method R false false
    else if c.startsIndexSignature then indexSignature R
    else
      let generator ← sign? .star
      propertyName R
      let questioned ← sign? .question
      if generator || (← here).isSignIn [.openParen, .less] then
        method R generator (ms.contains "async")
      else field R questioned

/-! ### The whole -/

/-- The mode of a declaration with the given modifiers: what is exported stands in a module, where
`await` is an operator. -/
def declaredMode (ms : List String) (m : Mode) : Mode :=
  { m with inAsync := m.inAsync || ms.contains "export" }

/-- Read a class behind its modifiers. -/
def classRest (ms : List String) : Reader Unit := do
  word "class"
  let c ← here
  if c.isBindable && !(c.isWord "implements" && c.next.isAnyWord) then boundName
  typeParameters R
  within (declaredMode ms) do
    heritage R
    sign .openBrace
    sequence (·.startsClassMember) (·.isSign .closeBrace) (classMember R)
    sign .closeBrace

end TypeHints.Expression.Reader
