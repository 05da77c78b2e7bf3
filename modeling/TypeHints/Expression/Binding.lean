import TypeHints.Expression.Nested

/-!
# Names and patterns

Names that stand for themselves, names of properties, and the patterns that take values apart.
-/

namespace TypeHints.Expression.Reader

variable (R : Nested)

/-- Read an identifier. -/
def identifier : Reader Unit := do
  require (← here).isIdentifier
  passName

/-- Read a word of any kind as a name. -/
def anyName : Reader Unit := do
  require (← here).isAnyWord
  passName

/-- Read a name that is bound. -/
def boundName : Reader Unit := do
  require (← here).isBindable
  passName

/-- Read the name of a property, plain or computed. -/
def propertyName : Reader Unit := do
  let c ← here
  if c.isSign .openBracket then
    pass
    closedList R
    sign .closeBracket
  else
    require c.isPropertyWord
    passName

/-- Read a text in quotes. -/
def quotedText : Reader Unit := expect (·.isString)

/-- Read an element of an array pattern. An element may be missing. -/
def arrayBinding : Reader Unit := do
  if !(← here).isSign .comma then
    let _ ← sign? .ellipsis
    R.binding
    let _ ← initial R

/-- Read an element of an object pattern. A name alone names the property and is bound to it. -/
def objectBinding : Reader Unit := do
  let _ ← sign? .ellipsis
  let bindable := (← here).isBindable
  propertyName R
  if !bindable || (← here).isSign .colon then
    sign .colon
    R.binding
  let _ ← initial R

/-- Read a name or pattern. -/
def binding : Reader Unit := do
  let c ← here
  if c.isSign .openBracket then
    pass
    let _ ← within ({ · with withoutIn := false })
      (separated (·.startsArrayBinding) (·.isSign .closeBracket) (arrayBinding R))
    sign .closeBracket
  else if c.isSign .openBrace then
    pass
    let _ ← within ({ · with withoutIn := false })
      (separated (·.startsObjectBinding) (·.isSign .closeBrace) (objectBinding R))
    sign .closeBrace
  else boundName

end TypeHints.Expression.Reader
