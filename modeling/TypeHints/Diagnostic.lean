import TypeHints.Text.Segments
import TypeHints.Value

/-!
# Diagnostics

A diagnostic is what a failed operation reports: a code, a severity and a message, and sometimes the
values at fault and a piece of advice. Messages that concern a site start with a placeholder, which
`Diagnostic.atSite` replaces by the label of the site.

The placeholder is replaced wherever it stands, not only at the start, as a message may repeat what
the program has written. Codes and severities of callers of the library are kept by their texts; a
text that is one of the library's own codes is read as that code.
-/

namespace TypeHints

/-- The kind of a failure. -/
inductive Code where
  /-- A template is applied to a wrong number of arguments. -/
  | arity
  /-- An argument violates the bound of its parameter. -/
  | bound
  /-- A value is no hint. -/
  | rawHint
  /-- A text is no supported expression. -/
  | expression
  /-- A hint cannot be applied to arguments. -/
  | notSubscriptable
  /-- The result of a callable does not fit its kind. -/
  | returnHint
  /-- A name is not made of identifiers. -/
  | identifier
  /-- A scope does not know a name, and the caller may not defer it. -/
  | unknownName
  /-- A reference, or an alias, names nothing. -/
  | unresolvable
  /-- A reference names something that is no class. -/
  | notAClass
  /-- A failure that a caller of the library reports, by its own text. -/
  | other (text : String)
deriving DecidableEq, Repr

namespace Code

/-- The codes of the library's own failures. -/
def all : List Code :=
  [.arity, .bound, .rawHint, .expression, .notSubscriptable, .returnHint, .identifier, .unknownName,
    .unresolvable, .notAClass]

/-- The text of a code. -/
def text : Code → String
  | .arity => "HWD1001"
  | .bound => "HWD1002"
  | .rawHint => "HWD1003"
  | .expression => "HWD1004"
  | .notSubscriptable => "HWD1005"
  | .returnHint => "HWD1006"
  | .identifier => "HWD2001"
  | .unknownName => "HWD2002"
  | .unresolvable => "HWD2003"
  | .notAClass => "HWD2004"
  | .other text => text

/-- The code of a text. -/
def ofText (s : String) : Code := (all.find? fun c => c.text = s).getD (.other s)

end Code

/-- How grave a diagnostic is. -/
inductive Severity where
  | error | warning
  /-- A grade of a caller's own, by its text. -/
  | other (text : String)
deriving DecidableEq, Repr

namespace Severity

/-- The text of a severity. -/
def text : Severity → String
  | .error => "error"
  | .warning => "warning"
  | .other text => text

/-- The severity of a text. -/
def ofText (s : String) : Severity :=
  if s = "error" then .error else if s = "warning" then .warning else .other s

end Severity

/-- A report of a failure. -/
structure Diagnostic where
  code : Code
  severity : Severity
  message : String
  /-- The values at fault, where they are kept. -/
  culprits? : Option (List Value)
  advice? : Option String
deriving Repr

namespace Diagnostic

/-- The text that stands for the label of a site at the start of a message. -/
def placeholder : String := "$HINT_SITE$ "

/-- An error whose message starts with the placeholder of its site. -/
def siteError (code : Code) (message : String) (culprits? : Option (List Value)) : Diagnostic :=
  ⟨code, .error, placeholder ++ message, culprits?, none⟩

/-- The diagnostic with the label of a site in place of every placeholder. -/
def atSite (d : Diagnostic) (label : String) : Diagnostic :=
  { d with message := Text.replaceAll placeholder label d.message }

/-- A diagnostic on one line. Empty advice is left out. -/
def format (d : Diagnostic) : String :=
  let body := d.severity.text ++ " " ++ d.code.text ++ ": " ++ d.message
  match d.advice? with
  | none => body
  | some "" => body
  | some a => body ++ " Hint: " ++ a

end Diagnostic

end TypeHints
