import TypeHints.Diagnostic
import TypeHints.Hint.Repr
import TypeHints.Value.Text

/-!
# Causes of failure

What can go wrong, one constructor for each way, with what the report needs. `Cause.diagnostic` is
the one place where causes are worded: it gives the code, the message and the values at fault. All
but one are errors at a site, with the placeholder in front of the message. A name that a scope does
not know is a warning to the caller instead, with a piece of advice, and is not put under a label.

An operation can also break off without a report (`Crash`), where a message needs the text of a
value that has none, a chain of hints is too long to follow, or a hint that is to be interned has no
key. A `Failure` is either of the two.
-/

namespace TypeHints

/-- A way in which an operation on hints can fail. -/
inductive Cause where
  /-- `hint` is applied to no arguments. -/
  | noArguments (hint : Hint)
  /-- `hint` is applied to more arguments than its origin declares parameters. -/
  | tooManyArguments (hint : Hint) (given declared : Nat)
  /-- In `hint` the argument of `param` is no subtype of its bound. -/
  | boundViolated (hint : Hint) (param : TypeParameter) (arg bound : Hint)
  /-- A raw hint of no known form; `text` is its text. -/
  | unsupportedValue (raw : Value) (text : String)
  /-- A union without members. -/
  | emptyUnion
  /-- A text that is not one type expression. -/
  | invalidExpression (text : String)
  /-- A type expression with a part of an unsupported form. -/
  | unsupportedSyntax (text part : String)
  /-- A member of `owner` that is no class. -/
  | noClassMember (text : String) (owner : Hint) (name : String)
  /-- Arguments for a hint that takes none. -/
  | notSubscriptable (text : String) (hint : Hint)
  /-- Arguments for a sealed reference. -/
  | alreadySubscripted (name : String)
  /-- The result of an asynchronous callable is no promise. -/
  | notPromise (callable : String) (hint : Hint)
  /-- The result of a generator is none of the templates that fit. -/
  | notGenerator (callable : String) (hint : Hint) (templates : List Template)
  /-- A text that is no dotted name where `label` has to be one. -/
  | invalidName (label text : String)
  /-- A name that a scope does not know, asked for by a caller who may not defer it. -/
  | unknownName (scope name : String)
  /-- A reference that names nothing. -/
  | unresolvable (name scope : String)
  /-- A reference that names something else than a class. -/
  | notAClass (name candidate : String) (value : Value)
  /-- An alias whose body cannot be read. -/
  | unreadableAlias (name message : String)
deriving Repr

namespace Cause

/-- The start of every message about a type expression. -/
def about (text : String) : String := "hint expression " ++ Text.quote text

/-- The report of a failure. -/
def diagnostic : Cause → Diagnostic
  | .noArguments h =>
    .siteError .arity ("type hint " ++ h.repr ++ " subscripted by no type arguments.") none
  | .tooManyArguments h given declared =>
    .siteError .arity ("type hint " ++ h.repr ++ " subscripted by " ++ decimal given ++
      " type arguments but declares only " ++ decimal declared ++ " type parameters.") none
  | .boundViolated h p arg bound =>
    .siteError .bound ("type hint " ++ h.repr ++ " type parameter " ++ p.name ++
      " subscripted by " ++ arg.repr ++ " violating bound " ++ bound.repr ++ ".") (some [.hint arg])
  | .unsupportedValue raw text =>
    .siteError .rawHint ("type hint " ++ text ++ " unsupported.") (some [raw])
  | .emptyUnion => .siteError .rawHint "type hint empty union unsupported." none
  | .invalidExpression text =>
    .siteError .expression (about text ++ " not a valid type expression.") none
  | .unsupportedSyntax text part =>
    .siteError .expression (about text ++ " syntax " ++ Text.quote part ++ " unsupported.") none
  | .noClassMember text owner name =>
    .siteError .expression
      (about text ++ " type " ++ owner.repr ++ " has no class member " ++ Text.quote name ++ ".")
      none
  | .notSubscriptable text h =>
    .siteError .notSubscriptable (about text ++ " type " ++ h.repr ++ " not subscriptable.") none
  | .alreadySubscripted name =>
    .siteError .notSubscriptable
      ("forward reference " ++ Text.quote name ++ " already subscripted.") none
  | .notPromise callable h =>
    .siteError .returnHint ("async callable " ++ callable ++ "() return type hint " ++ h.repr ++
      " not Promise<...>.") none
  | .notGenerator callable h templates =>
    .siteError .returnHint ("generator callable " ++ callable ++ "() return type hint " ++ h.repr ++
      " not one of " ++ Text.joinWith ", " (templates.map Template.name) ++ ".") none
  | .invalidName label text =>
    .siteError .identifier
      (label ++ " " ++ Text.quote text ++ " not a valid dotted identifier.") none
  | .unknownName scope name =>
    ⟨.unknownName, .warning,
      "Forward scope " ++ Text.quote scope ++ " has no name " ++ Text.quote name ++ ".", none,
      some "Only the sanitizer may defer undefined names"⟩
  | .unresolvable name scope =>
    .siteError .unresolvable ("forward reference " ++ Text.quote name ++
      " unresolvable from scope " ++ Text.quote scope ++ ".") none
  | .notAClass name candidate value =>
    .siteError .notAClass ("forward reference " ++ Text.quote name ++ " referent " ++
      Text.quote candidate ++ " not a class.") (some [value])
  | .unreadableAlias name message =>
    .siteError .unresolvable ("type alias " ++ name ++ " value unresolvable: " ++ message) none

end Cause

/-- Why an operation breaks off without a report. -/
inductive Crash where
  /-- A message needs the text of a value that has none. -/
  | noText (fault : TextFault)
  /-- A chain of hints that refer to one another is too long to follow. -/
  | tooDeep
  /-- A hint that is to be interned has no key. -/
  | unkeyed (message : String)
deriving DecidableEq, Repr

/-- The wording of a crash. A chain that is too long ends without a word. -/
def Crash.message : Crash → String
  | .noText f => f.message
  | .tooDeep => ""
  | .unkeyed message => message

/-- The name of the kind of crash. -/
def Crash.kindName : Crash → String
  | .tooDeep => "RangeError"
  | .noText _ | .unkeyed _ => "TypeError"

/-- How an operation ends when it gives no value. -/
inductive Failure where
  | cause (c : Cause)
  | crash (c : Crash)
deriving Repr

end TypeHints
