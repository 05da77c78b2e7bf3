import TypeHints.Expression.Grammar
import TypeHints.Forward.Scope
import TypeHints.Text.Blank

/-!
# Evaluating type expressions

A type expression is read as a tree and the tree is turned into a hint. Names are looked up in a
scope with the trust of the evaluator, so that a name that is not defined yet becomes a forward
reference. All parts of a union, a tuple or a list of arguments are turned into hints before the
first failure among them counts; a failing head keeps its arguments from being looked at.

A name is cut at its dots. Its root is looked up in the scope, and the members are found from there:
a member of a reference is a reference again, of the longer name and in the scope of the first one;
a member of a class has to be an own member that is a class. No other hint has members.

Arguments make an application of a template or of an alias. Applied to a reference, they are kept
beside its sealed twin, which takes no more arguments. How many arguments there are is not checked
here, as the declaration of a reference need not be known yet.

Most keywords are names of the builtin namespace, which a scope may shadow; those for everything and
for nothing at all are not (`keywordHint`).
-/

namespace TypeHints.Expression

/-- The hint of a keyword that no scope can shadow. -/
def keywordHint : Keyword → Attempt Naming Cause Hint
  | .any => pure .any
  | .unknown => pure .any
  | .undefined => do return .literal (← Naming.onStore Store.fresh) .undefined
  | .void => do return .literal (← Naming.onStore Store.fresh) .undefined
  | k => Naming.lookup (k.scopeName?.getD "") (some .evaluator)

/-- The member of a hint by name: a member of a reference is a reference, a member of a class is one
of its own members that is a class. -/
def memberHint (w : World) (text : String) (owner : Hint) (name : String) :
    Attempt Naming Cause Hint :=
  match owner with
  | .forwardRef r => do return .forwardRef (← Naming.onRefs fun l => Registry.member l r name)
  | .ofClass c =>
    match (w.classes.member? c.id name).bind Value.hintClass? with
    | some id => do
      return .ofClass (← Naming.onStore (Store.classHintOf w.classes id))
    | none => .fail (.noClassMember text owner name)
  | _ => .fail (.noClassMember text owner name)

/-- The hint of a name with members, from left to right. -/
def memberPath (w : World) (text : String) : Hint → List String → Attempt Naming Cause Hint
  | h, [] => pure h
  | h, name :: rest => do memberPath w text (← memberHint w text h name) rest

/-- Apply an origin to arguments. -/
def applyArguments (text : String) (origin : Hint) (args : List Hint) :
    Attempt Naming Cause Hint :=
  match origin with
  | .template t => do return .subscripted (← Naming.onStore Store.fresh) (.template t) args
  | .alias a => do return .subscripted (← Naming.onStore Store.fresh) (.alias a) args
  | .forwardRef r => do
    let twin ← Naming.onRefs fun l => Registry.sealedTwin l r
    return .subscripted (← Naming.onStore Store.fresh) (.forwardRef twin) args
  | _ => .fail (.notSubscriptable text origin)

/-- The part of a text from one place to another. -/
def slice (text : String) (start stop : Nat) : String :=
  String.ofList ((text.toList.take stop).drop start)

mutual

/-- The hint of a type expression inside the text of the whole expression. -/
def convert (w : World) (text : String) : Node → Attempt Naming Cause Hint
  | .keyword k => keywordHint k
  | .reference root members none => do
    memberPath w text (← Naming.lookup root (some .evaluator)) members
  | .reference root members (some args) => do
    let origin ← memberPath w text (← Naming.lookup root (some .evaluator)) members
    let hs ← Attempt.ofExcept (collect (← convertAll w text args))
    applyArguments text origin hs
  | .union nodes => do
    let hs ← Attempt.ofExcept (collect (← convertAll w text nodes))
    return .union (← Naming.onStore Store.fresh) hs
  | .array node => do
    let h ← convert w text node
    return .subscripted (← Naming.onStore Store.fresh) (.template Builtin.array) [h]
  | .tuple nodes => do
    let hs ← Attempt.ofExcept (collect (← convertAll w text nodes))
    return .tuple (← Naming.onStore Store.fresh) hs
  | .literal v => do return .literal (← Naming.onStore Store.fresh) v
  | .group node => convert w text node
  | .unsupported _ start stop => .fail (.unsupportedSyntax text (slice text start stop))

/-- The outcomes of all nodes, first to last; a failure of one does not stop the others. -/
def convertAll (w : World) (text : String) :
    List Node → Attempt Naming Cause (List (Except Cause Hint))
  | [] => pure []
  | node :: nodes => fun n =>
    match convert w text node n with
    | (r, n') =>
      match convertAll w text nodes n' with
      | (.ok rs, n'') => (.ok (r :: rs), n'')
      | (.error e, n'') => (.error e, n'')

end

/-- Evaluate a text as one type expression. -/
def evaluate (w : World) (text : String) : Attempt Naming Cause Hint :=
  match parse? (Text.trimChars text.toList) with
  | none => .fail (.invalidExpression text)
  | some node => convert w (Text.trim text) node

end TypeHints.Expression
