import TypeHints.Value.Members
import TypeHints.Text.Segments

/-!
# Texts of values

`Value.text?` is the text that a value has inside a message. An object may bring a text of its own
by a member `toString`, or else `valueOf`, that gives a primitive value when it is called. Some
objects have no text, and asking for it is a fault of its own, which `TextFault.message` words.
-/

namespace TypeHints

/-- Why a value has no text. -/
inductive TextFault where
  /-- Nothing says how to turn the object into a primitive value. -/
  | noPrimitive
  /-- A symbol has no text inside an object. -/
  | symbol
  /-- An object of a standard class was not made by that class. -/
  | notMade (name : String)
  /-- The member that should give the text refuses to be called. -/
  | refused (fault : CallFault)
deriving DecidableEq, Repr

/-- The wording of a text fault. -/
def TextFault.message : TextFault → String
  | .noPrimitive => "Cannot convert object to primitive value"
  | .symbol => "Cannot convert a Symbol value to a string"
  | .refused f => f.message
  | .notMade "Date" =>
    "Method Date.prototype.toString called on incompatible receiver [object Object]"
  | .notMade "RegExp" => "RegExp.prototype.source getter called on non-RegExp object"
  | .notMade "Uint8Array" =>
    "Method %TypedArray%.prototype.join called on incompatible receiver [object Object]"
  | .notMade "URL" => "Receiver must be an instance of class URL"
  | .notMade "Symbol" => "Symbol.prototype [ @@toPrimitive ] requires that \x27this\x27 be a Symbol"
  | .notMade "Function" => "Function.prototype.toString requires that \x27this\x27 be a Function"
  | .notMade n => n ++ ".prototype.toString requires that \x27this\x27 be a " ++ n

namespace Value

/-- The name of the nearest standard class that an object belongs to which inherits from a shared
object. -/
def standardName? (cs : Classes) (shared : Label) : Option String :=
  ((cs.sharedLine shared).filterMap fun i => (Builtin.classList.lookup i).map Prod.fst).head?

/-- The text of an object that no class made and that inherits from a shared object, by the nearest
standard class. -/
def instanceText? (cs : Classes) (shared : Label) : Except TextFault String :=
  match standardName? cs shared with
  | none => .error .noPrimitive
  | some n =>
    if n = "Array" then .ok ""
    else if n = "Error" ∨ n = "TypeError" ∨ n = "RangeError" then .ok n
    else if n ∈ ["Object", "Set", "Map", "Promise", "ArrayBuffer", "DataView"] then
      .ok ("[object " ++ n ++ "]")
    else .error (.notMade n)

/-- The text of the shared object of a class: that of a standard class is a value of the class
itself in some cases. -/
def sharedText? (cs : Classes) (id : Label) : Except TextFault String :=
  match (Builtin.classList.lookup id).map Prod.fst with
  | some "String" => .ok ""
  | some "Number" => .ok "0"
  | some "Boolean" => .ok "false"
  | some "Function" => .ok "function () \x7b [native code] \x7d"
  | some "RegExp" => .ok "/(?:)/"
  | _ => instanceText? cs id

/-- The source of a class, which a standard class does not show. -/
def classSource (cs : Classes) (id : Label) : String :=
  if (Builtin.classList.lookup id).isSome then
    "function " ++ cs.name id ++ "() \x7b [native code] \x7d"
  else "class " ++ cs.name id ++ " \x7b\x7d"

/-- The text of a symbol. -/
def symbolText (description : String) : String := "Symbol(" ++ description ++ ")"

/-- The text of a value that is no object. -/
def primitiveText? : Value → Option (Except TextFault String)
  | .undefined => some (.ok "undefined")
  | .null => some (.ok "null")
  | .bool b => some (.ok (if b then "true" else "false"))
  | .number x => some (.ok x.toText)
  | .bigint i => some (.ok (decimalInt i))
  | .string s => some (.ok s)
  | .symbol _ => some (.error .symbol)
  | _ => none

/-- The text that a member gives, if it can be called and gives a primitive value. -/
def givenText? (cs : Classes) (member? : Option Value) : Option (Except TextFault String) :=
  match member?.bind (call? cs) with
  | none => none
  | some (.error f) => some (.error (.refused f))
  | some (.ok v) => v.primitiveText?

/-- The text of an object whose members are looked up by `find?`. Where nothing is found under
`toString`, it is `inherited?`, if there is such a text. -/
def textBy (cs : Classes) (find? : String → Option Value) (inherited? : Option String) :
    Except TextFault String :=
  match find? "toString", inherited? with
  | none, some s => .ok s
  | member?, _ =>
    match givenText? cs member? with
    | some r => r
    | none => (givenText? cs (find? "valueOf")).getD (.error .noPrimitive)

/-- The text of a class. The statics of its ancestors count as its own. -/
def classText? (cs : Classes) (id : Label) : Except TextFault String :=
  textBy cs (fun name => (cs.lineage id).findSome? fun i => (cs.statics i).lookup name)
    (some (classSource cs id))

mutual

/-- The text of a value inside a message. -/
def text? (cs : Classes) : Value → Except TextFault String
  | .undefined => .ok "undefined"
  | .null => .ok "null"
  | .bool b => .ok (if b then "true" else "false")
  | .number x => .ok x.toText
  | .bigint i => .ok (decimalInt i)
  | .string s => .ok s
  | .symbol d => .ok (symbolText d)
  | .ofClass id => classText? cs id
  | .prototype id => sharedText? cs id
  | .instance id => instanceText? cs (cs.sharedOf id)
  | .function f => .ok f.source
  | .array vs => (texts? cs vs).map (Text.joinWith ",")
  | .object ms => textBy cs (ms.lookup ·) (some "[object Object]")
  | .bare ms => textBy cs (ms.lookup ·) none
  | .boxed (.symbol _) => .error .symbol
  | .boxed v => text? cs v
  | .hint _ => .ok "[object Object]"
  | .cell _ => .ok "[object Object]"

/-- The texts of the elements of an array: null, undefined and what is missing have an empty one, a
symbol has none. -/
def texts? (cs : Classes) : List Value → Except TextFault (List String)
  | [] => .ok []
  | v :: vs => do
    let t ← match v with
      | .undefined => .ok ""
      | .null => .ok ""
      | .symbol _ => .error .symbol
      | v => text? cs v
    let ts ← texts? cs vs
    return t :: ts

end

/-- The text of a value that is put into a text without being asked for its own; a symbol does not
turn into one by itself. -/
def inlineText? (cs : Classes) : Value → Except TextFault String
  | .symbol _ => .error .symbol
  | v => v.text? cs

end Value

end TypeHints
