import TypeHints.Value.Text

/-!
# Raw hints without a key

The structural key of a hint is put together from the keys of its parts. An object that counts as a
hint by the kind that it names may lack a part of its key, or have it in a form that has no key or
no text. Nothing is wrong with the object as long as its key is not asked for; when it is, the
attempt breaks off. `Value.keyFault?` is the message with which it does so where a raw hint is
interned:

* a part that is undefined or null has no kind to make a key by, and any other value that names no
  kind is passed over;
* where a list of parts belongs there has to be an array, whose elements come one after the other;
* a name and a literal need a text, and the text of a deferred hint is written as JSON;
* a class is keyed by its constructor, which has to be an object or a symbol.

Only composite hints and literals are interned, so a raw hint of another kind is asked for its key
only as a part of one of them.
-/

namespace TypeHints

namespace Value

/-- The message when a member of undefined or null is asked for. -/
def unreadable (holder member : String) : String :=
  "Cannot read properties of " ++ holder ++ " (reading \x27" ++ member ++ "\x27)"

/-- The message of a text that cannot be made. -/
def textFault? : Except TextFault String → Option String
  | .ok _ => none
  | .error f => some f.message

/-! ### Values as JSON -/

/-- The message when a big integer is to be written as JSON. -/
def bigintFault : String := "Do not know how to serialize a BigInt"

/-- Whether a value is a big integer, bare or wrapped. -/
def isBigint : Value → Bool
  | .bigint _ | .boxed (.bigint _) => true
  | _ => false

end Value

namespace Hint

mutual

/-- Whether a literal inside a hint is a big integer. -/
def holdsBigint : Hint → Bool
  | .literal _ (.bigint _) => true
  | .union _ hs => anyHoldsBigint hs
  | .tuple _ hs => anyHoldsBigint hs
  | .subscripted _ _ hs => anyHoldsBigint hs
  | _ => false

/-- Whether a literal inside one of some hints is a big integer. -/
def anyHoldsBigint : List Hint → Bool
  | [] => false
  | h :: hs => holdsBigint h || anyHoldsBigint hs

end

end Hint

namespace Value

variable (cs : Classes)

/-- What goes wrong with the value that a member gives which is called for it. -/
def givenFault? (member? : Option Value) : Option (Option String) :=
  (member?.bind (call? cs)).map fun
    | .error f => some f.message
    | .ok v => if v.isBigint then some bigintFault else none

/-- What goes wrong with an object without members of its own, by the nearest standard class. -/
def instanceJsonFault? (shared : Label) : Option String :=
  match standardName? cs shared with
  | some "Date" => some "this is not a Date object."
  | some "URL" => some (TextFault.notMade "URL").message
  | _ => none

mutual

/-- The message with which writing a value as JSON breaks off. -/
def jsonFault? : Value → Option String
  | .array vs => jsonFaults? vs
  | .object ms => (givenFault? cs (ms.lookup "toJSON")).getD (memberJsonFault? ms)
  | .bare ms => (givenFault? cs (ms.lookup "toJSON")).getD (memberJsonFault? ms)
  | .ofClass id =>
    (givenFault? cs ((cs.lineage id).findSome? fun i => (cs.statics i).lookup "toJSON")).join
  | .instance id => instanceJsonFault? cs (cs.sharedOf id)
  | .prototype id => instanceJsonFault? cs id
  | .hint h => if h.holdsBigint then some bigintFault else none
  | v => if v.isBigint then some bigintFault else none

/-- The first such message among values. -/
def jsonFaults? : List Value → Option String
  | [] => none
  | v :: vs => (jsonFault? v).or (jsonFaults? vs)

/-- The first such message among the members of an object. -/
def memberJsonFault? : List (String × Value) → Option String
  | [] => none
  | (_, v) :: ms => (jsonFault? v).or (memberJsonFault? ms)

end

/-! ### Keys -/

/-- What goes wrong with a member of an object as a part of a key. -/
structure PartFault where
  /-- With the member as a hint. -/
  hint? : Option String
  /-- With the member as a list of hints. -/
  list? : Option String

/-- What goes wrong with a member that is missing. -/
def PartFault.missing : PartFault :=
  ⟨some (unreadable "undefined" "kind"), some (unreadable "undefined" "map")⟩

/-- Whether a value can be told from all others by what it is. -/
def hasIdentity : Value → Bool
  | .undefined | .null | .bool _ | .number _ | .bigint _ | .string _ => false
  | _ => true

/-- The message with which the key of an object with given members breaks off, given what goes wrong
with each of them. -/
def writtenFault? (ms : List (String × Value)) (fs : List (String × PartFault)) : Option String :=
  let value name := (ms.lookup name).getD .undefined
  let fault name := (fs.lookup name).getD .missing
  match ms.lookup "kind" with
  | some (.string "primitive") => textFault? ((value "name").inlineText? cs)
  | some (.string "class") =>
    if (value "ctor").hasIdentity then none else some "Invalid value used as weak map key"
  | some (.string "literal") => textFault? ((value "value").text? cs)
  | some (.string "union") => (fault "members").list?
  | some (.string "tuple") => (fault "elements").list?
  | some (.string "subscripted") => (fault "origin").hint?.or (fault "args").list?
  | some (.string "deferred") => jsonFault? cs (value "expression")
  | _ => none

mutual

/-- The message with which the key of a part of a hint breaks off. -/
def partFault? : Value → Option String
  | .undefined => some (unreadable "undefined" "kind")
  | .null => some (unreadable "null" "kind")
  | .object ms => writtenFault? cs ms (memberFaults ms)
  | .bare ms => writtenFault? cs ms (memberFaults ms)
  | _ => none

/-- The first such message among parts. -/
def partFaults? : List Value → Option String
  | [] => none
  | v :: vs => (partFault? v).or (partFaults? vs)

/-- What goes wrong with each member of an object. -/
def memberFaults : List (String × Value) → List (String × PartFault)
  | [] => []
  | (name, v) :: ms => (name, ⟨partFault? v, listFault? name v⟩) :: memberFaults ms

/-- The message with which the keys of a list of parts break off, the list being the member with a
name. -/
def listFault? (name : String) : Value → Option String
  | .array vs => partFaults? vs
  | .undefined => some (unreadable "undefined" "map")
  | .null => some (unreadable "null" "map")
  | _ => some ("hint." ++ name ++ ".map is not a function")

end

mutual

/-- The message with which the key of the hint breaks off that a raw hint is coerced to. -/
def rawFault? : Value → Option String
  | .array vs => rawFaults? vs
  | v => v.partFault? cs

/-- The first such message among raw hints. -/
def rawFaults? : List Value → Option String
  | [] => none
  | v :: vs => (rawFault? v).or (rawFaults? vs)

end

/-- Whether a raw hint is of a kind that is interned. -/
def isComposite (v : Value) : Bool :=
  match v, v.written?.bind (List.lookup "kind") with
  | .array _, _ => true
  | _, some (.string k) => ["subscripted", "union", "tuple", "literal"].contains k
  | _, _ => false

/-- The message with which interning a raw hint breaks off. -/
def keyFault? (v : Value) : Option String := if v.isComposite then v.rawFault? cs else none

end Value

end TypeHints
