import TypeHints.Config
import TypeHints.Diagnostic
import TypeHints.Hint.Written
import TypeHints.Sane

/-!
# Results as JSON

The JSON forms of hints, values, diagnostics, tables, sane hints and settings. What a label is
called is asked of `Shown`, and its store says what a forward reference has been resolved to.
-/

namespace TypeHints

/-- How the labels inside a result are shown. -/
structure Shown where
  /-- The name that a label was declared under. -/
  name? : Label → Option String
  store : Store
  classes : Classes

namespace Json

/-- An integer as JSON. -/
def ofInt (i : Int) : Json := .num (.ofInt i)

/-- Something optional as JSON. -/
def ofOption {α : Type} (f : α → Json) : Option α → Json
  | some a => f a
  | none => .null

/-- Texts as JSON. -/
def ofTexts (ss : List String) : Json := .arr (ss.map .str)

/-- A pair as JSON. -/
def ofPair (k v : Json) : Json := .arr [k, v]

/-- A value that JSON has no form for, by a tag. -/
def tagged (tag : String) (members : List (String × Json)) : Json :=
  .obj (("$", .str tag) :: members)

/-- A number as JSON: a small integer as it stands, any other one by its text. -/
def ofNumber (x : Binary64) : Json :=
  match x.safeInteger? with
  | some _ => .num x
  | none => tagged "num" [("v", .str (if x.isNegativeZero then "-0" else x.toText))]

/-- A literal as JSON. -/
def ofLiteral : Literal → Json
  | .string s => .str s
  | .number x => ofNumber x
  | .bool b => .bool b
  | .bigint i => tagged "bigint" [("v", .str (decimalInt i))]
  | .null => .null
  | .undefined => tagged "undefined" []

/-- The name of a label, null if it has none. -/
def ofLabel (sh : Shown) (id : Label) : Json := ofOption .str (sh.name? id)

end Json

namespace Hint

/-- A node of a hint as JSON. -/
def nodeJson (kind : String) (members : List (String × Json)) : Json :=
  .obj (("k", .str kind) :: members)

/-- A declared thing as JSON. -/
def nominalJson (sh : Shown) (kind : String) (id : Label) (name : String) : Json :=
  nodeJson kind [("id", .ofLabel sh id), ("name", .str name)]

/-- A forward reference as JSON, with its resolution. -/
def refJson (sh : Shown) (r : ForwardRef) : Json :=
  let kept := sh.store.resolutions.get? r.id
  nodeJson "forwardRef"
    [("name", .str r.name), ("scope", .str r.scope), ("refKind", .str r.kind.name),
      ("target", Json.ofOption (fun k => .ofLabel sh k.target) kept),
      ("targetModule", Json.ofOption (fun k => .str k.moduleName) kept),
      ("owner", Json.ofOption (.ofLabel sh) r.owner?)]

/-- An origin as JSON. -/
def originJson (sh : Shown) : Origin → Json
  | .template t => nominalJson sh "generic" t.id t.name
  | .alias a => nominalJson sh "alias" a.id a.name
  | .forwardRef r => refJson sh r

mutual

/-- A hint as JSON. -/
def toJson (sh : Shown) : Hint → Json
  | .any => nodeJson "any" []
  | .primitive p => nodeJson "primitive" [("name", .str p.name)]
  | .ofClass c => nominalJson sh "class" c.id c.name
  | .literal _ v => nodeJson "literal" [("value", Json.ofLiteral v)]
  | .union _ hs => nodeJson "union" [("members", .arr (toJsons sh hs))]
  | .tuple _ hs => nodeJson "tuple" [("elements", .arr (toJsons sh hs))]
  | .parameter p => nominalJson sh "typeParameter" p.id p.name
  | .template t => originJson sh (.template t)
  | .alias a => originJson sh (.alias a)
  | .subscripted _ o hs =>
    nodeJson "subscripted" [("origin", originJson sh o), ("args", .arr (toJsons sh hs))]
  | .forwardRef r => refJson sh r
  | .deferred _ t => nodeJson "deferred" [("expr", .str t)]

/-- Hints as JSON, in order. -/
def toJsons (sh : Shown) : List Hint → List Json
  | [] => []
  | h :: hs => toJson sh h :: toJsons sh hs

end

end Hint

namespace Value

/-- How deep objects are shown. -/
def shownDepth : Nat := 6

/-- An object at a depth, unless it is too deep. -/
def atDepth (depth : Nat) (j : Json) : Json := if shownDepth < depth then .tagged "deep" [] else j

/-- Whether a class has a name in the builtin namespace, or is no builtin class. -/
def hasShownClass (id : Label) : Bool :=
  (Builtin.classes.get? id).isNone || (Builtin.lookup? (Builtin.classes.name id)).any fun h =>
    h.plain?.isSome

/-- A label of a class under a tag. -/
def classJson (sh : Shown) (tag key : String) (id : Label) : Json :=
  .tagged tag [(key, .ofLabel sh id)]

/-- An object without members that can be shown. -/
def emptyJson : Json := .tagged "object" [("v", .arr [])]

/-- An instance of a class: one of the root class, or of a class that is not shown, is an object. -/
def instanceJson (sh : Shown) (id : Label) : Json :=
  if id = Builtin.objectId ∨ !hasShownClass id then emptyJson else classJson sh "instance" "of" id

/-- The object that the instances of a class share their members through. That of functions is a
function and that of arrays an array. -/
def prototypeJson (sh : Shown) (id : Label) : Json :=
  if id = Builtin.functionId then .tagged "function" []
  else if id = Builtin.arrayId then .tagged "array" [("v", .arr [])]
  else if hasShownClass id then classJson sh "prototype" "of" id
  else emptyJson

/-- The hint that an object stands for, as JSON. What was written down is read beside everything in
the store, which it does not change. -/
def writtenJson? (sh : Shown) (v : Value) : Option Json :=
  match (v.readHint sh.classes : Attempt Store Empty (Option Hint)).run sh.store with
  | (.ok (some h), s) => some (.tagged "hint" [("hint", h.toJson { sh with store := s })])
  | _ => none

/-- An object with shown members. -/
def membersJson (members : List Json) : Json := .tagged "object" [("v", .arr members)]

/-- The cell of a forward reference at a depth. -/
def cellJson (sh : Shown) (depth : Nat) (r : ForwardRef) : Json :=
  membersJson ((cellMembers sh.store r).map fun m => .ofPair (.str m.1) (part m.2))
where
  /-- A member of a cell. -/
  part : Value → Json
    | .undefined => .tagged "undefined" []
    | .string s => .str s
    | .ofClass id => classJson sh "class" "v" id
    | _ => atDepth (depth + 1) emptyJson

mutual

/-- A value as JSON, at a depth. -/
def toJson (sh : Shown) (depth : Nat) : Value → Json
  | .undefined => .tagged "undefined" []
  | .null => .null
  | .bool b => .bool b
  | .number x => .ofNumber x
  | .bigint i => .tagged "bigint" [("v", .str (decimalInt i))]
  | .string s => .str s
  | .symbol d => .tagged "symbol" [("v", .str d)]
  | .ofClass id => if hasShownClass id then classJson sh "class" "v" id else .tagged "function" []
  | .function _ => .tagged "function" []
  | .prototype id => atDepth depth (prototypeJson sh id)
  | .instance id => atDepth depth (instanceJson sh id)
  | .boxed v =>
    atDepth depth
      (instanceJson sh ((v.primitive?.bind Builtin.wrapper?).getD Builtin.objectId))
  | .array vs => atDepth depth (.tagged "array" [("v", .arr (toJsons sh (depth + 1) vs))])
  | .object ms =>
    atDepth depth ((writtenJson? sh (.object ms)).getD (membersJson (pairJsons sh (depth + 1) ms)))
  | .bare ms =>
    atDepth depth ((writtenJson? sh (.object ms)).getD (membersJson (pairJsons sh (depth + 1) ms)))
  | .hint h => atDepth depth (.tagged "hint" [("hint", h.toJson sh)])
  | .cell r => atDepth depth (cellJson sh depth r)

/-- Values as JSON, in order. -/
def toJsons (sh : Shown) (depth : Nat) : List Value → List Json
  | [] => []
  | v :: vs => toJson sh depth v :: toJsons sh depth vs

/-- Named values as JSON, in order. -/
def pairJsons (sh : Shown) (depth : Nat) : List (String × Value) → List Json
  | [] => []
  | (k, v) :: ms => .ofPair (.str k) (toJson sh depth v) :: pairJsons sh depth ms

end

end Value

/-- A diagnostic as JSON. -/
def Diagnostic.toJson (sh : Shown) (d : Diagnostic) : Json :=
  .obj ([("code", .str d.code.text), ("severity", .str d.severity.text),
    ("message", .str d.message)] ++
    (d.culprits?.map fun vs => ("culprits", Json.arr (Value.toJsons sh 0 vs))).toList
    ++ (d.advice?.map fun a => ("hint", Json.str a)).toList)

/-- The bindings of a table as JSON. -/
def Table.toJson (sh : Shown) (t : Table) : Json :=
  .arr (t.entries.entries.map fun e => .ofPair (.ofLabel sh e.1.id) (e.2.toJson sh))

/-- A sane hint as JSON. -/
def Sane.toJson (sh : Shown) (s : Sane) : Json :=
  if s = ignorable then .obj [("ignorable", .bool true)]
  else
    .obj [("hint", s.hint.toJson sh), ("repr", .str s.hint.repr), ("table", s.table.toJson sh),
      ("recursable", .arr (Hint.toJsons sh s.guard.hints)), ("overridden", .ofTexts s.overridden)]

/-- Overrides as JSON. -/
def overridesJson (ps : List (String × String)) : Json :=
  .arr (ps.map fun p => .ofPair (.str p.1) (.str p.2))

/-- The contents of a configuration file as JSON. -/
def ConfigFile.toJson (f : ConfigFile) : Json :=
  .obj [("$schema", Json.ofOption .str f.schema?),
    ("verbose", Json.ofOption .bool f.options.verbose?),
    ("overrides", Json.ofOption overridesJson f.options.overrides?),
    ("defaultScopeName", Json.ofOption .str f.options.defaultScope?)]

/-- Settings as JSON. -/
def Config.toJson (c : Config) : Json :=
  .obj [("verbose", .bool c.verbose), ("overrides", overridesJson c.overrides.entries),
    ("defaultScopeName", .str c.defaultScope)]

end TypeHints
