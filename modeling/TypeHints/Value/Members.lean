import TypeHints.Number.Decimal
import TypeHints.World
import TypeHints.Json.Members

/-!
# Members of values

`Value.member?` is the own member of a value by name. Objects, arrays, classes and functions have
members, primitive values have none; what an ancestor offers is not an own member. The store says
what the cell of a reference holds just now.
-/

namespace TypeHints.Value

/-- A natural number as a value. -/
def ofNat (n : Nat) : Value := .number (.ofInt n)

/-- Hints as a value. -/
def ofHints (hs : List Hint) : Value := .array (hs.map .hint)

/-- The class of a template as a value. -/
def ofClass? : Option Label → Value
  | some id => .ofClass id
  | none => .undefined

/-- The own members of the cell of a reference: its owner, then its resolution. A resolution that
was dropped leaves its members behind. -/
def cellMembers (s : Store) (r : ForwardRef) : List (String × Value) :=
  ("owner", (r.owner?.map fun _ => .object []).getD .undefined) ::
    match s.resolutions.get? r.id with
    | some k => [("target", .ofClass k.target), ("targetModule", .string k.moduleName)]
    | none =>
      if r.id ∈ s.released then [("target", .undefined), ("targetModule", .undefined)] else []

/-- The own members of a hint. -/
def hintMembers (w : World) (h : Hint) : List (String × Value) :=
  ("kind", .string h.kindName) :: match h with
  | .any => []
  | .primitive p => [("name", .string p.name)]
  | .ofClass c => [("name", .string c.name), ("ctor", .ofClass c.id)]
  | .literal _ v => [("value", .ofLiteral v)]
  | .union _ hs => [("members", ofHints hs)]
  | .tuple _ hs => [("elements", ofHints hs)]
  | .parameter p =>
    [("name", .string p.name), ("bound", ((w.bound? p).map .hint).getD .undefined),
      ("constraints",
        ((((w.params.get? p.id).bind ParamDecl.constraints?).map ofHints)).getD .undefined),
      ("variadic", .bool p.variadic)]
  | .template t =>
    [("name", .string t.name), ("typeParameters", ofHints (t.params.map .parameter)),
      ("ctor", ofClass? t.class?)]
  | .alias a =>
    [("name", .string a.name), ("typeParameters", ofHints (a.params.map .parameter)),
      ("value", .function ⟨"", 0, "", none⟩)]
  | .subscripted _ o hs => [("origin", .hint o.toHint), ("args", ofHints hs)]
  | .forwardRef r =>
    [("name", .string r.name), ("scopeName", .string r.scope), ("refKind", .string r.kind.name),
      ("cell", .cell r)]
  | .deferred _ t => [("expression", .string t)]

/-- The own member of a value by its name. -/
def member? (w : World) (s : Store) (v : Value) (name : String) : Option Value :=
  match v with
  | .object ms => ms.lookup name
  | .bare ms => ms.lookup name
  | .array vs =>
    if name = "length" then some (ofNat vs.length)
    else (Members.index? name).bind fun i => vs[i]?
  | .ofClass id => w.classes.member? id name
  | .prototype id => w.classes.sharedMember? id name
  | .function f =>
    match name with
    | "length" => some (ofNat f.arity)
    | "name" => some (.string f.name)
    | _ => none
  | .boxed (.string t) =>
    if name = "length" then some (ofNat (Text.length t))
    else (Members.index? name).bind fun i => (Text.unitAt? t i).map .string
  | .hint h => (hintMembers (w.under s) h).lookup name
  | .cell r => (cellMembers s r).lookup name
  | .undefined | .null | .bool _ | .number _ | .bigint _ | .string _ | .symbol _ | .instance _
  | .boxed _ => none

end TypeHints.Value
