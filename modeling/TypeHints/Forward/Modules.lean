import TypeHints.Text.Segments
import TypeHints.Value.Members

/-!
# Modules

The table of loaded modules. A qualified name is read as the longest name of a loaded module in
front of a path of own members: `Modules.lookupQualified` tries the longest front first, and a front
whose path leads nowhere makes way for a shorter one. The name of a module alone names nothing.

Paths follow own members only, of exports and of what lies behind them. One kind of member is not
fixed: a forward reference among the exports has a member that shows the class which it has been
resolved to, so what a path leads to may depend on the store.
-/

namespace TypeHints

/-- The loaded modules with their exports. -/
abbrev Modules := Dict String (List (String × Value))

namespace Modules

/-- Walk along own members. Nothing lies beyond a member that is missing or undefined. -/
def walk (w : World) (s : Store) : Value → List String → Option Value
  | v, [] =>
    match v with
    | .undefined => none
    | v => some v
  | v, name :: rest => (v.member? w s name).bind fun u => walk w s u rest

/-- The ways to cut a list in two parts that are not empty, the longest first part first. -/
def cuts : List String → List (List String × List String)
  | [] => []
  | s :: rest =>
    match rest with
    | [] => []
    | _ :: _ => (cuts rest).map (fun c => (s :: c.1, c.2)) ++ [([s], rest)]

/-- The module that a qualified name reaches into and the value found there. -/
def lookupQualified (w : World) (s : Store) (ms : Modules) (name : String) :
    Option (String × Value) :=
  (cuts (Text.segments name)).findSome? fun c =>
    let moduleName := Text.dotted c.1
    (ms.get? moduleName).bind fun exports =>
      (walk w s (.object exports) c.2).map fun v => (moduleName, v)

end Modules

end TypeHints
