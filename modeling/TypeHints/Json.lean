import TypeHints.Json.Members
import TypeHints.Number.Binary64

/-!
# JSON values

The values of JSON, with the members of objects in their order (`TypeHints.Members.ordered`).
-/

namespace TypeHints

/-- A JSON value. -/
inductive Json where
  | null
  | bool (value : Bool)
  | num (value : Binary64)
  | str (value : String)
  | arr (elements : List Json)
  | obj (members : List (String × Json))
deriving Inhabited

namespace Json

/-- The member of an object with a name. -/
def member? : Json → String → Option Json
  | .obj ms, name => ms.lookup name
  | _, _ => none

end Json

end TypeHints
