import TypeHints.Json
import TypeHints.Text.Blank
import TypeHints.Text.Identifier

/-!
# Configuration

A configuration file is a JSON object with known members; `ConfigFile.ofJson?` checks their shapes.
Members are checked in a fixed order, and the first one of a wrong shape is the one that is reported
(`ConfigFault`). Members of other names are passed over.

`Config.resolve` puts options over a file and the file over the defaults, override by override. Of
an override that both give the options win, and the order is that of the file first.

Overrides pass through a fresh object on the way from a file, as they are assigned to it one by one
(`Members.assigned`). A name that means something else there than a member is lost on the way.
-/

namespace TypeHints

/-- The name of configuration files. -/
def configFileName : String := "hintwarden.json"

/-- The name of the scope that texts stand in unless another one is given. -/
def defaultScopeName : String := "main"

/-- What is wrong with a configuration file. -/
inductive ConfigFault where
  | notAnObject
  | schemaNotText
  | verboseNotBool
  | scopeNotDotted
  | overridesNotAnObject
  | keyNotIdentifier (name : String)
  | emptyOverride (name : String)
  /-- There is no file at the path. -/
  | missing (path : String)
  /-- The file is not JSON, or cannot be read. -/
  | unreadable (detail : String)
deriving DecidableEq, Repr

namespace ConfigFault

/-- The start of every message about the contents of a file. -/
def about (message : String) : String := configFileName ++ ": " ++ message

/-- The wording of a fault. -/
def message : ConfigFault → String
  | .notAnObject => about "expected an object"
  | .schemaNotText => about "\x27$schema\x27 must be a string"
  | .verboseNotBool => about "\x27verbose\x27 must be a boolean"
  | .scopeNotDotted => about "\x27defaultScopeName\x27 must be a dotted identifier"
  | .overridesNotAnObject => about "\x27overrides\x27 must be an object"
  | .keyNotIdentifier n => about ("override key \x27" ++ n ++ "\x27 is not an identifier")
  | .emptyOverride n => about ("override \x27" ++ n ++ "\x27 must be a non-empty hint expression")
  | .missing p => "Config file not found: " ++ p
  | .unreadable d => "Failed to parse " ++ configFileName ++ ": " ++ d

end ConfigFault

/-- Settings of which each may be missing. -/
structure Options where
  verbose? : Option Bool
  /-- Class names with the expressions that replace them. -/
  overrides? : Option (List (String × String))
  defaultScope? : Option String
deriving DecidableEq, Repr

namespace Options

/-- No settings. -/
def none : Options := ⟨.none, .none, .none⟩

end Options

/-- The contents of a configuration file. -/
structure ConfigFile where
  schema? : Option String
  options : Options
deriving DecidableEq, Repr

namespace ConfigFile

/-- The override that one member of a file gives. -/
def override (m : String × Json) : Except ConfigFault (String × String) :=
  if !Text.isDottedIdentifier m.1 then .error (.keyNotIdentifier m.1)
  else
    match m.2 with
    | .str text => if Text.trim text = "" then .error (.emptyOverride m.1) else .ok (m.1, text)
    | _ => .error (.emptyOverride m.1)

/-- The overrides that a file gives, as the members of a fresh object. -/
def overrides : Json → Except ConfigFault (List (String × String))
  | .obj ms => (ms.mapM override).map Members.assigned
  | _ => .error .overridesNotAnObject

/-- The contents of a file that holds a JSON value. -/
def ofJson? (v : Json) : Except ConfigFault ConfigFile :=
  match v with
  | .obj ms => do
    let schema ← match ms.lookup "$schema" with
      | none => pure none
      | some (.str s) => pure (some s)
      | some _ => throw .schemaNotText
    let verbose ← match ms.lookup "verbose" with
      | none => pure none
      | some (.bool b) => pure (some b)
      | some _ => throw .verboseNotBool
    let scope ← match ms.lookup "defaultScopeName" with
      | none => pure none
      | some (.str s) => if Text.isDottedIdentifier s then pure (some s) else throw .scopeNotDotted
      | some _ => throw .scopeNotDotted
    let replacements ← match ms.lookup "overrides" with
      | none => pure none
      | some o => (overrides o).map some
    return ⟨schema, verbose, replacements, scope⟩
  | _ => .error .notAnObject

end ConfigFile

/-- The settings that sanitizing reads. -/
structure Config where
  verbose : Bool
  overrides : Dict String String
  defaultScope : String
deriving DecidableEq, Repr

/-- The settings that result from a file and options over it. -/
def Config.resolve (file options : Options) : Config where
  verbose := (options.verbose?.or file.verbose?).getD false
  overrides := Dict.ofList (file.overrides?.getD [] ++ options.overrides?.getD [])
  defaultScope := (options.defaultScope?.or file.defaultScope?).getD defaultScopeName

end TypeHints
