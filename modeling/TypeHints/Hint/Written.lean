import TypeHints.Value.Text

/-!
# Hints that were written down

An object that names one of the kinds of hints in its member `kind` stands for a hint of that kind,
with the parts that its other members give. `Value.readHint` reads it: the parts first, then the
hint itself under a label of its own. What a type parameter, an alias or a forward reference carries
beside its tree goes into the store.

Nothing but the kind is asked for. Where a part is missing or has another form, something that says
nothing takes its place: an empty list, an empty text, the text that the part has inside a message.
Whether such a hint has a structural key is another matter (`Value.keyFault?`).
-/

namespace TypeHints

/-- A value with the hint, or the list of hints, that it stands for. -/
structure Reading where
  value : Value
  hint? : Option Hint
  hints? : Option (List Hint)
deriving Inhabited

namespace Reading

/-- The reading of a value that stands for no hint. -/
def plain (v : Value) : Reading := ⟨v, none, none⟩

/-- The hint that a value counts as in a list of hints. One that is no hint only takes its place. -/
def listed (r : Reading) : Hint := r.hint?.getD (.primitive (.written 0 "undefined"))

end Reading

/-- The members of an object, each with its reading. -/
abbrev Parts := List (String × Reading)

namespace Parts

/-- The value of a member; a missing one is undefined. -/
def value (ps : Parts) (name : String) : Value :=
  ((ps.lookup name).map Reading.value).getD .undefined

/-- The text that a member is. -/
def text? (ps : Parts) (name : String) : Option String :=
  match ps.value name with
  | .string s => some s
  | _ => none

/-- The class that a member is. -/
def class? (ps : Parts) (name : String) : Option Label :=
  match ps.value name with
  | .ofClass id => some id
  | _ => none

/-- The hint that a member stands for. -/
def hint? (ps : Parts) (name : String) : Option Hint := (ps.lookup name).bind Reading.hint?

/-- The hints that a member lists. -/
def hints? (ps : Parts) (name : String) : Option (List Hint) := (ps.lookup name).bind Reading.hints?

/-- Whether a member is set. -/
def isSet (ps : Parts) (name : String) : Bool :=
  match ps.value name with
  | .bool b => b
  | _ => false

/-- The text that a member has inside a message. -/
def shown (cs : Classes) (ps : Parts) (name : String) : String :=
  ((ps.value name).inlineText? cs).toOption.getD ""

/-- The value that a literal admits. -/
def literal (cs : Classes) (ps : Parts) : Literal :=
  (ps.value "value").literal?.getD (.string (ps.shown cs "value"))

/-- The type parameters that an origin declares. An origin that says nothing about them has none. -/
def params (ps : Parts) : List TypeParameter :=
  ((ps.hints? "typeParameters").getD []).filterMap fun
    | .parameter p => some p
    | _ => none

/-- What is applied to arguments. -/
def origin (ps : Parts) (label : Label) : Origin :=
  ((ps.hint? "origin").bind Hint.origin?).getD (.template ⟨label, "", [], none⟩)

/-- The kind of a reference by its name. -/
def refKind (ps : Parts) : RefKind :=
  if ps.text? "refKind" = some RefKind.sealed.name then .sealed else .subscriptable

/-- The members of the cell of a reference. -/
def cell? (ps : Parts) : Option (List (String × Value)) := (ps.value "cell").written?

/-- The hint of a kind that an object with these members stands for, under a label of its own. -/
def ofKind (cs : Classes) (ps : Parts) (label : Label) : String → Option Hint
  | "any" => some .any
  | "primitive" => some (.primitive (.written label (ps.shown cs "name")))
  | "class" => some (.ofClass ⟨(ps.class? "ctor").getD label, ps.shown cs "name"⟩)
  | "literal" => some (.literal label (ps.literal cs))
  | "union" => some (.union label ((ps.hints? "members").getD []))
  | "tuple" => some (.tuple label ((ps.hints? "elements").getD []))
  | "typeParameter" => some (.parameter ⟨label, ps.shown cs "name", ps.isSet "variadic"⟩)
  | "generic" => some (.template ⟨label, ps.shown cs "name", ps.params, ps.class? "ctor"⟩)
  | "alias" => some (.alias ⟨label, ps.shown cs "name", ps.params⟩)
  | "subscripted" => some (.subscripted label (ps.origin label) ((ps.hints? "args").getD []))
  | "forwardRef" =>
    some (.forwardRef ⟨label, ps.shown cs "name", ps.shown cs "scopeName", ps.refKind, none⟩)
  | "deferred" => some (.deferred label ((ps.text? "expression").getD ""))
  | _ => none

/-- The hint that an object with these members stands for, if it names a kind of hint. -/
def assemble? (cs : Classes) (ps : Parts) (label : Label) : Option Hint :=
  (ps.text? "kind").bind (ps.ofKind cs label)

/-- The resolution that the cell of a reference holds. -/
def resolution? (ps : Parts) : Option Resolution := do
  let ms ← ps.cell?
  match ms.lookup "target", ms.lookup "targetModule" with
  | some (.ofClass id), some (.string m) => some ⟨id, m⟩
  | _, _ => none

/-- The store with what a hint with these members carries beside its tree. -/
def record (ps : Parts) (hint : Hint) (s : Store) : Store :=
  match hint with
  | .parameter p =>
    { s with params := s.params.insert p.id ⟨ps.hint? "bound", ps.hints? "constraints"⟩ }
  | .alias a => { s with aliasValues := s.aliasValues.insert a.id (ps.value "value") }
  | .forwardRef r =>
    match ps.resolution? with
    | some k => { s with resolutions := s.resolutions.insert r.id k }
    | none => s
  | _ => s

end Parts

namespace Value

variable {ε : Type} (cs : Classes)

/-- The hint that an object with these members stands for, if it stands for one. -/
def readParts (ps : Parts) : Attempt Store ε (Option Hint) := do
  match ps.assemble? cs (← Store.fresh) with
  | none => return none
  | some h =>
    Attempt.modify (ps.record h)
    return some h

mutual

/-- The reading of a value. -/
def reading : Value → Attempt Store ε Reading
  | .hint h => pure ⟨.hint h, some h, none⟩
  | .array vs => do return ⟨.array vs, none, some ((← readings vs).map Reading.listed)⟩
  | .object ms => do return ⟨.object ms, ← readParts cs (← parts ms), none⟩
  | .bare ms => do return ⟨.bare ms, ← readParts cs (← parts ms), none⟩
  | v => pure (.plain v)

/-- The readings of values, first to last. -/
def readings : List Value → Attempt Store ε (List Reading)
  | [] => pure []
  | v :: vs => do
    let r ← reading v
    let rs ← readings vs
    return r :: rs

/-- The readings of members, first to last. -/
def parts : List (String × Value) → Attempt Store ε Parts
  | [] => pure []
  | (name, v) :: ms => do
    let r ← reading v
    let ps ← parts ms
    return (name, r) :: ps

end

/-- The hint that a value is or stands for. -/
def readHint (v : Value) : Attempt Store ε (Option Hint) := do
  return (← reading cs v).hint?

end Value

end TypeHints
