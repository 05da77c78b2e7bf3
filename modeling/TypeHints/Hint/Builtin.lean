import TypeHints.Hint.StandardMembers

/-!
# The builtin namespace

The names that every scope knows before its own: the primitive types, the standard classes and the
standard templates. Builtin things have the labels below `firstFree`, in an order of age: the
classes, then the parameters that the templates share, then the templates.
-/

namespace TypeHints.Builtin

/-! ### Classes -/

/-- The class that all others descend from. -/
def objectId : Label := 1

/-- The standard classes in order of age, each with its label and the label of its parent. The first
ones after the root have no name in the builtin namespace. -/
def classList : List (Label × String × Option Label) :=
  [(1, "Object", none), (2, "TypedArray", some 1), (3, "Array", some 1), (4, "Set", some 1),
    (5, "Map", some 1), (6, "Promise", some 1), (7, "BigInt", some 1), (8, "Symbol", some 1),
    (9, "String", some 1), (10, "Number", some 1), (11, "Boolean", some 1),
    (12, "Function", some 1), (13, "Date", some 1), (14, "RegExp", some 1),
    (15, "Error", some 1), (16, "TypeError", some 15), (17, "RangeError", some 15),
    (18, "ArrayBuffer", some 1), (19, "DataView", some 1), (20, "Uint8Array", some 2),
    (21, "URL", some 1)]

/-- How many arguments the constructor of a standard class names. -/
def arity : Label → Nat
  | 13 => 7
  | 14 => 2
  | 20 => 3
  | 2 | 4 | 5 | 8 => 0
  | _ => 1

/-- The declaration of a standard class. -/
def declaration (c : Label × String × Option Label) : ClassDecl where
  name := c.2.1
  parent? := c.2.2
  statics := ("length", .number (.ofInt (arity c.1))) :: standardStatics c.1
  shared := standardShared c.1

/-- The declarations of the standard classes. -/
def classes : Classes := ⟨classList.map fun c => (c.1, declaration c)⟩

/-- The names of the primitive types with the classes that wrap their values. -/
def wrappers : List (String × Label) :=
  [("string", 9), ("number", 10), ("boolean", 11), ("bigint", 7), ("symbol", 8)]

/-- The class that wraps the values of a primitive type. -/
def wrapper? (p : Primitive) : Option Label := wrappers.lookup p.name

/-- The class of errors. -/
def errorId : Label := 15

/-- The class of functions. -/
def functionId : Label := 12

/-- The class of arrays. -/
def arrayId : Label := 3

/-- The class of web addresses. -/
def addressId : Label := 21

/-- A standard class as a hint. -/
def classHint (id : Label) : Hint := .ofClass ⟨id, classes.name id⟩

/-! ### Templates -/

/-- The parameters that the standard templates share. -/
def elementParam : TypeParameter := ⟨22, "T", false⟩
@[inherit_doc elementParam] def keyParam : TypeParameter := ⟨23, "K", false⟩
@[inherit_doc elementParam] def valueParam : TypeParameter := ⟨24, "V", false⟩
@[inherit_doc elementParam] def resultParam : TypeParameter := ⟨25, "TReturn", false⟩
@[inherit_doc elementParam] def nextParam : TypeParameter := ⟨26, "TNext", false⟩

/-- The standard templates. -/
def array : Template := ⟨27, "Array", [elementParam], some arrayId⟩
@[inherit_doc array] def readonlyArray : Template :=
  ⟨28, "ReadonlyArray", [elementParam], some arrayId⟩
@[inherit_doc array] def set : Template := ⟨29, "Set", [elementParam], some 4⟩
@[inherit_doc array] def map : Template := ⟨30, "Map", [keyParam, valueParam], some 5⟩
@[inherit_doc array] def record : Template := ⟨31, "Record", [keyParam, valueParam], some objectId⟩
@[inherit_doc array] def promise : Template := ⟨32, "Promise", [elementParam], some 6⟩
@[inherit_doc array] def iterable : Template := ⟨33, "Iterable", [elementParam], none⟩
@[inherit_doc array] def iterator : Template := ⟨34, "Iterator", [elementParam], none⟩
@[inherit_doc array] def generator : Template :=
  ⟨35, "Generator", [elementParam, resultParam, nextParam], none⟩
@[inherit_doc array] def asyncIterable : Template := ⟨36, "AsyncIterable", [elementParam], none⟩
@[inherit_doc array] def asyncIterator : Template := ⟨37, "AsyncIterator", [elementParam], none⟩
@[inherit_doc array] def asyncGenerator : Template :=
  ⟨38, "AsyncGenerator", [elementParam, resultParam, nextParam], none⟩

/-- The standard templates, in order of age. -/
def templates : List Template :=
  [array, readonlyArray, set, map, record, promise, iterable, iterator, generator, asyncIterable,
    asyncIterator, asyncGenerator]

/-- The templates that a generator may declare as its result. -/
def generatorResults : List Template := [generator, iterator, iterable]

/-- The templates that an asynchronous generator may declare as its result. -/
def asyncGeneratorResults : List Template := [asyncGenerator, asyncIterator, asyncIterable]

/-! ### The namespace -/

/-- The least label that no builtin thing has. -/
def firstFree : Label := 50

/-- The names of the builtin namespace with their hints, in order. -/
def scope : List (String × Hint) :=
  (Primitive.all.map fun p => (p.name, Hint.primitive p)) ++
    [("object", classHint objectId), ("Object", classHint objectId)] ++
    ((classList.drop 8).map fun c => (c.2.1, classHint c.1)) ++
    (templates.map fun t => (t.name, Hint.template t))

/-- The builtin hint of a name. -/
def lookup? (name : String) : Option Hint := scope.lookup name

end TypeHints.Builtin

namespace TypeHints.Value

/-- The class that a value is, if it can stand for a hint. The class of functions cannot: what its
instances share is itself a function. -/
def hintClass? : Value → Option Label
  | .ofClass id => if id = Builtin.functionId then none else some id
  | _ => none

end TypeHints.Value
