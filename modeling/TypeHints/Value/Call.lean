import TypeHints.Hint.Builtin

/-!
# Calling values

`Value.call?` is what a call of a value without arguments does. Functions and some standard classes
answer it, other classes refuse it, and anything else cannot be called at all.
-/

namespace TypeHints

/-- Why a class refuses to be called. -/
inductive CallFault where
  /-- A declared class has to be made an instance of. -/
  | declaredClass (name : String)
  /-- So has a standard one. -/
  | standardClass (name : String)
deriving DecidableEq, Repr

/-- The wording of a refused call. -/
def CallFault.message : CallFault → String
  | .declaredClass n => "Class constructor " ++ n ++ " cannot be invoked without \x27new\x27"
  | .standardClass n => "Constructor " ++ n ++ " requires \x27new\x27"

/-- What a call of a standard class gives, if it answers calls. Errors and patterns are
instances. -/
def Builtin.called? : Label → Option Value
  | 1 => some (.object [])
  | 3 => some (.array [])
  | 9 => some (.string "")
  | 10 => some (.number (.ofInt 0))
  | 11 => some (.bool false)
  | 12 => some (.function ⟨"anonymous", 0, "function anonymous(\n) \x7b\n\n\x7d", none⟩)
  | 13 => some (.string "")
  | 14 => some (.instance 14)
  | 15 => some (.instance 15)
  | 16 => some (.instance 16)
  | 17 => some (.instance 17)
  | _ => none

namespace Value

/-- What calling a class does. The standard class of addresses counts as a declared one. -/
def callClass (cs : Classes) (id : Label) : Except CallFault Value :=
  match Builtin.called? id with
  | some v => .ok v
  | none =>
    if (Builtin.classList.lookup id).isSome ∧ id ≠ Builtin.addressId then
      .error (.standardClass (cs.name id))
    else .error (.declaredClass (cs.name id))

/-- What calling a value without arguments does; nothing for a value that cannot be called. -/
def call? (cs : Classes) : Value → Option (Except CallFault Value)
  | .function f => some (.ok ((f.result?.map ofLiteral).getD .undefined))
  | .ofClass id => some (callClass cs id)
  | _ => none

end Value

end TypeHints
