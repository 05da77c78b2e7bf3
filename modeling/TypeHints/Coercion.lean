import TypeHints.Cause
import TypeHints.Hint.Written
import TypeHints.Value.KeyFault

/-!
# Coercion of raw hints

A raw hint is a value: a text is a deferred hint, a class its class hint, an array the union of its
elements, a hint is itself, and so is an object that stands for one. Anything else is unsupported,
and the report has the text of the value in it. A value without a text cannot be reported: then
coercion breaks off.

All elements of an array are coerced before the first failure among them counts, so that what they
leave in the store does not depend on which of them fails; a crash ends it at once.

Coercion takes an object for a hint by the kind that it names, whatever else the object holds. A raw
hint that is to be interned needs a key besides (`coerceKeyed`).
-/

namespace TypeHints

/-- The failure for a value that is no raw hint. -/
def unsupported (w : World) (v : Value) : Failure :=
  match v.text? w.classes with
  | .ok t => .cause (.unsupportedValue v t)
  | .error f => .crash (.noText f)

mutual

/-- The hint of a raw hint. -/
def coerce (w : World) : Value → Attempt Store Failure Hint
  | .string s => do return .deferred (← Store.fresh) s
  | .array vs => do
    let hs ← Attempt.ofExcept ((collect (← coerceAll w vs)).mapError .cause)
    return .union (← Store.fresh) hs
  | v =>
    match v.hintClass? with
    | some id => do return .ofClass (← Store.classHintOf w.classes id)
    | none => do
      match ← v.readHint w.classes with
      | some h => pure h
      | none => Attempt.fail (unsupported w v)

/-- The outcomes of raw hints, first to last. A crash ends it at once, another failure does not. -/
def coerceAll (w : World) : List Value → Attempt Store Failure (List (Except Cause Hint))
  | [] => pure []
  | v :: vs => fun s =>
    match coerce w v s with
    | (.error (.crash c), s') => (.error (.crash c), s')
    | (.error (.cause c), s') => ((coerceAll w vs).run s').map (·.map (.error c :: ·)) id
    | (.ok h, s') => ((coerceAll w vs).run s').map (·.map (.ok h :: ·)) id

end

/-- The hint of a raw hint that is to be interned; it has to have a key. -/
def coerceKeyed (w : World) (v : Value) : Attempt Store Failure Hint := do
  let h ← coerce w v
  match v.keyFault? w.classes with
  | none => return h
  | some message => Attempt.fail (.crash (.unkeyed message))

end TypeHints
