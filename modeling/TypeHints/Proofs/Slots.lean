import TypeHints.Proofs.Histories

/-!
# What a slot is checked against

An annotation is shaped for its slot before it is reduced: the result of a callable by the kind of
the callable, a rest parameter item by item, anything else not at all (`Callable.shaped`). Only an
annotation that is no text any more can be shaped, so the text of a result or of a rest parameter is
read first (`readsFirst`); that of another parameter is left to the reduction.

The three lemmas on `shapeSlot` say this of the action as it runs:

* an annotation that is no text is shaped as it is (`shapeSlot_of_not_isDeferred`);
* a text is read and its hint shaped where the slot is shaped (`shapeSlot_of_readsFirst`);
* it is handed on as a text where it is not (`shapeSlot_of_not_readsFirst`).

Shaping looks at the template that an annotation is or applies and at its first argument, and at
whether it is `any`. It treats annotations alike that are alike (`Callable.shaped_agree`), and
refuses both or neither, with causes that are alike. What the slot keeps of an application is no
more than its first argument or its template, so the number of arguments is not looked at.
-/

namespace TypeHints

open Attempt

/-- Whether a hint is a text that has not been read yet. -/
def Hint.isDeferred : Hint → Bool
  | .deferred _ _ => true
  | _ => false

/-- Whether a text in a slot is read before the slot is shaped. -/
def readsFirst (slot : String) (kind : ParameterKind) : Bool := slot = returnSlot || kind = .rest

namespace Callable

/-- The callable with an annotation in place of the one that a slot has. -/
def annotate (callable : Callable) (slot : String) (raw : Value) : Callable :=
  { callable with annotations := callable.annotations.insert slot raw }

/-- What a slot is checked against, given an annotation that is no text. -/
def shaped (callable : Callable) (slot : String) (kind : ParameterKind) (h : Hint) :
    Except Cause Hint :=
  if slot = returnSlot then h.returned callable.kind callable.name
  else
    match kind with
    | .rest => .ok h.restItem
    | .positional | .optional => .ok h

end Callable

section Shapes

variable {w : World} {site : Site} {callable : Callable} {slot : String} {kind : ParameterKind}

theorem resolveDeferred_of_not_isDeferred {h : Hint} (hh : h.isDeferred = false) :
    resolveDeferred w site h = pure h := by
  unfold resolveDeferred
  split
  · cases hh
  · rfl

/-- An annotation that is no text is shaped as it is. -/
theorem shapeSlot_of_not_isDeferred {h : Hint} (hh : h.isDeferred = false) :
    shapeSlot w site callable slot kind h =
      Attempt.ofExcept ((callable.shaped slot kind h).mapError .cause) := by
  unfold shapeSlot Callable.shaped
  rw [resolveDeferred_of_not_isDeferred hh]
  split
  · rfl
  · cases kind <;> rfl

/-- A text is read first where the slot is shaped. -/
theorem shapeSlot_of_readsFirst (hfirst : readsFirst slot kind = true) (h : Hint) :
    shapeSlot w site callable slot kind h = (resolveDeferred w site h >>= fun k ↦
      Attempt.ofExcept ((callable.shaped slot kind k).mapError .cause)) := by
  unfold shapeSlot Callable.shaped
  by_cases hslot : slot = returnSlot
  · simp only [if_pos hslot]
  · obtain rfl : kind = .rest := by simpa [readsFirst, hslot] using hfirst
    simp only [if_neg hslot]
    rfl

/-- Where the slot is not shaped, reading a text is left to the reduction. -/
theorem shapeSlot_of_not_readsFirst (hfirst : readsFirst slot kind = false) (h : Hint) :
    shapeSlot w site callable slot kind h = pure h := by
  obtain ⟨hslot, hkind⟩ : slot ≠ returnSlot ∧ kind ≠ .rest := by simpa [readsFirst] using hfirst
  unfold shapeSlot
  rw [if_neg hslot]
  cases kind with
  | rest => exact absurd rfl hkind
  | positional | optional => rfl

theorem shaped_of_not_readsFirst (hfirst : readsFirst slot kind = false) (h : Hint) :
    callable.shaped slot kind h = .ok h := by
  obtain ⟨hslot, hkind⟩ : slot ≠ returnSlot ∧ kind ≠ .rest := by simpa [readsFirst] using hfirst
  unfold Callable.shaped
  rw [if_neg hslot]
  cases kind with
  | rest => exact absurd rfl hkind
  | positional | optional => rfl

end Shapes

/-! ### Annotations that are alike -/

section Likeness

variable {ρ : ForwardRef → ForwardRef → Prop} {mixed : Bool} {h k : Hint}

namespace Hint.Alike

/-- Alike hints are both texts or none is. -/
theorem isDeferred_eq (hk : Hint.Alike ρ mixed h k) : h.isDeferred = k.isDeferred := by
  cases hk <;> rfl

/-- They are, or apply, the same template. -/
theorem template?_eq (hk : Hint.Alike ρ mixed h k) : h.template? = k.template? := by
  cases hk <;> rfl

theorem eq_any_iff (hk : Hint.Alike ρ mixed h k) : h = .any ↔ k = .any := by
  cases hk <;> simp

/-- Their first arguments are alike. -/
theorem firstArgument (hk : Hint.Alike ρ mixed h k) :
    Hint.Alike ρ mixed h.firstArgument k.firstArgument := by
  have hhead {l m : Label} {o o' : Origin} {hs ks : List Hint} (args : AlikeAll ρ mixed hs ks) :
      Hint.Alike ρ mixed (Hint.subscripted l o hs).firstArgument
        (Hint.subscripted m o' ks).firstArgument := by
    cases args with
    | nil => exact .any
    | cons head _ => exact head
  cases hk with
  | appliedTemplate _ _ _ args => exact hhead args
  | appliedAlias _ _ _ args => exact hhead args
  | appliedRef _ _ _ args => exact hhead args
  | _ => exact .any

/-- So are the items that they stand for in a rest parameter. -/
theorem restItem (hk : Hint.Alike ρ mixed h k) : Hint.Alike ρ mixed h.restItem k.restItem := by
  unfold Hint.restItem
  rw [hk.template?_eq]
  split
  · exact hk.firstArgument
  · exact hk

/-- So is what an asynchronous callable is checked against. -/
theorem promised (hk : Hint.Alike ρ mixed h k) (callable : String) :
    Outcomes (Cause.Alike ρ mixed) (Hint.Alike ρ mixed) (h.promised callable)
      (k.promised callable) := by
  unfold Hint.promised
  simp only [hk.eq_any_iff, hk.template?_eq]
  split
  · exact .ok hk
  · split
    · exact .ok hk.firstArgument
    · exact .error (.notPromise callable hk)

/-- So is what a generator is. -/
theorem generated (hk : Hint.Alike ρ mixed h k) (callable : String) (templates : List Template) :
    Outcomes (Cause.Alike ρ mixed) (Hint.Alike ρ mixed) (h.generated callable templates)
      (k.generated callable templates) := by
  unfold Hint.generated
  simp only [hk.eq_any_iff, hk.template?_eq]
  split
  · exact .ok hk
  · split
    · split
      · exact .ok (.template _)
      · exact .error (.notGenerator callable hk templates)
    · exact .error (.notGenerator callable hk templates)

end Hint.Alike

/-- Slots are shaped alike for annotations that are alike. -/
theorem Callable.shaped_agree (callable : Callable) (slot : String) (kind : ParameterKind)
    (hk : Hint.Alike ρ mixed h k) :
    Outcomes (Cause.Alike ρ mixed) (Hint.Alike ρ mixed) (callable.shaped slot kind h)
      (callable.shaped slot kind k) := by
  unfold shaped
  split
  · unfold Hint.returned
    split
    · exact .ok hk
    · exact hk.promised _
    · exact hk.generated _ _
    · exact hk.generated _ _
  · cases kind with
    | rest => exact .ok hk.restItem
    | positional | optional => exact .ok hk

end Likeness

end TypeHints
