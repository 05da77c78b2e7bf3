import Mathlib.Order.Defs.Unbundled
import TypeHints.Attempt

/-!
# Reasoning about actions

An `Attempt` is an action on a state that ends in a value or in a failure, and keeps the state that
it reached in both cases. There are three ways to speak of all of its runs, which differ in how much
of a run they see:

* `Attempt.bind_eq_ok_iff` and its kin open a single run, from the outside in, along its sequences.
  A run that ended in a value is taken apart in this way, step by step.
* `Attempt.Follows R` says that every run moves its state along a preorder `R`. It speaks of failing
  runs too, and composes without a look at values: a sequence follows `R` if its parts do
  (`Follows.bind`).
* `Attempt.Yields P a V E` says that `a` keeps an invariant `P` of the state, that its values
  satisfy `V` and that its failures satisfy `E`. The values of the first part of a sequence are
  known to satisfy their condition when the second part begins (`Yields.bind`).

A preorder is a family of invariants, namely to be above a given state, so that the second way is a
case of the third one (`Follows.yields`, `Follows.of_yields`). Each way comes with one rule for each
way of writing actions: a value, a failure, a result, a sequence, and a change of failures. What is
claimed of an action of the program is proved along its text with these rules, once for each action;
the callers of the action cite what was proved.
-/

namespace TypeHints.Attempt

variable {σ ε δ α β : Type}

/-! ### Opening a run -/

/-- A sequence runs its second part from the state that the first one has reached, if it gave a
value. -/
theorem bind_apply (a : Attempt σ ε α) (f : α → Attempt σ ε β) (s : σ) :
    (a >>= f) s = match a s with
      | (.ok x, s') => f x s'
      | (.error e, s') => (.error e, s') := rfl

@[simp] theorem get_apply (s : σ) : (get : Attempt σ ε σ) s = (.ok s, s) := rfl

@[simp] theorem modify_apply (f : σ → σ) (s : σ) :
    (modify f : Attempt σ ε Unit) s = (.ok (), f s) := rfl

@[simp] theorem ofExcept_apply (r : Except ε α) (s : σ) :
    (ofExcept r : Attempt σ ε α) s = (r, s) := rfl

/-- A sequence ends in a value exactly when both of its parts do. -/
theorem bind_eq_ok_iff {a : Attempt σ ε α} {f : α → Attempt σ ε β} {s s' : σ} {y : β} :
    (a >>= f) s = (.ok y, s') ↔ ∃ x s₁, a s = (.ok x, s₁) ∧ f x s₁ = (.ok y, s') := by
  rw [bind_apply]
  rcases a s with ⟨e | x, s₁⟩
  · simp
  · refine ⟨fun h ↦ ⟨x, s₁, rfl, h⟩, ?_⟩
    rintro ⟨_, _, ⟨⟩, h⟩
    exact h

/-- Behind a value, the second part goes on. -/
theorem bind_apply_ok {a : Attempt σ ε α} {f : α → Attempt σ ε β} {s s' : σ} {x : α}
    (h : a s = (.ok x, s')) : (a >>= f) s = f x s' := by
  rw [bind_apply, h]

/-- Behind a failure, nothing more is run. -/
theorem bind_apply_error {a : Attempt σ ε α} {f : α → Attempt σ ε β} {s s' : σ} {e : ε}
    (h : a s = (.error e, s')) : (a >>= f) s = (.error e, s') := by
  rw [bind_apply, h]

/-- To change failures leaves values as they are. -/
theorem mapFailure_eq_ok_iff {g : ε → δ} {a : Attempt σ ε α} {s s' : σ} {x : α} :
    mapFailure g a s = (.ok x, s') ↔ a s = (.ok x, s') := by
  simp only [mapFailure]
  rcases a s with ⟨e | y, s₁⟩ <;> simp

/-- An outcome that is known to hold a value is this value, with its state. -/
theorem eq_ok_of_toOption_eq {x : Except ε α × σ} {a : α} (h : x.1.toOption = some a) :
    x = (.ok a, x.2) := by
  rcases x with ⟨e | y, s⟩
  · cases h
  · rw [Option.some.inj h]

/-- An outcome that holds a value is the one with this value. -/
theorem eq_ok_of_isSome {x : Except ε α × σ} (h : x.1.toOption.isSome) (default : α) :
    x = (.ok (x.1.toOption.getD default), x.2) := by
  rcases x with ⟨e | y, s⟩
  · cases h
  · rfl

/-! ### Moving along a preorder -/

/-- Every run of the action moves the state along `R`. -/
def Follows (R : σ → σ → Prop) (a : Attempt σ ε α) : Prop := ∀ s, R s (a s).2

namespace Follows

variable {R : σ → σ → Prop}

/-- What a run has reached, if the run is given by its outcome. -/
theorem of_run {a : Attempt σ ε α} (h : Follows R a) {s s' : σ} {x : Except ε α}
    (hs : a s = (x, s')) : R s s' := by
  have := h s
  rwa [hs] at this

protected theorem mapFailure {a : Attempt σ ε α} (g : ε → δ) (h : Follows R a) :
    Follows R (mapFailure g a) := by
  intro s
  have hs := h s
  simp only [Attempt.mapFailure]
  rcases hr : a s with ⟨e | x, s'⟩ <;> rw [hr] at hs <;> exact hs

variable [IsPreorder σ R]

protected theorem pure (x : α) : Follows R (pure x : Attempt σ ε α) := fun s ↦ refl_of R s

protected theorem fail (e : ε) : Follows R (fail e : Attempt σ ε α) := fun s ↦ refl_of R s

protected theorem ofExcept (r : Except ε α) : Follows R (ofExcept r) := fun s ↦ refl_of R s

/-- A sequence moves the state along `R` if its first part does, and the rest from where it ends. -/
theorem bind_at {a : Attempt σ ε α} {f : α → Attempt σ ε β} {s : σ} (ha : R s (a s).2)
    (hf : ∀ x s', a s = (.ok x, s') → R s' (f x s').2) : R s ((a >>= f) s).2 := by
  rw [bind_apply]
  rcases hr : a s with ⟨e | x, s'⟩ <;> rw [hr] at ha
  · exact ha
  · exact trans_of R ha (hf x s' hr)

/-- A sequence follows a preorder if its parts do. -/
protected theorem bind {a : Attempt σ ε α} {f : α → Attempt σ ε β} (ha : Follows R a)
    (hf : ∀ x, Follows R (f x)) : Follows R (a >>= f) :=
  fun s ↦ bind_at (ha s) fun x s' _ ↦ hf x s'

end Follows

/-! ### Keeping an invariant -/

/-- The action keeps `P`, and from a state with `P` its values satisfy `V` and its failures `E`. -/
structure Yields (P : σ → Prop) (a : Attempt σ ε α) (V : α → Prop) (E : ε → Prop) : Prop where
  keeps : ∀ s, P s → P (a s).2
  value : ∀ s, P s → ∀ x, (a s).1 = .ok x → V x
  failure : ∀ s, P s → ∀ e, (a s).1 = .error e → E e

namespace Yields

variable {P : σ → Prop} {V V' : α → Prop} {E : ε → Prop}

/-- The invariant holds of what a run has reached. -/
theorem of_run {a : Attempt σ ε α} (h : Yields P a V E) {s s' : σ} {x : Except ε α} (hP : P s)
    (hs : a s = (x, s')) : P s' := by
  have := h.keeps s hP
  rwa [hs] at this

/-- What a run has given satisfies the condition on values. -/
theorem value_of_run {a : Attempt σ ε α} (h : Yields P a V E) {s s' : σ} {x : α} (hP : P s)
    (hs : a s = (.ok x, s')) : V x :=
  h.value s hP x (by rw [hs])

/-- How a run has failed satisfies the condition on failures. -/
theorem failure_of_run {a : Attempt σ ε α} (h : Yields P a V E) {s s' : σ} {e : ε} (hP : P s)
    (hs : a s = (.error e, s')) : E e :=
  h.failure s hP e (by rw [hs])

/-- Nothing is said of what the action gives. -/
theorem of_keeps {a : Attempt σ ε α} (h : ∀ s, P s → P (a s).2) :
    Yields P a (fun _ ↦ True) (fun _ ↦ True) :=
  ⟨h, fun _ _ _ _ ↦ trivial, fun _ _ _ _ ↦ trivial⟩

/-- Nothing is said of states and values. -/
theorem of_failure {a : Attempt σ ε α} (h : ∀ s e, (a s).1 = .error e → E e) :
    Yields (fun _ ↦ True) a (fun _ ↦ True) E :=
  ⟨fun _ _ ↦ trivial, fun _ _ _ _ ↦ trivial, fun s _ ↦ h s⟩

/-- Less may be said of the values. -/
theorem mono {a : Attempt σ ε α} (h : Yields P a V E) (hV : ∀ x, V x → V' x) : Yields P a V' E :=
  ⟨h.keeps, fun s hs x hx ↦ hV x (h.value s hs x hx), h.failure⟩

protected theorem pure {x : α} (hx : V x) : Yields P (pure x : Attempt σ ε α) V E :=
  ⟨fun _ hs ↦ hs, fun _ _ _ h ↦ Except.ok.inj h ▸ hx, fun _ _ _ h ↦ (nomatch h)⟩

protected theorem fail {e : ε} (he : E e) : Yields P (fail e : Attempt σ ε α) V E :=
  ⟨fun _ hs ↦ hs, fun _ _ _ h ↦ (nomatch h), fun _ _ _ h ↦ Except.error.inj h ▸ he⟩

protected theorem ofExcept {r : Except ε α} (hx : ∀ x, r = .ok x → V x)
    (he : ∀ e, r = .error e → E e) : Yields P (ofExcept r : Attempt σ ε α) V E :=
  ⟨fun _ hs ↦ hs, fun _ _ ↦ hx, fun _ _ ↦ he⟩

protected theorem mapFailure {D : δ → Prop} {a : Attempt σ ε α} {g : ε → δ} (h : Yields P a V E)
    (hg : ∀ e, E e → D (g e)) : Yields P (mapFailure g a) V D := by
  refine ⟨fun s hs ↦ ?_, fun s hs x hx ↦ ?_, fun s hs e he ↦ ?_⟩
  · simp only [Attempt.mapFailure]
    rcases hr : a s with ⟨e | x, s'⟩ <;> exact h.of_run hs hr
  · exact h.value_of_run hs (mapFailure_eq_ok_iff.mp (Prod.ext hx rfl))
  · simp only [Attempt.mapFailure] at he
    rcases hr : a s with ⟨d | x, s'⟩ <;> rw [hr] at he <;> cases he
    exact hg d (h.failure_of_run hs hr)

protected theorem bind {a : Attempt σ ε α} {f : α → Attempt σ ε β} {W : β → Prop}
    (ha : Yields P a V E) (hf : ∀ x, V x → Yields P (f x) W E) : Yields P (a >>= f) W E := by
  refine ⟨fun s hs ↦ ?_, fun s hs y hy ↦ ?_, fun s hs e he ↦ ?_⟩
  · rw [bind_apply]
    rcases hr : a s with ⟨e | x, s'⟩
    · exact ha.of_run hs hr
    · exact (hf x (ha.value_of_run hs hr)).keeps s' (ha.of_run hs hr)
  · rw [bind_apply] at hy
    rcases hr : a s with ⟨e | x, s'⟩ <;> rw [hr] at hy
    · cases hy
    · exact (hf x (ha.value_of_run hs hr)).value s' (ha.of_run hs hr) y hy
  · rw [bind_apply] at he
    rcases hr : a s with ⟨d | x, s'⟩ <;> rw [hr] at he
    · cases he
      exact ha.failure_of_run hs hr
    · exact (hf x (ha.value_of_run hs hr)).failure s' (ha.of_run hs hr) e he

/-- An action that never fails gives something in every run. -/
theorem exists_of_total {a : Attempt σ ε α} (h : Yields P a V fun _ ↦ False) {s : σ} (hs : P s) :
    ∃ x s', a s = (.ok x, s') ∧ V x ∧ P s' := by
  rcases hr : a s with ⟨e | x, s'⟩
  · exact (h.failure_of_run hs hr).elim
  · exact ⟨x, s', rfl, h.value_of_run hs hr, h.of_run hs hr⟩

/-- An action that gives something in every run has nothing to be said about failures. -/
theorem of_total {a : Attempt σ ε α} (h : ∀ s, P s → ∃ x s', a s = (.ok x, s') ∧ V x ∧ P s') :
    Yields P a V E := by
  refine ⟨fun s hs ↦ ?_, fun s hs x hx ↦ ?_, fun s hs e he ↦ ?_⟩ <;>
    obtain ⟨y, s', hy, hV, hP⟩ := h s hs
  · rwa [hy]
  · rw [hy] at hx
    exact Except.ok.inj hx ▸ hV
  · rw [hy] at he
    cases he

end Yields

/-! A relation that actions follow is a family of invariants: to be above a given state. -/

section FollowsYields

variable {R : σ → σ → Prop} [IsPreorder σ R] {a : Attempt σ ε α}

/-- What is above a state stays above it. -/
theorem Follows.yields (h : Follows R a) (s₀ : σ) :
    Yields (R s₀) a (fun _ ↦ True) (fun _ ↦ True) :=
  .of_keeps fun s hs ↦ trans_of R hs (h s)

/-- An action that stays above every state that it can begin in follows the preorder. -/
theorem Follows.of_yields {V : α → Prop} {E : ε → Prop} (h : ∀ s₀, Yields (R s₀) a V E) :
    Follows R a :=
  fun s ↦ (h s).keeps s (refl_of R s)

end FollowsYields

end TypeHints.Attempt
