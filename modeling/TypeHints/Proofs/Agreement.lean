import TypeHints.Proofs.Actions

/-!
# Comparing two runs

Two runs of the engine are compared in many places: a run that keeps outcomes with one that does
not, a hint with its representative, a text with the hint that it stands for. What all of these
share is set apart here. `Attempt.Agree` says of two actions that from corresponding states they end
in corresponding outcomes and states. Values may correspond to each other in one way and failures in
another one (`Outcomes`).

Which states correspond is said by a `Comparison`, and it has a second part: a limit to the states
that the first run may reach.

* Without a limit the two runs proceed side by side, each keeping what it finds.
* With the limit that the first run stays below a state which the second one starts above, the
  second run comes after the first and finds there what that has left behind.

The limit is known of the state that a run ends in, while each of its actions needs it for the state
that this one ends in. So the rest of a run has to keep the limit when it is followed backwards
(`Comparison.Backward`), and that is what growth is for. `Agree.bind` is where the two parts meet;
`AgreeAt` is the same for two states only, for actions that agree because of where they start.
-/

namespace TypeHints

/-- Two outcomes correspond: values by `V`, failures by `E`. -/
inductive Outcomes {ε δ α β : Type} (E : ε → δ → Prop) (V : α → β → Prop) :
    Except ε α → Except δ β → Prop
  | ok {x : α} {y : β} (h : V x y) : Outcomes E V (.ok x) (.ok y)
  | error {e : ε} {d : δ} (h : E e d) : Outcomes E V (.error e) (.error d)

/-- Outcomes correspond in any weaker way. -/
theorem Outcomes.imp {ε δ α β : Type} {E E' : ε → δ → Prop} {V V' : α → β → Prop}
    {x : Except ε α} {y : Except δ β} (h : Outcomes E V x y) (hE : ∀ e d, E e d → E' e d)
    (hV : ∀ a b, V a b → V' a b) : Outcomes E' V' x y := by
  cases h with
  | ok hxy => exact .ok (hV _ _ hxy)
  | error he => exact .error (hE _ _ he)

theorem Outcomes.mono {ε δ α β : Type} {E : ε → δ → Prop} {V V' : α → β → Prop}
    {x : Except ε α} {y : Except δ β} (h : Outcomes E V x y) (hV : ∀ a b, V a b → V' a b) :
    Outcomes E V' x y :=
  h.imp (fun _ _ he ↦ he) hV

/-- How states are compared: which correspond, and which the first run may reach. -/
structure Comparison (σ : Type) where
  rel : σ → σ → Prop
  ok : σ → Prop

namespace Comparison

variable {σ : Type}

/-- The limit on states is kept when a run is followed backwards along `R`. -/
def Backward (C : Comparison σ) (R : σ → σ → Prop) : Prop := ∀ s s', R s s' → C.ok s' → C.ok s

end Comparison

namespace Attempt

variable {σ ε δ ε' δ' α β α' β' : Type} {C : Comparison σ} {E : ε → δ → Prop} {V : α → β → Prop}

/-- If the two states correspond, and unless the first run leaves the limit, two actions end in
corresponding outcomes and states. -/
def AgreeAt (C : Comparison σ) (E : ε → δ → Prop) (V : α → β → Prop) (a : Attempt σ ε α)
    (b : Attempt σ δ β) (s t : σ) : Prop :=
  C.rel s t → C.ok (a s).2 → Outcomes E V (a s).1 (b t).1 ∧ C.rel (a s).2 (b t).2

/-- Two actions agree from any two states. -/
def Agree (C : Comparison σ) (E : ε → δ → Prop) (V : α → β → Prop) (a : Attempt σ ε α)
    (b : Attempt σ δ β) : Prop :=
  ∀ s t, AgreeAt C E V a b s t

/-- Sequences agree if their first parts do, and the rest from where these end; the rest of the first
one keeps the limit backwards. -/
theorem AgreeAt.bind {W : α' → β' → Prop} {R : σ → σ → Prop} {a : Attempt σ ε α}
    {b : Attempt σ δ β} {f : α → Attempt σ ε α'} {g : β → Attempt σ δ β'} {s t : σ}
    (h : AgreeAt C E V a b s t) (hC : C.Backward R) (hR : ∀ x, Follows R (f x))
    (hfg : ∀ x y s' t', V x y → a s = (.ok x, s') → b t = (.ok y, t') →
      AgreeAt C E W (f x) (g y) s' t') :
    AgreeAt C E W (a >>= f) (b >>= g) s t := by
  intro hst hok
  have hab := h hst
  rw [bind_apply] at hok ⊢
  rw [bind_apply]
  rcases ha : a s with ⟨e | x, s'⟩ <;> simp only [ha] at hok hab ⊢
  · obtain ⟨hout, hrel⟩ := hab hok
    rcases hb : b t with ⟨d | y, t'⟩ <;> simp only [hb] at hout hrel ⊢ <;> cases hout
    rename_i he
    exact ⟨.error he, hrel⟩
  · obtain ⟨hout, hrel⟩ := hab (hC _ _ (hR x s') hok)
    rcases hb : b t with ⟨d | y, t'⟩ <;> simp only [hb] at hout hrel ⊢ <;> cases hout
    rename_i hxy
    exact hfg x y s' t' hxy ha hb hrel hok

namespace Agree

protected theorem pure {x : α} {y : β} (h : V x y) :
    Agree C E V (pure x : Attempt σ ε α) (pure y : Attempt σ δ β) :=
  fun _ _ hst _ ↦ ⟨.ok h, hst⟩

protected theorem fail {e : ε} {d : δ} (h : E e d) :
    Agree C E V (fail e : Attempt σ ε α) (fail d : Attempt σ δ β) :=
  fun _ _ hst _ ↦ ⟨.error h, hst⟩

protected theorem ofExcept {x : Except ε α} {y : Except δ β} (h : Outcomes E V x y) :
    Agree C E V (ofExcept x : Attempt σ ε α) (ofExcept y : Attempt σ δ β) :=
  fun _ _ hst _ ↦ ⟨h, hst⟩

/-- Failures may be restated on both sides. -/
protected theorem mapFailure {E' : ε' → δ' → Prop} {a : Attempt σ ε α} {b : Attempt σ δ β}
    (h : Agree C E V a b) {f : ε → ε'} {g : δ → δ'} (hE : ∀ e d, E e d → E' (f e) (g d)) :
    Agree C E' V (mapFailure f a) (mapFailure g b) := by
  intro s t hst hok
  have hab := h s t hst
  simp only [Attempt.mapFailure] at hok ⊢
  rcases ha : a s with ⟨e | x, s'⟩ <;> rcases hb : b t with ⟨d | y, t'⟩ <;>
    simp only [ha, hb] at hok hab ⊢ <;> obtain ⟨hout, hrel⟩ := hab hok <;> cases hout
  · rename_i he
    exact ⟨.error (hE _ _ he), hrel⟩
  · rename_i hxy
    exact ⟨.ok hxy, hrel⟩

/-- Sequences agree if their parts do, and the rest of the first one keeps the limit backwards. -/
protected theorem bind {W : α' → β' → Prop} {R : σ → σ → Prop} {a : Attempt σ ε α}
    {b : Attempt σ δ β} {f : α → Attempt σ ε α'} {g : β → Attempt σ δ β'} (h : Agree C E V a b)
    (hC : C.Backward R) (hR : ∀ x, Follows R (f x)) (hfg : ∀ x y, V x y → Agree C E W (f x) (g y)) :
    Agree C E W (a >>= f) (b >>= g) :=
  fun s t ↦ (h s t).bind hC hR fun x y s' t' hxy _ _ ↦ hfg x y hxy s' t'

end Agree

end Attempt

end TypeHints
