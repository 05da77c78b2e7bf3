import TypeHints.Proofs.Simulation

/-!
# Histories of calls

Calls of one runtime share its engine, so a call could notice what others have left there. A
`History` is made of calls at any sites and in any states of the store; it says what the engine has
come to and which models the calls have ended in.

Sanitizing does not notice a history, as long as keys tell apart just those hints that are not alike
(`sanitizeRoot_of_history`): the engine then keeps nothing but representatives that are alike to
what they stand for, and outcomes that a computation would give (`Engine.Reliable`). Keys that
collide let it show: `[[string, number]]` comes out as `[[string], number]` if that has been
sanitized before (`history_shows_in_nested`).

The three entry points are brought into one form (`Call`): each finds the hint that it reduces, and
reduces it below the model that it is made below. A call may fail, and may be made below any model
that an earlier call has ended in. What is asked of each is said in terms of its visits
(`Call.Known`):

* the hint that is handed to the engine, and those that its steps handle, have a property `M` for
  which keys are faithful;
* the applications that it visits are entered in one book for the whole history, so that a label
  stands for one application.

By induction on the history the engine can be relied on (`History.reliable`). So it is in order for
the simulation of one run by another, here a run after the history by one in a fresh engine.
-/

namespace TypeHints

open Attempt Hint
open ForwardRef (Namesake namesake_refl namesake_equivalence)

/-! ### Models that are alike -/

namespace Sane

variable {ρ : ForwardRef → ForwardRef → Prop} {mixed : Bool}

/-- Two models have alike hints, and bindings and guards that are alike one by one. -/
structure Alike (ρ : ForwardRef → ForwardRef → Prop) (mixed : Bool) (s t : Sane) : Prop where
  hint : Hint.Alike ρ mixed s.hint t.hint
  table : AlikeBindings ρ mixed s.table.entries.entries t.table.entries.entries
  guard : AlikeAll ρ mixed s.guard.hints t.guard.hints
  overridden : s.overridden = t.overridden

/-- Two parents hand on bindings and guards that are alike one by one. -/
structure AlikeBelow (ρ : ForwardRef → ForwardRef → Prop) (mixed : Bool) (p? q? : Option Sane) :
    Prop where
  table : AlikeBindings ρ mixed (tableOf p?).entries.entries (tableOf q?).entries.entries
  guard : AlikeAll ρ mixed (guardOf p?).hints (guardOf q?).hints
  overridden : overriddenOf p? = overriddenOf q?

end Sane

namespace Hint.AlikeAll

variable {ρ : ForwardRef → ForwardRef → Prop} {mixed : Bool} {hs ks : List Hint}

/-- Alike lists hold the same parameters. -/
theorem parameter_mem_iff (h : AlikeAll ρ mixed hs ks) (p : TypeParameter) :
    .parameter p ∈ hs ↔ .parameter p ∈ ks := by
  induction alikeAll_iff_forall₂.mp h with
  | nil => exact Iff.rfl
  | cons hab tail ih =>
    rw [List.mem_cons, List.mem_cons, ih (alikeAll_iff_forall₂.mpr tail), eq_comm,
      hab.eq_parameter_iff p, eq_comm]

variable {f g : Hint → Bool}

theorem any_eq (h : AlikeAll ρ mixed hs ks) (hfg : ∀ a b, Alike ρ mixed a b → f a = g b) :
    hs.any f = ks.any g := by
  induction alikeAll_iff_forall₂.mp h with
  | nil => rfl
  | cons hab tail ih =>
    rw [List.any_cons, List.any_cons, hfg _ _ hab, ih (alikeAll_iff_forall₂.mpr tail)]

theorem filter (h : AlikeAll ρ mixed hs ks) (hfg : ∀ a b, Alike ρ mixed a b → f a = g b) :
    AlikeAll ρ mixed (hs.filter f) (ks.filter g) := by
  induction alikeAll_iff_forall₂.mp h with
  | nil => exact .nil
  | cons hab tail ih =>
    have htail := ih (alikeAll_iff_forall₂.mpr tail)
    rw [List.filter_cons, List.filter_cons, hfg _ _ hab]
    split
    · exact .cons hab htail
    · exact htail

end Hint.AlikeAll

section Parents

variable {ρ : ForwardRef → ForwardRef → Prop} {mixed : Bool} {table? table'? : Option Table}

/-- Alike bindings below alike bindings come to alike bindings. -/
theorem AlikeBindings.merge {t t' : Table} (l m : Label)
    (h : AlikeBindings ρ mixed t.entries.entries t'.entries.entries)
    (hchild : Table.Match ρ mixed table? table'?) :
    AlikeBindings ρ mixed (Table.merge l t table?).entries.entries
      (Table.merge m t' table'?).entries.entries := by
  have hempty {d d' : Dict TypeParameter Hint} (h : AlikeBindings ρ mixed d.entries d'.entries) :
      d.isEmpty = d'.isEmpty := by
    obtain ⟨es⟩ := d
    obtain ⟨es'⟩ := d'
    cases h <;> rfl
  cases hchild.entries with
  | none => exact h
  | some hentries =>
    unfold Table.merge
    dsimp only
    rw [hempty hentries, hempty h]
    split
    · exact h
    · split
      · exact hentries
      · exact hentries.insertAll h

/-- Alike bindings leave alike guards. -/
theorem Hint.AlikeAll.withoutRebound {g g' : Guard} (l m : Label)
    (h : AlikeAll ρ mixed g.hints g'.hints) (hchild : Table.Match ρ mixed table? table'?) :
    AlikeAll ρ mixed (g.withoutRebound l table?).hints (g'.withoutRebound m table'?).hints := by
  cases hchild.entries with
  | none => exact h
  | @some t t' hentries =>
    have hrebound : ∀ a b, Hint.Alike ρ mixed a b → Guard.isRebound t a = Guard.isRebound t' b := by
      intro a b hab
      cases hab with
      | parameter p =>
        have hlookup := hentries.find p
        show (Dict.find p t.entries.entries).isSome = (Dict.find p t'.entries.entries).isSome
        generalize Dict.find p t.entries.entries = x, Dict.find p t'.entries.entries = y at hlookup
        cases hlookup <;> rfl
      | _ => rfl
    unfold Guard.withoutRebound
    dsimp only
    rw [h.any_eq hrebound]
    split
    · exact h.filter fun a b hab ↦ congrArg not (hrebound a b hab)
    · exact h

namespace Sane

theorem alikeBelow_none : AlikeBelow ρ mixed none none := ⟨.nil, .nil, rfl⟩

/-- Steps keep parents alike. -/
theorem corresponds_alikeBelow : Corresponds ρ mixed (fun _ _ ↦ False) (AlikeBelow ρ mixed) where
  toMatch h := by
    refine ⟨fun p _ ↦ h.table.find p, fun p _ ↦ h.guard.parameter_mem_iff p, fun a ha _ ↦ ?_,
      fun b hb _ ↦ ?_, h.overridden⟩
    · obtain ⟨i, hi, rfl⟩ := List.mem_iff_getElem.mp ha
      have hall := alikeAll_iff_forall₂.mp h.guard
      exact ⟨_, List.getElem_mem (hall.length_eq ▸ hi), hall.get hi (hall.length_eq ▸ hi)⟩
    · obtain ⟨i, hi, rfl⟩ := List.mem_iff_getElem.mp hb
      have hall := alikeAll_iff_forall₂.mp h.guard
      exact ⟨_, List.getElem_mem (hall.length_eq ▸ hi), hall.get (hall.length_eq ▸ hi) hi⟩
  ignorable := ⟨.nil, .nil, rfl⟩
  handsOn h hs ht := by
    obtain ⟨htable, hguard, hoverridden⟩ := h
    refine ⟨?_, ?_, ?_⟩ <;> simp only [tableOf_some, guardOf_some, overriddenOf_some, hs.table,
      hs.guard, hs.overridden, ht.table, ht.guard, ht.overridden]
    · exact htable
    · exact hguard
    · exact hoverridden
  create h ht l m a b := ⟨h.table.merge l m ht, h.guard.withoutRebound l m ht, h.overridden⟩
  expanding := by
    intro s t a b h hab hmem l m
    refine ⟨h.table, ?_, h.overridden⟩
    show AlikeAll ρ mixed (if a ∈ s.guard.hints then _ else _) (if b ∈ t.guard.hints then _ else _)
    simp only [hmem]
    split
    · exact h.guard
    · exact alikeAll_iff_forall₂.mpr
        (List.rel_append (alikeAll_iff_forall₂.mp h.guard) (.cons hab .nil))
  overriding := by
    intro s t h l m name
    have hnames : s.overridden = t.overridden := h.overridden
    refine ⟨h.table, h.guard, ?_⟩
    simp only [overriddenOf_some, Sane.overriding, hnames]

end Sane

end Parents

/-! ### Reports that are alike -/

/-- Two reports word alike causes under one label, or are the same crash. -/
inductive Report.Alike (ρ : ForwardRef → ForwardRef → Prop) (mixed : Bool) : Report → Report → Prop
  | diagnostic {c d : Cause} (h : Cause.Alike ρ mixed c d) (label : String) :
      Alike ρ mixed (.diagnostic (c.diagnostic.atSite label)) (.diagnostic (d.diagnostic.atSite label))
  | crash (c : Crash) : Alike ρ mixed (.crash c) (.crash c)

theorem Failure.Alike.report {ρ : ForwardRef → ForwardRef → Prop} {mixed : Bool} {f g : Failure}
    (h : Failure.Alike ρ mixed f g) (label : String) :
    Report.Alike ρ mixed (f.report label) (g.report label) := by
  cases h with
  | cause h => exact .diagnostic h label
  | crash c => exact .crash c

/-! ### Calls -/

/-- A call of sanitizing. -/
inductive Call where
  /-- A raw hint that stands for itself. -/
  | root (raw : Value)
  /-- The annotation of a slot of a callable. -/
  | slot (callable : Callable) (name : String) (kind : ParameterKind) (raw : Value)
  /-- A child of a model that an earlier call has ended in. -/
  | child (parent : Sane) (hint : Hint)

namespace Call

/-- The hint that a call reduces. -/
def start (w : World) (site : Site) : Call → Attempt Run Failure Hint
  | root raw => Run.coerceRoot w raw
  | slot callable name kind raw => do shapeSlot w site callable name kind (← Run.coerceRoot w raw)
  | child _ hint => Run.intern hint

/-- The model that a call is made below. -/
def parent? : Call → Option Sane
  | root _ | slot _ _ _ _ => none
  | child parent _ => some parent

/-- What a call comes to, before failures are reported. -/
def run (w : World) (site : Site) (depth : Nat) (c : Call) : Attempt Run Failure Sane := do
  reduce w site depth (← c.start w site) c.parent?

section Entries

variable {w : World} {site : Site} {depth : Nat} {label : String}

theorem sanitizeRoot_eq_run (raw : Value) : sanitizeRoot w site depth raw label =
    mapFailure (Failure.report label) ((root raw).run w site depth) := rfl

theorem sanitizeChild_eq_run (parent : Sane) (hint : Hint) :
    sanitizeChild w site depth parent hint label =
      mapFailure (Failure.report label) ((child parent hint).run w site depth) := rfl

/-- Sanitizing a slot that has an annotation is a call, beside writing the annotation back. -/
theorem sanitizeSlot_eq_run {name : String} {kind : ParameterKind} {callable : Callable}
    {raw : Value} (hraw : callable.annotations.get? name = some raw) (hne : raw ≠ .undefined)
    (r : Run) : ∃ callable', sanitizeSlot w site depth name kind label (callable, r) =
      (mapFailure (Failure.report label) ((slot callable name kind raw).run w site depth) r).map id
        (callable', ·) := by
  unfold sanitizeSlot
  dsimp only
  split
  · rename_i heq
    rw [hraw] at heq
    cases heq
  · rename_i heq
    exact absurd (Option.some.inj (hraw.symm.trans heq)) hne
  · rename_i raw' _ heq
    obtain rfl := Option.some.inj (hraw.symm.trans heq)
    rcases h : Run.coerceRoot w raw r with ⟨f | hint, r₁⟩
    · have hstart : (slot callable name kind raw).start w site r = (.error f, r₁) :=
        bind_apply_error h
      refine ⟨callable, ?_⟩
      simp only [mapFailure, run, bind_apply_error hstart]
      rfl
    · have hstart : (slot callable name kind raw).start w site r =
          shapeSlot w site callable name kind hint r₁ := bind_apply_ok h
      refine ⟨{ callable with annotations := callable.annotations.insert name (.hint hint) }, ?_⟩
      simp only [mapFailure, run, bind_apply, hstart, parent?]
      rcases shapeSlot w site callable name kind hint r₁ with ⟨f | k, r₂⟩
      · rfl
      · dsimp only
        rcases reduce w site depth k none r₂ with ⟨f | t, r₃⟩ <;> rfl

theorem sanitizeSlot_fst {name : String} {kind : ParameterKind} {callable : Callable} {raw : Value}
    (hraw : callable.annotations.get? name = some raw) (hne : raw ≠ .undefined) (r : Run) :
    (sanitizeSlot w site depth name kind label (callable, r)).1 =
      (mapFailure (Failure.report label) ((slot callable name kind raw).run w site depth) r).1 := by
  obtain ⟨_, heq⟩ := sanitizeSlot_eq_run (w := w) hraw hne r
  exact congrArg Prod.fst heq

end Entries

/-- The hint that a call hands to the engine first. -/
def given? (w : World) (r : Run) : Call → Option Hint
  | root raw | slot _ _ _ raw => (coerceKeyed w raw r.store).1.toOption
  | child _ hint => some hint

/-- The visits of a call. -/
def visits (w : World) (site : Site) (depth : Nat) (c : Call) (r : Run) : List Visit :=
  match c.start w site r with
  | (.ok h, r') => TypeHints.visits w site depth h c.parent? r'
  | (.error _, _) => []

/-- A call hands a hint with `M` to the engine, and what is known of its visits is known. -/
structure Known (w : World) (site : Site) (B : Book) (M : Hint → Prop) (depth : Nat) (c : Call)
    (r : Run) : Prop where
  given : ∀ k, c.given? w r = some k → M k
  visited : ∀ v ∈ c.visits w site depth r, v.Known w B M

section Start

variable {w : World} {site : Site}

/-- What the slot of a callable is checked against is found by reading at most one text. -/
theorem follows_shapeSlot {R : Run → Run → Prop} [IsPreorder Run R]
    (hR : ∀ text, Follows R (site.destringify w text)) (callable : Callable) (name : String)
    (kind : ParameterKind) (hint : Hint) : Follows R (shapeSlot w site callable name kind hint) := by
  have hresolve : Follows R (resolveDeferred w site hint) := by
    unfold resolveDeferred
    split
    · exact (hR _).mapFailure _
    · exact .pure _
  unfold shapeSlot
  split
  · exact hresolve.bind fun _ ↦ .ofExcept _
  · split
    · exact hresolve.bind fun _ ↦ .pure _
    · exact .pure _
    · exact .pure _

theorem grows_start (c : Call) : Follows Run.Grows (c.start w site) := by
  cases c with
  | root raw => exact Run.grows_coerceRoot w raw
  | slot callable name kind raw =>
    exact (Run.grows_coerceRoot w raw).bind fun hint ↦
      follows_shapeSlot (Site.grows_destringify w site) callable name kind hint
  | child _ hint => exact Run.grows_intern hint

/-- A call starts with the hint that it is given as the only new representative. -/
theorem adds_start {A : Hint → Prop} {K : String → Substitution.Outcome → Prop} {c : Call} {r : Run}
    (h : ∀ k, c.given? w r = some k → A k) : Run.Adds A K r (c.start w site r).2 := by
  have hcoerced (raw : Value) (h : ∀ k, (coerceKeyed w raw r.store).1.toOption = some k → A k) :
      Run.Adds A K r (Run.coerceRoot w raw r).2 := by
    refine Follows.bind_at (Run.adds_onStore _ r) fun k r' hk ↦ Run.adds_intern (h k ?_) r'
    obtain ⟨s, hs, -⟩ := Run.onStore_inv hk
    rw [hs]
    rfl
  cases c with
  | root raw => exact hcoerced raw h
  | slot callable name kind raw =>
    exact Follows.bind_at (hcoerced raw h) fun hint r' _ ↦
      follows_shapeSlot (Run.adds_destringify w site) callable name kind hint r'
  | child _ hint => exact Run.adds_intern (h hint rfl) r

variable {depth : Nat} {raw : Value} {r : Run} {s : Store}

/-- A raw hint that stands for nothing fails before the engine is used. -/
theorem run_root_error {f : Failure} (h : coerceKeyed w raw r.store = (.error f, s)) :
    (root raw).run w site depth r = (.error f, { r with store := s }) := by
  have hcoerced : Run.coerceRoot w raw r = (.error f, { r with store := s }) := by
    refine bind_apply_error ?_
    rw [Run.onStore, h]
  exact bind_apply_error hcoerced

/-- A root starts with the representative of what its raw hint stands for. -/
theorem start_root {k : Hint} (h : coerceKeyed w raw r.store = (.ok k, s)) :
    (root raw).start w site r = Run.intern k { r with store := s } := by
  refine bind_apply_ok ?_
  rw [Run.onStore, h]

/-- Otherwise the representative of the hint that it stands for is reduced. -/
theorem run_root_ok {k : Hint} (h : coerceKeyed w raw r.store = (.ok k, s)) :
    (root raw).run w site depth r =
      (do reduce w site depth (← Run.intern k) none) { r with store := s } := by
  rw [run, bind_apply, start_root h]
  rfl

/-- What is known of a root is known of that hint and of the visits from its representative on. -/
theorem Known.of_root {B : Book} {M : Hint → Prop} {k : Hint}
    (known : (root raw).Known w site B M depth r) (h : coerceKeyed w raw r.store = (.ok k, s)) :
    M k ∧ ∀ v ∈ TypeHints.visits w site depth (r.engine.interner.intern k).1 none
      (Run.intern k { r with store := s } : Except Failure Hint × Run).2, v.Known w B M := by
  obtain ⟨hgiven, hvisited⟩ := known
  rw [Call.visits, start_root h] at hvisited
  refine ⟨hgiven k ?_, hvisited⟩
  rw [given?, h]
  rfl

end Start

end Call

/-! ### Histories -/

/-- What an engine keeps can be relied on: representatives stand under their own keys and have `M`,
outcomes are those of the book `B`, and the guards of the models are settled. -/
structure Engine.Reliable (w : World) (B : Book) (M : Hint → Prop) (models : List Sane) (e : Engine) :
    Prop where
  sound : e.interner.Sound
  refs : e.refs.Sound
  holds : ∀ k h, e.interner.hints.get? k = some h → M h
  honest : e.substitutions.Honest w.classes B
  settled : ∀ s ∈ models, s.guard.Settled e.interner

/-- What calls of one runtime lead to: the models that they have ended in so far, last ones first,
and the engine. A call is made at any site and in any state of the store, its parent is one of the
models before, and it may fail. -/
inductive History (w : World) (B : Book) (M : Hint → Prop) : List Sane → Engine → Prop
  | fresh : History w B M [] .fresh
  | call {models : List Sane} {r : Run} {site : Site} {depth : Nat} {c : Call}
      (before : History w B M models r.engine) (known : c.Known w site B M depth r)
      (parent : ∀ p, c.parent? = some p → p ∈ models) :
      History w B M ((c.run w site depth r).1.toOption.toList ++ models)
        (c.run w site depth r).2.engine

section Histories

variable {w : World} {B : Book} {M : Hint → Prop} {models : List Sane} {e : Engine}

namespace Engine.Reliable

variable {r r' : Run} {site : Site} {depth : Nat}

/-- An engine that gains just representatives with `M` can be relied on as before. -/
theorem adds (h : r.engine.Reliable w B M models) (hg : r.Grows r')
    (ha : Run.Adds M (fun _ _ ↦ False) r r') : r'.engine.Reliable w B M models where
  sound := hg.sound h.sound
  refs := hg.refs.sound h.refs
  holds k v hk := (ha.kept k v hk).elim (h.holds k v) id
  honest k out hk := (ha.known k out hk).elim (h.honest k out) False.elim
  settled s hs := (h.settled s hs).mono hg.interner

/-- The guard of a parent among the models is settled. -/
theorem settled_guardOf (h : r.engine.Reliable w B M models) {p? : Option Sane}
    (hp : ∀ p, p? = some p → p ∈ models) : (Sane.guardOf p?).Settled r.engine.interner := by
  cases p? with
  | none => exact .empty _
  | some p => exact h.settled p (hp p rfl)

/-- Reduction leaves an engine that can be relied on. -/
theorem reduce (h : r.engine.Reliable w B M models) {hint : Hint} {p? : Option Sane}
    (hp : ∀ p, p? = some p → p ∈ models)
    (known : ∀ v ∈ visits w site depth hint p? r, v.Known w B M) :
    (reduce w site depth hint p? r).2.engine.Reliable w B M
      ((reduce w site depth hint p? r).1.toOption.toList ++ models) := by
  have hgrows : r.Grows (TypeHints.reduce w site depth hint p? r).2 :=
    grows_reduce w site depth hint p? r
  have hfit : Visit.Fit w B ⟨hint, p?, r⟩ := ⟨h.sound, h.honest, h.settled_guardOf hp⟩
  obtain ⟨hhonest, hsettled⟩ := fit_reduce depth hfit fun v hv ↦ (known v hv).booked
  have hholds : (TypeHints.reduce w site depth hint p? r).2.Holds M :=
    holds_reduce depth h.holds fun v hv ↦ (known v hv).handled
  refine ⟨hgrows.sound h.sound, hgrows.refs.sound h.refs, hholds, hhonest, fun s hs ↦ ?_⟩
  rcases List.mem_append.mp hs with hs | hs
  · rcases hreduce : TypeHints.reduce w site depth hint p? r with ⟨f | t, r'⟩ <;> rw [hreduce] at hs
    · cases hs
    · rw [List.mem_singleton.mp hs]
      exact hsettled t r' hreduce
  · exact (h.settled s hs).mono hgrows.interner

/-- A call leaves an engine that can be relied on. -/
theorem call (h : r.engine.Reliable w B M models) {c : Call} (known : c.Known w site B M depth r)
    (parent : ∀ p, c.parent? = some p → p ∈ models) :
    (c.run w site depth r).2.engine.Reliable w B M
      ((c.run w site depth r).1.toOption.toList ++ models) := by
  obtain ⟨hgiven, hvisited⟩ := known
  have hstart : (c.start w site r).2.engine.Reliable w B M models :=
    h.adds (c.grows_start r) (Call.adds_start hgiven)
  unfold Call.visits at hvisited
  rcases hc : c.start w site r with ⟨f | hint, r₁⟩ <;> rw [hc] at hstart hvisited
  · rw [Call.run, bind_apply_error hc]
    exact hstart
  · rw [Call.run, bind_apply_ok hc]
    exact hstart.reduce parent hvisited

end Engine.Reliable

/-- Whatever calls a runtime has gone through, its engine can be relied on. -/
theorem History.reliable (h : History w B M models e) : e.Reliable w B M models := by
  induction h with
  | fresh =>
    exact ⟨Interner.sound_empty, Registry.sound_empty, fun _ _ h ↦ (by cases h),
      Substitution.Cache.honest_empty _ _, fun _ h ↦ (by cases h)⟩
  | call _ known parent ih => exact ih.call known parent

/-- In known surroundings, a run with an engine that can be relied on is in order. -/
theorem Engine.Reliable.inOrder {W : World} {site : Site} {names : Label → String} {r : Run}
    (h : r.engine.Reliable w B M models) (hat : r.At w W site names) :
    r.InOrder w W site names B M :=
  ⟨hat, h.sound, h.holds, h.honest⟩

end Histories

/-- Failures that are alike are reported alike. -/
theorem Outcomes.report {ρ : ForwardRef → ForwardRef → Prop} {mixed : Bool} {α β : Type}
    {V : α → β → Prop} {a : Attempt Run Failure α} {b : Attempt Run Failure β} {r r' : Run}
    (h : Outcomes (Failure.Alike ρ mixed) V (a r).1 (b r').1) (label : String) :
    Outcomes (Report.Alike ρ mixed) V (mapFailure (Failure.report label) a r).1
      (mapFailure (Failure.report label) b r').1 := by
  unfold mapFailure
  rcases ha : a r with ⟨f | x, r₁⟩ <;> rcases hb : b r' with ⟨g | y, r₁'⟩ <;> rw [ha, hb] at h <;>
    cases h
  · rename_i hfg
    exact .error (hfg.report label)
  · rename_i hxy
    exact .ok hxy

/-- A root is sanitized alike in a runtime that has gone through calls at other sites and in a fresh
one, if keys tell apart just those hints that are not alike. -/
theorem sanitizeRoot_of_history {w : World} {site : Site} {depth : Nat} {raw : Value}
    {label : String} {s : Store} {B B' : Book} {M M' : Hint → Prop} {mixed : Bool}
    {models : List Sane} {e : Engine} (history : History w B M models e)
    (hpure : ∀ k s', coerceKeyed w raw s = (.ok k, s') → w.Pure (w.under s'))
    (hM : Faithful Namesake mixed M) (hM' : Faithful Namesake mixed M')
    (known : (Call.root raw).Known w site B M depth ⟨s, e, none, []⟩)
    (known' : (Call.root raw).Known w site B' M' depth ⟨s, .fresh, none, []⟩) :
    Outcomes (Report.Alike Namesake mixed) (Sane.Alike Namesake mixed)
      (sanitizeRoot w site depth raw label ⟨s, e, none, []⟩).1
      (sanitizeRoot w site depth raw label ⟨s, .fresh, none, []⟩).1 := by
  rw [Call.sanitizeRoot_eq_run]
  refine Outcomes.report ?_ label
  rcases hc : coerceKeyed w raw s with ⟨f | k, s'⟩
  · rw [Call.run_root_error hc, Call.run_root_error hc]
    exact .error (.refl f)
  · -- from here on the runs have one store, so they are in the same surroundings
    have hinOrder {B : Book} {M : Hint → Prop} {models : List Sane} {e : Engine}
        (h : e.Reliable w B M models) :
        Run.InOrder w (w.under s') site (s'.shown w.classes) B M ⟨s', e, none, []⟩ :=
      Engine.Reliable.inOrder h ⟨rfl, rfl, h.refs, fun _ hscope ↦ by cases hscope⟩
    have hfresh : Engine.fresh.Reliable w B' M' [] := History.fresh.reliable
    obtain ⟨hk, hvisits⟩ := known.of_root hc
    obtain ⟨hk', hvisits'⟩ := known'.of_root hc
    obtain ⟨houtcome, -⟩ := reduce_intern_agree (hpure k s' hc) hM hM' Sane.corresponds_alikeBelow
      hk hk' (.refl namesake_refl k) Sane.alikeBelow_none hvisits
      (fun v hv ↦ ⟨hvisits' v hv, fun _ _ ↦ not_false⟩) (.empty _) (.empty _)
      ⟨hinOrder history.reliable, hinOrder hfresh⟩ trivial
    rw [Call.run_root_ok hc, Call.run_root_ok hc]
    exact houtcome.mono fun s t h ↦ ⟨h.1, h.2.table, h.2.guard, h.2.overridden⟩

/-! ### Two histories -/

theorem visits_one (w : World) (site : Site) (h : Hint) (p? : Option Sane) (r : Run) :
    visits w site 1 h p? r = [⟨h, p?, r⟩] := by
  unfold visits
  split <;> rfl

namespace Repeated

/-- The hint `Map<string, number>`. -/
def hint : Hint := .subscripted 50 (.template Builtin.map) [.primitive .string, .primitive .number]

/-- A place without settings and names of its own. -/
def site : Site := ⟨⟨false, ∅, defaultScopeName⟩, defaultScopeName, [], [], none⟩

/-- A run with an engine in which nothing has been read yet. -/
def start (e : Engine) : Run := ⟨{ Store.initial with next := 51 }, e, none, []⟩

/-- The book in which every label stands for `Map<string, number>`. -/
def book : Book := ⟨fun _ ↦ hint, World.builtin.bound?⟩

/-- Wherever nothing but the hint has been sanitized, it can be sanitized again. -/
theorem known {models : List Sane} {e : Engine}
    (h : e.Reliable .builtin book (· = hint) models) :
    (Call.root (.hint hint)).Known .builtin site book (· = hint) 1 (start e) := by
  have hrep : (e.interner.intern hint).1 = hint := Interner.intern_holds h.holds rfl
  refine ⟨fun k hk ↦ (Option.some.inj hk).symm, fun v hv ↦ ?_⟩
  have hv : v ∈ visits .builtin site 1 (e.interner.intern hint).1 none
      (Run.intern hint (start e) : Except Failure Hint × Run).2 := hv
  rw [visits_one, List.mem_singleton, hrep] at hv
  subst hv
  constructor
  · intro k hk
    cases hk with
    | self => rfl
    | leaf union _ => cases union
    | flat union _ => cases union
    | @value a application? _ _ _ form _ => rcases application? with - | ⟨l, args⟩ <;> cases form
  · intro m o args heq
    cases heq
    exact ⟨rfl, fun p _ ↦ rfl⟩

end Repeated

/-- After `Map<string, number>` has been sanitized at another place, sanitizing it again gives what
it gives in a fresh runtime. -/
theorem sanitizeRoot_of_history_repeated : ∃ models e,
    History .builtin Repeated.book (· = Repeated.hint) models e ∧ models ≠ [] ∧
      Outcomes (Report.Alike Namesake true) (Sane.Alike Namesake true)
        (sanitizeRoot .builtin Repeated.site 1 (.hint Repeated.hint) "" (Repeated.start e)).1
        (sanitizeRoot .builtin Repeated.site 1 (.hint Repeated.hint) "" (Repeated.start .fresh)).1 := by
  have hbefore : History .builtin Repeated.book (· = Repeated.hint) [] .fresh := .fresh
  have hafter := History.call (r := Repeated.start .fresh) hbefore
    (Repeated.known hbefore.reliable) nofun
  have hpure (k : Hint) (s' : Store)
      (h : coerceKeyed .builtin (.hint Repeated.hint) (Repeated.start .fresh).store = (.ok k, s')) :
      World.builtin.Pure (World.builtin.under s') := by
    cases h
    exact fun id b hb ↦ by cases hb
  have hfaithful : Faithful Namesake true (· = Repeated.hint) := by
    rintro _ _ rfl rfl
    exact ⟨fun _ ↦ .refl namesake_refl _, fun _ ↦ rfl⟩
  exact ⟨_, _, hafter, by decide +kernel, sanitizeRoot_of_history hafter hpure hfaithful hfaithful
    (Repeated.known hafter.reliable) (Repeated.known hbefore.reliable)⟩

namespace Nested

/-- The hint `[[string], number]`. -/
def earlier : Hint := .tuple 51 [.tuple 50 [.primitive .string], .primitive .number]

/-- The hint `[[string, number]]`. -/
def later : Hint := .tuple 53 [.tuple 52 [.primitive .string, .primitive .number]]

/-- A run with an engine in which nothing has been read yet. -/
def start (e : Engine) : Run := ⟨{ Store.initial with next := 54 }, e, none, []⟩

/-- The engine in which `[[string], number]` has been sanitized. -/
def engine : Engine := ((Call.root (.hint earlier)).run .builtin Repeated.site 1 (start .fresh)).2.engine

/-- The history in which `[[string], number]` has been sanitized. -/
theorem history (B : Book) : ∃ models, History .builtin B (fun _ ↦ True) models engine := by
  refine ⟨_, .call .fresh ⟨fun _ _ ↦ trivial, fun v hv ↦ ?_⟩ nofun⟩
  have hv : v ∈ visits .builtin Repeated.site 1 (Interner.empty.intern earlier).1 none
      (Run.intern earlier (start .fresh) : Except Failure Hint × Run).2 := hv
  rw [visits_one, List.mem_singleton] at hv
  subst hv
  exact ⟨fun _ _ ↦ trivial, nofun⟩

end Nested

/-- A history can show: after `[[string], number]`, which has the same key, `[[string, number]]` is
sanitized to another hint than in a fresh runtime. -/
theorem history_shows_in_nested : ∃ B models e,
    History .builtin B (fun _ ↦ True) models e ∧
      ¬ Outcomes (Report.Alike Namesake true) (Sane.Alike Namesake true)
        (sanitizeRoot .builtin Repeated.site 1 (.hint Nested.later) "" (Nested.start e)).1
        (sanitizeRoot .builtin Repeated.site 1 (.hint Nested.later) "" (Nested.start .fresh)).1 := by
  obtain ⟨models, history⟩ := Nested.history Repeated.book
  refine ⟨_, models, _, history, fun h ↦ ?_⟩
  have hafter : (sanitizeRoot .builtin Repeated.site 1 (.hint Nested.later) ""
      (Nested.start Nested.engine)).1.toOption.map Sane.hint = some Nested.earlier := by
    decide +kernel
  have hfresh : (sanitizeRoot .builtin Repeated.site 1 (.hint Nested.later) ""
      (Nested.start .fresh)).1.toOption.map Sane.hint = some Nested.later := by
    decide +kernel
  generalize (sanitizeRoot .builtin Repeated.site 1 (.hint Nested.later) ""
    (Nested.start Nested.engine)).1 = x at h hafter
  generalize (sanitizeRoot .builtin Repeated.site 1 (.hint Nested.later) ""
    (Nested.start .fresh)).1 = y at h hfresh
  cases h with
  | error _ => cases hafter
  | ok hst =>
    have halike := hst.hint
    rw [Option.some.inj hafter, Option.some.inj hfresh] at halike
    cases halike with
    | tuple _ _ elements =>
      cases elements with
      | cons _ tail => cases tail

end TypeHints
