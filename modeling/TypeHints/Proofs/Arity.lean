import TypeHints.Proofs.Arguments
import TypeHints.Proofs.Coercions
import TypeHints.Proofs.Slots

/-!
# Arity in slots

A template that is applied to no arguments, or to more than it declares, is refused when the
application is reduced (`failure?_reduce_template`). Some slots are shaped before that, and what
they keep of an annotation is its first argument or its bare template (`Callable.replaces`): a
promise in the result of an asynchronous callable, a generator in that of a generator, an array in a
rest parameter. Such an application is never reduced, and nothing else counts its arguments.

So an annotation that a slot accepts can still be one that is refused where it stands for itself,
and these applications are all there is to it (`arity_refused_iff_replaced`). The two directions
need different things:

* an annotation that is not replaced is reduced in the slot as it is by itself, perhaps after one
  more step that reads a text; so what the slot accepts is not refused (`code?_ne_arity_of_ok`,
  `reduce_of_resolveDeferred`);
* one that is replaced is reduced nowhere but by itself, where its arguments are counted
  (`code?_reduce_template_iff`). All templates that are replaced declare parameters.

An outcome that has been kept from an earlier call answers for the application, so it has to be the
one that a computation would give; that is what the book is for. Each way of shaping a slot hides
some application (`arity_hidden_in_slots`).
-/

namespace TypeHints

open Attempt

/-! ### What is wrong with an application -/

namespace Substitution

/-- A violation is no matter of arity. -/
theorem code_of_violation? {w : World} {hint : Hint} {e : TypeParameter × Hint} {c : Cause}
    (h : violation? w hint e = some c) : c.diagnostic.code = .bound := by
  unfold violation? at h
  split at h
  · cases h
  split at h
  · cases h
  split at h
  · split at h <;> cases h
    rfl
  · cases h

/-- An application is malformed exactly if parameters are declared, and there are no arguments or more
of them than parameters. -/
theorem arity_of_compute_iff (w : World) (hint : Hint) (params : List TypeParameter)
    (args : List Hint) :
    (failure? (compute w hint params args)).map (·.diagnostic.code) = some .arity ↔
      params ≠ [] ∧ (args = [] ∨ params.length < args.length) := by
  unfold compute
  split
  · rename_i hnothing
    refine iff_of_false nofun ?_
    rintro ⟨hparams, hargs⟩
    rcases Bool.or_eq_true_iff.mp hnothing with hempty | hsame
    · exact hparams (List.isEmpty_iff.mp hempty)
    · rw [of_decide_eq_true hsame, List.map_eq_nil_iff, List.length_map] at hargs
      exact hargs.elim hparams (Nat.lt_irrefl _)
  rename_i hnothing
  have hparams : params ≠ [] := by
    rintro rfl
    exact hnothing rfl
  split
  · rename_i hempty
    exact iff_of_true rfl ⟨hparams, .inl (List.isEmpty_iff.mp hempty)⟩
  rename_i hargs
  split
  · rename_i hmore
    exact iff_of_true rfl ⟨hparams, .inr hmore⟩
  rename_i hmore
  refine iff_of_false ?_ fun h ↦ h.2.elim (fun he ↦ hargs (List.isEmpty_iff.mpr he)) hmore
  dsimp only
  split
  · rename_i c hviolation
    obtain ⟨e, -, he⟩ := List.exists_of_findSome?_eq_some hviolation
    intro hcode
    cases (code_of_violation? he).symm.trans (Option.some.inj hcode)
  · exact nofun

end Substitution

/-- The code that a failure is reported with, unless it is a crash. -/
def Failure.code? : Failure → Option Code
  | .cause c => some c.diagnostic.code
  | .crash _ => none

section Reduction

variable {w : World} {site : Site} {B : Book} {l : Label} {t : Template} {args : List Hint}
  {p? : Option Sane} {r : Run} {depth : Nat}

/-- The reduction of an application fails just as the computation of its bindings does. -/
theorem failure?_reduce_template (hr : r.engine.substitutions.Honest w.classes B)
    (hB : B.Has (w.under r.store) l (.template t) args) :
    failure? (reduce w site (depth + 1) (.subscripted l (.template t) args) p? r).1 =
      (failure? (Substitution.compute (w.under r.store) (.subscripted l (.template t) args) t.params
        args)).map .cause := by
  have hentries := Run.substitute_eq hr hB
  rw [show (Origin.template t).params = t.params from rfl] at hentries
  rcases reduceStep_template_cases w site l t args p? r with ⟨c, r₁, hsub, hstep⟩ |
    ⟨table?, r₁, s, r₂, hsub, hstep⟩ <;> rw [hsub] at hentries
  · rw [reduce_succ_error hstep]
    rcases hcompute : Substitution.compute (w.under r.store) (.subscripted l (.template t) args)
      t.params args with c | d? <;> rw [hcompute] at hentries <;> cases hentries
    rfl
  · rw [reduce_succ_done hstep]
    rcases hcompute : Substitution.compute (w.under r.store) (.subscripted l (.template t) args)
      t.params args with c | d? <;> rw [hcompute] at hentries <;> cases hentries
    rfl

/-- An application of a template with parameters is refused for its arity exactly if there are no
arguments or more of them than parameters. -/
theorem code?_reduce_template_iff (hr : r.engine.substitutions.Honest w.classes B)
    (hB : B.Has (w.under r.store) l (.template t) args) (hparams : t.params ≠ []) :
    (failure? (reduce w site (depth + 1) (.subscripted l (.template t) args) p? r).1).bind
      Failure.code? = some .arity ↔ args = [] ∨ t.params.length < args.length := by
  have hcode : (failure? (reduce w site (depth + 1) (.subscripted l (.template t) args) p? r).1).bind
      Failure.code? = (failure? (Substitution.compute (w.under r.store)
        (.subscripted l (.template t) args) t.params args)).map (·.diagnostic.code) := by
    rw [failure?_reduce_template hr hB]
    cases failure? (Substitution.compute _ _ _ _) <;> rfl
  rw [hcode, Substitution.arity_of_compute_iff, and_iff_right hparams]

end Reduction

/-! ### What a slot is shaped by -/

/-- The hint that an annotation stands for; a text is read. -/
def Run.annotated (w : World) (site : Site) (raw : Value) : Attempt Run Failure Hint := do
  resolveDeferred w site (← coerceRoot w raw)

/-- Reading an annotation keeps no outcome of an application. -/
theorem Run.honest_annotated {w : World} {site : Site} {B : Book} {raw : Value} {h : Hint}
    {r r₁ : Run} (hr : r.engine.substitutions.Honest w.classes B)
    (hread : annotated w site raw r = (.ok h, r₁)) :
    r₁.engine.substitutions.Honest w.classes B := by
  have hadds : Follows (Adds (fun _ ↦ True) fun _ _ ↦ False) (annotated w site raw) := by
    refine Follows.bind ((adds_onStore _).bind fun _ ↦ adds_intern trivial) fun _ ↦ ?_
    unfold resolveDeferred
    split
    · exact (adds_destringify w site _).mapFailure _
    · exact .pure _
  exact fun k out hk ↦ hr k out (((hadds.of_run hread).known k out hk).resolve_right not_false)

/-- What a slot is checked against is the annotation itself, unless that is one of some templates or an
application of one. -/
def Hint.Replaced (ts : List Template) (h k : Hint) : Prop :=
  (∃ t ∈ ts, h.template? = some t) ∨ k = h ∧ ∀ t ∈ ts, h.template? ≠ some t

namespace Hint

variable {callable : String} {h k : Hint} {templates : List Template}

/-- A hint with a template is the template or an application of it. -/
theorem eq_of_template?_eq_some {t : Template} (ht : h.template? = some t) :
    h = .template t ∨ ∃ l args, h = .subscripted l (.template t) args := by
  unfold template? at ht
  split at ht <;> cases ht
  · exact .inl rfl
  · exact .inr ⟨_, _, rfl⟩

/-- The result of an asynchronous callable is a promise, of which the argument is kept, or the hint.
-/
theorem replaced_promised (hk : h.promised callable = .ok k) : Replaced [Builtin.promise] h k := by
  unfold promised at hk
  split at hk
  · rename_i heq
    cases hk
    exact .inr ⟨rfl, fun t _ ↦ by rw [heq]; exact nofun⟩
  · split at hk <;> cases hk
    rename_i ht
    exact .inl ⟨_, List.mem_singleton_self _, ht⟩

/-- That of a generator is checked as the bare template. -/
theorem replaced_generated (hk : h.generated callable templates = .ok k) :
    Replaced templates h k := by
  unfold generated at hk
  split at hk
  · rename_i heq
    cases hk
    exact .inr ⟨rfl, fun t _ ↦ by rw [heq]; exact nofun⟩
  · split at hk
    · rename_i t ht
      split at hk <;> cases hk
      rename_i hmem
      exact .inl ⟨t, hmem, ht⟩
    · cases hk

/-- A rest parameter is checked as the items of its array. -/
theorem replaced_restItem (h : Hint) :
    Replaced [Builtin.array, Builtin.readonlyArray] h h.restItem := by
  unfold restItem
  split
  · rename_i harray
    exact .inl (harray.elim (⟨_, .head _, ·⟩) (⟨_, .tail _ (.head _), ·⟩))
  · rename_i harray
    refine .inr ⟨rfl, fun t ht heq ↦ harray ?_⟩
    rcases List.mem_pair.mp ht with rfl | rfl
    · exact .inl heq
    · exact .inr heq

end Hint

namespace Callable

variable {callable : Callable} {slot : String} {kind : ParameterKind} {h k : Hint} {t : Template}

/-- The templates of whose applications a slot keeps no more than the first argument or the
template. -/
def replaces (callable : Callable) (slot : String) (kind : ParameterKind) : List Template :=
  if slot = returnSlot then
    match callable.kind with
    | .function => []
    | .async => [Builtin.promise]
    | .generator => Builtin.generatorResults
    | .asyncGenerator => Builtin.asyncGeneratorResults
  else
    match kind with
    | .rest => [Builtin.array, Builtin.readonlyArray]
    | .positional | .optional => []

/-- An annotation that a slot accepts is checked as it is, but for applications of these templates. -/
theorem replaced_shaped (hk : callable.shaped slot kind h = .ok k) :
    Hint.Replaced (callable.replaces slot kind) h k := by
  have hself {k : Hint} (hk : (.ok h : Except Cause Hint) = .ok k) : Hint.Replaced [] h k :=
    .inr ⟨(Except.ok.inj hk).symm, nofun⟩
  unfold shaped at hk
  unfold replaces
  by_cases hslot : slot = returnSlot
  · rw [if_pos hslot] at hk ⊢
    unfold Hint.returned at hk
    generalize callable.kind = c at hk ⊢
    cases c with
    | function => exact hself hk
    | async => exact Hint.replaced_promised hk
    | generator | asyncGenerator => exact Hint.replaced_generated hk
  · rw [if_neg hslot] at hk ⊢
    cases kind with
    | rest => exact Except.ok.inj hk ▸ Hint.replaced_restItem h
    | positional | optional => exact hself hk

/-- All these templates declare parameters. -/
theorem params_ne_nil_of_mem_replaces (ht : t ∈ callable.replaces slot kind) : t.params ≠ [] := by
  revert t
  unfold replaces
  split
  · split <;> decide
  · split <;> decide

/-- Where a template is replaced, texts are read first. -/
theorem readsFirst_of_mem_replaces (ht : t ∈ callable.replaces slot kind) :
    readsFirst slot kind = true := by
  unfold replaces at ht
  unfold readsFirst
  split at ht
  · rename_i hslot
    rw [decide_eq_true hslot, Bool.true_or]
  · cases kind with
    | rest => rw [decide_eq_true rfl, Bool.or_true]
    | positional | optional => cases ht

end Callable

/-! ### Annotations that a slot accepts -/

section Slots

variable {w : World} {site : Site} {B : Book} {callable : Callable} {slot label label' : String}
  {kind : ParameterKind} {raw : Value} {depth depth' : Nat} {h k : Hint} {p? : Option Sane} {s : Sane}
  {r r₁ r₂ : Run}

theorem code?_report {α : Type} (x : Attempt Run Failure α) (label : String) (r : Run) :
    (failure? (mapFailure (Failure.report label) x r).1).bind Report.code? =
      (failure? (x r).1).bind Failure.code? := by
  unfold mapFailure
  rcases x r with ⟨(c | c) | y, r'⟩ <;> rfl

/-- What reduces well is not refused at another depth. -/
theorem code?_ne_arity_of_ok (hs : (reduce w site depth h p? r).1 = .ok s) :
    (failure? (reduce w site depth' h p? r).1).bind Failure.code? ≠ some .arity := by
  intro hcode
  have hdeep : (reduce w site depth h p? r).1 ≠ .error (.crash .tooDeep) := by
    rw [hs]
    exact nofun
  have hdeep' : (reduce w site depth' h p? r).1 ≠ .error (.crash .tooDeep) := by
    intro heq
    rw [heq] at hcode
    cases hcode
  rw [← reduce_eq_of_ne_tooDeep hdeep hdeep', hs] at hcode
  cases hcode

/-- What an annotation stands for is reduced at most one step later than the annotation. -/
theorem reduce_of_resolveDeferred (hread : resolveDeferred w site h r₁ = (.ok k, r₂))
    (hdepth : 1 < depth) :
    ∃ n, reduce w site depth h none r₁ = reduce w site (n + 1) k none r₂ := by
  unfold resolveDeferred at hread
  split at hread
  · obtain ⟨n, rfl⟩ := Nat.exists_eq_add_of_lt hdepth
    rw [Nat.add_comm 1 n]
    exact ⟨n, reduce_succ_goOn (bind_apply_ok hread)⟩
  · cases hread
    exact ⟨depth - 1, by rw [Nat.sub_add_cancel (Nat.lt_of_succ_lt hdepth)]⟩

/-- A slot accepts an annotation that is refused for its arity where it stands for itself exactly if
the annotation is an application of a template that the slot replaces, to no arguments or to more than
the template declares. -/
theorem arity_refused_iff_replaced (hraw : callable.annotations.get? slot = some raw)
    (hr : r.engine.substitutions.Honest w.classes B)
    (hbooked : ∀ h r₁, Run.annotated w site raw r = (.ok h, r₁) → Visit.Booked w B ⟨h, none, r₁⟩)
    (hslot : (sanitizeSlot w site depth slot kind label (callable, r)).1 = .ok s)
    (hdepth : 1 < depth') :
    (failure? (sanitizeRoot w site depth' raw label' r).1).bind Report.code? = some .arity ↔
      ∃ l t args r₁, Run.annotated w site raw r = (.ok (.subscripted l (.template t) args), r₁) ∧
        t ∈ callable.replaces slot kind ∧ (args = [] ∨ t.params.length < args.length) := by
  rw [Call.sanitizeRoot_eq_run, code?_report]
  by_cases hundefined : raw = .undefined
  · subst hundefined
    refine iff_of_false nofun ?_
    rintro ⟨_, _, _, _, hread, -⟩
    cases hread
  rw [Call.sanitizeSlot_fst hraw hundefined] at hslot
  have hrun := mapFailure_eq_ok_iff.mp (Prod.ext hslot rfl)
  obtain ⟨a, r₂, hstart, hreduce⟩ := bind_eq_ok_iff.mp hrun
  obtain ⟨h, r₁, hcoerce, hshape⟩ := bind_eq_ok_iff.mp hstart
  have hroot : (Call.root raw).run w site depth' r = reduce w site depth' h none r₁ :=
    bind_apply_ok hcoerce
  rw [hroot]
  cases hfirst : readsFirst slot kind with
  | false =>
    -- a slot that is not shaped replaces nothing, and what it has reduced is the annotation
    rw [shapeSlot_of_not_readsFirst hfirst] at hshape
    cases hshape
    refine iff_of_false (code?_ne_arity_of_ok (congrArg Prod.fst hreduce)) ?_
    rintro ⟨_, t, _, _, -, ht, -⟩
    rw [Callable.readsFirst_of_mem_replaces ht] at hfirst
    cases hfirst
  | true =>
    rw [shapeSlot_of_readsFirst hfirst] at hshape
    obtain ⟨k, r₃, hresolve, hshape⟩ := bind_eq_ok_iff.mp hshape
    have hread : Run.annotated w site raw r = (.ok k, r₃) := (bind_apply_ok hcoerce).trans hresolve
    obtain ⟨n, hn⟩ := reduce_of_resolveDeferred hresolve hdepth
    rw [hn, hread]
    rcases hshaped : callable.shaped slot kind k with c | a' <;> rw [hshaped] at hshape <;>
      cases hshape
    -- if the template is replaced its arguments are not looked at in the slot; otherwise the slot has
    -- reduced the annotation itself
    rcases Callable.replaced_shaped hshaped with ⟨t, ht, htemplate⟩ | ⟨rfl, hnot⟩
    · obtain rfl | ⟨l, args, rfl⟩ := Hint.eq_of_template?_eq_some htemplate
      · refine iff_of_false nofun ?_
        rintro ⟨_, _, _, _, heq, -⟩
        cases heq
      · have hB := hbooked _ _ hread l (.template t) args rfl
        rw [code?_reduce_template_iff (Run.honest_annotated hr hread) hB
          (Callable.params_ne_nil_of_mem_replaces ht)]
        refine ⟨fun hargs ↦ ⟨l, t, args, r₂, rfl, ht, hargs⟩, ?_⟩
        rintro ⟨_, _, _, _, heq, -, hargs⟩
        cases heq
        exact hargs
    · refine iff_of_false (code?_ne_arity_of_ok (congrArg Prod.fst hreduce)) ?_
      rintro ⟨_, t, _, _, heq, ht, -⟩
      cases heq
      exact hnot t ht rfl

end Slots

/-! ### A promise of two

An asynchronous callable that is annotated with `Promise<string, number>` is checked against
`string`.
-/

namespace Misapplied

/-- A template applied to arguments. -/
def apply (t : Template) (args : List Hint) : Hint := .subscripted 50 (.template t) args

/-- The hint `Promise<string, number>`. -/
def promise : Hint := apply Builtin.promise [.primitive .string, .primitive .number]

/-- The book in which this is the only application. -/
def book : Book := ⟨fun _ ↦ promise, World.builtin.bound?⟩

/-- A callable with an annotation of one slot. -/
def load (kind : CallableKind) (slot : String) (raw : Value) : Callable :=
  ⟨"load", kind, .ofList [(slot, raw)]⟩

/-- What sanitizing the slot comes to. -/
def outcome (kind : CallableKind) (slot : String) (parameter : ParameterKind) (raw : Value) :
    Except Report Sane :=
  (sanitizeSlot .builtin Repeated.site 2 slot parameter ""
    (load kind slot raw, Repeated.start .fresh)).1

/-- The code that the annotation is refused with where it stands for itself. -/
def code? (raw : Value) : Option Code :=
  (failure? (sanitizeRoot .builtin Repeated.site 2 raw "" (Repeated.start .fresh)).1).bind
    Report.code?

/-- A slot accepts an annotation that is refused for its arity where it stands for itself. -/
def Hidden (kind : CallableKind) (slot : String) (parameter : ParameterKind) (raw : Value) : Prop :=
  (outcome kind slot parameter raw).toOption.isSome = true ∧ code? raw = some .arity

instance (kind : CallableKind) (slot : String) (parameter : ParameterKind) (raw : Value) :
    Decidable (Hidden kind slot parameter raw) :=
  inferInstanceAs (Decidable (_ ∧ _))

end Misapplied

/-- The result of an asynchronous callable accepts `Promise<string, number>`, which is refused where
it stands for itself. -/
theorem arity_refused_of_promise :
    (∃ s, Misapplied.outcome .async returnSlot .positional (.hint Misapplied.promise) = .ok s) ∧
      Misapplied.code? (.hint Misapplied.promise) = some .arity := by
  have hok : (Misapplied.outcome .async returnSlot .positional
      (.hint Misapplied.promise)).toOption.isSome := by decide +kernel
  have hslot := congrArg Prod.fst (eq_ok_of_isSome hok .ignorable)
  refine ⟨⟨_, hslot⟩, (arity_refused_iff_replaced (B := Misapplied.book) rfl
    (Substitution.Cache.honest_empty _ _) (fun h r₁ hread ↦ ?_) hslot (Nat.lt_succ_self 1)).mpr
    ⟨_, _, _, _, rfl, .head _, .inr (by decide)⟩⟩
  cases hread
  rintro m o args ⟨⟩
  exact ⟨rfl, fun p _ ↦ rfl⟩

/-- Each way of shaping a slot hides arguments that are missing or too many, whether the annotation is
a hint or a text. -/
theorem arity_hidden_in_slots :
    Misapplied.Hidden .async returnSlot .positional (.hint Misapplied.promise) ∧
      Misapplied.Hidden .async returnSlot .positional (.string "Promise<string, number>") ∧
      Misapplied.Hidden .generator returnSlot .positional
        (.hint (Misapplied.apply Builtin.iterable [.primitive .string, .primitive .number])) ∧
      Misapplied.Hidden .asyncGenerator returnSlot .positional
        (.hint (Misapplied.apply Builtin.asyncIterator [])) ∧
      Misapplied.Hidden .function "items" .rest (.hint (Misapplied.apply Builtin.array [])) := by
  decide +kernel

end TypeHints
