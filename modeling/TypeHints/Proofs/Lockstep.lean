import TypeHints.Proofs.Cascade

/-!
# Reductions in lockstep

Of the model that it is made below, a reduction asks what parameters are bound to, what the guard
holds and which overrides have been applied. Two models that differ in what they say of some
parameters (`Sane.Parallel`) are the same to a reduction that comes to none of these: from one run
it takes the same steps below both, to the same hint or the same failure, and leaves the same run
(`reduce_lockstep`).

The two reductions find the same engine before every step, so nothing is asked of keys and labels.
This sets lockstep apart from the simulation of runs in different engines, where both matter. The
engine has to be one that calls have left (`Engine.Orderly`): a representative in the place of an
application of an alias is no parameter, and a table that is kept binds no parameter twice. Every
call leaves such an engine (`Call.orderly_run`).

A parameter is excepted by a property of it and of its binding in the second model, since an
exception ends when the parameter is bound anew: what new bindings say holds below both models from
then on (`Sane.Parallel.create`). The proof goes along the step of reduction, one lemma for each
kind of hint, and then by induction on the depth. `Lockstep` is agreement of two actions from one
run that has an engine in order.
-/

namespace TypeHints

open Attempt

/-! ### Actions from one state -/

/-- Both runs are in one state, which has `P`. -/
def Comparison.together {σ : Type} (P : σ → Prop) : Comparison σ where
  rel s t := s = t ∧ P s
  ok _ := True

namespace Attempt

variable {σ ε δ α β α' β' : Type} {P : σ → Prop} {E : ε → δ → Prop} {V : α → β → Prop}

/-- An action does the same as itself. -/
theorem Agree.self {a : Attempt σ ε α} {U : α → Prop} {D : ε → Prop} (h : Yields P a U D) :
    Agree (.together P) Eq (fun x y ↦ x = y ∧ U x) a a := by
  rintro s _ ⟨rfl, hs⟩ -
  have hkeeps := h.keeps s hs
  rcases hr : a s with ⟨e | x, s'⟩ <;> rw [hr] at hkeeps
  · exact ⟨.error rfl, rfl, hkeeps⟩
  · exact ⟨.ok ⟨rfl, h.value_of_run hs hr⟩, rfl, hkeeps⟩

theorem AgreeAt.bind_together {W : α' → β' → Prop} {a : Attempt σ ε α} {b : Attempt σ δ β}
    {f : α → Attempt σ ε α'} {g : β → Attempt σ δ β'} {s : σ}
    (h : AgreeAt (.together P) E V a b s s)
    (hfg : ∀ x y s', V x y → a s = (.ok x, s') → b s = (.ok y, s') →
      AgreeAt (.together P) E W (f x) (g y) s' s') :
    AgreeAt (.together P) E W (a >>= f) (b >>= g) s s := by
  refine h.bind (R := fun _ _ ↦ True) (fun _ _ _ _ ↦ trivial) (fun _ _ ↦ trivial) ?_
  rintro x y s' t' hxy hx hy ⟨rfl, hs'⟩ hok
  exact hfg x y s' hxy hx hy ⟨rfl, hs'⟩ hok

theorem Agree.bind_together {W : α' → β' → Prop} {a : Attempt σ ε α} {b : Attempt σ δ β}
    {f : α → Attempt σ ε α'} {g : β → Attempt σ δ β'} (h : Agree (.together P) E V a b)
    (hfg : ∀ x y, V x y → Agree (.together P) E W (f x) (g y)) :
    Agree (.together P) E W (a >>= f) (b >>= g) := by
  rintro s _ ⟨rfl, hs⟩ hok
  exact (h s s).bind_together (fun x y s' hxy _ _ ↦ hfg x y hxy s' s') ⟨rfl, hs⟩ hok

/-- Two actions that begin with the same one agree if the rest does. -/
theorem Agree.after {W : α' → β' → Prop} {a : Attempt σ ε α} {U : α → Prop} {D : ε → Prop}
    (h : Yields P a U D) {f : α → Attempt σ ε α'} {g : α → Attempt σ ε β'}
    (hfg : ∀ x, U x → Agree (.together P) Eq W (f x) (g x)) :
    Agree (.together P) Eq W (a >>= f) (a >>= g) := by
  refine (Agree.self h).bind_together ?_
  rintro x _ ⟨rfl, hx⟩
  exact hfg x hx

end Attempt

/-! ### Engines that calls have left -/

/-- Representatives stand under their own keys, and outcomes that are kept have been computed. -/
structure Engine.Orderly (e : Engine) : Prop where
  sound : e.interner.Sound
  computed : e.substitutions.Computed

theorem Engine.orderly_fresh : Engine.Orderly .fresh :=
  ⟨Interner.sound_empty, Substitution.Cache.computed_empty⟩

section Orderly

variable {w : World} {site : Site} {depth : Nat} {r r' : Run}

/-- An engine stays in order if just computed outcomes are added to what it keeps. -/
theorem Run.Adds.orderly {A : Hint → Prop} (h : Adds A (fun _ out ↦ out.Computed) r r')
    (hg : r.Grows r') (hr : r.engine.Orderly) : r'.engine.Orderly where
  sound := hg.sound hr.sound
  computed key out hout := (h.known key out hout).elim (hr.computed key out) id

/-- The bindings that were computed bind no parameter twice. -/
theorem Substitution.Outcome.Computed.nodup_keys {out : Substitution.Outcome} (h : out.Computed)
    {t : Table} (ht : out.result = .ok (some t)) : t.entries.keys.Nodup := by
  obtain ⟨w, l, hint, params, args, rfl⟩ := h
  have hentries := outcome_entries w l hint params args
  rw [ht] at hentries
  exact nodup_of_compute hentries.symm

namespace Run

theorem orderly_fresh : Yields (fun r ↦ r.engine.Orderly) (fresh : Attempt Run Failure Label)
    (fun _ ↦ True) (fun _ ↦ True) :=
  .of_keeps fun _ h ↦ h

theorem orderly_intern (h : Hint) : Yields (fun r ↦ r.engine.Orderly)
    (intern h : Attempt Run Failure Hint) (fun _ ↦ True) (fun _ ↦ True) :=
  .of_keeps fun r ↦ (adds_intern (A := fun _ ↦ True) trivial r).orderly (grows_intern h r)

/-- What an application binds, it does not bind twice. -/
theorem orderly_substitute (w : World) (hint : Hint) (params : List TypeParameter)
    (args : List Hint) : Yields (fun r ↦ r.engine.Orderly) (substitute w hint params args)
      Table.Proper (fun _ ↦ True) := by
  refine ⟨fun r ↦ ?_, fun r hr table? h ↦ ?_, fun _ _ _ _ ↦ trivial⟩
  · have hadds : Adds (fun _ ↦ True) (fun _ out ↦ out.Computed) r
        (substitute w hint params args r).2 := adds_substitute fun l ↦ ⟨_, l, _, _, _, rfl⟩
    exact hadds.orderly (grows_substitute w hint params args r)
  · rintro table rfl
    exact hr.computed.build_fst.nodup_keys (result_of_substitute h)

theorem orderly_aliasValue (w : World) (a : Alias) : Yields (fun r ↦ r.engine.Orderly)
    (TypeHints.aliasValue w a) (fun _ ↦ True) (fun _ ↦ True) :=
  .of_keeps fun r ↦ (adds_aliasValue (A := fun _ ↦ True) w a r).orderly (grows_aliasValue w a r)

/-- Every action of a step of reduction keeps an engine in order. -/
theorem keeps_orderly (w : World) (site : Site) :
    Keeps w site (fun r ↦ r.engine.Orderly) (fun _ ↦ True) where
  quiet r r' h hr := by rwa [h.engine]
  intern := orderly_intern
  substitute hint params args := (orderly_substitute w hint params args).mono fun _ _ ↦ trivial
  aliasValue := orderly_aliasValue w
  destringify text := by
    refine Yields.mapFailure (E := fun _ ↦ True) (.of_keeps fun r ↦ ?_) fun _ _ ↦ trivial
    exact (adds_destringify (A := fun _ ↦ True) w site text r).orderly
      (Site.grows_destringify w site text r)
  emptyUnion := trivial

end Run

/-- Neither an alias nor the representative of an application of one is a parameter. -/
theorem orderly_guardKey (a : Alias) (application? : Option (Label × List Hint)) :
    Yields (fun r ↦ r.engine.Orderly) (guardKey a application?) (·.isParameter = false)
      (fun _ ↦ True) := by
  refine ⟨?_, fun r hr k hk ↦ ?_, fun _ _ _ _ ↦ trivial⟩
  · cases application? with
    | none => exact fun _ h ↦ h
    | some app => exact (Run.orderly_intern (.subscripted app.1 (.alias a) app.2)).keeps
  · cases (guardKey_apply a application? r).symm.trans hk
    exact a.isParameter_key hr.sound application?

theorem orderly_aliasTable (w : World) (a : Alias) (application? : Option (Label × List Hint)) :
    Yields (fun r ↦ r.engine.Orderly) (aliasTable w a application?) Table.Proper
      (fun _ ↦ True) := by
  cases application? with
  | none => exact .pure nofun
  | some app => exact Run.orderly_substitute w (.subscripted app.1 (.alias a) app.2) a.params app.2

/-- Calls leave an engine in order. -/
theorem Call.orderly_run (c : Call) (h : r.engine.Orderly) :
    (c.run w site depth r).2.engine.Orderly := by
  have hgrows : Follows Run.Grows (c.run w site depth) :=
    c.grows_start.bind fun hint ↦ grows_reduce w site depth hint c.parent?
  exact ⟨(hgrows r).sound h.sound, c.computed_run h.computed rfl⟩

theorem History.orderly {B : Book} {M : Hint → Prop} {models : List Sane} {e : Engine}
    (h : History w B M models e) : e.Orderly := by
  induction h with
  | fresh => exact Engine.orderly_fresh
  | @call _ _ _ _ c _ _ _ ih => exact c.orderly_run ih

end Orderly

/-! ### Models that differ in some parameters -/

/-- Two models say the same of everything but a parameter and its binding in the second one with
`X`. -/
structure Sane.Parallel (X : TypeParameter → Option Hint → Prop) (s t : Sane) : Prop where
  table : ∀ p, ¬ X p (t.table.get? p) → s.table.get? p = t.table.get? p
  parameters : ∀ p, ¬ X p (t.table.get? p) →
    (.parameter p ∈ s.guard.hints ↔ .parameter p ∈ t.guard.hints)
  guard : ∀ h : Hint, h.isParameter = false → (h ∈ s.guard.hints ↔ h ∈ t.guard.hints)
  overridden : s.overridden = t.overridden

namespace Sane.Parallel

variable {X : TypeParameter → Option Hint → Prop} {s t : Sane}

/-- Both guards may take in a hint. -/
theorem expanding (h : s.Parallel X t) (l m : Label) (k : Hint) :
    (s.expanding l k).Parallel X (t.expanding m k) where
  table := h.table
  parameters p hp := Guard.mem_add.trans ((or_congr_left (h.parameters p hp)).trans Guard.mem_add.symm)
  guard k hk := Guard.mem_add.trans ((or_congr_left (h.guard k hk)).trans Guard.mem_add.symm)
  overridden := h.overridden

/-- Both models may note an override. -/
theorem overriding (h : s.Parallel X t) (l m : Label) (name : String) :
    (s.overriding l name).Parallel X (t.overriding m name) where
  table := h.table
  parameters := h.parameters
  guard := h.guard
  overridden := by
    show (if name ∈ s.overridden then s.overridden else s.overridden ++ [name]) = _
    rw [h.overridden]
    rfl

/-- The same bindings may be made below both. What they say of a parameter holds from then on,
whatever the models say. -/
theorem create (h : s.Parallel X t) (l m : Label) (j k : Hint) {table? : Option Table}
    (ht : Table.Proper table?) :
    (Sane.create l j (some s) table?).Parallel X (.create m k (some t) table?) := by
  have hfirst (p : TypeParameter) : (Sane.create l j (some s) table?).table.get? p =
      (Table.lookup? table? p).or (s.table.get? p) := Table.get?_merge ht l s.table p
  have hsecond (p : TypeParameter) : (Sane.create m k (some t) table?).table.get? p =
      (Table.lookup? table? p).or (t.table.get? p) := Table.get?_merge ht m t.table p
  refine ⟨fun p hp ↦ ?_, fun p hp ↦ ?_, fun k hk ↦ ?_, h.overridden⟩
  · rw [hsecond] at hp
    rw [hfirst, hsecond]
    -- where the new bindings say nothing of `p`, the models decide
    cases hlookup : Table.lookup? table? p with
    | some _ => rfl
    | none =>
      rw [hlookup] at hp
      exact h.table p hp
  · -- a parameter that the new bindings bind leaves both guards
    rw [hsecond] at hp
    refine Guard.parameter_mem_withoutRebound.trans
      (Iff.trans ?_ Guard.parameter_mem_withoutRebound.symm)
    refine and_congr_left fun hlookup ↦ h.parameters p ?_
    rwa [hlookup] at hp
  · exact (Guard.mem_withoutRebound hk).trans ((h.guard k hk).trans (Guard.mem_withoutRebound hk).symm)

end Sane.Parallel

/-- Two stages are the same but for what the parents say of parameters with `X`. -/
inductive Stage.Parallel (X : TypeParameter → Option Hint → Prop) : Stage → Stage → Prop
  | done {s t : Sane} (hint : s.hint = t.hint) : Parallel X (.done s) (.done t)
  | goOn (hint : Hint) {s t : Sane} (parents : s.Parallel X t) :
      Parallel X (.goOn hint (some s)) (.goOn hint (some t))

/-! ### Steps -/

section Steps

variable {w : World} {site : Site} {X : TypeParameter → Option Hint → Prop} {s t : Sane}

/-- From one run with an engine in order, two actions come to the same failure or to values that `V`
relates, and to the same run. -/
abbrev Lockstep {α : Type} (V : α → α → Prop) (a b : Attempt Run Failure α) : Prop :=
  Agree (.together fun r ↦ r.engine.Orderly) Eq V a b

theorem model_lockstep (h : s.Parallel X t) (k : Hint) {table? : Option Table}
    (ht : Table.Proper table?) :
    Lockstep (fun a b ↦ a.hint = b.hint ∧ a.Parallel X b) (Run.model k (some s) table?)
      (Run.model k (some t) table?) :=
  .after Run.orderly_fresh fun l _ ↦ .pure ⟨rfl, h.create l l k k ht⟩

theorem settle_lockstep (h : s.Parallel X t) (k : Hint) {table? : Option Table}
    (ht : Table.Proper table?) :
    Lockstep (Stage.Parallel X) (Run.settle k (some s) table?) (Run.settle k (some t) table?) :=
  (model_lockstep h k ht).bind_together fun _ _ hab ↦ .pure (.done hab.1)

theorem expanding_lockstep (h : s.Parallel X t) (k : Hint) :
    Lockstep (·.Parallel X ·) (Run.expanding s k) (Run.expanding t k) :=
  .after Run.orderly_fresh fun l _ ↦ .pure (h.expanding l l k)

theorem reduceClass_lockstep (h : s.Parallel X t) (c : ClassHint) :
    Lockstep (Stage.Parallel X) (reduceClass w site c (some s)) (reduceClass w site c (some t)) := by
  have hkeeps := Run.keeps_orderly w site
  unfold reduceClass
  cases site.config.overrides.get? c.name with
  | none => exact settle_lockstep h (.ofClass c) nofun
  | some text =>
    show Lockstep _ (if c.name ∈ s.overridden then _ else _) (if c.name ∈ t.overridden then _ else _)
    rw [h.overridden]
    split
    · exact settle_lockstep h (.ofClass c) nofun
    · exact .after (hkeeps.log _) fun _ _ ↦ .after hkeeps.fresh fun l _ ↦
        .after (hkeeps.destringify text) fun k _ ↦ .pure (.goOn k (h.overriding l l c.name))

theorem reduceUnion_lockstep (h : s.Parallel X t) (l : Label) (hs : List Hint) :
    Lockstep (Stage.Parallel X) (reduceUnion l hs (some s)) (reduceUnion l hs (some t)) := by
  unfold reduceUnion
  split
  · exact .pure (.done rfl)
  · split
    · exact .fail rfl
    · exact .pure (.goOn _ h)
    · unfold canonicalUnion
      split
      · exact settle_lockstep h (.union l hs) nofun
      · exact .after (Run.orderly_fresh.bind fun _ _ ↦ Run.orderly_intern _)
          fun u _ ↦ settle_lockstep h u nofun

/-- A parameter that is not excepted has one binding below both. -/
theorem reduceParameter_lockstep (h : s.Parallel X t) {p : TypeParameter}
    (hX : ¬ X p (t.table.get? p)) :
    Lockstep (Stage.Parallel X) (reduceParameter w site p (some s))
      (reduceParameter w site p (some t)) := by
  have hkeeps := Run.keeps_orderly w site
  have hguard : s.guard.has (.parameter p) = t.guard.has (.parameter p) :=
    decide_eq_decide.mpr (h.parameters p hX)
  unfold reduceParameter
  -- the parents are given, so the models that are asked are these
  refine Agree.bind_together (V := fun a b ↦ a = s ∧ b = t) (.pure ⟨rfl, rfl⟩) ?_
  rintro _ _ ⟨rfl, rfl⟩
  rw [hguard]
  split
  · exact .after (hkeeps.log _) fun _ _ ↦ .pure (.done rfl)
  · refine (expanding_lockstep h (.parameter p)).bind_together fun a b hab ↦
      .after hkeeps.world fun v _ ↦ ?_
    rw [h.table p hX]
    split
    · exact .pure (.goOn _ hab)
    · exact .pure (.goOn _ hab)
    · exact .pure (.done rfl)
    · exact .after Run.orderly_fresh fun l _ ↦ .pure (.goOn _ hab)

/-- An application of a template makes the same bindings below both. -/
theorem reduceTemplate_lockstep (h : s.Parallel X t) (l : Label) (o : Template) (args : List Hint) :
    Lockstep (Stage.Parallel X) (reduceTemplate w site l o args (some s))
      (reduceTemplate w site l o args (some t)) := by
  refine .after (Run.orderly_substitute w _ _ _) fun table? htable ↦ ?_
  cases table? with
  | none => exact settle_lockstep h (.template o) htable
  | some table =>
    exact .after ((Run.keeps_orderly w site).log _) fun _ _ ↦ settle_lockstep h (.template o) htable

/-- What an alias stands for is reduced below models that differ as before. -/
theorem expandAlias_lockstep (h : s.Parallel X t) (a : Alias)
    (application? : Option (Label × List Hint)) :
    Lockstep (Option.Rel fun x y ↦ x.1 = y.1 ∧ x.2.Parallel X y.2)
      (expandAlias w a application? (some s)) (expandAlias w a application? (some t)) := by
  unfold expandAlias
  refine Agree.bind_together (V := fun a b ↦ a = s ∧ b = t) (.pure ⟨rfl, rfl⟩) ?_
  rintro _ _ ⟨h₁, h₂⟩
  rw [h₁, h₂]
  refine .after (orderly_guardKey a application?) fun k hk ↦ ?_
  -- the key is no parameter, so either both guards hold it or none does
  have hguard : s.guard.has k = t.guard.has k := decide_eq_decide.mpr (h.guard k hk)
  rw [hguard]
  split
  · exact .pure .none
  · refine .after (orderly_aliasTable w a application?) fun table? htable ↦ ?_
    refine (model_lockstep h (.alias a) htable).bind_together fun b c hbc ↦ ?_
    refine (expanding_lockstep hbc.2 k).bind_together fun d e hde ↦ ?_
    exact .after (Run.orderly_aliasValue w a) fun v _ ↦ .pure (.some ⟨rfl, hde⟩)

theorem reduceAlias_lockstep (h : s.Parallel X t) (a : Alias)
    (application? : Option (Label × List Hint)) :
    Lockstep (Stage.Parallel X) (reduceAlias w site a application? (some s))
      (reduceAlias w site a application? (some t)) := by
  have hkeeps := Run.keeps_orderly w site
  refine (expandAlias_lockstep h a application?).bind_together fun x y hxy ↦ ?_
  cases hxy with
  | none => exact .after (hkeeps.log _) fun _ _ ↦ .pure (.done rfl)
  | @some x y hxy =>
    obtain ⟨value, n⟩ := x
    obtain ⟨value', n'⟩ := y
    obtain ⟨rfl, hparents⟩ := hxy
    exact .after (hkeeps.intern value) fun k _ ↦ .pure (.goOn k hparents)

/-- One step is the same below both models, unless it reduces a parameter with `X`. -/
theorem reduceStep_lockstep (h : s.Parallel X t) (hint : Hint)
    (hX : ∀ p, hint = .parameter p → ¬ X p (t.table.get? p)) :
    Lockstep (Stage.Parallel X) (reduceStep w site hint (some s))
      (reduceStep w site hint (some t)) := by
  unfold reduceStep
  split
  · exact .pure (.done rfl)
  · exact reduceClass_lockstep h _
  · exact reduceUnion_lockstep h _ _
  · exact reduceParameter_lockstep h (hX _ rfl)
  · exact reduceTemplate_lockstep h _ _ _
  · exact reduceAlias_lockstep h _ _
  · exact reduceAlias_lockstep h _ _
  · exact .after ((Run.keeps_orderly w site).destringify _) fun k _ ↦ .pure (.goOn k h)
  all_goals exact settle_lockstep h _ nofun

end Steps

/-! ### Whole reductions -/

section Runs

variable {w : World} {site : Site} {X : TypeParameter → Option Hint → Prop}

/-- A reduction that comes to no parameter with `X` is the same below both models. -/
theorem reduce_lockstep (depth : Nat) : ∀ {hint : Hint} {s t : Sane} {r : Run}, s.Parallel X t →
    (∀ v ∈ visits w site depth hint (some t) r, v.Avoids X) →
    AgreeAt (.together fun r ↦ r.engine.Orderly) Eq (fun a b : Sane ↦ a.hint = b.hint)
      (reduce w site depth hint (some s)) (reduce w site depth hint (some t)) r r := by
  -- the visits below the second model are the queries: each step uses up the first of them
  induction depth with
  | zero => exact fun _ _ ↦ Agree.fail rfl _ _
  | succ depth ih =>
    intro hint s t r h hX
    have hfirst : Visit.Avoids X ⟨hint, some t, r⟩ := hX _ List.mem_cons_self
    refine AgreeAt.bind_together (reduceStep_lockstep h hint hfirst r r) fun st st' r₁ hst _ h₁ ↦ ?_
    cases hst with
    | @done a b hhint => exact Agree.pure (x := a) (y := b) hhint r₁ r₁
    | goOn k hparents =>
      rw [visits_succ_goOn h₁, List.forall_mem_cons] at hX
      exact ih hparents hX.2

/-- Two runs end the same: with one failure or with models of one hint, and in one state. -/
structure EndSame {ε : Type} (x y : Except ε Sane × Run) : Prop where
  outcome : Outcomes Eq (fun a b ↦ a.hint = b.hint) x.1 y.1
  run : x.2 = y.2

theorem EndSame.mapFailure {ε δ : Type} {a b : Attempt Run ε Sane} {r : Run}
    (h : EndSame (a r) (b r)) (f : ε → δ) :
    EndSame (Attempt.mapFailure f a r) (Attempt.mapFailure f b r) := by
  obtain ⟨hout, hrun⟩ := h
  unfold Attempt.mapFailure
  rcases ha : a r with ⟨e | s, r₁⟩ <;> rcases hb : b r with ⟨d | t, r₂⟩ <;>
    rw [ha, hb] at hout hrun <;> cases hout <;> cases hrun
  · rename_i he
    exact ⟨.error (congrArg f he), rfl⟩
  · rename_i hst
    exact ⟨.ok hst, rfl⟩

/-- Sanitizing a child that comes to no parameter with `X` ends the same below both models. -/
theorem sanitizeChild_lockstep {depth : Nat} {hint : Hint} {label : String} {s t : Sane} {r : Run}
    (h : s.Parallel X t) (hr : r.engine.Orderly)
    (hX : ∀ v ∈ (Call.child t hint).visits w site depth r, v.Avoids X) :
    EndSame (sanitizeChild w site depth s hint label r)
      (sanitizeChild w site depth t hint label r) := by
  have hrun : AgreeAt (.together fun r ↦ r.engine.Orderly) Eq (fun a b : Sane ↦ a.hint = b.hint)
      ((Call.child s hint).run w site depth) ((Call.child t hint).run w site depth) r r := by
    refine AgreeAt.bind_together (Agree.self (Run.orderly_intern hint) r r) ?_
    rintro k _ r₁ ⟨rfl, -⟩ hk -
    have hvisits : (Call.child t hint).visits w site depth r =
        visits w site depth k (some t) r₁ := by
      have hstart : (Call.child t hint).start w site r = (.ok k, r₁) := hk
      rw [Call.visits, hstart]
      rfl
    exact reduce_lockstep depth h (hvisits ▸ hX)
  obtain ⟨hout, hend, -⟩ := hrun ⟨rfl, hr⟩ trivial
  exact EndSame.mapFailure ⟨hout, hend⟩ (Failure.report label)

end Runs

end TypeHints
