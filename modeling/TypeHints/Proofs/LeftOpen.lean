import TypeHints.Proofs.Lockstep

/-!
# Parameters that are left open

An application to fewer arguments than a template has parameters leaves the last ones open, and the
bare template leaves open all of them. The bindings of a model are handed on whole, and templates
may share parameters, as the builtin ones do. So an open parameter is not unbound: it keeps the
binding of the model that the application is reduced below, and `V` is `number` in the
`Map<boolean>` below `Map<string, number>` (`open_parameter_of_inner_map`). What it comes to is what
it comes to below that model (`sanitizeChild_open`); that is its bound, its constraints or nothing
to check where nothing is bound that it leads to.

Both parts are comparisons of one model with another one, below which a reduction takes the same
steps as long as it does not come to where they differ:

* with the model that the application was made below, from which it differs in the parameters that
  are rebound (`Sane.Applied.parallel`);
* with itself when nothing is bound (`Sane.unbound`), from which it differs in what it supplies.

`Sane.TakesOver` collects what is said of one open parameter. The bare template is an application to
nothing in this respect (`Sane.applied_bare`), so it needs no case of its own. That parameters are
different matters: one that is repeated at a later position may be bound there.
-/

namespace TypeHints

open Attempt Hint
open ForwardRef (Namesake)

/-! ### Applications that leave parameters open -/

/-- A hint is a template applied to fewer arguments than it has parameters, or the bare template. -/
inductive Hint.Partly (t : Template) : List Hint → Hint → Prop
  | bare : Partly t [] (.template t)
  | applied (l : Label) {args : List Hint} (few : args.length < t.params.length) :
      Partly t args (.subscripted l (.template t) args)

/-- Parameters beyond the arguments are not bound. -/
theorem not_rebinds_of_mem_drop {params : List TypeParameter} {args : List Hint} {p : TypeParameter}
    (hparams : params.Nodup) (hp : p ∈ params.drop args.length) : ¬ Rebinds params args p := by
  rintro ⟨a, ha, -⟩
  rw [List.zip_eq_zip_take_min] at ha
  exact List.disjoint_take_drop hparams (Nat.min_le_right _ _) (List.of_mem_zip ha).1 hp

namespace Sane

variable {ρ : ForwardRef → ForwardRef → Prop} {mixed : Bool} {params : List TypeParameter}
  {args : List Hint} {s m : Sane}

/-- The bare template is applied to nothing. -/
theorem applied_bare (l : Label) (t : Hint) :
    s.Applied ρ mixed params [] (.create l t (some s) none) where
  bound p a ha _ := by
    rw [List.zip_nil_right] at ha
    cases ha
  table _ _ := rfl
  parameters _ _ := Iff.rfl
  guard _ _ := Iff.rfl
  overridden := rfl

/-- The model of an application says the same as the one that it was made below, but for what the
application rebinds. -/
theorem Applied.parallel (h : s.Applied ρ mixed params args m) :
    m.Parallel (s.Captured params args) s where
  table p hp := h.table p fun hr ↦ hp ⟨hr, rfl⟩
  parameters p hp := h.parameters p fun hr ↦ hp ⟨hr, rfl⟩
  guard := h.guard
  overridden := h.overridden

/-- The model with nothing bound. -/
def unbound (s : Sane) : Sane := { s with table := .empty }

/-- A parameter has no binding, and the model has one for it. -/
def Supplies (s : Sane) (p : TypeParameter) (bound? : Option Hint) : Prop :=
  bound? = none ∧ s.table.get? p ≠ none

theorem parallel_unbound (s : Sane) : s.Parallel s.Supplies s.unbound where
  table p hp := by
    have hnone : s.table.get? p = none := not_not.mp fun hne ↦ hp ⟨rfl, hne⟩
    rw [hnone]
    rfl
  parameters _ _ := Iff.rfl
  guard _ _ := Iff.rfl
  overridden := rfl

end Sane

section Open

variable {w : World} {site : Site} {B : Book} {M : Hint → Prop} {mixed : Bool}
  {models : List Sane} {depth : Nat} {label : String} {t : Template} {args : List Hint}
  {child : Hint} {p : TypeParameter} {s m : Sane} {r r₁ : Run}

/-- Sanitizing an application that leaves parameters open comes to a model of it. -/
theorem Hint.Partly.applied_of_sanitizeChild (hpartly : Partly t args child)
    (hM : Faithful Namesake mixed M) (hparams : t.params.Nodup)
    (hr : r.engine.Reliable w B M models)
    (known : (Call.child s child).Known w site B M depth r)
    (h : sanitizeChild w site depth s child label r = (.ok m, r₁)) :
    s.Applied Namesake mixed t.params args m := by
  cases hpartly with
  | applied l few => exact TypeHints.applied_of_sanitizeChild hM hparams hr known h
  | bare =>
    rw [Call.sanitizeChild_eq_run, mapFailure_eq_ok_iff] at h
    have h : reduce w site depth (.template t) (some s) r = (.ok m, r₁) := h
    -- one step settles the bare template, without a table
    cases depth with
    | zero => cases h
    | succ depth =>
      cases h
      exact Sane.applied_bare _ _

/-- A parameter without binding, bound and constraints need not be checked. -/
theorem reduceStep_unbound (hs : s.table.get? p = none)
    (hbound : (w.under r.store).bound? p = none)
    (hconstraints : (w.under r.store).constraints p = []) :
    ∃ r₁, reduceStep w site (.parameter p) (some s) r = (.ok (.done .ignorable), r₁) := by
  have hancestry : Run.ancestry (.parameter p) (some s) r = (.ok s, r) := rfl
  show ∃ r₁, reduceParameter w site p (some s) r = _
  rw [reduceParameter, bind_apply_ok hancestry]
  by_cases hguard : s.guard.has (.parameter p)
  · obtain ⟨r₁, hlog, -⟩ := Run.log_apply (ε := Failure) site
      ("type parameter " ++ p.name ++ " recurses; ignoring") r
    rw [if_pos hguard, bind_apply_ok hlog]
    exact ⟨r₁, rfl⟩
  · obtain ⟨r₁, hexpanding, hquiet⟩ : ∃ r₁, Run.expanding s (.parameter p) r =
        (.ok (s.expanding r.store.next (.parameter p)), r₁) ∧ Run.Quiet r r₁ :=
      ⟨_, rfl, Run.quiet_expanding s (.parameter p) r⟩
    have hworld : Run.world w r₁ = (.ok (w.under r.store), r₁) :=
      Prod.ext (congrArg Except.ok (hquiet.under w)) rfl
    rw [if_neg hguard, bind_apply_ok hexpanding, bind_apply_ok hworld]
    simp only [hs, hbound, hconstraints]
    exact ⟨r₁, rfl⟩

/-- A parameter of which nothing is said is ignored as a child. -/
theorem sanitizeChild_unbound (hs : s.table.get? p = none)
    (hbound : (w.under r.store).bound? p = none)
    (hconstraints : (w.under r.store).constraints p = []) :
    (sanitizeChild w site (depth + 1) s (.parameter p) label r).1 = .ok .ignorable := by
  obtain ⟨r₁, hstep⟩ : ∃ r₁, reduceStep w site (.parameter p) (some s) r =
      (.ok (.done .ignorable), r₁) := reduceStep_unbound hs hbound hconstraints
  have hrun : (Call.child s (.parameter p)).run w site (depth + 1) r = (.ok .ignorable, r₁) :=
    reduce_succ_done hstep
  rw [Call.sanitizeChild_eq_run, mapFailure_eq_ok_iff.mpr hrun]

end Open

/-! ### What an open parameter comes to -/

/-- What a model takes over of a parameter from the model `s` that it was made below. -/
structure Sane.TakesOver (w : World) (site : Site) (s : Sane) (params : List TypeParameter)
    (args : List Hint) (p : TypeParameter) (m : Sane) : Prop where
  /-- It binds the parameter to what `s` binds it to, and not at all if `s` does not. -/
  binding : m.table.get? p = s.table.get? p
  /-- Below it, the parameter comes to what it comes to below `s`, unless that leads to a parameter
  which the arguments bind anew while it still has its binding in `s`. -/
  below : ∀ (depth : Nat) (label : String) (r : Run), r.engine.Orderly →
    (∀ v ∈ (Call.child s (.parameter p)).visits w site depth r,
      v.Avoids (s.Captured params args)) →
    EndSame (sanitizeChild w site depth m (.parameter p) label r)
      (sanitizeChild w site depth s (.parameter p) label r)
  /-- Where nothing that it binds is come to, the parameter comes to what it does with nothing
  bound. -/
  unbound : ∀ (depth : Nat) (label : String) (r : Run), r.engine.Orderly →
    (∀ v ∈ (Call.child m.unbound (.parameter p)).visits w site depth r, v.Avoids m.Supplies) →
    EndSame (sanitizeChild w site depth m (.parameter p) label r)
      (sanitizeChild w site depth m.unbound (.parameter p) label r)
  /-- If neither `s` nor the declaration of the parameter says anything of it, it need not be
  checked. -/
  ignorable : ∀ (depth : Nat) (label : String) (r : Run), s.table.get? p = none →
    (w.under r.store).bound? p = none → (w.under r.store).constraints p = [] →
    (sanitizeChild w site (depth + 1) m (.parameter p) label r).1 = .ok .ignorable

/-- A parameter that an application leaves open is taken over from the model that the application is
reduced below: bound there, it is bound alike and comes to the same; unbound there, it comes to what
it does with nothing bound. -/
theorem sanitizeChild_open {w : World} {site : Site} {B : Book} {M : Hint → Prop} {mixed : Bool}
    {models : List Sane} {depth : Nat} {label : String} {t : Template} {args : List Hint}
    {child : Hint} {s m : Sane} {r r₁ : Run} (hM : Faithful Namesake mixed M)
    (hparams : t.params.Nodup) (hpartly : Hint.Partly t args child)
    (before : History w B M models r.engine)
    (known : (Call.child s child).Known w site B M depth r)
    (h : sanitizeChild w site depth s child label r = (.ok m, r₁)) :
    ∀ p ∈ t.params.drop args.length, s.TakesOver w site t.params args p m := by
  have happlied : s.Applied Namesake mixed t.params args m :=
    hpartly.applied_of_sanitizeChild hM hparams before.reliable known h
  intro p hp
  -- the arguments do not reach `p`, so the table of the application says nothing of it
  have hbinding : m.table.get? p = s.table.get? p :=
    happlied.table p (not_rebinds_of_mem_drop hparams hp)
  exact {
    binding := hbinding
    below := fun _ _ _ hr avoids ↦ sanitizeChild_lockstep happlied.parallel hr avoids
    unbound := fun _ _ _ hr avoids ↦ sanitizeChild_lockstep m.parallel_unbound hr avoids
    ignorable := fun _ _ _ hs hbound hconstraints ↦
      sanitizeChild_unbound (hbinding.trans hs) hbound hconstraints }

/-! ### A map in a map -/

namespace Halved

/-- The hint `Map<boolean>`. -/
def inner : Hint := .subscripted 51 (.template Builtin.map) [.primitive .boolean]

/-- The hints that are handled when `Map<boolean>` is sanitized below `Map<string, number>`. -/
def handled : List Hint := [Renamed.outer, inner]

/-- The book in which the labels stand for the two applications. -/
def book : Book := ⟨fun l ↦ if l = 50 then Renamed.outer else inner, World.builtin.bound?⟩

/-- Sanitizing `Map<boolean>` below `Map<string, number>`. -/
@[irreducible]
def innerRun : Except Report Sane × Run :=
  sanitizeChild .builtin Renamed.site 1 Renamed.outerModel inner ""
    (Renamed.start 70 Renamed.outerRun.2.engine)

/-- The model of `Map<boolean>`. -/
def innerModel : Sane := innerRun.1.toOption.getD .ignorable

theorem faithful : Faithful Namesake false (· ∈ handled) :=
  Hint.faithful_of_injective (by decide +kernel) (by decide +kernel)

/-- A call that comes just to hints that are handled is known. -/
theorem known {c : Call} {depth : Nat} {r : Run} (given : (c.given? .builtin r).all (· ∈ handled))
    (h : (c.visits .builtin Renamed.site depth r).all (Visit.isAmong handled)) :
    c.Known .builtin Renamed.site book (· ∈ handled) depth r :=
  Call.known_of_isAmong (by decide) (by decide +kernel) given h

theorem history_outer : History .builtin book (· ∈ handled) [Renamed.outerModel]
    Renamed.outerRun.2.engine := by
  have hmodels : [Renamed.outerModel] = Renamed.outerRun.1.toOption.toList ++ [] := by
    decide +kernel
  rw [hmodels, Renamed.outerRun]
  exact .call .fresh (known (by decide +kernel) (by decide +kernel)) fun p hp ↦ (by cases hp)

theorem innerRun_eq : sanitizeChild .builtin Renamed.site 1 Renamed.outerModel inner ""
    (Renamed.start 70 Renamed.outerRun.2.engine) = (.ok innerModel, innerRun.2) := by
  have hinner : innerRun = (.ok innerModel, innerRun.2) :=
    eq_ok_of_isSome (x := innerRun) (by decide +kernel) .ignorable
  rw [← hinner, innerRun]

/-- The application is handled for itself, and is in the book. -/
theorem known_inner : (Call.child Renamed.outerModel inner).Known .builtin Renamed.site book
    (· ∈ handled) 1 (Renamed.start 70 Renamed.outerRun.2.engine) :=
  known (by decide +kernel) (by decide +kernel)

theorem orderly_inner : innerRun.2.engine.Orderly := by
  have hrun : (Call.child Renamed.outerModel inner).run .builtin Renamed.site 1
      (Renamed.start 70 Renamed.outerRun.2.engine) = (.ok innerModel, innerRun.2) :=
    mapFailure_eq_ok_iff.mp innerRun_eq
  have horderly : ((Call.child Renamed.outerModel inner).run .builtin Renamed.site 1
      (Renamed.start 70 Renamed.outerRun.2.engine)).2.engine.Orderly :=
    Call.orderly_run _ history_outer.orderly
  rwa [hrun] at horderly

end Halved

/-- Below `Map<string, number>`, the parameter `V` of `Map<boolean>` is taken over: it is `number`,
and comes to what it comes to below `Map<string, number>`. -/
theorem sanitizeChild_open_inner_map :
    Halved.innerModel.table.get? Builtin.valueParam = some (.primitive .number) ∧
      Renamed.outerModel.TakesOver .builtin Renamed.site Builtin.map.params [.primitive .boolean]
        Builtin.valueParam Halved.innerModel ∧
      EndSame
        (sanitizeChild .builtin Renamed.site 2 Halved.innerModel (.parameter Builtin.valueParam) ""
          (Renamed.start 80 Halved.innerRun.2.engine))
        (sanitizeChild .builtin Renamed.site 2 Renamed.outerModel (.parameter Builtin.valueParam) ""
          (Renamed.start 80 Halved.innerRun.2.engine)) := by
  have hpartly : Hint.Partly Builtin.map [.primitive .boolean] Halved.inner := .applied 51 (by decide)
  have hopen : Builtin.valueParam ∈ Builtin.map.params.drop 1 := by decide
  have htakesOver := sanitizeChild_open (r := Renamed.start 70 Renamed.outerRun.2.engine)
    Halved.faithful (by decide) hpartly Halved.history_outer Halved.known_inner
    Halved.innerRun_eq Builtin.valueParam hopen
  refine ⟨by decide +kernel, htakesOver, htakesOver.below 2 "" _ Halved.orderly_inner ?_⟩
  -- what `V` comes to below the outer map is no parameter that the inner one binds
  have hhints : ∀ v ∈ (Call.child Renamed.outerModel (.parameter Builtin.valueParam)).visits .builtin
      Renamed.site 2 (Renamed.start 80 Halved.innerRun.2.engine),
      v.hint = .parameter Builtin.valueParam ∨ v.hint.isParameter = false := by
    decide +kernel
  rintro v hv p hp ⟨hrebinds, -⟩
  rcases hhints v hv with hvalue | hkind
  · rw [Hint.parameter.inj (hp.symm.trans hvalue)] at hrebinds
    exact not_rebinds_of_mem_drop (by decide) hopen hrebinds
  · rw [hp] at hkind
    cases hkind

namespace Halved

/-- Sanitizing `Map<boolean>` below `Map<string, number>` as the first root. -/
@[irreducible]
def halvedRun : Except Report Sane × Run :=
  sanitizeChild .builtin Renamed.site depthLimit Renamed.rootModel inner "" Renamed.rootRun.2

/-- The model of `Map<boolean>`. -/
def halvedModel : Sane := halvedRun.1.toOption.getD .ignorable

end Halved

/-- Below `Map<string, number>`, the parameter `V` of `Map<boolean>` is `number`, while with nothing
bound it need not be checked. -/
theorem open_parameter_of_inner_map : ∃ s m r₀ r₁,
    sanitizeRoot .builtin Renamed.site depthLimit (.hint Renamed.outer) "" (Renamed.start 60 .fresh) =
        (.ok s, r₀) ∧
      sanitizeChild .builtin Renamed.site depthLimit s Halved.inner "" r₀ = (.ok m, r₁) ∧
      Hint.Partly Builtin.map [.primitive .boolean] Halved.inner ∧
      Builtin.valueParam ∈ Builtin.map.params.drop 1 ∧
      (sanitizeChild .builtin Renamed.site depthLimit m (.parameter Builtin.valueParam) ""
        r₁).1.toOption.map Sane.hint = some (.primitive .number) ∧
      (sanitizeChild .builtin Renamed.site depthLimit m.unbound (.parameter Builtin.valueParam) ""
        r₁).1.toOption = some .ignorable := by
  have hroot : Renamed.rootRun = (.ok Renamed.rootModel, Renamed.rootRun.2) :=
    eq_ok_of_isSome (x := Renamed.rootRun) (by decide +kernel) .ignorable
  have hhalved : Halved.halvedRun = (.ok Halved.halvedModel, Halved.halvedRun.2) :=
    eq_ok_of_isSome (x := Halved.halvedRun) (by decide +kernel) .ignorable
  exact ⟨_, _, _, _, (Renamed.rootRun.eq_def).symm.trans hroot,
    (Halved.halvedRun.eq_def).symm.trans hhalved, .applied 51 (by decide), by decide,
    by decide +kernel, by decide +kernel⟩

end TypeHints
