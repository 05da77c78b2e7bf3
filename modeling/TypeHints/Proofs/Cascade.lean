import TypeHints.Proofs.Arguments
import TypeHints.Proofs.RecursionGuard
import TypeHints.Proofs.Universe

/-!
# What models take over from their parents

A model is built by several steps, each of which reduces a hint below the model that the step before
it handed on. `Sane.HandsDown` says what must not get lost on the way: aliases that are being
expanded, overrides that have been applied, and the fact that a parameter is bound. Only parameters
may leave the guard, and each one that does is bound by a table that was built on the way
(`Visit.Binds`).

The relation composes, so that it is enough to look at one step, and a step has few ways to end
(`Advance`). All of them hand on what `Sane.HandsDown.rebinding` describes: the bindings of the
parent with those of a table over them, and a guard without what the table binds.

That no parameter is bound to itself rests on the tables that are kept, since an application may be
answered by an outcome of an earlier call. It is enough that each of these was computed at some time
(`Substitution.Cache.Computed`), which holds of a fresh engine and which calls preserve
(`Call.computed_run`).

`cascade_invariant` puts the two together, for chains of calls one below the other (`Cascade`): a
raw hint or a slot as a root, then any hints as children. Nothing is asked of the calls in between,
nor of the state of the store. What a call hands down is said relative to its parent; that it holds
from the root on follows by composition, as long as there is something to check.
-/

namespace TypeHints

open Attempt

/-! ### Tables -/

namespace Table

/-- No parameter is bound to itself. -/
def Irreflexive (t : Table) : Prop := ∀ e ∈ t.entries.entries, e.2 ≠ .parameter e.1

/-- No bindings, none of a parameter to itself. -/
theorem irreflexive_empty : empty.Irreflexive := nofun

theorem Irreflexive.get?_ne {t : Table} (h : t.Irreflexive) (p : TypeParameter) :
    t.get? p ≠ some (.parameter p) :=
  fun hget ↦ h _ (Dict.mem_of_get? hget) rfl

/-- Bindings over others bind nothing to itself if neither do. -/
theorem Irreflexive.merge {parent : Table} {child? : Option Table} (h : parent.Irreflexive)
    (hchild : ∀ t, child? = some t → t.Irreflexive) (l : Label) :
    (merge l parent child?).Irreflexive := by
  intro e he
  rcases mem_merge he with he | ⟨t, ht, he⟩
  · exact h e he
  · exact hchild t ht e he

/-- What a parent binds is bound after a merge. -/
theorem isSome_get?_merge {parent : Table} {p : TypeParameter}
    (h : (parent.get? p).isSome = true) (l : Label) (child? : Option Table) :
    ((merge l parent child?).get? p).isSome = true := by
  rcases merge_cases l parent child? with ⟨hm, -⟩ | ⟨t, -, -, hnil⟩ | ⟨t, -, hm⟩
  · rwa [hm]
  · -- a parent without bindings does not bind the parameter
    rw [get?, Dict.get?, hnil] at h
    cases h
  · rw [hm, get?, Dict.get?_insertAll_eq_or, Option.isSome_or]
    have hparent : (parent.entries.get? p).isSome = true := h
    rw [hparent, Bool.or_true]

end Table

/-! ### Outcomes that are kept -/

namespace Substitution

variable {w : World} {l : Label} {hint : Hint} {params : List TypeParameter} {args : List Hint}

/-- An outcome has been computed at some time. -/
def Outcome.Computed (out : Outcome) : Prop :=
  ∃ (w : World) (l : Label) (hint : Hint) (params : List TypeParameter) (args : List Hint),
    out = outcome w l hint params args

/-- Every outcome that is kept has been computed at some time. -/
def Cache.Computed (c : Cache) : Prop := ∀ k out, c.get? k = some out → out.Computed

theorem Cache.computed_empty : Cache.Computed ∅ := fun _ _ h ↦ by cases h

/-- An application is answered by a computed outcome, kept or new. -/
theorem Cache.Computed.build_fst {c : Cache} (hc : c.Computed) :
    (build w l hint params args c).1.Computed := by
  rcases build_cases w l hint params args c with ⟨o, hget, he⟩ | ⟨-, he⟩ <;> rw [he]
  · exact hc _ o hget
  · exact ⟨w, l, hint, params, args, rfl⟩

/-- The bindings that were computed leave out parameters that stand for themselves. -/
theorem Outcome.Computed.irreflexive {out : Outcome} (h : out.Computed) {t : Table}
    (ht : out.result = .ok (some t)) : t.Irreflexive := by
  obtain ⟨w, l, hint, params, args, rfl⟩ := h
  have hentries := outcome_entries w l hint params args
  rw [ht] at hentries
  rcases compute_cases hentries.symm with ⟨hnone, -⟩ | hkept
  · cases hnone
  · have hlist : t.entries = Dict.ofList (kept params args) := Option.some.inj hkept
    intro e he
    rw [hlist] at he
    exact (mem_kept.mp (Dict.mem_ofList he)).2

/-- The label on offer does not matter to what an application binds. -/
theorem build_entries (w : World) (l m : Label) (hint : Hint) (params : List TypeParameter)
    (args : List Hint) (c : Cache) :
    (build w l hint params args c).1.result.map (·.map Table.entries) =
      (build w m hint params args c).1.result.map (·.map Table.entries) := by
  rcases build_cases w l hint params args c with ⟨o, hget, he⟩ | ⟨hget, he⟩ <;>
    rcases build_cases w m hint params args c with ⟨o', hget', he'⟩ | ⟨hget', he'⟩ <;> rw [he, he']
  · cases hget.symm.trans hget'
    rfl
  · cases hget.symm.trans hget'
  · cases hget.symm.trans hget'
  · rw [outcome_entries, outcome_entries]

end Substitution

namespace Run

variable {w : World} {r r' : Run} {hint : Hint} {params : List TypeParameter} {args : List Hint}

/-- An application does not bind a parameter to itself, whether its outcome is kept or new. -/
theorem substitute_irreflexive (hc : r.engine.substitutions.Computed) {t : Table}
    (h : (substitute w hint params args r).1 = .ok (some t)) : t.Irreflexive :=
  hc.build_fst.irreflexive (result_of_substitute h)

/-- An application binds the same in two states that have the same outcomes and declarations. -/
theorem substitute_congr (hc : r'.engine.substitutions = r.engine.substitutions)
    (hw : w.under r'.store = w.under r.store) {t : Table}
    (h : (substitute w hint params args r').1 = .ok (some t)) :
    ∃ t', (substitute w hint params args r).1 = .ok (some t') ∧ t'.entries = t.entries := by
  have hresult := result_of_substitute h
  have hentries := Substitution.build_entries (w.under r.store) r'.store.next r.store.next hint
    params args r.engine.substitutions
  rw [hc, hw] at hresult
  rw [hresult] at hentries
  rcases hout : (Substitution.build (w.under r.store) r.store.next hint params args
    r.engine.substitutions).1.result with c | - | t' <;> rw [hout] at hentries
  · cases hentries
  · cases hentries
  · have heq : t.entries = t'.entries := Option.some.inj (Except.ok.inj hentries)
    exact ⟨t', by rw [substitute_fst, hout]; rfl, heq.symm⟩

end Run

/-! ### What is handed down -/

/-- A visit builds a table that binds a parameter: that of an application of a template, or of an
alias that is not dropped. -/
inductive Visit.Binds (w : World) (p : TypeParameter) : Visit → Prop
  | template {label : Label} {t : Template} {args : List Hint} {p? : Option Sane} {r : Run}
      {table : Table}
      (built : (Run.substitute w (.subscripted label (.template t) args) t.params args r).1 =
        .ok (some table))
      (binds : (table.get? p).isSome = true) :
      Visit.Binds w p ⟨.subscripted label (.template t) args, p?, r⟩
  | alias {label : Label} {a : Alias} {args : List Hint} {p? : Option Sane} {r : Run}
      {table : Table} (opened : ¬ Visit.Dropped w ⟨.subscripted label (.alias a) args, p?, r⟩)
      (built : (Run.substitute w (.subscripted label (.alias a) args) a.params args r).1 =
        .ok (some table))
      (binds : (table.get? p).isSome = true) :
      Visit.Binds w p ⟨.subscripted label (.alias a) args, p?, r⟩

/-- What is not lost from one parent to another, on visits between them. -/
structure Sane.HandsDown (w : World) (vs : List Visit) (p? q? : Option Sane) : Prop where
  /-- Aliases and applications of aliases go on being expanded. -/
  guard : ∀ h : Hint, h.isParameter = false → h ∈ (guardOf p?).hints → h ∈ (guardOf q?).hints
  /-- Overrides stay applied. -/
  overridden : ∀ name ∈ overriddenOf p?, name ∈ overriddenOf q?
  /-- Parameters stay bound. -/
  bound : ∀ p, ((tableOf p?).get? p).isSome = true → ((tableOf q?).get? p).isSome = true
  /-- A parameter that is no longer being expanded has been bound by a table that was built. -/
  released : ∀ p, .parameter p ∈ (guardOf p?).hints → .parameter p ∉ (guardOf q?).hints →
    ∃ v ∈ vs, v.Binds w p

namespace Sane.HandsDown

variable {w : World} {vs us : List Visit} {p? q? s? : Option Sane}

theorem refl (w : World) (vs : List Visit) (p? : Option Sane) : HandsDown w vs p? p? :=
  ⟨fun _ _ h ↦ h, fun _ h ↦ h, fun _ h ↦ h, fun _ h hnot ↦ absurd h hnot⟩

theorem append (h : HandsDown w vs p? q?) (h' : HandsDown w us q? s?) :
    HandsDown w (vs ++ us) p? s? where
  guard k hk hmem := h'.guard k hk (h.guard k hk hmem)
  overridden name hname := h'.overridden name (h.overridden name hname)
  bound p hp := h'.bound p (h.bound p hp)
  released p hp hnot := by
    -- it left before the middle, or else after it
    by_cases hq : .parameter p ∈ (guardOf q?).hints
    · obtain ⟨v, hv, hbinds⟩ := h'.released p hq hnot
      exact ⟨v, List.mem_append_right _ hv, hbinds⟩
    · obtain ⟨v, hv, hbinds⟩ := h.released p hp hq
      exact ⟨v, List.mem_append_left _ hv, hbinds⟩

/-- The bindings of a table go over those of the parent, and what it binds may leave the guard. -/
theorem rebinding {n : Sane} {table? : Option Table} (l m : Label)
    (htable : n.table = (tableOf p?).merge l table?)
    (hguard : ∀ h ∈ ((guardOf p?).withoutRebound m table?).hints, h ∈ n.guard.hints)
    (hnames : ∀ name ∈ overriddenOf p?, name ∈ n.overridden)
    (hbinds : ∀ t p, table? = some t → (t.get? p).isSome = true → ∃ v ∈ vs, v.Binds w p) :
    HandsDown w vs p? (some n) where
  guard h hh hmem := hguard h ((Guard.mem_withoutRebound hh).mpr hmem)
  overridden := hnames
  bound p hp := by
    rw [tableOf_some, htable]
    exact Table.isSome_get?_merge hp l table?
  released p hp hnot := by
    have hleft : .parameter p ∉ ((guardOf p?).withoutRebound m table?).hints :=
      fun hmem ↦ hnot (hguard _ hmem)
    rw [Guard.parameter_mem_withoutRebound, not_and] at hleft
    have hlookup : Table.lookup? table? p ≠ none := hleft hp
    obtain ⟨t, ht⟩ : ∃ t, table? = some t := Option.ne_none_iff_exists'.mp fun hnone ↦ by
      rw [hnone] at hlookup
      exact hlookup rfl
    rw [ht] at hlookup
    exact hbinds t p ht (Option.isSome_iff_ne_none.mpr hlookup)

/-- A model that adds to a guard, or to the overrides, and has the bindings of the parent. -/
theorem adding {n : Sane} (htable : n.table = tableOf p?)
    (hguard : ∀ h ∈ (guardOf p?).hints, h ∈ n.guard.hints)
    (hnames : ∀ name ∈ overriddenOf p?, name ∈ n.overridden) : HandsDown w vs p? (some n) := by
  have hmerge : n.table = (tableOf p?).merge 0 none := htable
  exact rebinding 0 0 hmerge hguard hnames fun _ _ ht ↦ by cases ht

end Sane.HandsDown

/-! ### One step -/

section Step

variable {w : World} {site : Site} {hint k : Hint} {p? q? : Option Sane} {s : Sane} {r r' : Run}

/-- The table of an alias is the one that its application has when the visit begins. -/
theorem exists_of_aliasTable {a : Alias} {application? : Option (Label × List Hint)} {key : Hint}
    {t : Table} {r₁ r₂ r₃ : Run} (quiet : Run.Quiet r r₁)
    (keyed : guardKey a application? r₁ = (.ok key, r₂))
    (h : aliasTable w a application? r₂ = (.ok (some t), r₃)) :
    ∃ label args t', application? = some (label, args) ∧
      (Run.substitute w (.subscripted label (.alias a) args) a.params args r).1 = .ok (some t') ∧
        t'.entries = t.entries := by
  rcases application? with - | ⟨label, args⟩
  · cases h
  · have hcache : r₂.engine.substitutions = r.engine.substitutions := by
      rw [substitutions_guardKey keyed, quiet.engine]
    have hworld : w.under r₂.store = w.under r.store := by
      have hstore : r₂.store = r₁.store := by
        cases keyed
        rfl
      rw [hstore, quiet.under]
    obtain ⟨t', ht', hentries⟩ := Run.substitute_congr hcache hworld (congrArg Prod.fst h)
    exact ⟨label, args, t', rfl, ht', hentries⟩

/-- A step that goes on hands everything down. -/
theorem Sane.HandsDown.goOn (h : Advance w site r hint p? (.goOn k q?) r') :
    HandsDown w [⟨hint, p?, r⟩] p? q? := by
  cases h with
  | overridden _ _ _ _ htable hguard hnames =>
    refine adding htable (fun k hk ↦ ?_) fun name hname ↦ ?_
    · rwa [hguard]
    · rw [hnames]
      exact List.mem_append_left _ hname
  | member _ => exact refl w _ p?
  | parameter l _ _ _ htable hguard hnames =>
    refine adding htable (fun k hk ↦ ?_) fun name hname ↦ ?_
    · rw [hguard]
      exact Guard.mem_add.mpr (.inl hk)
    · rwa [hnames]
  | @expanded a application? _ _ _ n _ _ expansion _ =>
    cases expansion with
    | expanded l l' quiet keyed fresh substituted _ _ htable hguard hnames =>
      refine rebinding l l htable (fun k hk ↦ ?_) (fun name hname ↦ ?_) fun t p ht hp ↦ ?_
      · rw [hguard]
        exact Guard.mem_add.mpr (.inl hk)
      · rwa [hnames]
      · subst ht
        obtain ⟨label, args, t', happlied, ht', hentries⟩ :=
          exists_of_aliasTable quiet keyed substituted
        subst happlied
        -- its key was not in the guard, so that the alias is not dropped
        have hopened : ¬ Visit.Dropped w ⟨.subscripted label (.alias a) args, p?, r⟩ := by
          rw [Visit.dropped_iff]
          rintro ⟨key, hkey, hmem⟩
          cases hkey
          exact fresh hmem
        have hbinds : (t'.get? p).isSome = true := by rwa [Table.get?, hentries]
        exact ⟨_, List.mem_singleton_self _, .alias hopened ht' hbinds⟩
  | read _ => exact refl w _ p?

/-- A step that ends in something to check hands everything down. -/
theorem Sane.HandsDown.done (h : Advance w site r hint p? (.done s) r') (hs : s ≠ .ignorable) :
    HandsDown w [⟨hint, p?, r⟩] p? (some s) := by
  cases h with
  | ignored => exact absurd rfl hs
  | settled l _ _ => exact adding rfl (fun _ hk ↦ hk) fun _ hname ↦ hname
  | applied l substituted _ =>
    refine rebinding l l rfl (fun _ hk ↦ hk) (fun _ hname ↦ hname) fun t p ht hp ↦ ?_
    subst ht
    exact ⟨_, List.mem_singleton_self _, .template (congrArg Prod.fst substituted) hp⟩

/-- A step that goes on binds no parameter to itself. -/
theorem Table.Irreflexive.goOn (ht : (Sane.tableOf p?).Irreflexive)
    (hc : r.engine.substitutions.Computed) (h : Advance w site r hint p? (.goOn k q?) r') :
    (Sane.tableOf q?).Irreflexive := by
  cases h with
  | overridden _ _ _ _ htable _ _ | parameter _ _ _ _ htable _ _ =>
    rw [Sane.tableOf_some, htable]
    exact ht
  | member _ | read _ => exact ht
  | expanded expansion _ =>
    cases expansion with
    | expanded l _ quiet keyed _ substituted _ _ htable _ _ =>
      rw [Sane.tableOf_some, htable]
      refine ht.merge (fun t heq ↦ ?_) l
      subst heq
      obtain ⟨label, args, t', -, ht', hentries⟩ := exists_of_aliasTable quiet keyed substituted
      have hbound : t'.Irreflexive := Run.substitute_irreflexive hc ht'
      rwa [Irreflexive, hentries] at hbound

/-- A step that ends binds no parameter to itself. -/
theorem Table.Irreflexive.done (ht : (Sane.tableOf p?).Irreflexive)
    (hc : r.engine.substitutions.Computed) (h : Advance w site r hint p? (.done s) r') :
    s.table.Irreflexive := by
  cases h with
  | ignored => exact irreflexive_empty
  | settled l _ _ => exact ht
  | applied l substituted _ =>
    refine ht.merge (fun t heq ↦ ?_) l
    subst heq
    exact Run.substitute_irreflexive hc (congrArg Prod.fst substituted)

/-- What a step keeps has been computed, if that holds of what was kept before. -/
theorem Run.Adds.computed {v : Visit} {A : Hint → Prop} (h : Adds A (v.Keeps w) v.run r')
    (hc : v.run.engine.substitutions.Computed) : r'.engine.substitutions.Computed := by
  intro key out hout
  rcases h.known key out hout with hout | ⟨l, m, o, args, -, -, rfl⟩
  · exact hc key out hout
  · exact ⟨_, _, _, _, _, rfl⟩

end Step

/-! ### Runs of steps -/

section Reduce

variable (w : World) (site : Site)

theorem computed_reduce (depth : Nat) : ∀ (hint : Hint) (p? : Option Sane) {r : Run},
    r.engine.substitutions.Computed →
      (reduce w site depth hint p? r).2.engine.substitutions.Computed := by
  induction depth with
  | zero => exact fun _ _ _ hc ↦ hc
  | succ depth ih =>
    intro hint p? r hc
    have hadds := Visit.adds_reduceStep w site ⟨hint, p?, r⟩
    rcases hstep : reduceStep w site hint p? r with ⟨f | (s | ⟨h, q?⟩), r₁⟩ <;>
      simp only [hstep] at hadds
    · rw [reduce_succ_error hstep]
      exact hadds.computed hc
    · rw [reduce_succ_done hstep]
      exact hadds.computed hc
    · rw [reduce_succ_goOn hstep]
      exact ih h q? (hadds.computed hc)

/-- Reduction to something to check hands everything down, and binds no parameter to itself. -/
theorem handsDown_reduce (depth : Nat) : ∀ {hint : Hint} {p? : Option Sane} {r r' : Run} {s : Sane},
    r.engine.substitutions.Computed → (Sane.tableOf p?).Irreflexive →
    reduce w site depth hint p? r = (.ok s, r') → s ≠ .ignorable →
      Sane.HandsDown w (visits w site depth hint p? r) p? (some s) ∧ s.table.Irreflexive := by
  induction depth with
  | zero =>
    intro hint p? r r' s _ _ h
    cases h
  | succ depth ih =>
    intro hint p? r r' s hc ht h hs
    have hadds := Visit.adds_reduceStep w site ⟨hint, p?, r⟩
    rcases hstep : reduceStep w site hint p? r with ⟨f | (s' | ⟨h', q?⟩), r₁⟩ <;>
      simp only [hstep] at hadds
    · rw [reduce_succ_error hstep] at h
      cases h
    · rw [reduce_succ_done hstep] at h
      cases h
      rw [visits_succ_done hstep]
      exact ⟨.done (.of_reduceStep hstep) hs, ht.done hc (.of_reduceStep hstep)⟩
    · rw [reduce_succ_goOn hstep] at h
      rw [visits_succ_goOn hstep]
      -- the first visit hands down to the parent of the others
      have hfirst : Sane.HandsDown w [⟨hint, p?, r⟩] p? q? := .goOn (.of_reduceStep hstep)
      have htable : (Sane.tableOf q?).Irreflexive := ht.goOn hc (.of_reduceStep hstep)
      obtain ⟨hrest, hirreflexive⟩ := ih (hadds.computed hc) htable h hs
      exact ⟨hfirst.append hrest, hirreflexive⟩

end Reduce

/-! ### Calls -/

namespace Call

variable {w : World} {site : Site} {depth : Nat} {c : Call} {r r' : Run} {s : Sane}

theorem computed_start (hc : r.engine.substitutions.Computed) :
    (c.start w site r).2.engine.substitutions.Computed := by
  have hadds : Run.Adds (fun _ ↦ True) (fun _ _ ↦ False) r (c.start w site r).2 :=
    adds_start fun _ _ ↦ trivial
  exact fun key out hout ↦ (hadds.known key out hout).elim (hc key out) False.elim

/-- Calls keep none but computed outcomes. -/
theorem computed_run {out : Except Failure Sane} (hc : r.engine.substitutions.Computed)
    (h : c.run w site depth r = (out, r')) : r'.engine.substitutions.Computed := by
  have hstarted : (c.start w site r).2.engine.substitutions.Computed := computed_start hc
  rcases hstart : c.start w site r with ⟨f | hint, r₁⟩ <;> rw [hstart] at hstarted
  · rw [run, bind_apply_error hstart] at h
    cases h
    exact hstarted
  · rw [run, bind_apply_ok hstart] at h
    have hreduced := computed_reduce w site depth hint c.parent? hstarted
    rwa [h] at hreduced

/-- A call hands everything down to a model that is to be checked. -/
theorem handsDown_run (hc : r.engine.substitutions.Computed)
    (ht : (Sane.tableOf c.parent?).Irreflexive) (h : c.run w site depth r = (.ok s, r'))
    (hs : s ≠ .ignorable) :
    Sane.HandsDown w (c.visits w site depth r) c.parent? (some s) ∧ s.table.Irreflexive := by
  obtain ⟨hint, r₁, hstart, h⟩ := bind_eq_ok_iff.mp h
  have hstarted : (c.start w site r).2.engine.substitutions.Computed := computed_start hc
  rw [hstart] at hstarted
  have hvisits : c.visits w site depth r = TypeHints.visits w site depth hint c.parent? r₁ := by
    rw [visits, hstart]
  rw [hvisits]
  exact handsDown_reduce w site depth hstarted ht h hs

end Call

/-- A call that has succeeded: the model that it was made below, what it visited, and the model that
it ended in. -/
structure Link where
  parent? : Option Sane
  visits : List Visit
  model : Sane

/-- Calls one below the other on a site, the last one first: a raw hint or a slot is sanitized as a
root, then any hints as children, each below the model of the call before it unless that leaves
nothing to check. Other calls may come in between; all that is asked of the engine is that what it
keeps has been computed. -/
inductive Cascade (w : World) (site : Site) : List Link → Prop
  | root (depth : Nat) (raw : Value) (label : String) {r r' : Run} {s : Sane}
      (computed : r.engine.substitutions.Computed)
      (result : sanitizeRoot w site depth raw label r = (.ok s, r')) :
      Cascade w site [⟨none, (Call.root raw).visits w site depth r, s⟩]
  | slot (depth : Nat) (name : String) (kind : ParameterKind) (label : String)
      {callable callable' : Callable} {raw : Value} {r r' : Run} {s : Sane}
      (annotated : callable.annotations.get? name = some raw) (defined : raw ≠ .undefined)
      (computed : r.engine.substitutions.Computed)
      (result : sanitizeSlot w site depth name kind label (callable, r) = (.ok s, callable', r')) :
      Cascade w site [⟨none, (Call.slot callable name kind raw).visits w site depth r, s⟩]
  | child (depth : Nat) (hint : Hint) (label : String) {link : Link} {links : List Link}
      {r r' : Run} {s : Sane} (above : Cascade w site (link :: links))
      (checked : link.model ≠ .ignorable) (computed : r.engine.substitutions.Computed)
      (result : sanitizeChild w site depth link.model hint label r = (.ok s, r')) :
      Cascade w site (⟨some link.model, (Call.child link.model hint).visits w site depth r, s⟩ ::
        link :: links)

/-- What a call hands down, and that its model binds no parameter to itself. -/
def Link.Sound (w : World) (link : Link) : Prop :=
  link.model ≠ .ignorable →
    Sane.HandsDown w link.visits link.parent? (some link.model) ∧ link.model.table.Irreflexive

/-- Every call of a chain is sound: a child is, since the call above it is. -/
theorem Cascade.sound {w : World} {site : Site} {links : List Link} (h : Cascade w site links) :
    ∀ link ∈ links, link.Sound w := by
  induction h with
  | root depth raw label computed result =>
    rw [List.forall_mem_singleton]
    exact Call.handsDown_run computed Table.irreflexive_empty (mapFailure_eq_ok_iff.mp result)
  | @slot depth name kind label callable callable' raw r r' s annotated defined computed result =>
    rw [List.forall_mem_singleton]
    have hrun : mapFailure (Failure.report label)
        ((Call.slot callable name kind raw).run w site depth) r = (.ok s, r') := by
      obtain ⟨_, heq⟩ := Call.sanitizeSlot_eq_run annotated defined r
      obtain ⟨hfst, hsnd⟩ := Prod.mk.inj (result.symm.trans heq)
      exact Prod.ext hfst.symm (Prod.mk.inj hsnd).2.symm
    exact Call.handsDown_run computed Table.irreflexive_empty (mapFailure_eq_ok_iff.mp hrun)
  | @child depth hint label link links r r' s above checked computed result ih =>
    have hparent : link.model.table.Irreflexive := (ih link List.mem_cons_self checked).2
    refine List.forall_mem_cons.mpr ⟨?_, ih⟩
    have hrun : (Call.child link.model hint).run w site depth r = (.ok s, r') :=
      mapFailure_eq_ok_iff.mp result
    exact Call.handsDown_run (c := .child link.model hint) computed hparent hrun

/-- Every call of a chain that leaves something to check hands down what it was made below: aliases
that are being expanded, overrides, and which parameters are bound. It takes a parameter out of the
guard only if a table that was built on the way binds it, and it binds no parameter to itself. -/
theorem cascade_invariant {w : World} {site : Site} {links : List Link}
    (h : Cascade w site links) : ∀ link ∈ links, link.model ≠ .ignorable →
      Sane.HandsDown w link.visits link.parent? (some link.model) ∧
        ∀ p, link.model.table.get? p ≠ some (.parameter p) := by
  intro link hlink hmodel
  obtain ⟨hdown, hirreflexive⟩ := h.sound link hlink hmodel
  exact ⟨hdown, hirreflexive.get?_ne⟩

/-! ### A parameter that is released

`Box<number>` is a root, its child `T` is `number`, and then `Box<string>` is a child of that. While
`T` is reduced it is being expanded; the second application binds it afresh.
-/

namespace Reboxed

/-- The parameter of `Box`. -/
def item : TypeParameter := ⟨50, "T", false⟩

/-- An application of the template `Box`. -/
def box (label : Label) (arg : Hint) : Hint :=
  .subscripted label (.template ⟨51, "Box", [item], none⟩) [arg]

/-- A place without settings and names of its own. -/
def site : Site := ⟨⟨false, ∅, defaultScopeName⟩, defaultScopeName, [], [], none⟩

/-- A run in which nothing has been sanitized yet. -/
def start : Run := ⟨{ Store.initial with next := 54 }, .fresh, none, []⟩

/-- `Box<number>` sanitized as a root. -/
@[irreducible]
def outer : Except Report Sane × Run :=
  sanitizeRoot .builtin site depthLimit (.hint (box 52 (.primitive .number))) "" start

/-- The model of `Box<number>`. -/
def outerModel : Sane := outer.1.toOption.getD .ignorable

/-- The child `T` of `Box<number>`. -/
@[irreducible]
def middle : Except Report Sane × Run :=
  sanitizeChild .builtin site depthLimit outerModel (.parameter item) "" outer.2

/-- The model of `T`. -/
def middleModel : Sane := middle.1.toOption.getD .ignorable

/-- `Box<string>` as a child of `T`. -/
@[irreducible]
def inner : Except Report Sane × Run :=
  sanitizeChild .builtin site depthLimit middleModel (box 53 (.primitive .string)) "" middle.2

/-- The model of `Box<string>`. -/
def innerModel : Sane := inner.1.toOption.getD .ignorable

/-- The three calls, the last one first. -/
def links : List Link :=
  [⟨some middleModel, (Call.child middleModel (box 53 (.primitive .string))).visits .builtin site
      depthLimit middle.2, innerModel⟩,
    ⟨some outerModel, (Call.child outerModel (.parameter item)).visits .builtin site depthLimit
      outer.2, middleModel⟩,
    ⟨none, (Call.root (.hint (box 52 (.primitive .number)))).visits .builtin site depthLimit start,
      outerModel⟩]

theorem outer_eq : sanitizeRoot .builtin site depthLimit (.hint (box 52 (.primitive .number))) ""
    start = (.ok outerModel, outer.2) := by
  have houter : outer = (.ok outerModel, outer.2) :=
    eq_ok_of_isSome (x := outer) (by decide +kernel) .ignorable
  rw [← houter, outer]

theorem middle_eq : sanitizeChild .builtin site depthLimit outerModel (.parameter item) "" outer.2 =
    (.ok middleModel, middle.2) := by
  have hmiddle : middle = (.ok middleModel, middle.2) :=
    eq_ok_of_isSome (x := middle) (by decide +kernel) .ignorable
  rw [← hmiddle, middle]

theorem inner_eq : sanitizeChild .builtin site depthLimit middleModel
    (box 53 (.primitive .string)) "" middle.2 = (.ok innerModel, inner.2) := by
  have hinner : inner = (.ok innerModel, inner.2) :=
    eq_ok_of_isSome (x := inner) (by decide +kernel) .ignorable
  rw [← hinner, inner]

/-- The three calls succeed one below the other. -/
theorem cascade_links : Cascade .builtin site links := by
  have hstart : start.engine.substitutions.Computed := Substitution.Cache.computed_empty
  have houter : outer.2.engine.substitutions.Computed :=
    Call.computed_run (c := .root _) hstart (mapFailure_eq_ok_iff.mp outer_eq)
  have hmiddle : middle.2.engine.substitutions.Computed := by
    have hrun := middle_eq
    rw [Call.sanitizeChild_eq_run] at hrun
    exact Call.computed_run houter (mapFailure_eq_ok_iff.mp hrun)
  have hroot : Cascade .builtin site (links.drop 2) := .root _ _ _ hstart outer_eq
  have hchild : Cascade .builtin site (links.drop 1) :=
    .child _ _ _ hroot (by decide +kernel) houter middle_eq
  exact .child _ _ _ hchild (by decide +kernel) hmiddle inner_eq

end Reboxed

/-- `T` leaves the guard when `Box<string>` is reduced below it, and stays bound. -/
theorem cascade_invariant_of_reboxed :
    Cascade .builtin Reboxed.site Reboxed.links ∧ Reboxed.innerModel ≠ .ignorable ∧
      .parameter Reboxed.item ∈ Reboxed.middleModel.guard.hints ∧
      .parameter Reboxed.item ∉ Reboxed.innerModel.guard.hints ∧
      Reboxed.innerModel.table.get? Reboxed.item = some (.primitive .string) ∧
      ∃ v ∈ (Call.child Reboxed.middleModel (Reboxed.box 53 (.primitive .string))).visits .builtin
        Reboxed.site depthLimit Reboxed.middle.2, v.Binds .builtin Reboxed.item := by
  have hmodel : Reboxed.innerModel ≠ .ignorable := by decide +kernel
  have hguarded : .parameter Reboxed.item ∈ Reboxed.middleModel.guard.hints := by decide +kernel
  have hreleased : .parameter Reboxed.item ∉ Reboxed.innerModel.guard.hints := by decide +kernel
  have hdown := (cascade_invariant Reboxed.cascade_links _ List.mem_cons_self hmodel).1
  exact ⟨Reboxed.cascade_links, hmodel, hguarded, hreleased, by decide +kernel,
    hdown.released Reboxed.item hguarded hreleased⟩

end TypeHints
