import TypeHints.Proofs.Histories

/-!
# What arguments mean below an application

The bindings of an application are put over those of the model that it is reduced below, and its
arguments are not substituted: they are reduced when a parameter is asked for, below all bindings.
So an argument that comes to a parameter which the application binds means something else than it
did where it was written: below `Map<string, number>`, the child `K` of `Map<V, K>` is `V`, which is
`K` again (`arguments_misread`). Other arguments keep their meaning, as far as the aliases in them
are read alike each time (`sanitizeChild_argument`).

The proof compares two reductions of one argument, below the model of the application and below the
model that it was made below:

* `Sane.Applied` says what the first model is: it binds what the application binds, has that out of
  its guard, and hands on the rest;
* so the two models match but for the parameters that are captured (`Applied.toMatch`), namely those
  that the application rebinds and that still have their binding from before;
* a reduction that comes to none of these goes through corresponding steps below both, in whatever
  engines that calls of one runtime have left.

The parameter takes one step more than its argument, the one that leads to it. At the end both hints
are of one key since keys can be relied on for what has been handled (`Hint.Keyed`), although
neither has to be the representative of the other.
-/

namespace TypeHints

open Attempt Hint
open ForwardRef (Namesake namesake_refl namesake_equivalence)

/-! ### What an application binds -/

/-- An application binds a parameter to something else than itself. -/
def Rebinds (params : List TypeParameter) (args : List Hint) (p : TypeParameter) : Prop :=
  ∃ a, (p, a) ∈ params.zip args ∧ a ≠ .parameter p

namespace Substitution

variable {w : World} {hint : Hint} {params : List TypeParameter} {args : List Hint}
  {d? : Option (Dict TypeParameter Hint)}

/-- What is kept are the pairs in which a parameter does not stand for itself. -/
theorem mem_kept {p : TypeParameter} {a : Hint} :
    (p, a) ∈ kept params args ↔ (p, a) ∈ params.zip args ∧ a ≠ .parameter p := by
  simp [kept]

theorem mem_keys_kept {p : TypeParameter} :
    p ∈ (kept params args).map Prod.fst ↔ Rebinds params args p := by
  rw [List.mem_map]
  constructor
  · rintro ⟨⟨q, a⟩, ha, rfl⟩
    exact ⟨a, mem_kept.mp ha⟩
  · rintro ⟨a, ha⟩
    exact ⟨(p, a), mem_kept.mpr ha, rfl⟩

/-- Different parameters are kept at most once each. -/
theorem nodup_keys_kept (hparams : params.Nodup) (args : List Hint) :
    ((kept params args).map Prod.fst).Nodup :=
  (nodup_zip hparams args).sublist (List.filter_sublist.map Prod.fst)

/-- An application that binds nothing is one to the parameters themselves. -/
theorem compute_cases (h : compute w hint params args = .ok d?) :
    d? = none ∧ (∀ p, ¬ Rebinds params args p) ∨ d? = some (.ofList (kept params args)) := by
  have hself : ∀ p, ¬ Rebinds params (params.map .parameter) p := by
    rintro p ⟨a, ha, hne⟩
    rw [List.zip_map_right, List.mem_map] at ha
    obtain ⟨⟨q, q'⟩, hq, heq⟩ := ha
    cases heq
    have hqq : q = q' := by
      obtain ⟨i, hi, hget⟩ := List.mem_iff_getElem.mp hq
      rw [List.getElem_zip] at hget
      exact (Prod.mk.inj hget).1.symm.trans (Prod.mk.inj hget).2
    exact hne (hqq ▸ rfl)
  unfold compute at h
  split at h
  · rename_i hnothing
    cases h
    rcases Bool.or_eq_true_iff.mp hnothing with hempty | hsame
    · rw [List.isEmpty_iff.mp hempty]
      exact .inl ⟨rfl, fun p ⟨_, hp, _⟩ ↦ by cases hp⟩
    · rw [of_decide_eq_true hsame]
      exact .inl ⟨rfl, hself⟩
  split at h
  · cases h
  split at h
  · cases h
  dsimp only at h
  split at h <;> cases h
  exact .inr rfl

/-- What an application binds a parameter to: its argument, unless that is the parameter itself. -/
theorem get?_of_compute (hparams : params.Nodup) (h : compute w hint params args = .ok d?)
    {p : TypeParameter} {a : Hint} (hp : (p, a) ∈ params.zip args) (hne : a ≠ .parameter p) :
    d?.bind (·.get? p) = some a := by
  rcases compute_cases h with ⟨-, hself⟩ | rfl
  · exact absurd ⟨a, hp, hne⟩ (hself p)
  · have hkeys := nodup_keys_kept hparams args
    show (Dict.empty.insertAll (kept params args)).get? p = some a
    rw [Dict.get?_insertAll hkeys, Dict.find_of_mem hkeys (mem_kept.mpr ⟨hp, hne⟩)]
    rfl

/-- Other parameters stay unbound. -/
theorem get?_of_not_rebinds (hparams : params.Nodup) (h : compute w hint params args = .ok d?)
    {p : TypeParameter} (hp : ¬ Rebinds params args p) : d?.bind (·.get? p) = none := by
  rcases compute_cases h with ⟨rfl, -⟩ | rfl
  · rfl
  · show (Dict.empty.insertAll (kept params args)).get? p = none
    rw [Dict.get?_insertAll (nodup_keys_kept hparams args),
      Dict.find_eq_none (mem_keys_kept.not.mpr hp)]
    rfl

end Substitution

/-- Alike bindings hold alike entries. -/
theorem AlikeBindings.exists_mem {ρ : ForwardRef → ForwardRef → Prop} {mixed : Bool}
    {es es' : List (TypeParameter × Hint)} (h : AlikeBindings ρ mixed es es') {p : TypeParameter}
    {a : Hint} (ha : (p, a) ∈ es) : ∃ b, (p, b) ∈ es' ∧ Hint.Alike ρ mixed a b := by
  induction h with
  | nil => cases ha
  | @cons e e' es es' he _ ih =>
    rcases List.mem_cons.mp ha with rfl | ha
    · obtain ⟨q, b⟩ := e'
      obtain ⟨rfl, hab⟩ := he
      exact ⟨b, List.mem_cons_self, hab⟩
    · obtain ⟨b, hb, hab⟩ := ih ha
      exact ⟨b, List.mem_cons_of_mem _ hb, hab⟩

/-- Alike bindings bind the same parameters in the same order. -/
theorem AlikeBindings.keys_eq {ρ : ForwardRef → ForwardRef → Prop} {mixed : Bool}
    {es es' : List (TypeParameter × Hint)} (h : AlikeBindings ρ mixed es es') :
    es.map Prod.fst = es'.map Prod.fst := by
  induction h with
  | nil => rfl
  | cons he _ ih => rw [List.map_cons, List.map_cons, he.1, ih]

/-! ### Models of applications -/

namespace Sane

/-- A model is one of an application below another model: it binds what the application binds, up to
likeness, and hands on the rest. -/
structure Applied (s : Sane) (ρ : ForwardRef → ForwardRef → Prop) (mixed : Bool)
    (params : List TypeParameter) (args : List Hint) (m : Sane) : Prop where
  bound : ∀ p a, (p, a) ∈ params.zip args → a ≠ .parameter p →
    (∃ b, m.table.get? p = some b ∧ Hint.Alike ρ mixed a b) ∧ .parameter p ∉ m.guard.hints
  table : ∀ p, ¬ Rebinds params args p → m.table.get? p = s.table.get? p
  parameters : ∀ p, ¬ Rebinds params args p →
    (.parameter p ∈ m.guard.hints ↔ .parameter p ∈ s.guard.hints)
  guard : ∀ h, h.isParameter = false → (h ∈ m.guard.hints ↔ h ∈ s.guard.hints)
  overridden : m.overridden = s.overridden

/-- A parameter is taken for what an application rebinds if it still has the binding that the
application puts another one over. -/
def Captured (s : Sane) (params : List TypeParameter) (args : List Hint) (p : TypeParameter)
    (bound? : Option Hint) : Prop :=
  Rebinds params args p ∧ bound? = s.table.get? p

section Applied

variable {ρ : ForwardRef → ForwardRef → Prop} {mixed : Bool} {params : List TypeParameter}
  {args args' : List Hint} {s m : Sane}

/-- Making the model of an application. -/
theorem applied_create {w : World} {hint : Hint} {table? : Option Table} (hparams : params.Nodup)
    (hargs : AlikeAll ρ mixed args args')
    (h : Substitution.compute w hint params args' = .ok (table?.map Table.entries)) (l : Label)
    (t : Hint) : s.Applied ρ mixed params args (.create l t (some s) table?) := by
  have hkept : AlikeBindings ρ mixed (Substitution.kept params args)
      (Substitution.kept params args') := Substitution.kept_agree hargs params
  have hlookup (p : TypeParameter) :
      Table.lookup? table? p = (table?.map Table.entries).bind (·.get? p) := by
    cases table? <;> rfl
  have hproper : Table.Proper table? := by
    rintro table rfl
    exact Substitution.nodup_of_compute h
  have htable (p : TypeParameter) : (Table.merge l s.table table?).get? p =
      (Table.lookup? table? p).or (s.table.get? p) := Table.get?_merge hproper l s.table p
  have hfree {p : TypeParameter} (hp : ¬ Rebinds params args p) :
      Table.lookup? table? p = none := by
    rw [← Substitution.mem_keys_kept, hkept.keys_eq, Substitution.mem_keys_kept] at hp
    exact (hlookup p).trans (Substitution.get?_of_not_rebinds hparams h hp)
  refine ⟨fun p a ha hne ↦ ?_, fun p hp ↦ ?_, fun p hp ↦ ?_, fun k hk ↦ ?_, rfl⟩
  · obtain ⟨b, hb, hab⟩ := hkept.exists_mem (Substitution.mem_kept.mpr ⟨ha, hne⟩)
    obtain ⟨hb, hne'⟩ := Substitution.mem_kept.mp hb
    have hbound : Table.lookup? table? p = some b :=
      (hlookup p).trans (Substitution.get?_of_compute hparams h hb hne')
    refine ⟨⟨b, ?_, hab⟩, fun hmem ↦ ?_⟩
    · exact (htable p).trans (by rw [hbound, Option.some_or])
    · have hnone := (Guard.parameter_mem_withoutRebound.mp hmem).2
      rw [hbound] at hnone
      cases hnone
  · exact (htable p).trans (by rw [hfree hp, Option.none_or])
  · exact Guard.parameter_mem_withoutRebound.trans (and_iff_left (hfree hp))
  · exact Guard.mem_withoutRebound hk

/-- Below the model of an application holds what holds below the model that it was made below, but
for what the application rebinds. -/
theorem Applied.toMatch (hρ : ∀ r, ρ r r) (h : s.Applied ρ mixed params args m) :
    Match ρ mixed (s.Captured params args) (some m) (some s) where
  table p hp := by
    have hsame : m.table.get? p = s.table.get? p := h.table p fun hr ↦ hp ⟨hr, rfl⟩
    rw [tableOf_some, tableOf_some, hsame]
    cases s.table.get? p with
    | none => exact .none
    | some k => exact .some (.refl hρ k)
  parameters p hp := h.parameters p fun hr ↦ hp ⟨hr, rfl⟩
  forth k hk hkind := ⟨k, (h.guard k hkind).mp hk, .refl hρ k⟩
  back k hk hkind := ⟨k, (h.guard k hkind).mpr hk, .refl hρ k⟩
  overridden := h.overridden

/-- What is rebound may be entered in the guard. -/
theorem Match.expanding_captured {X : TypeParameter → Option Hint → Prop} {s t : Sane}
    (h : Match ρ mixed X (some s) (some t)) {p : TypeParameter} (hp : X p (t.table.get? p))
    (l : Label) : Match ρ mixed X (some (s.expanding l (.parameter p))) (some t) where
  table := h.table
  parameters q hq := by
    have hne : Hint.parameter q ≠ .parameter p := by
      rintro ⟨⟩
      exact hq hp
    exact (Guard.mem_add.trans (or_iff_left hne)).trans (h.parameters q hq)
  forth k hk hkind := by
    rcases Guard.mem_add.mp hk with hk | rfl
    · exact h.forth k hk hkind
    · cases hkind
  back k hk hkind := by
    obtain ⟨a, ha, hak⟩ := h.back k hk hkind
    exact ⟨a, Guard.mem_add.mpr (.inl ha), hak⟩
  overridden := h.overridden

end Applied

end Sane

/-! ### Keys of results -/

/-- A hint whose key can be relied on: it has `M`, or is nothing to check or a template. -/
inductive Hint.Keyed (M : Hint → Prop) : Hint → Prop
  | any : Keyed M .any
  | template (t : Template) : Keyed M (.template t)
  | of {h : Hint} (hM : M h) : Keyed M h

theorem Hint.Keyed.stableKey_eq {ρ : ForwardRef → ForwardRef → Prop} {mixed : Bool} {M : Hint → Prop}
    (hM : Faithful ρ mixed M) {h k : Hint} (hh : Keyed M h) (hk : Keyed M k)
    (hhk : Hint.Alike ρ mixed h k) : h.stableKey = k.stableKey := by
  cases hh with
  | any =>
    cases hhk
    rfl
  | template t =>
    cases hhk
    rfl
  | of hh =>
    cases hk with
    | any =>
      cases hhk
      rfl
    | template t =>
      cases hhk
      rfl
    | of hk => exact (hM _ _ hh hk).mpr hhk

section Results

variable {w : World} {site : Site} {M : Hint → Prop}

/-- Reduction comes to a hint whose key can be relied on, if keys are faithful on what it
handles. -/
theorem keyed_reduce (depth : Nat) : ∀ {hint : Hint} {p? : Option Sane} {r r' : Run} {s : Sane},
    r.Holds M → (∀ v ∈ visits w site depth hint p? r, ∀ k, v.Handles w k → M k) →
    reduce w site depth hint p? r = (.ok s, r') → s.hint.Keyed M := by
  induction depth with
  | zero =>
    intro _ _ _ _ _ _ _ h
    cases h
  | succ depth ih =>
    intro hint p? r r' s hr hM h
    obtain ⟨st, r₁, hstep, h⟩ := bind_eq_ok_iff.mp h
    have hadds := Visit.adds_reduceStep w site ⟨hint, p?, r⟩
    simp only [hstep] at hadds
    cases st with
    | goOn k q? =>
      rw [visits_succ_goOn hstep, List.forall_mem_cons] at hM
      exact ih (hadds.holds hM.1 hr) hM.2 h
    | done t =>
      cases h
      have hhandled := hM ⟨hint, p?, r⟩ List.mem_cons_self
      have hadvance : Advance w site r hint p? (.done s) r' := .of_reduceStep hstep
      cases hadvance with
      | ignored => exact .any
      | applied l _ _ => exact .template _
      | @settled _ result _ _ l _ stands =>
        have hresult : M result := by
          rcases stands with rfl | ⟨l₁, l₂, hs, rfl, rfl⟩
          · exact hhandled _ .self
          · exact Interner.intern_holds hr (hhandled _ (.flat rfl l₂))
        exact .of hresult

/-- So does a call. -/
theorem keyed_run {B : Book} {depth : Nat} {c : Call} {r : Run} {s : Sane} (hr : r.Holds M)
    (known : c.Known w site B M depth r) (h : (c.run w site depth r).1 = .ok s) :
    s.hint.Keyed M := by
  obtain ⟨hgiven, hvisited⟩ := known
  have hadds : r.Adds M (fun _ _ ↦ False) (c.start w site r).2 := Call.adds_start hgiven
  unfold Call.visits at hvisited
  rcases hc : c.start w site r with ⟨f | hint, r₁⟩ <;> rw [hc] at hadds hvisited
  · rw [Call.run, bind_apply_error hc] at h
    cases h
  · rw [Call.run, bind_apply_ok hc] at h
    have hr₁ : r₁.Holds M := fun k v hk ↦ (hadds.kept k v hk).elim (hr k v) id
    exact keyed_reduce depth hr₁ (fun v hv ↦ (hvisited v hv).handled) (Prod.ext h rfl)

end Results

/-! ### Calls -/

section Calls

variable {w W : World} {site : Site} {names : Label → String} {B : Book} {M : Hint → Prop}
  {mixed : Bool} {models : List Sane} {depth : Nat} {label : String} {r r₁ : Run} {s m : Sane}

/-- Reducing an application comes to a model of it. -/
theorem applied_of_reduce {l : Label} {t : Template} {args args' : List Hint}
    (hparams : t.params.Nodup) (hargs : AlikeAll Namesake mixed args args')
    (hhonest : r.engine.substitutions.Honest w.classes B)
    (hvisited : ∀ v ∈ visits w site depth (.subscripted l (.template t) args') (some s) r,
      v.Known w B M)
    (h : reduce w site depth (.subscripted l (.template t) args') (some s) r = (.ok m, r₁)) :
    s.Applied Namesake mixed t.params args m := by
  cases depth with
  | zero => cases h
  | succ depth =>
    obtain ⟨st, r₂, hstep, h⟩ := bind_eq_ok_iff.mp h
    obtain ⟨table?, r₃, n, hsubstitute, rfl, -⟩ := reduceTemplate_inv hstep
    cases h
    have hB : B.Has (w.under r.store) l (.template t) args' :=
      (hvisited _ List.mem_cons_self).booked _ _ _ rfl
    have hentries := Run.substitute_eq hhonest hB
    rw [show (Origin.template t).params = t.params from rfl, hsubstitute] at hentries
    -- what has been kept for the label is what computing the bindings gives
    rcases hcompute : Substitution.compute (w.under r.store) (.subscripted l (.template t) args')
      t.params args' with c | d? <;> rw [hcompute] at hentries <;> cases hentries
    exact Sane.applied_create hparams hargs hcompute n (.template t)

/-- A child that is an application comes to a model of it. -/
theorem applied_of_sanitizeChild (hM : Faithful Namesake mixed M) {l : Label} {t : Template}
    {args : List Hint} (hparams : t.params.Nodup) (hr : r.engine.Reliable w B M models)
    (known : (Call.child s (.subscripted l (.template t) args)).Known w site B M depth r)
    (h : sanitizeChild w site depth s (.subscripted l (.template t) args) label r = (.ok m, r₁)) :
    s.Applied Namesake mixed t.params args m := by
  obtain ⟨hgiven, hvisited⟩ := known
  obtain ⟨-, halike⟩ := hM.intern_alike hr.sound hr.holds (hgiven _ rfl)
  rw [sanitizeChild_eq, mapFailure_eq_ok_iff] at h
  have hvisited : ∀ v ∈ visits w site depth
      (r.engine.interner.intern (.subscripted l (.template t) args)).1 (some s)
      (Run.intern (.subscripted l (.template t) args) r : Except Failure Hint × Run).2,
      v.Known w B M := hvisited
  generalize (r.engine.interner.intern (.subscripted l (.template t) args)).1 = k
    at halike h hvisited
  cases halike with
  | appliedTemplate l' _ _ hargs =>
    have hargs' := hargs.symm fun _ _ ↦ namesake_equivalence.symm
    refine applied_of_reduce hparams hargs' ?_ hvisited h
    -- interning leaves the outcomes that have been kept as they are
    exact hr.honest

/-- A crash is reported as it is, and nothing else is reported as a crash. -/
theorem report_eq_crash_iff {α : Type} {x : Attempt Run Failure α} {c : Crash} :
    (mapFailure (Failure.report label) x r).1 = .error (.crash c) ↔ (x r).1 = .error (.crash c) := by
  unfold mapFailure
  rcases x r with ⟨(d | d) | y, _⟩ <;> simp [Failure.report]

theorem ne_tooDeep_of_report {α : Type} {x : Attempt Run Failure α}
    (h : (mapFailure (Failure.report label) x r).1 ≠ .error (.crash .tooDeep)) :
    (x r).1 ≠ .error (.crash .tooDeep) :=
  report_eq_crash_iff.not.mp h

/-- Sanitizing that has not been cut short is the same at a greater depth, and comes to the same. -/
theorem reduce_succ_of_ne_tooDeep (depth : Nat) : ∀ {hint : Hint} {p? : Option Sane} {r : Run},
    (reduce w site depth hint p? r).1 ≠ .error (.crash .tooDeep) →
    reduce w site (depth + 1) hint p? r = reduce w site depth hint p? r ∧
      visits w site (depth + 1) hint p? r = visits w site depth hint p? r := by
  induction depth with
  | zero => exact fun h ↦ absurd rfl h
  | succ depth ih =>
    intro hint p? r h
    rcases hstep : reduceStep w site hint p? r with ⟨f | (s | ⟨k, q?⟩), r₁⟩
    · rw [reduce_succ_error hstep, reduce_succ_error hstep, visits_succ_error hstep,
        visits_succ_error hstep]
      exact ⟨rfl, rfl⟩
    · rw [reduce_succ_done hstep, reduce_succ_done hstep, visits_succ_done hstep,
        visits_succ_done hstep]
      exact ⟨rfl, rfl⟩
    · rw [reduce_succ_goOn hstep] at h
      rw [reduce_succ_goOn hstep, reduce_succ_goOn hstep, visits_succ_goOn hstep,
        visits_succ_goOn hstep, (ih h).1, (ih h).2]
      exact ⟨rfl, rfl⟩

/-- Sanitizing that has not been cut short comes to the same at any greater depth. -/
theorem reduce_of_le_of_ne_tooDeep {m n : Nat} {hint : Hint} {p? : Option Sane} {r : Run}
    (hmn : m ≤ n) (hm : (reduce w site m hint p? r).1 ≠ .error (.crash .tooDeep)) :
    reduce w site n hint p? r = reduce w site m hint p? r := by
  induction hmn with
  | refl => rfl
  | @step n _ ih => exact (reduce_succ_of_ne_tooDeep n (ih ▸ hm)).1.trans ih

/-- Two depths at which sanitizing is not cut short make no difference. -/
theorem reduce_eq_of_ne_tooDeep {depth' : Nat} {hint : Hint} {p? : Option Sane} {r : Run}
    (h : (reduce w site depth hint p? r).1 ≠ .error (.crash .tooDeep))
    (h' : (reduce w site depth' hint p? r).1 ≠ .error (.crash .tooDeep)) :
    reduce w site depth hint p? r = reduce w site depth' hint p? r := by
  rcases Nat.le_total depth depth' with hd | hd
  · exact (reduce_of_le_of_ne_tooDeep hd h).symm
  · exact reduce_of_le_of_ne_tooDeep hd h'

end Calls

/-- The code that a report gives, unless it is a crash. -/
def Report.code? : Report → Option Code
  | .diagnostic d => some d.code
  | .crash _ => none

theorem Report.Alike.code?_eq {ρ : ForwardRef → ForwardRef → Prop} {mixed : Bool} {f g : Report}
    (h : Report.Alike ρ mixed f g) : f.code? = g.code? := by
  cases h with
  | diagnostic h _ => exact congrArg some h.code_eq
  | crash _ => rfl

/-- What is known of the outcomes beside that they correspond. -/
theorem Outcomes.and {ε δ α β : Type} {E : ε → δ → Prop} {V : α → β → Prop} {P : α → Prop}
    {Q : β → Prop} {x : Except ε α} {y : Except δ β} (h : Outcomes E V x y)
    (hP : ∀ a, x = .ok a → P a) (hQ : ∀ b, y = .ok b → Q b) :
    Outcomes E (fun a b ↦ V a b ∧ P a ∧ Q b) x y := by
  cases h with
  | error he => exact .error he
  | ok hab => exact .ok ⟨hab, hP _ rfl, hQ _ rfl⟩

/-- A run at a site of a runtime that has gone through calls, in the surroundings that `W` and
`names` make. -/
structure Run.After (w W : World) (site : Site) (names : Label → String) (B : Book)
    (M : Hint → Prop) (models : List Sane) (r : Run) : Prop where
  history : History w B M models r.engine
  surroundings : r.At w W site names

section Arguments

variable {w W : World} {site : Site} {names : Label → String} {B : Book} {M : Hint → Prop}
  {mixed : Bool} {depth : Nat} {label : String} {t : Template} {args : List Hint} {s m : Sane}
  {models models' : List Sane} {r r' : Run} {p : TypeParameter} {a : Hint}

/-- A run after calls of its runtime is in order. -/
theorem Run.After.inOrder (h : r.After w W site names B M models) :
    r.InOrder w W site names B M :=
  h.history.reliable.inOrder h.surroundings

theorem Run.After.settled (h : r.After w W site names B M models) (hm : m ∈ models) :
    (Sane.guardOf (some m)).Settled r.engine.interner :=
  h.history.reliable.settled m hm

/-- Below the model of an application, a parameter is reduced as its argument is below the model
that the application was made below, if the reduction of the argument captures nothing. -/
theorem reduce_argument_agree (hW : w.Pure W) (hM : Faithful Namesake mixed M)
    (happlied : s.Applied Namesake mixed t.params args m) (hpa : (p, a) ∈ t.params.zip args)
    (hr : r.After w W site names B M models) (hm : m ∈ models)
    (known : (Call.child m (.parameter p)).Known w site B M (depth + 1) r)
    (hr' : r'.After w W site names B M models') (hs : s ∈ models')
    (known' : (Call.child s a).Known w site B M depth r')
    (avoids : ∀ v ∈ (Call.child s a).visits w site depth r', v.Avoids (s.Captured t.params args))
    (hdeep : (sanitizeChild w site depth s a label r').1 ≠ .error (.crash .tooDeep)) :
    Outcomes (Failure.Alike Namesake mixed) (fun x y ↦ Hint.Alike Namesake mixed x.hint y.hint)
      ((Call.child m (.parameter p)).run w site (depth + 1) r).1
      ((Call.child s a).run w site depth r').1 := by
  have hvisits : ∀ v ∈ visits w site (depth + 1) (.parameter p) (some m) r, v.Known w B M :=
    known.visited
  have hvisits' : ∀ v ∈ visits w site depth (r'.engine.interner.intern a).1 (some s)
      (Run.intern a r' : Except Failure Hint × Run).2,
      v.Known w B M ∧ v.Avoids (s.Captured t.params args) :=
    fun v hv ↦ ⟨known'.visited v hv, avoids v hv⟩
  have hin' : (Run.intern a r' : Except Failure Hint × Run).2.InOrder w W site names B M :=
    hr'.inOrder.intern (known'.given a rfl)
  have hs' : (Sane.guardOf (some s)).Settled
      (Run.intern a r' : Except Failure Hint × Run).2.engine.interner :=
    (hr'.settled hs).mono (r'.engine.interner.intern_within a)
  have hfinished : (reduce w site depth (r'.engine.interner.intern a).1 (some s)
      (Run.intern a r' : Except Failure Hint × Run).2).1 ≠ .error (.crash .tooDeep) :=
    ne_tooDeep_of_report hdeep
  obtain ⟨-, halike⟩ := hr'.inOrder.intern_alike hM (known'.given a rfl)
  show Outcomes _ _ (reduce w site (depth + 1) (.parameter p) (some m) r).1
    (reduce w site depth (r'.engine.interner.intern a).1 (some s)
      (Run.intern a r' : Except Failure Hint × Run).2).1
  -- from here on it does not matter which representative the argument has
  generalize (r'.engine.interner.intern a).1 = k,
    (Run.intern a r' : Except Failure Hint × Run).2 = r' at hvisits' hin' hs' hfinished halike ⊢
  have hcorresponds := Sane.corresponds_match namesake_refl mixed (s.Captured t.params args)
  have hmatch : Sane.Match Namesake mixed (s.Captured t.params args) (some m) (some s) :=
    happlied.toMatch namesake_refl
  by_cases hself : a = .parameter p
  · -- the parameter is bound to nothing new, so it is reduced itself below both models
    obtain rfl : k = .parameter p := alike_parameter_iff.mp (hself ▸ halike)
    obtain ⟨hsame, hsame'⟩ := reduce_succ_of_ne_tooDeep depth hfinished
    rw [← hsame'] at hvisits'
    rw [← hsame]
    exact (reduce_agree hW hM hM hcorresponds (depth + 1) (.parameter p) hmatch hvisits hvisits'
      (hr.settled hm) hs' ⟨hr.inOrder, hin'⟩ trivial).1.mono fun _ _ h ↦ h.1
  · obtain ⟨⟨b, hb, hab⟩, hfree⟩ := happlied.bound p a hpa hself
    have hcaptured : s.Captured t.params args p (s.table.get? p) := ⟨⟨a, hpa, hself⟩, rfl⟩
    obtain ⟨r₁, hstep, hquiet⟩ := reduceStep_bound w site r hb hfree
    have hguard : (Sane.guardOf (some (m.expanding r.store.next (.parameter p)))).Settled
        r₁.engine.interner :=
      ((hr.settled hm).mono hquiet.grows.interner).add r.store.next nofun
    have he : Equivalence (Hint.Alike Namesake mixed) := alike_equivalence namesake_equivalence
    have hbk : Hint.Alike Namesake mixed b k := he.trans (he.symm hab) (he.symm halike)
    rw [reduce_succ_goOn hstep]
    rw [visits_succ_goOn hstep, List.forall_mem_cons] at hvisits
    exact (reduce_agree hW hM hM hcorresponds depth hbk (hmatch.expanding_captured hcaptured _)
      hvisits.2 hvisits' hguard hs' ⟨hr.inOrder.quiet hquiet, hin'⟩ trivial).1.mono fun _ _ h ↦ h.1

/-- Arguments keep the meaning that they have where they are written, if their reduction there comes
to no parameter that the application binds anew: below the model of an application, sanitizing a
parameter fails with the same code as sanitizing its argument below the model that the application
was made below, or both give hints of one key. -/
theorem sanitizeChild_argument {l : Label} {depth₀ : Nat} {models₀ : List Sane} {r₀ r₁ : Run}
    (hW : w.Pure W) (hM : Faithful Namesake mixed M) (hparams : t.params.Nodup)
    (before : r₀.After w W site names B M models₀)
    (known₀ : (Call.child s (.subscripted l (.template t) args)).Known w site B M depth₀ r₀)
    (happ : sanitizeChild w site depth₀ s (.subscripted l (.template t) args) label r₀ = (.ok m, r₁))
    (hpa : (p, a) ∈ t.params.zip args)
    (hr : r.After w W site names B M models) (hm : m ∈ models)
    (known : (Call.child m (.parameter p)).Known w site B M (depth + 1) r)
    (hr' : r'.After w W site names B M models') (hs : s ∈ models')
    (known' : (Call.child s a).Known w site B M depth r')
    (avoids : ∀ v ∈ (Call.child s a).visits w site depth r', v.Avoids (s.Captured t.params args))
    (hdeep : (sanitizeChild w site depth s a label r').1 ≠ .error (.crash .tooDeep)) :
    Outcomes (fun f g ↦ f.code? = g.code?) (fun x y ↦ x.hint.stableKey = y.hint.stableKey)
      (sanitizeChild w site (depth + 1) m (.parameter p) label r).1
      (sanitizeChild w site depth s a label r').1 := by
  have happlied : s.Applied Namesake mixed t.params args m :=
    applied_of_sanitizeChild hM hparams before.history.reliable known₀ happ
  have hagree := reduce_argument_agree hW hM happlied hpa hr hm known hr' hs known' avoids hdeep
  have hkeyed (x : Sane) := keyed_run (s := x) hr.inOrder.holds known
  have hkeyed' (y : Sane) := keyed_run (s := y) hr'.inOrder.holds known'
  refine ((hagree.and hkeyed hkeyed').report label).imp (fun _ _ h ↦ h.code?_eq) ?_
  rintro x y ⟨halike, hx, hy⟩
  exact hx.stableKey_eq hM hy halike

end Arguments

/-! ### Calls on a list of hints -/

/-- Keys are faithful on a list of hints that both keys and texts tell apart. -/
theorem Hint.faithful_of_injective {l : List Hint}
    (hkeys : ∀ h ∈ l, ∀ k ∈ l, h.stableKey = k.stableKey → h = k)
    (hreprs : ∀ h ∈ l, ∀ k ∈ l, h.repr = k.repr → h = k) : Faithful Namesake false (· ∈ l) := by
  refine fun h k hh hk ↦ ⟨fun heq ↦ ?_, fun halike ↦ ?_⟩
  · obtain rfl := hkeys h hh k hk heq
    exact .refl namesake_refl h
  · rw [hreprs h hh k hk (halike.repr_eq fun _ _ hrs ↦ hrs.name)]

/-- Whether a hint is no union, no alias and no application of an alias. -/
def Hint.isDirect : Hint → Bool
  | .union _ _ | .alias _ | .subscripted _ (.alias _) _ => false
  | _ => true

theorem Hint.ne_form_of_isDirect {h : Hint} (hh : h.isDirect = true) (a : Alias)
    (application? : Option (Label × List Hint)) : h ≠ a.form application? := by
  rintro rfl
  rcases application? with - | ⟨l, args⟩ <;> cases hh

/-- Whether an application is entered in a book; other hints need not be. -/
def Book.enters (B : Book) : Hint → Bool
  | .subscripted l o args => B.hint l = .subscripted l o args
  | _ => true

/-- A visit of a hint of a list, where no parameters have been written down. -/
def Visit.isAmong (l : List Hint) (v : Visit) : Bool := v.hint ∈ l && v.run.store.params.isEmpty

/-- A call that comes just to hints of a list is known, if all of these are handled for themselves and
are in the book. -/
theorem Call.known_of_isAmong {site : Site} {hint : Label → Hint} {l : List Hint} {c : Call}
    {depth : Nat} {r : Run} (hdirect : ∀ h ∈ l, h.isDirect = true)
    (hbook : ∀ h ∈ l, Book.enters ⟨hint, World.builtin.bound?⟩ h = true)
    (given : (c.given? .builtin r).all (· ∈ l))
    (h : (c.visits .builtin site depth r).all (Visit.isAmong l)) :
    c.Known .builtin site ⟨hint, World.builtin.bound?⟩ (· ∈ l) depth r := by
  refine ⟨fun k hk ↦ ?_, fun v hv ↦ ?_⟩
  · rw [hk] at given
    exact of_decide_eq_true given
  · obtain ⟨hmem, hparams⟩ := Bool.and_eq_true_iff.mp (List.all_eq_true.mp h v hv)
    have hmem : v.hint ∈ l := of_decide_eq_true hmem
    have hself : v.hint.isDirect = true := hdirect _ hmem
    constructor
    · intro k hk
      have hunion : v.hint.isUnion = false := by
        cases hhint : v.hint <;> rw [hhint] at hself <;> first
          | rfl
          | cases hself
      rwa [hk.eq_hint hunion (Hint.ne_form_of_isDirect hself)]
    · intro m o args heq
      have hentry := hbook _ hmem
      rw [heq] at hentry
      refine ⟨of_decide_eq_true hentry, fun p _ ↦ ?_⟩
      rw [World.bound?, World.under, List.isEmpty_iff.mp hparams]
      rfl

/-! ### Maps in maps -/

namespace Renamed

/-- The hint `Map<string, number>`. -/
def outer : Hint := .subscripted 50 (.template Builtin.map) [.primitive .string, .primitive .number]

/-- The hint `Map<K, K>`. -/
def inner : Hint :=
  .subscripted 51 (.template Builtin.map)
    [.parameter Builtin.keyParam, .parameter Builtin.keyParam]

/-- The hint `Map<V, K>`. -/
def swapped : Hint :=
  .subscripted 52 (.template Builtin.map)
    [.parameter Builtin.valueParam, .parameter Builtin.keyParam]

/-- A place without settings and names of its own. -/
def site : Site := ⟨⟨false, ∅, defaultScopeName⟩, defaultScopeName, [], [], none⟩

/-- A run at the place, with the next label and the engine that are given. -/
def start (next : Label) (e : Engine) : Run := ⟨{ Store.initial with next := next }, e, none, []⟩

/-- The hints that are handled when `Map<K, K>` is sanitized below `Map<string, number>`. -/
def handled : List Hint :=
  [outer, inner, .parameter Builtin.keyParam, .parameter Builtin.valueParam, .primitive .string]

/-- The book in which the labels stand for the two applications. -/
def book : Book := ⟨fun l ↦ if l = 50 then outer else inner, World.builtin.bound?⟩

/-- Sanitizing `Map<string, number>`. -/
@[irreducible]
def outerRun : Except Failure Sane × Run :=
  (Call.root (.hint outer)).run .builtin site 1 (start 60 .fresh)

/-- The model of `Map<string, number>`. -/
def outerModel : Sane := outerRun.1.toOption.getD .ignorable

/-- Sanitizing `Map<K, K>` below it. -/
@[irreducible]
def innerRun : Except Failure Sane × Run :=
  (Call.child outerModel inner).run .builtin site 1 (start 70 outerRun.2.engine)

/-- The model of `Map<K, K>`. -/
def innerModel : Sane := innerRun.1.toOption.getD .ignorable

/-- Sanitizing `V` below that. -/
@[irreducible]
def valueRun : Except Failure Sane × Run :=
  (Call.child innerModel (.parameter Builtin.valueParam)).run .builtin site 3
    (start 80 innerRun.2.engine)

theorem faithful : Faithful Namesake false (· ∈ handled) :=
  Hint.faithful_of_injective (by decide +kernel) (by decide +kernel)

theorem pure_builtin (s : Store) (hs : s.aliasValues = ∅) :
    World.builtin.Pure (World.builtin.under s) := by
  intro id b hb
  simp only [World.under, hs] at hb
  cases hb

/-- A visit of a hint that is handled, where no parameters have been written down. -/
def isHandled (v : Visit) : Bool := v.hint ∈ handled && v.run.store.params.isEmpty

/-- A call that comes just to hints that are handled is known. -/
theorem known {c : Call} {depth : Nat} {r : Run}
    (given : (c.given? .builtin r).all (· ∈ handled))
    (h : (c.visits .builtin site depth r).all isHandled) :
    c.Known .builtin site book (· ∈ handled) depth r :=
  Call.known_of_isAmong (by decide) (by decide +kernel) given h

theorem history_outer : History .builtin book (· ∈ handled) [outerModel] outerRun.2.engine := by
  have hmodels : [outerModel] = outerRun.1.toOption.toList ++ [] := by decide +kernel
  rw [hmodels, outerRun]
  exact .call .fresh (known (by decide +kernel) (by decide +kernel)) nofun

/-- Both maps have been sanitized. -/
theorem history_inner :
    History .builtin book (· ∈ handled) [innerModel, outerModel] innerRun.2.engine := by
  have hmodels : [innerModel, outerModel] = innerRun.1.toOption.toList ++ [outerModel] := by
    decide +kernel
  rw [hmodels, innerRun]
  refine .call history_outer (known (by decide +kernel) (by decide +kernel)) fun p hp ↦ ?_
  cases hp
  exact List.mem_singleton_self _

theorem history_value : ∃ models, History .builtin book (· ∈ handled)
    (models ++ [innerModel, outerModel]) valueRun.2.engine := by
  refine ⟨valueRun.1.toOption.toList, ?_⟩
  rw [valueRun]
  refine .call history_inner (known (by decide +kernel) (by decide +kernel)) fun p hp ↦ ?_
  cases hp
  exact List.mem_cons_self

/-- The runs are made in the same surroundings. -/
theorem after {models : List Sane} {e : Engine} (h : History .builtin book (· ∈ handled) models e)
    (next : Label) : (start next e).After .builtin (World.builtin.under Store.initial) site
      (Store.initial.shown Builtin.classes) book (· ∈ handled) models :=
  ⟨h, ⟨rfl, rfl, h.reliable.refs, nofun⟩⟩

end Renamed

/-- Below `Map<string, number>`, the parameter `V` of `Map<K, K>` is what its argument `K` is. -/
theorem sanitizeChild_argument_renamed :
    Outcomes (fun f g ↦ f.code? = g.code?) (fun x y ↦ x.hint.stableKey = y.hint.stableKey)
      (sanitizeChild .builtin Renamed.site 3 Renamed.innerModel (.parameter Builtin.valueParam) ""
        (Renamed.start 80 Renamed.innerRun.2.engine)).1
      (sanitizeChild .builtin Renamed.site 2 Renamed.outerModel (.parameter Builtin.keyParam) ""
        (Renamed.start 90 Renamed.valueRun.2.engine)).1 := by
  obtain ⟨models, hvalue⟩ := Renamed.history_value
  have hinner : Renamed.innerRun = (.ok Renamed.innerModel, Renamed.innerRun.2) :=
    eq_ok_of_isSome (x := Renamed.innerRun) (by decide +kernel) .ignorable
  have happ : sanitizeChild .builtin Renamed.site 1 Renamed.outerModel Renamed.inner ""
      (Renamed.start 70 Renamed.outerRun.2.engine) =
        (.ok Renamed.innerModel, Renamed.innerRun.2) := by
    rw [Call.sanitizeChild_eq_run, mapFailure_eq_ok_iff, ← hinner, Renamed.innerRun]
  refine sanitizeChild_argument (Renamed.pure_builtin _ rfl) Renamed.faithful (by decide)
    (Renamed.after Renamed.history_outer 70)
    (Renamed.known (by decide +kernel) (by decide +kernel)) happ (by decide)
    (Renamed.after Renamed.history_inner 80) List.mem_cons_self
    (Renamed.known (by decide +kernel) (by decide +kernel)) (Renamed.after hvalue 90)
    (List.mem_append_right _ (List.mem_cons_of_mem _ (List.mem_singleton_self _)))
    (Renamed.known (by decide +kernel) (by decide +kernel)) ?_ ?_
  · -- what `K` comes to below the outer map is no parameter that the inner one rebinds
    have hhints : ∀ v ∈ (Call.child Renamed.outerModel (.parameter Builtin.keyParam)).visits .builtin
        Renamed.site 2 (Renamed.start 90 Renamed.valueRun.2.engine),
        v.hint = .parameter Builtin.keyParam ∨ v.hint.isParameter = false := by
      decide +kernel
    have hself : ¬ Rebinds Builtin.map.params [.parameter Builtin.keyParam,
        .parameter Builtin.keyParam] Builtin.keyParam := by
      rintro ⟨a, ha, hne⟩
      rcases List.mem_cons.mp ha with heq | ha
      · exact hne (Prod.mk.inj heq).2
      · cases List.mem_singleton.mp ha
    rintro v hv p hp ⟨hrebinds, -⟩
    rcases hhints v hv with hkey | hkind
    · rw [Hint.parameter.inj (hp.symm.trans hkey)] at hrebinds
      exact hself hrebinds
    · rw [hp] at hkind
      cases hkind
  · intro htooDeep
    have hok : (sanitizeChild .builtin Renamed.site 2 Renamed.outerModel
        (.parameter Builtin.keyParam) ""
        (Renamed.start 90 Renamed.valueRun.2.engine)).1.toOption.isSome := by
      decide +kernel
    rw [htooDeep] at hok
    cases hok

namespace Renamed

/-- Sanitizing `Map<string, number>` as the first root. -/
@[irreducible]
def rootRun : Except Report Sane × Run :=
  sanitizeRoot .builtin site depthLimit (.hint outer) "" (start 60 .fresh)

/-- The model of `Map<string, number>` as the first root. -/
def rootModel : Sane := rootRun.1.toOption.getD .ignorable

/-- Sanitizing `Map<V, K>` below it. -/
@[irreducible]
def swappedRun : Except Report Sane × Run :=
  sanitizeChild .builtin site depthLimit rootModel swapped "" rootRun.2

/-- The model of `Map<V, K>`. -/
def swappedModel : Sane := swappedRun.1.toOption.getD .ignorable

end Renamed

namespace Anew

/-- An alias that stands for a new template each time it is read. -/
def fresh : Alias := ⟨50, "Fresh", []⟩

/-- The builtin namespace with the alias. -/
def world : World where
  classes := Builtin.classes
  params := ∅
  aliases := ⟨[(50, .value (.value (.object [("kind", .string "generic"), ("name", .string "Box")])))]⟩

/-- The hint `Set<Fresh>`. -/
def set : Hint := .subscripted 51 (.template Builtin.set) [.alias fresh]

/-- Sanitizing `string` as the first root. -/
@[irreducible]
def rootRun : Except Report Sane × Run :=
  sanitizeRoot world Renamed.site depthLimit (.hint (.primitive .string)) "" (Renamed.start 60 .fresh)

/-- The model of `string`. -/
def rootModel : Sane := rootRun.1.toOption.getD .ignorable

/-- Sanitizing `Set<Fresh>` below it. -/
@[irreducible]
def setRun : Except Report Sane × Run :=
  sanitizeChild world Renamed.site depthLimit rootModel set "" rootRun.2

/-- The model of `Set<Fresh>`. -/
def setModel : Sane := setRun.1.toOption.getD .ignorable

end Anew

/-- Outcomes that agree in their keys have one key, if they have any. -/
theorem Outcomes.stableKey_eq {E : Report → Report → Prop} {x y : Except Report Sane}
    (h : Outcomes E (fun s t ↦ s.hint.stableKey = t.hint.stableKey) x y) :
    x.toOption.map (·.hint.stableKey) = y.toOption.map (·.hint.stableKey) := by
  cases h with
  | ok heq => exact congrArg some heq
  | error _ => rfl

/-- Below an application that is sanitized below a root, a parameter does not come to what its argument
comes to where it is written. -/
def Misread (w : World) (root application : Hint) (p : TypeParameter) (a : Hint) : Prop :=
  ∃ s m r₀ r₁,
    sanitizeRoot w Renamed.site depthLimit (.hint root) "" (Renamed.start 60 .fresh) = (.ok s, r₀) ∧
      sanitizeChild w Renamed.site depthLimit s application "" r₀ = (.ok m, r₁) ∧
      ¬ Outcomes (fun f g ↦ f.code? = g.code?) (fun x y ↦ x.hint.stableKey = y.hint.stableKey)
        (sanitizeChild w Renamed.site depthLimit m (.parameter p) "" r₁).1
        (sanitizeChild w Renamed.site depthLimit s a ""
          (sanitizeChild w Renamed.site depthLimit m (.parameter p) "" r₁).2).1

/-- It is enough that the keys differ. -/
theorem misread_of_keys {w : World} {root application a : Hint} {p : TypeParameter} {s m : Sane}
    {r₀ r₁ : Run}
    (hroot : sanitizeRoot w Renamed.site depthLimit (.hint root) "" (Renamed.start 60 .fresh) =
      (.ok s, r₀))
    (happ : sanitizeChild w Renamed.site depthLimit s application "" r₀ = (.ok m, r₁))
    (hkeys : (sanitizeChild w Renamed.site depthLimit m (.parameter p) "" r₁).1.toOption.map
        (·.hint.stableKey) ≠
      (sanitizeChild w Renamed.site depthLimit s a ""
        (sanitizeChild w Renamed.site depthLimit m (.parameter p) "" r₁).2).1.toOption.map
          (·.hint.stableKey)) :
    Misread w root application p a :=
  ⟨s, m, r₀, r₁, hroot, happ, fun h ↦ hkeys h.stableKey_eq⟩

/-- Arguments can be misread. Below `Map<string, number>`, the parameter `K` of `Map<V, K>` is not what
its argument `V` is: `V` is taken for the one that the inner map binds, and that leads back to `K`. And
if an alias stands for a new template each time it is read, the parameter `T` of `Set<Fresh>` is another
template than its argument. -/
theorem arguments_misread :
    Misread .builtin Renamed.outer Renamed.swapped Builtin.keyParam (.parameter Builtin.valueParam) ∧
      Misread Anew.world (.primitive .string) Anew.set Builtin.elementParam (.alias Anew.fresh) := by
  constructor
  · have hroot : Renamed.rootRun = (.ok Renamed.rootModel, Renamed.rootRun.2) :=
      eq_ok_of_isSome (x := Renamed.rootRun) (by decide +kernel) .ignorable
    have hswapped : Renamed.swappedRun = (.ok Renamed.swappedModel, Renamed.swappedRun.2) :=
      eq_ok_of_isSome (x := Renamed.swappedRun) (by decide +kernel) .ignorable
    exact misread_of_keys ((Renamed.rootRun.eq_def).symm.trans hroot)
      ((Renamed.swappedRun.eq_def).symm.trans hswapped) (by decide +kernel)
  · have hroot : Anew.rootRun = (.ok Anew.rootModel, Anew.rootRun.2) :=
      eq_ok_of_isSome (x := Anew.rootRun) (by decide +kernel) .ignorable
    have hset : Anew.setRun = (.ok Anew.setModel, Anew.setRun.2) :=
      eq_ok_of_isSome (x := Anew.setRun) (by decide +kernel) .ignorable
    exact misread_of_keys ((Anew.rootRun.eq_def).symm.trans hroot)
      ((Anew.setRun.eq_def).symm.trans hset) (by decide +kernel)

end TypeHints
