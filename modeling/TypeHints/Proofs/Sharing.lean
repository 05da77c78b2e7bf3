import TypeHints.Proofs.AliasValues
import TypeHints.Proofs.Keys
import TypeHints.Proofs.Reading

/-!
# What the engine keeps

The engine keeps representatives of hints and outcomes of applications, and later calls are answered
from them. This says what a step adds to either (`Visit.adds_reduceStep`): only hints that the step
handles become representatives, and only the outcome of the application that is reduced is kept.

Outcomes are kept under labels, which stand for identity. A `Book` says what labels mean: one
application for each label, and one bound for each parameter. While every application that is met is
entered in one book, the outcomes kept are those that a computation would give
(`Substitution.Cache.Honest`). Behind this is that the key of an outcome can be taken apart into the
labels that it was made of (`Substitution.labels_of_cacheKey_eq`), in which no separator can stand.

A third thing is handed from step to step beside the engine: a guard holds representatives, and an
alias is looked for by its own. `Guard.Settled` says that what a guard holds still is the
representative of its key; it stays so since representatives stay.

`Visit.Fit` has the three together, as an invariant of reduction on visits that are in the book
(`Visit.Fit.step`, `fit_reduce`). It says nothing of which hints share a key; that comes in only
where two runs are compared.
-/

namespace TypeHints

open Attempt

/-! ### Applications and their outcomes -/

/-- The parameters that an origin declares. -/
def Origin.params : Origin → List TypeParameter
  | .template t => t.params
  | .alias a => a.params
  | .forwardRef _ => []

namespace Substitution

/-- The outcome of an application under a label, computed anew. -/
def outcome (w : World) (label : Label) (hint : Hint) (params : List TypeParameter)
    (args : List Hint) : Outcome :=
  ⟨label, (compute w hint params args).map fun t ↦ t.map fun entries ↦ ⟨label, entries⟩⟩

/-- An application has the outcome that is kept, else its own, which is kept from then on. -/
theorem build_cases (w : World) (label : Label) (hint : Hint) (params : List TypeParameter)
    (args : List Hint) (cache : Cache) :
    (∃ o, cache.get? (cacheKey hint params args) = some o ∧
      build w label hint params args cache = (o, cache)) ∨
    (cache.get? (cacheKey hint params args) = none ∧
      build w label hint params args cache = (outcome w label hint params args,
        cache.insert (cacheKey hint params args) (outcome w label hint params args))) := by
  cases h : cache.get? (cacheKey hint params args) with
  | some o => exact .inl ⟨o, rfl, by simp only [build, h]⟩
  | none => exact .inr ⟨rfl, by simp only [build, h, outcome]⟩

/-- Only the classes and the bounds of the parameters matter to an application. -/
theorem compute_congr {w w' : World} {params : List TypeParameter} (hint : Hint)
    (args : List Hint) (hclasses : w.classes = w'.classes)
    (hbound : ∀ p ∈ params, w.bound? p = w'.bound? p) :
    compute w hint params args = compute w' hint params args := by
  have hviolation : ∀ e ∈ (Dict.ofList (kept params args)).entries,
      violation? w hint e = violation? w' hint e := by
    intro e he
    have hmem := (List.mem_filter.mp (Dict.mem_ofList he)).1
    unfold violation?
    rw [hbound e.1 (List.of_mem_zip hmem).1, hclasses]
  have hfind : (Dict.ofList (kept params args)).entries.findSome? (violation? w hint) =
      (Dict.ofList (kept params args)).entries.findSome? (violation? w' hint) := by
    generalize (Dict.ofList (kept params args)).entries = es at hviolation
    induction es with
    | nil => rfl
    | cons e es ih =>
      obtain ⟨he, hes⟩ := List.forall_mem_cons.mp hviolation
      simp only [List.findSome?_cons, he, ih hes]
  simp only [compute, hfind]

/-- Different lists of labels are spelled differently, also if one of them is empty. -/
theorem joinWith_decimal_inj {ls ms : List Label}
    (h : Text.joinWith "," (ls.map decimal) = Text.joinWith "," (ms.map decimal)) : ls = ms := by
  have hpiece (ls : List Label) : ∀ s ∈ ls.map decimal, s ≠ "" ∧ ',' ∉ s.toList := by
    intro s hs
    obtain ⟨n, -, rfl⟩ := List.mem_map.mp hs
    exact ⟨decimal_ne_empty n, notMem_decimal (by decide) n⟩
  have hmap : ls.map decimal = ms.map decimal := Text.joinWith_inj (hpiece ls) (hpiece ms) h
  exact List.map_injective_iff.mpr (fun _ _ ↦ decimal_inj) hmap

/-- A list of labels is spelled with digits and commas. -/
theorem notMem_joinWith_decimal {c : Char} (hc : c.isDigit = false) (hcomma : c ≠ ',')
    (ls : List Label) : c ∉ (Text.joinWith "," (ls.map decimal)).toList := by
  refine Text.notMem_joinWith (by simpa using hcomma) fun s hs ↦ ?_
  obtain ⟨n, -, rfl⟩ := List.mem_map.mp hs
  exact notMem_decimal hc n

/-- The three parts of a key: the label of the hint, those of the parameters and those of the
arguments. -/
def keyParts (hint : Hint) (params : List TypeParameter) (args : List Hint) : List String :=
  [decimal hint.label, Text.joinWith "," ((params.map (·.id)).map decimal),
    Text.joinWith "," ((args.map Hint.label).map decimal)]

/-- A key can be cut into its parts, as no bar stands in them. -/
theorem splitAt_cacheKey (hint : Hint) (params : List TypeParameter) (args : List Hint) :
    Text.splitAt '|' (cacheKey hint params args) = keyParts hint params args := by
  have hbar : ∀ s ∈ keyParts hint params args, '|' ∉ s.toList := by
    have hlist (ls : List Label) : '|' ∉ (Text.joinWith "," (ls.map decimal)).toList :=
      notMem_joinWith_decimal (by decide) (by decide) ls
    have hlabel : '|' ∉ (decimal hint.label).toList := notMem_decimal (by decide) _
    simp only [keyParts, List.forall_mem_cons]
    exact ⟨hlabel, hlist _, hlist _, nofun⟩
  have hkey : cacheKey hint params args =
      Text.joinWith (String.ofList ['|']) (keyParts hint params args) := by
    simp only [cacheKey, keyParts, List.map_map]
    rfl
  rw [hkey]
  exact Text.splitAt_joinWith (List.cons_ne_nil _ _) hbar

/-- One key is made of one list of labels: those of the hint, of the parameters and of the
arguments. -/
theorem labels_of_cacheKey_eq {h k : Hint} {ps qs : List TypeParameter} {as bs : List Hint}
    (heq : cacheKey h ps as = cacheKey k qs bs) :
    h.label = k.label ∧ ps.map (·.id) = qs.map (·.id) ∧ as.map Hint.label = bs.map Hint.label := by
  have hparts : keyParts h ps as = keyParts k qs bs := by
    rw [← splitAt_cacheKey, heq, splitAt_cacheKey]
  simp only [keyParts, List.cons.injEq, and_true] at hparts
  obtain ⟨hlabel, hparams, hargs⟩ := hparts
  exact ⟨decimal_inj hlabel, joinWith_decimal_inj hparams, joinWith_decimal_inj hargs⟩

end Substitution

/-- What labels and parameters stand for: the application that has a label, and what a parameter is
bounded by. -/
structure Book where
  hint : Label → Hint
  bound? : TypeParameter → Option Hint

/-- An application is entered in a book, and its parameters have the bounds of the book. -/
structure Book.Has (B : Book) (w : World) (label : Label) (o : Origin) (args : List Hint) :
    Prop where
  hint : B.hint label = .subscripted label o args
  bound : ∀ p ∈ o.params, w.bound? p = B.bound? p

namespace Substitution

/-- Every outcome that is kept is the one of an application in the book. -/
def Cache.Honest (cs : Classes) (B : Book) (c : Cache) : Prop :=
  ∀ k out, c.get? k = some out → ∃ (w : World) (l m : Label) (o : Origin) (args : List Hint),
    w.classes = cs ∧ B.Has w m o args ∧ k = cacheKey (.subscripted m o args) o.params args ∧
      out = outcome w l (.subscripted m o args) o.params args

/-- An engine that has kept nothing is honest. -/
theorem Cache.honest_empty (cs : Classes) (B : Book) : Cache.Honest cs B ∅ :=
  fun _ _ h ↦ by cases h

theorem outcome_entries (w : World) (l : Label) (hint : Hint) (params : List TypeParameter)
    (args : List Hint) :
    (outcome w l hint params args).result.map (·.map Table.entries) =
      compute w hint params args := by
  unfold outcome
  rcases compute w hint params args with c | - | d <;> rfl

section Honest

variable {cs : Classes} {B : Book} {c : Cache} {w : World} {m : Label} {o : Origin}
  {args : List Hint}

/-- The outcome that is kept for an application in the book is the computed one. -/
theorem Cache.Honest.result_eq (hc : c.Honest cs B) (hw : w.classes = cs) (hB : B.Has w m o args)
    {out : Outcome} (h : c.get? (cacheKey (.subscripted m o args) o.params args) = some out) :
    out.result.map (·.map Table.entries) = compute w (.subscripted m o args) o.params args := by
  obtain ⟨w', l, m', o', args', hw', hB', hk, rfl⟩ := hc _ _ h
  have hlabel : m = m' := (labels_of_cacheKey_eq hk).1
  subst hlabel
  have hhint : Hint.subscripted m o args = .subscripted m o' args' := hB.hint.symm.trans hB'.hint
  cases hhint
  rw [outcome_entries]
  exact compute_congr _ _ (hw'.trans hw.symm) fun p hp ↦ (hB'.bound p hp).trans (hB.bound p hp).symm

/-- An application in the book has its computed outcome, whatever has been kept. -/
theorem Cache.Honest.build (hc : c.Honest cs B) (hw : w.classes = cs) (hB : B.Has w m o args)
    (l : Label) :
    (build w l (.subscripted m o args) o.params args c).2.Honest cs B ∧
      (build w l (.subscripted m o args) o.params args c).1.result.map (·.map Table.entries) =
        compute w (.subscripted m o args) o.params args := by
  rcases build_cases w l (.subscripted m o args) o.params args c with ⟨out, hk, he⟩ | ⟨-, he⟩ <;>
    rw [he]
  · exact ⟨hc, hc.result_eq hw hB hk⟩
  · refine ⟨fun k out h ↦ ?_, outcome_entries w l _ _ _⟩
    rw [Dict.get?_insert] at h
    split at h
    · rename_i heq
      cases h
      exact ⟨w, l, m, o, args, hw, hB, heq.symm, rfl⟩
    · exact hc k out h

end Honest

end Substitution

/-- The bindings of an application in the book are those that a computation gives. -/
theorem Run.substitute_eq {w : World} {B : Book} {r : Run} {m : Label} {o : Origin}
    {args : List Hint} (hr : r.engine.substitutions.Honest w.classes B)
    (hB : B.Has (w.under r.store) m o args) :
    (substitute w (.subscripted m o args) o.params args r).1.map (·.map Table.entries) =
      (Substitution.compute (w.under r.store) (.subscripted m o args) o.params args).mapError
        .cause := by
  have hbuild := (hr.build (w := w.under r.store) rfl hB r.store.next).2
  rw [← hbuild, substitute_fst]
  rcases (Substitution.build (w.under r.store) r.store.next
    (.subscripted m o args) o.params args r.engine.substitutions).1.result with c | - | t <;> rfl

/-! ### What a step adds -/

/-- New representatives have `A`, new outcomes are kept as in `K`. -/
structure Run.Adds (A : Hint → Prop) (K : String → Substitution.Outcome → Prop) (r r' : Run) :
    Prop where
  kept : ∀ k h, r'.engine.interner.hints.get? k = some h →
    r.engine.interner.hints.get? k = some h ∨ A h
  known : ∀ k out, r'.engine.substitutions.get? k = some out →
    r.engine.substitutions.get? k = some out ∨ K k out

namespace Run

variable {A : Hint → Prop} {K : String → Substitution.Outcome → Prop} {ε α : Type}

instance : IsPreorder Run (Adds A K) where
  refl _ := ⟨fun _ _ ↦ .inl, fun _ _ ↦ .inl⟩
  trans _ _ _ h h' :=
    ⟨fun k v hk ↦ (h'.kept k v hk).elim (h.kept k v) .inr,
      fun k v hk ↦ (h'.known k v hk).elim (h.known k v) .inr⟩

theorem adds_of_engine_eq {r r' : Run} (hi : r'.engine.interner = r.engine.interner)
    (hs : r'.engine.substitutions = r.engine.substitutions) : Adds A K r r' := by
  constructor
  · rw [hi]
    exact fun _ _ ↦ .inl
  · rw [hs]
    exact fun _ _ ↦ .inl

theorem Quiet.adds {r r' : Run} (h : Quiet r r') : Adds A K r r' :=
  adds_of_engine_eq (by rw [h.engine]) (by rw [h.engine])

theorem adds_of_quiet {a : Attempt Run ε α} (h : Follows Quiet a) : Follows (Adds A K) a :=
  fun r ↦ (h r).adds

theorem adds_onStore (a : Attempt Store ε α) : Follows (Adds A K) (onStore a) :=
  fun _ ↦ adds_of_engine_eq rfl rfl

theorem adds_intern {h : Hint} (hA : A h) :
    Follows (Adds A K) (intern h : Attempt Run ε Hint) := by
  refine fun r ↦ ⟨fun k v hk ↦ ?_, fun _ _ ↦ .inl⟩
  have hk : (r.engine.interner.intern h).2.hints.get? k = some v := hk
  rcases Interner.intern_cases h r.engine.interner with ⟨-, he⟩ | ⟨-, _, -, he⟩ | ⟨-, -, he⟩ <;>
    rw [he] at hk
  · exact .inl hk
  · exact .inl hk
  · rw [Dict.get?_insert] at hk
    split at hk
    · cases hk
      exact .inr hA
    · exact .inl hk

theorem adds_substitute {w : World} {r : Run} {hint : Hint} {params : List TypeParameter}
    {args : List Hint} (hK : ∀ l, K (Substitution.cacheKey hint params args)
      (Substitution.outcome (w.under r.store) l hint params args)) :
    Adds A K r (substitute w hint params args r).2 := by
  refine ⟨fun _ _ ↦ .inl, fun k out hk ↦ ?_⟩
  have hk : (Substitution.build (w.under r.store) r.store.next hint params args
    r.engine.substitutions).2.get? k = some out := hk
  rcases Substitution.build_cases (w.under r.store) r.store.next hint params args
    r.engine.substitutions with ⟨_, -, he⟩ | ⟨-, he⟩ <;> rw [he] at hk
  · exact .inl hk
  · rw [Dict.get?_insert] at hk
    split at hk
    · rename_i heq
      cases hk
      exact .inr (heq ▸ hK _)
    · exact .inl hk

theorem adds_aliasValue (w : World) (a : Alias) : Follows (Adds A K) (aliasValue w a) := by
  intro r
  rcases aliasValue_cases w a r with ⟨b, -, he⟩ | ⟨-, he⟩ <;> rw [he]
  · exact adds_onStore _ r
  · exact refl_of _ r

theorem adds_onNames (scope : Scope) (a : Attempt Naming Cause α) :
    Follows (Adds A K) (onNames scope a) :=
  fun _ ↦ adds_of_engine_eq rfl rfl

/-- Reading a text makes no representatives and keeps no outcomes. -/
theorem adds_destringify (w : World) (site : Site) (text : String) :
    Follows (Adds A K) (site.destringify w text) := by
  have hscope : Follows (Adds A K) (site.forwardScope w) := fun r ↦
    adds_of_engine_eq (congrArg Engine.interner (Site.sameEngine_forwardScope r))
      (congrArg Engine.substitutions (Site.sameEngine_forwardScope r))
  refine hscope.bind fun s ↦ (adds_onNames s _).bind fun _ ↦ ?_
  exact (adds_of_quiet (quiet_log site _)).bind fun _ ↦ .pure _

end Run

namespace Visit

/-- The hints whose keys a step looks at or may intern: the hint itself, the leaves of a union and
their flat union, and what an alias is read as. -/
inductive Handles (w : World) (v : Visit) : Hint → Prop
  | self : Handles w v v.hint
  | leaf {label : Label} {hs : List Hint} {k : Hint} (union : v.hint = .union label hs)
      (leaf : k ∈ Hint.leavesAll hs) : Handles w v k
  | flat {label : Label} {hs : List Hint} (union : v.hint = .union label hs) (l : Label) :
      Handles w v (.union l (Hint.flatMembers hs))
  | value {a : Alias} {application? : Option (Label × List Hint)} {value : Hint} {n : Sane}
      {r' : Run} (form : v.hint = a.form application?)
      (expansion : expandAlias w a application? v.parent? v.run = (.ok (some (value, n)), r')) :
      Handles w v value

/-- What is no union and no alias is all that a step there handles. -/
theorem Handles.eq_hint {w : World} {v : Visit} {k : Hint} (hk : v.Handles w k)
    (hunion : v.hint.isUnion = false)
    (halias : ∀ (a : Alias) (application? : Option (Label × List Hint)),
      v.hint ≠ a.form application?) : k = v.hint := by
  cases hk with
  | self => rfl
  | leaf union _ | flat union _ =>
    rw [union] at hunion
    cases hunion
  | value form _ => exact absurd form (halias _ _)

/-- The outcomes that a step may keep: those of the application that is visited. -/
def Keeps (w : World) (v : Visit) (k : String) (out : Substitution.Outcome) : Prop :=
  ∃ (l m : Label) (o : Origin) (args : List Hint), v.hint = .subscripted m o args ∧
    k = Substitution.cacheKey v.hint o.params args ∧
      out = Substitution.outcome (w.under v.run.store) l v.hint o.params args

end Visit

section Steps

open Run

variable (w : World) (site : Site) {A : Hint → Prop} {K : String → Substitution.Outcome → Prop}

theorem quiet_settle (hint : Hint) (p? : Option Sane) (table? : Option Table) :
    Follows Quiet (settle hint p? table?) :=
  (quiet_model _ _ _).bind fun _ ↦ .pure _

theorem quiet_reduceParameter (p : TypeParameter) (p? : Option Sane) :
    Follows Quiet (reduceParameter w site p p?) := by
  refine (quiet_ancestry _ _).bind fun _ ↦ ?_
  split
  · exact (quiet_log site _).bind fun _ ↦ .pure _
  · refine (quiet_expanding _ _).bind fun _ ↦ (quiet_world w).bind fun _ ↦ ?_
    split
    · exact .pure _
    · exact .pure _
    · exact .pure _
    · exact quiet_fresh.bind fun _ ↦ .pure _

theorem adds_reduceClass (c : ClassHint) (p? : Option Sane) :
    Follows (Adds A K) (reduceClass w site c p?) := by
  unfold reduceClass
  split
  · exact adds_of_quiet (quiet_settle _ _ _)
  · refine (adds_of_quiet (quiet_ancestry _ _)).bind fun _ ↦ ?_
    split
    · exact adds_of_quiet (quiet_settle _ _ _)
    · refine (adds_of_quiet (quiet_log site _)).bind fun _ ↦ (adds_of_quiet quiet_fresh).bind fun _ ↦ ?_
      exact ((adds_destringify w site _).mapFailure _).bind fun _ ↦ .pure _

theorem adds_reduceUnion (label : Label) {hs : List Hint} (p? : Option Sane)
    (hA : ∀ l, A (.union l (Hint.flatMembers hs))) :
    Follows (Adds A K) (reduceUnion label hs p?) := by
  unfold reduceUnion
  split
  · exact .pure _
  · split
    · exact .fail _
    · exact .pure _
    · refine Follows.bind ?_ fun _ ↦ adds_of_quiet (quiet_settle _ _ _)
      unfold canonicalUnion
      split
      · exact .pure _
      · exact (adds_of_quiet quiet_fresh).bind fun l ↦ adds_intern (hA l)

/-- An application of a template handles nothing but itself, and keeps its own outcome. -/
theorem adds_reduceTemplate (label : Label) (t : Template) (args : List Hint) (p? : Option Sane)
    (r : Run) : Adds A (Visit.Keeps w ⟨.subscripted label (.template t) args, p?, r⟩) r
      (reduceTemplate w site label t args p? r).2 := by
  refine Follows.bind_at (adds_substitute fun l ↦ ⟨l, label, .template t, args, rfl, rfl, rfl⟩)
    fun table? r' _ ↦ ?_
  cases table? with
  | none => exact adds_of_quiet (quiet_settle _ _ _) r'
  | some _ =>
    exact ((adds_of_quiet (quiet_log site _)).bind fun _ ↦ adds_of_quiet (quiet_settle _ _ _)) r'

theorem adds_aliasTable {w : World} (a : Alias) (application? : Option (Label × List Hint))
    {p? : Option Sane} {r r' : Run} (hr : w.under r'.store = w.under r.store) :
    Adds A (Visit.Keeps w ⟨a.form application?, p?, r⟩) r' (aliasTable w a application? r').2 := by
  rcases application? with - | ⟨label, args⟩
  · exact refl_of _ r'
  · refine adds_substitute fun l ↦ ⟨l, label, .alias a, args, rfl, rfl, ?_⟩
    rw [hr]
    rfl

theorem adds_expandAlias (a : Alias) (application? : Option (Label × List Hint)) (p? : Option Sane)
    (r : Run) (hA : A (a.form application?)) :
    Adds A (Visit.Keeps w ⟨a.form application?, p?, r⟩) r
      (expandAlias w a application? p? r).2 := by
  refine Follows.bind_at (adds_of_quiet (quiet_ancestry _ _) r) fun anc r₁ hanc ↦ ?_
  have hworld : w.under r₁.store = w.under r.store :=
    ((quiet_ancestry _ _).of_run hanc).under w
  have hguard : Follows (Adds A (Visit.Keeps w ⟨a.form application?, p?, r⟩))
      (guardKey a application?) := by
    rcases application? with - | ⟨label, args⟩
    · exact .pure _
    · exact adds_intern hA
  refine Follows.bind_at (hguard r₁) fun key r₂ hkey ↦ ?_
  have hstore : r₂.store = r₁.store := by
    rcases application? with - | ⟨label, args⟩ <;> cases hkey <;> rfl
  split
  · exact refl_of _ r₂
  · refine Follows.bind_at (adds_aliasTable a application? (by rw [hstore, hworld])) fun _ r₃ _ ↦ ?_
    exact ((adds_of_quiet (quiet_model _ _ _)).bind fun _ ↦
      (adds_of_quiet (quiet_expanding _ _)).bind fun _ ↦
        (adds_aliasValue w a).bind fun _ ↦ .pure _) r₃

/-- Only hints that a step handles become representatives, and only the outcome of the application
that is visited is kept. -/
theorem Visit.adds_reduceStep (v : Visit) :
    Adds (v.Handles w) (v.Keeps w) v.run (reduceStep w site v.hint v.parent? v.run).2 := by
  obtain ⟨hint, p?, r⟩ := v
  have hquiet {a : Attempt Run Failure Stage} (ha : Follows Quiet a) :
      Adds (Handles w ⟨hint, p?, r⟩) (Keeps w ⟨hint, p?, r⟩) r (a r).2 := adds_of_quiet ha r
  have halias (a : Alias) (application? : Option (Label × List Hint))
      (hform : hint = a.form application?) : Adds (Handles w ⟨hint, p?, r⟩) (Keeps w ⟨hint, p?, r⟩) r
        (reduceAlias w site a application? p? r).2 := by
    subst hform
    refine Follows.bind_at (adds_expandAlias w a application? p? r .self) fun o r₁ ho ↦ ?_
    cases o with
    | none => exact ((adds_of_quiet (quiet_log site _)).bind fun _ ↦ .pure _) r₁
    | some e => exact ((adds_intern (.value rfl ho)).bind fun _ ↦ .pure _) r₁
  simp only [reduceStep]
  split
  · exact hquiet (.pure _)
  · exact adds_reduceClass w site _ p? r
  · exact adds_reduceUnion _ p? (fun l ↦ .flat rfl l) r
  · exact hquiet (quiet_reduceParameter w site _ p?)
  · exact adds_reduceTemplate w site _ _ _ p? r
  · rename_i label a args
    exact halias a (some (label, args)) rfl
  · rename_i a
    exact halias a none rfl
  · exact (((adds_destringify w site _).mapFailure _).bind fun _ ↦ .pure _) r
  all_goals exact hquiet (quiet_settle _ p? none)

end Steps

/-! ### Guards that are settled -/

/-- Every hint in a guard that is of an interned kind is the representative of its key. -/
def Guard.Settled (i : Interner) (g : Guard) : Prop :=
  ∀ h ∈ g.hints, Interner.isInternable h = true → i.hints.get? h.stableKey = some h

namespace Guard

/-- What is left of a guard was in it. -/
theorem mem_of_mem_withoutRebound {l : Label} {g : Guard} {table? : Option Table} {h : Hint}
    (hh : h ∈ (g.withoutRebound l table?).hints) : h ∈ g.hints := by
  cases table? with
  | none => exact hh
  | some t =>
    unfold withoutRebound at hh
    dsimp only at hh
    split at hh
    · exact (List.mem_filter.mp hh).1
    · exact hh

namespace Settled

variable {i : Interner} {g : Guard}

theorem empty (i : Interner) : Guard.empty.Settled i := fun _ h ↦ by cases h

theorem mono {i' : Interner} (h : g.Settled i) (hi : i.hints.Within i'.hints) : g.Settled i' :=
  fun k hk hkind ↦ hi _ _ (h k hk hkind)

/-- A guard stays settled when parameters leave it. -/
theorem withoutRebound (h : g.Settled i) (l : Label) (table? : Option Table) :
    (g.withoutRebound l table?).Settled i :=
  fun k hk ↦ h k (mem_of_mem_withoutRebound hk)

theorem add (h : g.Settled i) (l : Label) {k : Hint}
    (hk : Interner.isInternable k = true → i.hints.get? k.stableKey = some k) :
    (g.add l k).Settled i := by
  intro m hm
  rcases mem_add.mp hm with hm | rfl
  · exact h m hm
  · exact hk

end Settled

end Guard

/-- The key of an alias is its own representative, once it has been interned. -/
theorem Alias.key_settled {i : Interner} (hs : i.Sound) (a : Alias)
    (application? : Option (Label × List Hint)) :
    Interner.isInternable (a.key i application?) = true →
      (i.intern (a.form application?)).2.hints.get? (a.key i application?).stableKey =
        some (a.key i application?) := by
  rcases application? with - | ⟨label, args⟩
  · intro h
    cases h
  · intro _
    have hget := Interner.intern_get? (h := .subscripted label (.alias a) args) i rfl
    rw [key, hs.stableKey_intern]
    exact hget

/-- Interning the key of an alias is interning its form; an alias itself is not interned. -/
theorem interner_guardKey {a : Alias} {application? : Option (Label × List Hint)} {k : Hint}
    {r r' : Run} (h : guardKey a application? r = (.ok k, r')) :
    r'.engine.interner = (r.engine.interner.intern (a.form application?)).2 := by
  rcases application? with - | ⟨label, args⟩ <;> cases h <;> rfl

section Settled

variable {w : World} {site : Site} {hint h : Hint} {p? q? : Option Sane} {s : Sane} {r r' : Run}

/-- A step goes on below a guard that is settled again. -/
theorem Guard.Settled.goOn (hg : (Sane.guardOf p?).Settled r.engine.interner)
    (hs : r.engine.interner.Sound) (hstep : reduceStep w site hint p? r = (.ok (.goOn h q?), r')) :
    (Sane.guardOf q?).Settled r'.engine.interner := by
  have hi := ((grows_reduceStep w site hint p?).of_run hstep).interner
  have hadvance : Advance w site r hint p? (.goOn h q?) r' := .of_reduceStep hstep
  cases hadvance with
  | overridden _ _ _ _ _ hguard _ =>
    rw [Sane.guardOf_some, hguard]
    exact hg.mono hi
  | member _ => exact hg
  | parameter l _ _ _ _ hguard _ =>
    rw [Sane.guardOf_some, hguard]
    exact (hg.mono hi).add l nofun
  | @expanded a application? _ value _ n r₁ _ expansion interned =>
    cases expansion with
    | @expanded _ _ _ r₁ r₂ r₃ r₄ _ l l' hq keyed _ substituted hq' read _ hguard _ =>
      rw [Sane.guardOf_some, hguard]
      refine ((hg.mono hi).withoutRebound l _).add l' fun hkind ↦ ?_
      have hkey := Alias.key_settled hs a application? hkind
      rw [← hq.engine, ← interner_guardKey keyed, hq.engine] at hkey
      -- the representative of the key stays while the alias is read
      have hgrows : Run.Grows r₂ r' := by
        refine trans_of _ ?_ <| trans_of _ hq'.grows <| trans_of _
          ((grows_aliasValue w a).of_run read) ((Run.grows_intern value).of_run interned)
        rcases application? with - | ⟨label, args⟩
        · cases substituted
          exact refl_of _ r₂
        · exact (Run.grows_substitute w _ _ _).of_run substituted
      exact hgrows.interner _ _ hkey
  | read _ => exact hg.mono hi

/-- A step ends in a model with a settled guard. -/
theorem Guard.Settled.done (hg : (Sane.guardOf p?).Settled r.engine.interner)
    (hstep : reduceStep w site hint p? r = (.ok (.done s), r')) :
    s.guard.Settled r'.engine.interner := by
  have hi := ((grows_reduceStep w site hint p?).of_run hstep).interner
  have hadvance : Advance w site r hint p? (.done s) r' := .of_reduceStep hstep
  cases hadvance with
  | ignored => exact .empty _
  | settled l _ => exact (hg.mono hi).withoutRebound l none
  | applied l _ _ => exact (hg.mono hi).withoutRebound l _

end Settled

/-! ### Visits that the engine is fit for -/

/-- Every representative has `M`. -/
def Run.Holds (M : Hint → Prop) (r : Run) : Prop :=
  ∀ k h, r.engine.interner.hints.get? k = some h → M h

namespace Visit

/-- The application that is visited, if there is one, is entered in a book. -/
def Booked (w : World) (B : Book) (v : Visit) : Prop :=
  ∀ m o args, v.hint = .subscripted m o args → B.Has (w.under v.run.store) m o args

/-- What holds of the engine wherever calls lead: representatives stand under their own keys,
outcomes are those of the book, and the guard is settled. -/
structure Fit (w : World) (B : Book) (v : Visit) : Prop where
  sound : v.run.engine.interner.Sound
  honest : v.run.engine.substitutions.Honest w.classes B
  settled : (Sane.guardOf v.parent?).Settled v.run.engine.interner

end Visit

section Visits

variable {w : World} {site : Site} {B : Book} {M : Hint → Prop} {v v' : Visit}

/-- Outcomes that a step adds are those of the book. -/
theorem Run.Adds.honest {A : Hint → Prop} {r' : Run} (h : Run.Adds A (v.Keeps w) v.run r')
    (hv : v.Booked w B) (hc : v.run.engine.substitutions.Honest w.classes B) :
    r'.engine.substitutions.Honest w.classes B := by
  intro k out hk
  rcases h.known k out hk with hk | ⟨l, m, o, args, hhint, rfl, rfl⟩
  · exact hc k out hk
  · have hB := hv m o args hhint
    rw [hhint]
    exact ⟨w.under v.run.store, l, m, o, args, rfl, hB, rfl, rfl⟩

/-- Representatives that a step adds are hints that it handles. -/
theorem Run.Adds.holds {K : String → Substitution.Outcome → Prop} {r' : Run}
    (h : Run.Adds (v.Handles w) K v.run r') (hM : ∀ k, v.Handles w k → M k) (hr : v.run.Holds M) :
    r'.Holds M :=
  fun k m hk ↦ (h.kept k m hk).elim (hr k m) (hM m)

/-- A step leads from a visit that the engine is fit for to another one. -/
theorem Visit.Fit.step (hv : v.Fit w B) (hB : v.Booked w B) (hnext : v.Next w site v') :
    v'.Fit w B := by
  have hgrows : v.run.Grows v'.run := (grows_reduceStep w site v.hint v.parent?).of_run hnext
  have hadds := v.adds_reduceStep w site
  rw [hnext] at hadds
  exact ⟨hgrows.sound hv.sound, hadds.honest hB hv.honest, hv.settled.goOn hv.sound hnext⟩

end Visits

section Runs

variable {w : World} {site : Site} {B : Book}

/-- Reduction leaves an engine that is fit for more, and a model with a settled guard. -/
theorem fit_reduce (depth : Nat) : ∀ {hint : Hint} {p? : Option Sane} {r : Run},
    Visit.Fit w B ⟨hint, p?, r⟩ → (∀ v ∈ visits w site depth hint p? r, v.Booked w B) →
    (reduce w site depth hint p? r).2.engine.substitutions.Honest w.classes B ∧
      ∀ s r', reduce w site depth hint p? r = (.ok s, r') → s.guard.Settled r'.engine.interner := by
  induction depth with
  | zero => exact fun hv _ ↦ ⟨hv.honest, fun _ _ h ↦ by cases h⟩
  | succ depth ih =>
    intro hint p? r hv hbooked
    have hadds := Visit.adds_reduceStep w site ⟨hint, p?, r⟩
    rcases hstep : reduceStep w site hint p? r with ⟨f | (s | ⟨h, q?⟩), r₁⟩ <;>
      simp only [hstep] at hadds
    · rw [reduce_succ_error hstep]
      rw [visits_succ_error hstep] at hbooked
      exact ⟨hadds.honest (hbooked _ List.mem_cons_self) hv.honest, fun _ _ h ↦ by cases h⟩
    · rw [reduce_succ_done hstep]
      rw [visits_succ_done hstep] at hbooked
      refine ⟨hadds.honest (hbooked _ List.mem_cons_self) hv.honest, fun _ _ h ↦ ?_⟩
      cases h
      exact hv.settled.done hstep
    · rw [reduce_succ_goOn hstep]
      rw [visits_succ_goOn hstep, List.forall_mem_cons] at hbooked
      have hnext : Visit.Next w site ⟨hint, p?, r⟩ ⟨h, q?, r₁⟩ := hstep
      exact ih (hv.step hbooked.1 hnext) hbooked.2

/-- Reduction leaves representatives that it has handled, beside those that were there. -/
theorem holds_reduce {M : Hint → Prop} (depth : Nat) : ∀ {hint : Hint} {p? : Option Sane} {r : Run},
    r.Holds M → (∀ v ∈ visits w site depth hint p? r, ∀ k, v.Handles w k → M k) →
    (reduce w site depth hint p? r).2.Holds M := by
  induction depth with
  | zero => exact fun hr _ ↦ hr
  | succ depth ih =>
    intro hint p? r hr hM
    have hadds := Visit.adds_reduceStep w site ⟨hint, p?, r⟩
    rcases hstep : reduceStep w site hint p? r with ⟨f | (s | ⟨h, q?⟩), r₁⟩ <;>
      simp only [hstep] at hadds
    · rw [reduce_succ_error hstep]
      rw [visits_succ_error hstep] at hM
      exact hadds.holds (hM _ List.mem_cons_self) hr
    · rw [reduce_succ_done hstep]
      rw [visits_succ_done hstep] at hM
      exact hadds.holds (hM _ List.mem_cons_self) hr
    · rw [reduce_succ_goOn hstep]
      rw [visits_succ_goOn hstep, List.forall_mem_cons] at hM
      exact ih (hadds.holds hM.1 hr) hM.2

end Runs

end TypeHints
