import TypeHints.Proofs.Growth

/-!
# What the recursion guard drops

An alias that comes up while it is being expanded is ignored. The guard that decides this is handed
from a model to its children, so the question is about whole chains of calls: a hint reduced as a
root, then children reduced one below the other (`Chain`).

Along a chain the guard holds, beside parameters, just the keys of the aliases expanded so far
(`Guarded`): parameters come and go, a key never leaves. So an alias is dropped exactly when its key
has come up before on the chain (`never_dropped_iff_nodup`), whatever the arguments in the key mean
at the two places. That is the whole condition: a chain may spell the same application twice with
other bindings in force, and then the guard drops an alias that is not recursive
(`dropped_in_inner_twin`).

`Guarded` is the invariant, and it is kept in two ways:

* within one reduction, by induction on the depth (`dropsRepeats_visits`): each step that goes on
  adds the key of its visit and nothing else that counts;
* from one call to the next, by induction on the chain (`Chain.spec`): the model of a result hands
  on the guard that its last step had.

While there is something to check no key has come up twice, so the invariant can speak of a list of
keys without repeats. A visit that is dropped ends its reduction in the ignorable model, and so ends
the chain.
-/

namespace TypeHints

open Attempt

/-! ### Keys of visits -/

theorem Alias.isParameter_key {i : Interner} (hs : i.Sound) (a : Alias)
    (application? : Option (Label × List Hint)) :
    (a.key i application?).isParameter = false := by
  cases application? with
  | none => rfl
  | some app =>
    have h := hs.isInternable_intern (.subscripted app.1 (.alias a) app.2)
    rw [key]
    cases hk : (i.intern (.subscripted app.1 (.alias a) app.2)).1 <;> rw [hk] at h <;>
      first
        | rfl
        | cases h

namespace Visit

/-- The key of a visited alias; other hints have none. -/
def key? (v : Visit) : Option Hint :=
  match v.hint with
  | .alias a => some (a.key v.run.engine.interner none)
  | .subscripted label (.alias a) args => some (a.key v.run.engine.interner (some (label, args)))
  | _ => none

/-- A visited alias is dropped: expanding it comes to nothing. -/
def Dropped (w : World) (v : Visit) : Prop :=
  ∃ a application?, v.hint = a.form application? ∧
    (expandAlias w a application? v.parent? v.run).1 = .ok none

/-- The key of a visited alias is that of its form. -/
theorem key?_form (a : Alias) (application? : Option (Label × List Hint)) (p? : Option Sane)
    (r : Run) : key? ⟨a.form application?, p?, r⟩ = some (a.key r.engine.interner application?) := by
  rcases application? with - | ⟨label, args⟩ <;> rfl

theorem form_of_key? {v : Visit} {k : Hint} (h : v.key? = some k) :
    ∃ (a : Alias) (application? : Option (Label × List Hint)), v.hint = a.form application? := by
  unfold key? at h
  split at h
  · rename_i a heq
    exact ⟨a, none, heq⟩
  · rename_i label a args heq
    exact ⟨a, some (label, args), heq⟩
  · cases h

end Visit

/-- A visited alias is dropped exactly when its key is in the guard that its parent hands on. -/
theorem Visit.dropped_iff {w : World} {v : Visit} :
    v.Dropped w ↔ ∃ k, v.key? = some k ∧ k ∈ (Sane.guardOf v.parent?).hints := by
  obtain ⟨hint, p?, r⟩ := v
  constructor
  · rintro ⟨a, application?, rfl, he⟩
    refine ⟨_, key?_form a application? p? r, ?_⟩
    rcases expandAlias_inv (Prod.ext he rfl) with ⟨-, -, hfound⟩ | -
    exact hfound
  · rintro ⟨k, hk, hfound⟩
    obtain ⟨a, application?, heq⟩ := form_of_key? hk
    obtain rfl : hint = a.form application? := heq
    rw [key?_form] at hk
    cases hk
    exact ⟨a, application?, rfl, expandAlias_of_guarded a application? hfound⟩

/-! ### The guard along a chain -/

/-- Beside parameters, a parent hands on a guard of just these keys. -/
def Guarded (keys : List Hint) (p? : Option Sane) : Prop :=
  ∀ k : Hint, k.isParameter = false → (k ∈ (Sane.guardOf p?).hints ↔ k ∈ keys)

/-- No parent, no keys. -/
theorem guarded_none : Guarded [] none := fun _ _ ↦ Iff.rfl

namespace Guarded

variable {keys : List Hint} {p? : Option Sane} {n : Sane}

theorem congr (h : Guarded keys p?) (hg : n.guard.hints = (Sane.guardOf p?).hints) :
    Guarded keys (some n) := by
  intro k hk
  rw [Sane.guardOf_some, hg]
  exact h k hk

/-- A new parameter in the guard does not matter. -/
theorem parameter (h : Guarded keys p?) {l : Label} {p : TypeParameter}
    (hg : n.guard = (Sane.guardOf p?).add l (.parameter p)) : Guarded keys (some n) := by
  intro k hk
  have hne : k ≠ .parameter p := by
    rintro rfl
    cases hk
  rw [Sane.guardOf_some, hg, Guard.mem_add, h k hk]
  exact or_iff_left hne

/-- An expanded alias adds its key to the guard. -/
theorem expanded (h : Guarded keys p?) {l l' : Label} {table? : Option Table} {key : Hint}
    (hg : n.guard = ((Sane.guardOf p?).withoutRebound l table?).add l' key) :
    Guarded (keys ++ [key]) (some n) := by
  intro k hk
  rw [Sane.guardOf_some, hg, Guard.mem_add, Guard.mem_withoutRebound hk, h k hk]
  simp

/-- The model of a result hands on what its parent did. -/
theorem create (h : Guarded keys p?) (l : Label) (result : Hint) (table? : Option Table) :
    Guarded keys (some (.create l result p? table?)) := by
  intro k hk
  exact (Guard.mem_withoutRebound hk).trans (h k hk)

end Guarded

/-! ### One step -/

section Step

variable {w : World} {site : Site} {hint h : Hint} {p? q? : Option Sane} {s : Sane} {r r' : Run}
  {keys : List Hint}

/-- A step that goes on adds the key of its visit, which is a new one, to the guard. -/
theorem Guarded.goOn (hg : Guarded keys p?) (hs : r.engine.interner.Sound)
    (hstep : Advance w site r hint p? (.goOn h q?) r') :
    Guarded (keys ++ (Visit.key? ⟨hint, p?, r⟩).toList) q? ∧
      ∀ k, Visit.key? ⟨hint, p?, r⟩ = some k → k ∉ keys := by
  cases hstep with
  | overridden _ _ _ _ _ hguard _ =>
    refine ⟨?_, fun k hk ↦ by cases hk⟩
    simpa [Visit.key?] using hg.congr (congrArg Guard.hints hguard)
  | member _ => exact ⟨by simpa [Visit.key?] using hg, fun k hk ↦ by cases hk⟩
  | parameter l _ _ _ _ hguard _ =>
    exact ⟨by simpa [Visit.key?] using hg.parameter hguard, fun k hk ↦ by cases hk⟩
  | @expanded a application? _ _ _ _ _ _ expansion _ =>
    cases expansion with
    | expanded l l' _ _ hfresh _ _ _ _ hguard _ =>
      rw [Visit.key?_form]
      refine ⟨hg.expanded hguard, fun k hk ↦ ?_⟩
      cases hk
      exact fun hmem ↦ hfresh ((hg _ (a.isParameter_key hs application?)).mpr hmem)
  | read _ => exact ⟨by simpa [Visit.key?] using hg, fun k hk ↦ by cases hk⟩

/-- A step that ends in something to check is none from an alias, and its model hands on the guard of
the parent. -/
theorem Guarded.done (hg : Guarded keys p?) (hstep : Advance w site r hint p? (.done s) r')
    (hs : s ≠ .ignorable) : Visit.key? ⟨hint, p?, r⟩ = none ∧ Guarded keys (some s) := by
  cases hstep with
  | ignored => exact absurd rfl hs
  | settled l noAlias =>
    refine ⟨?_, hg.create l _ none⟩
    cases hk : Visit.key? ⟨hint, p?, r⟩ with
    | none => rfl
    | some k =>
      obtain ⟨a, application?, heq⟩ := Visit.form_of_key? hk
      exact absurd heq (noAlias a application?)
  | applied l _ _ => exact ⟨rfl, hg.create l _ _⟩

/-- A visit is dropped exactly when its key has come up before. -/
theorem Guarded.dropped_iff (w : World) (hint : Hint) (hg : Guarded keys p?)
    (hs : r.engine.interner.Sound) :
    Visit.Dropped w ⟨hint, p?, r⟩ ↔ ∃ k, Visit.key? ⟨hint, p?, r⟩ = some k ∧ k ∈ keys := by
  refine Visit.dropped_iff.trans (exists_congr fun k ↦ and_congr_right fun hk ↦ hg k ?_)
  obtain ⟨a, application?, heq⟩ := Visit.form_of_key? hk
  obtain rfl : hint = a.form application? := heq
  rw [Visit.key?_form] at hk
  cases hk
  exact a.isParameter_key hs application?

theorem Guarded.not_dropped_iff_nodup (w : World) (hint : Hint) (hg : Guarded keys p?)
    (hs : r.engine.interner.Sound) (hnodup : keys.Nodup) :
    ¬ Visit.Dropped w ⟨hint, p?, r⟩ ↔ (keys ++ (Visit.key? ⟨hint, p?, r⟩).toList).Nodup := by
  rw [hg.dropped_iff w hint hs]
  cases Visit.key? ⟨hint, p?, r⟩ with
  | none => simpa using hnodup
  | some k =>
    have hnew : (∀ a ∈ keys, a ≠ k) ↔ k ∉ keys :=
      ⟨fun h hk ↦ h k hk rfl, fun h a ha heq ↦ h (heq ▸ ha)⟩
    simpa [List.nodup_append, hnodup] using hnew.symm

end Step

/-! ### Runs of steps -/

/-- The keys of the aliases among visits, in order. -/
def keysOf (vs : List Visit) : List Hint := vs.filterMap Visit.key?

theorem keysOf_cons (v : Visit) (vs : List Visit) :
    keysOf (v :: vs) = v.key?.toList ++ keysOf vs := by
  unfold keysOf
  cases h : v.key? with
  | none => rw [List.filterMap_cons_none h]; rfl
  | some k => rw [List.filterMap_cons_some h]; rfl

theorem keysOf_singleton (v : Visit) : keysOf [v] = v.key?.toList := by
  rw [keysOf_cons]
  exact List.append_nil _

/-- Keys are collected visit by visit. -/
theorem keysOf_append (vs us : List Visit) : keysOf (vs ++ us) = keysOf vs ++ keysOf us :=
  List.filterMap_append ..

/-- Visits of which just the given keys have come up before: none of them is dropped exactly when no
key comes up twice. -/
def DropsRepeats (w : World) (keys : List Hint) (vs : List Visit) : Prop :=
  (∀ v ∈ vs, ¬ v.Dropped w) ↔ (keys ++ keysOf vs).Nodup

section Run

variable (w : World) (site : Site)

theorem dropsRepeats_visits (depth : Nat) : ∀ (hint : Hint) {p? : Option Sane} {r : Run}
    {keys : List Hint}, Guarded keys p? → keys.Nodup → r.engine.interner.Sound →
    DropsRepeats w keys (visits w site depth hint p? r) ∧
      ∀ s r', reduce w site depth hint p? r = (.ok s, r') → s ≠ .ignorable →
        (keys ++ keysOf (visits w site depth hint p? r)).Nodup ∧
          Guarded (keys ++ keysOf (visits w site depth hint p? r)) (some s) := by
  induction depth with
  | zero =>
    intro hint p? r keys hg hnodup hs
    refine ⟨by simpa [DropsRepeats, visits, keysOf] using hnodup, fun s r' h ↦ ?_⟩
    cases h
  | succ depth ih =>
    intro hint p? r keys hg hnodup hs
    have hfirst := hg.not_dropped_iff_nodup w hint hs hnodup
    rcases hstep : reduceStep w site hint p? r with ⟨f | (s | ⟨h, q?⟩), r₁⟩
    · refine ⟨?_, fun s r' h ↦ ?_⟩
      · rw [visits_succ_error hstep]
        simpa [DropsRepeats, keysOf_singleton] using hfirst
      · rw [reduce_succ_error hstep] at h
        cases h
    · refine ⟨?_, fun s' r' h hne ↦ ?_⟩
      · rw [visits_succ_done hstep]
        simpa [DropsRepeats, keysOf_singleton] using hfirst
      · rw [reduce_succ_done hstep] at h
        cases h
        rw [visits_succ_done hstep, keysOf_singleton]
        obtain ⟨hkey, hg'⟩ := hg.done (.of_reduceStep hstep) hne
        simp only [hkey, Option.toList_none, List.append_nil]
        exact ⟨hnodup, hg'⟩
    -- the key of this visit joins the keys, so that the rest is below one more of them
    · obtain ⟨hg', hnew⟩ := hg.goOn hs (.of_reduceStep hstep)
      have hnodup' : (keys ++ (Visit.key? ⟨hint, p?, r⟩).toList).Nodup := by
        rw [← hfirst, hg.dropped_iff w hint hs]
        rintro ⟨k, hk, hmem⟩
        exact hnew k hk hmem
      have hs' := ((grows_reduceStep w site hint p?).of_run hstep).sound hs
      obtain ⟨hdrops, hlast⟩ := ih h hg' hnodup' hs'
      refine ⟨?_, fun s r' h hne ↦ ?_⟩
      · rw [visits_succ_goOn hstep, DropsRepeats, keysOf_cons, ← List.append_assoc]
        rw [List.forall_mem_cons, and_iff_right (hfirst.mpr hnodup')]
        exact hdrops
      · rw [reduce_succ_goOn hstep] at h
        rw [visits_succ_goOn hstep, keysOf_cons, ← List.append_assoc]
        exact hlast s r' h hne

end Run

/-! ### Chains of calls -/

/-- The visits of sanitizing a child. -/
def childVisits (w : World) (site : Site) (depth : Nat) (parent : Sane) (hint : Hint) (r : Run) :
    List Visit :=
  visits w site depth (r.engine.interner.intern hint).1 (some parent)
    ((Run.intern hint : Attempt Run Failure Hint) r).2

/-- Calls one below the other in a fresh engine: a raw hint is sanitized as a root, then any hints as
children, each below the model that the call before it gave, until a call fails or leaves nothing to
check. A chain has its visits, first to last, the outcome of its last call and the state after it. -/
inductive Chain (w : World) (site : Site) : List Visit → Except Report Sane → Run → Prop
  | root (depth : Nat) (raw : Value) (label : String) (s : Store) (log : List String) {hint : Hint}
      {r₁ r' : Run} {out : Except Report Sane}
      (coerced : Run.coerceRoot w raw ⟨s, .fresh, none, log⟩ = (.ok hint, r₁))
      (result : sanitizeRoot w site depth raw label ⟨s, .fresh, none, log⟩ = (out, r')) :
      Chain w site (visits w site depth hint none r₁) out r'
  | child (depth : Nat) (hint : Hint) (label : String) {vs : List Visit} {parent : Sane}
      {r r' : Run} {out : Except Report Sane} (chain : Chain w site vs (.ok parent) r)
      (checked : parent.isIgnorable = false)
      (result : sanitizeChild w site depth parent hint label r = (out, r')) :
      Chain w site (vs ++ childVisits w site depth parent hint r) out r'

namespace Chain

variable {w : World} {site : Site}

/-- A model that is to be checked is another one than the ignorable one. -/
theorem ne_ignorable {s : Sane} (h : s.isIgnorable = false) : s ≠ .ignorable := by
  rintro rfl
  cases h

/-- Along a chain the guard holds just the keys that have come up, and none of them twice while
there is something to check. -/
theorem spec {vs : List Visit} {out : Except Report Sane} {r : Run} (h : Chain w site vs out r) :
    r.engine.interner.Sound ∧ DropsRepeats w [] vs ∧
      ∀ s, out = .ok s → s.isIgnorable = false →
        (keysOf vs).Nodup ∧ Guarded (keysOf vs) (some s) := by
  induction h with
  | @root depth raw _ _ _ hint r₁ r' out coerced result =>
    have hs : r₁.engine.interner.Sound :=
      ((Run.grows_coerceRoot w raw).of_run coerced).sound Interner.sound_empty
    obtain ⟨hdrops, hlast⟩ :=
      dropsRepeats_visits w site depth hint guarded_none .nil hs
    rw [sanitizeRoot_eq coerced] at result
    refine ⟨?_, hdrops, fun m hm hne ↦ ?_⟩
    · exact (((grows_reduce w site depth hint none).mapFailure _).of_run result).sound hs
    · subst hm
      exact hlast m r' (mapFailure_eq_ok_iff.mp result) (ne_ignorable hne)
  | @child depth hint _ vs parent r r' out _ checked result ih =>
    obtain ⟨hs, hdrops, hlast⟩ := ih
    obtain ⟨hnodup, hg⟩ := hlast _ rfl checked
    have hs' : ((Run.intern hint : Attempt Run Failure Hint) r).2.engine.interner.Sound :=
      hs.intern hint
    obtain ⟨hdrops', hlast'⟩ := dropsRepeats_visits w site depth
      (r.engine.interner.intern hint).1 hg hnodup hs'
    rw [sanitizeChild_eq] at result
    refine ⟨?_, ?_, fun m hm hne ↦ ?_⟩
    · exact (((grows_reduce w site depth _ _).mapFailure _).of_run result).sound hs'
    · rw [DropsRepeats, List.forall_mem_append, keysOf_append,
        and_iff_right (hdrops.mpr hnodup)]
      exact hdrops'
    · subst hm
      rw [keysOf_append]
      exact hlast' m r' (mapFailure_eq_ok_iff.mp result) (ne_ignorable hne)

end Chain

/-- Along a chain no alias is dropped exactly when no key of an alias comes up twice. -/
theorem never_dropped_iff_nodup {w : World} {site : Site} {vs : List Visit}
    {out : Except Report Sane} {r : Run} (h : Chain w site vs out r) :
    (∀ v ∈ vs, ¬ v.Dropped w) ↔ (keysOf vs).Nodup :=
  h.spec.2.1

/-! ### An application that comes up twice

`Pair<P>` stands for `[P, P]` and `Twin<Q>` for `Pair<Q>`, so neither refers to itself. Below
`Twin<Twin<number>>` the key `Pair<Q>` comes up for both uses of `Twin`, once with `Q` bound to
`Twin<number>` and once to `number`.
-/

mutual

/-- The aliases in a hint. -/
def Hint.aliases : Hint → List Alias
  | .alias a => [a]
  | .union _ hs => aliasesAll hs
  | .tuple _ hs => aliasesAll hs
  | .subscripted _ (.alias a) hs => a :: aliasesAll hs
  | .subscripted _ _ hs => aliasesAll hs
  | _ => []

/-- The aliases in hints. -/
def Hint.aliasesAll : List Hint → List Alias
  | [] => []
  | h :: hs => Hint.aliases h ++ Hint.aliasesAll hs

end

mutual

/-- The aliases in what a recipe builds. -/
def HintRecipe.aliases : HintRecipe → List Alias
  | .existing h => h.aliases
  | .union rs => aliasesAll rs
  | .tuple rs => aliasesAll rs
  | .subscripted (.alias a) rs => a :: aliasesAll rs
  | .subscripted _ rs => aliasesAll rs
  | _ => []

/-- The aliases in what recipes build. -/
def HintRecipe.aliasesAll : List HintRecipe → List Alias
  | [] => []
  | r :: rs => HintRecipe.aliases r ++ HintRecipe.aliasesAll rs

end

/-- Every alias is defined by a hint in which only aliases of a lower rank occur. -/
def World.Acyclic (w : World) : Prop :=
  ∃ rank : Label → Nat, ∀ e ∈ w.aliases.entries, ∃ recipe, e.2 = .value (.hint recipe) ∧
    ∀ b ∈ recipe.aliases, rank b.id < rank e.1

namespace Renested

/-- The parameter of `Pair`. -/
def inner : TypeParameter := ⟨50, "P", false⟩

/-- The parameter of `Twin`. -/
def outer : TypeParameter := ⟨51, "Q", false⟩

/-- The alias `Pair<P>`. -/
def pair : Alias := ⟨52, "Pair", [inner]⟩

/-- The alias `Twin<Q>`. -/
def twin : Alias := ⟨53, "Twin", [outer]⟩

/-- What `Pair` stands for. -/
def pairBody : HintRecipe := .tuple [.existing (.parameter inner), .existing (.parameter inner)]

/-- What `Twin` stands for. -/
def twinBody : HintRecipe := .subscripted (.alias pair) [.existing (.parameter outer)]

/-- The two aliases beside the builtin namespace. -/
def world : World where
  classes := Builtin.classes
  params := ∅
  aliases := ⟨[(pair.id, .value (.hint pairBody)), (twin.id, .value (.hint twinBody))]⟩

/-- A place without settings and names of its own. -/
def site : Site := ⟨⟨false, ∅, defaultScopeName⟩, defaultScopeName, [], [], none⟩

/-- The hint `Twin<Twin<number>>`. -/
def hint : Hint :=
  .subscripted 55 (.alias twin) [.subscripted 54 (.alias twin) [.primitive .number]]

/-- A run in which nothing has been sanitized yet. -/
def start : Run := ⟨{ Store.initial with next := 56 }, .fresh, none, []⟩

/-- The hint as a root. -/
@[irreducible]
def coerced : Except Failure Hint × Run := Run.coerceRoot world (.hint hint) start

/-- The hint sanitized as a root. -/
@[irreducible]
def root : Except Report Sane × Run := sanitizeRoot world site depthLimit (.hint hint) "" start

/-- The model of the root. -/
def model : Sane := root.1.toOption.getD .ignorable

/-- What sanitizing the root comes to. -/
def rootVisits : List Visit :=
  visits world site depthLimit (coerced.1.toOption.getD .any) none coerced.2

/-- What sanitizing the root and then its child `P` comes to. -/
def allVisits : List Visit :=
  rootVisits ++ childVisits world site depthLimit model (.parameter inner) root.2

theorem chain_root : Chain world site rootVisits (.ok model) root.2 := by
  have hcoerced : coerced = (.ok (coerced.1.toOption.getD .any), coerced.2) :=
    eq_ok_of_isSome (x := coerced) (by decide +kernel) .any
  have hroot : root = (.ok model, root.2) :=
    eq_ok_of_isSome (x := root) (by decide +kernel) .ignorable
  refine .root depthLimit (.hint hint) "" start.store [] (Eq.trans ?_ hcoerced) (Eq.trans ?_ hroot)
  · rw [coerced, start]
  · rw [root, start]

/-- The chain goes on with the child `P` of the root. -/
theorem chain_child : ∃ out r, Chain world site allVisits out r :=
  ⟨_, _, .child depthLimit (.parameter inner) "" chain_root (by decide +kernel) rfl⟩

theorem acyclic_world : world.Acyclic := by
  refine ⟨id, ?_⟩
  simp only [world, List.forall_mem_cons, List.not_mem_nil, false_implies, implies_true, and_true]
  refine ⟨⟨pairBody, rfl, ?_⟩, twinBody, rfl, ?_⟩ <;> decide

end Renested

/-- The outer of two nested uses of `Twin` drops no alias. -/
theorem never_dropped_in_outer_twin :
    Chain Renested.world Renested.site Renested.rootVisits (.ok Renested.model) Renested.root.2 ∧
      ∀ v ∈ Renested.rootVisits, ¬ v.Dropped Renested.world :=
  ⟨Renested.chain_root, (never_dropped_iff_nodup Renested.chain_root).mpr (by decide +kernel)⟩

/-- The inner use drops `Pair<Q>`, though no alias refers to itself. -/
theorem dropped_in_inner_twin :
    Renested.world.Acyclic ∧ (∃ out r, Chain Renested.world Renested.site Renested.allVisits out r) ∧
      ∃ v ∈ Renested.allVisits, v.Dropped Renested.world := by
  refine ⟨Renested.acyclic_world, Renested.chain_child, ?_⟩
  obtain ⟨out, r, hchain⟩ := Renested.chain_child
  have hrepeats : ¬ (keysOf Renested.allVisits).Nodup := by decide +kernel
  have hdropped := mt hchain.spec.2.1.mp hrepeats
  simpa only [Classical.not_forall, Classical.not_not, exists_prop] using hdropped

end TypeHints
