import Mathlib.Data.Prod.Lex
import Mathlib.Order.WellFounded
import TypeHints.Proofs.Universe

/-!
# Reduction ends

Reduction follows aliases, parameters, texts and overrides, and none of these leads to a smaller
hint. It ends all the same, on two conditions: an alias gives hints of one key only, however often
it is read, and no name that texts may use stands for a hint with a text in it (`reduce_ends`).

Suppose that steps went on without end. All hints that come up are covered by one list: the hints
that are there from the start with their parts, what parameters admit, one hint for each alias and
one for each text (`Readings.Hold.within`). Over that list a measure gets smaller with each step
(`Visit.measure_lt`), and in the order of its components:

* the aliases and applications that are not guarded;
* the overrides that have not been applied;
* the parameters that are not guarded;
* the text or the union that the hint itself may be.

An alias comes first since its bindings free parameters from the guard, and an override before
parameters since it may bring in any hint. Only parameters ever leave the guard.

That one hint is enough for each alias and each text is shown of the infinite run itself: any two
steps from one alias, or from one text, go on with hints that are alike (`alias_values_agree`,
`texts_agree`). So it need not be known beforehand what they stand for. A run without end would be
an infinite descent of the measure (`not_descending`), and where steps do not go on without end, a
depth is reached beyond which nothing changes (`ends_of_acc`).
-/

namespace TypeHints

open Attempt Hint

/-! ### A measure -/

namespace Hint

/-- Whether an alias, or an application of one, would be dropped under a guard. Other hints need
no guarding. -/
def isGuarded (i : Interner) (g : Guard) (h : Hint) : Bool :=
  match h with
  | .alias _ => g.has h
  | .subscripted _ (.alias _) _ => (i.hints.get? h.stableKey).any g.has
  | _ => true

/-- What is still to be done for a hint before something else takes its place: a text is to be read,
a union to be opened. -/
def rank (h : Hint) : Nat := (if h.isRead then 0 else 2) + if h.isUnion then 1 else 0

end Hint

namespace Visit

/-- The aliases and applications among hints that are not guarded yet. -/
def openAliases (u : List Hint) (v : Visit) : Nat :=
  u.countP fun h ↦ !h.isGuarded v.run.engine.interner (Sane.guardOf v.parent?)

/-- The overrides that have not been applied yet. -/
def openOverrides (site : Site) (v : Visit) : Nat :=
  site.config.overrides.keys.countP fun name ↦ name ∉ Sane.overriddenOf v.parent?

/-- The parameters among hints that are not guarded. -/
def openParameters (u : List Hint) (v : Visit) : Nat :=
  u.countP fun h ↦ h.isParameter && !(Sane.guardOf v.parent?).has h

/-- The measure that each step makes smaller: an alias that is expanded may free parameters, an
override may bring in any hint, a parameter any hint that is bound. -/
def measure (site : Site) (u : List Hint) (v : Visit) : Nat ×ₗ Nat ×ₗ Nat ×ₗ Nat :=
  toLex (v.openAliases u, toLex (v.openOverrides site, toLex (v.openParameters u, v.hint.rank)))

end Visit

theorem countP_lt {α : Type} {p q : α → Bool} {l : List α} (h : ∀ x ∈ l, p x → q x)
    (hx : ∃ x ∈ l, q x ∧ p x = false) : l.countP p < l.countP q := by
  induction l with
  | nil => simp at hx
  | cons y l ih =>
    have hle := List.countP_mono_left fun x hx ↦ h x (List.mem_cons_of_mem y hx)
    obtain ⟨x, hx, hq, hp⟩ := hx
    rcases List.mem_cons.mp hx with rfl | hx
    · rw [List.countP_cons_of_neg (by simp [hp]), List.countP_cons_of_pos hq]
      exact Nat.lt_succ_of_le hle
    · have hlt := ih (fun x hx ↦ h x (List.mem_cons_of_mem y hx)) ⟨x, hx, hq, hp⟩
      simp only [List.countP_cons]
      have hy := h y List.mem_cons_self
      split <;> split <;> first
        | omega
        | simp_all

namespace Hint

variable {i i' : Interner} {g g' : Guard}

/-- A guarded hint stays guarded while representatives stay and only parameters leave the guard. -/
theorem isGuarded_mono (hs : i.Sound) (hi : i.hints.Within i'.hints)
    (hg : ∀ k : Hint, k.isParameter = false → k ∈ g.hints → k ∈ g'.hints) {h : Hint}
    (hh : h.isGuarded i g = true) : h.isGuarded i' g' = true := by
  unfold isGuarded at hh ⊢
  split at hh
  · exact decide_eq_true (hg _ rfl (of_decide_eq_true hh))
  · obtain ⟨k, hk, hmem⟩ := (Option.any_eq_true _ _).mp hh
    rw [hi _ _ hk]
    have hkind := hs.internable _ _ hk
    refine decide_eq_true (hg k ?_ (of_decide_eq_true hmem))
    cases k <;> first
      | rfl
      | cases hkind
  · rfl

variable {a : Alias} {application? : Option (Label × List Hint)} {u : Hint}

/-- Alike hints with members in order have the same key. -/
theorem stableKey_of_alike {h k : Hint} (hk : Alike Eq false h k) : h.stableKey = k.stableKey :=
  hk.key_eq standardNumber fun _ _ h ↦ congrArg ForwardRef.id h

/-- What is alike to a guarded alias or application has its key in the guard. -/
theorem key_mem_of_isGuarded (hu : Alike Eq false (a.form application?) u)
    (hh : u.isGuarded i g = true) : a.key i application? ∈ g.hints := by
  rcases application? with - | ⟨label, args⟩
  · cases hu
    exact of_decide_eq_true hh
  · have hkey := stableKey_of_alike hu
    cases hu with
    | appliedAlias _ m _ hargs =>
      obtain ⟨k, hk, hmem⟩ := (Option.any_eq_true _ _).mp hh
      have hintern := Interner.intern_of_get? (h := a.form (some (label, args))) rfl
        ((congrArg i.hints.get? hkey).trans hk)
      rw [Alias.key]
      exact (congrArg Prod.fst hintern).symm ▸ of_decide_eq_true hmem

/-- Once its key is in the guard and, of an application, is the representative, what is alike is
guarded. -/
theorem isGuarded_of_key_mem (hu : Alike Eq false (a.form application?) u)
    (hmem : a.key i application? ∈ g.hints)
    (hrep : Interner.isInternable (a.form application?) = true →
      i'.hints.get? (a.form application?).stableKey = some (a.key i application?)) :
    u.isGuarded i' g = true := by
  rcases application? with - | ⟨label, args⟩
  · cases hu
    exact decide_eq_true hmem
  · have hkey := stableKey_of_alike hu
    cases hu with
    | appliedAlias _ m _ hargs =>
      refine (Option.any_eq_true _ _).mpr ⟨_, ?_, decide_eq_true hmem⟩
      exact (congrArg i'.hints.get? hkey).symm.trans (hrep rfl)

mutual

theorem leaves_subset_parts : ∀ h : Hint, h.leaves ⊆ h.parts
  | .union _ hs => List.subset_cons_of_subset _ (leavesAll_subset_partsAll hs)
  | .any | .primitive _ | .ofClass _ | .literal _ _ | .tuple _ _ | .parameter _ | .template _
  | .alias _ | .subscripted _ _ _ | .forwardRef _ | .deferred _ _ =>
    fun _ hk ↦ List.mem_singleton.mp hk ▸ self_mem_parts _

theorem leavesAll_subset_partsAll : ∀ hs : List Hint, leavesAll hs ⊆ partsAll hs
  | [] => List.nil_subset _
  | h :: hs => List.append_subset.mpr
      ⟨List.subset_append_of_subset_left _ (leaves_subset_parts h),
        List.subset_append_of_subset_right _ (leavesAll_subset_partsAll hs)⟩

end

/-- A leaf of a union needs less work than the union. -/
theorem rank_lt_of_mem_leavesAll {k : Hint} {l : Label} {hs : List Hint} (hk : k ∈ leavesAll hs) :
    k.rank < (Hint.union l hs).rank := by
  have hread : areRead hs = true → k.isRead = true := fun h ↦
    isRead_of_mem_partsAll hs h (leavesAll_subset_partsAll hs hk)
  have hunion : (Hint.union l hs).isUnion = true := rfl
  have htexts : (Hint.union l hs).isRead = areRead hs := rfl
  simp only [rank, hunion, htexts, isUnion_of_mem_leavesAll hs hk]
  cases hhs : areRead hs with
  | true => simp [hread hhs]
  | false => cases k.isRead <;> simp

/-- A hint without texts needs less work than a text. -/
theorem rank_lt_deferred {k : Hint} (hk : k.isRead = true) (l : Label) (text : String) :
    k.rank < (Hint.deferred l text).rank := by
  have htext : (Hint.deferred l text).isRead = false := rfl
  have hunion : (Hint.deferred l text).isUnion = false := rfl
  simp only [rank, hk, htext, hunion]
  cases k.isUnion <;> simp

end Hint

namespace Visit

variable {w : World} {site : Site} {u : List Hint}

theorem openAliases_le {h h' : Hint} {p? q? : Option Sane} {r r' : Run}
    (hs : r.engine.interner.Sound) (hr : r.Grows r')
    (hg : ∀ k : Hint, k.isParameter = false → k ∈ (Sane.guardOf p?).hints →
      k ∈ (Sane.guardOf q?).hints) :
    openAliases u ⟨h', q?, r'⟩ ≤ openAliases u ⟨h, p?, r⟩ := by
  refine List.countP_mono_left fun k _ hk ↦ ?_
  rw [Bool.not_eq_true'] at hk ⊢
  exact Bool.eq_false_iff.mpr fun hbefore ↦
    Bool.eq_false_iff.mp hk (isGuarded_mono hs hr.interner hg hbefore)

/-- What an expanded alias is guarded by is in the guard that its value is reduced under, and what
has been guarded before stays so. -/
theorem openAliases_lt (site : Site) {r r₁ r' : Run} {a : Alias} {application? : Option (Label × List Hint)}
    {p? : Option Sane} {value h : Hint} {n : Sane}
    (hexp : Expansion w a application? p? r (some (value, n)) r₁)
    (hint : (Run.intern value : Attempt Run Failure Hint) r₁ = (.ok h, r'))
    (hs : r.engine.interner.Sound) (hu : Covered u (a.form application?)) :
    openAliases u ⟨h, some n, r'⟩ < openAliases u ⟨a.form application?, p?, r⟩ := by
  cases hexp with
  | @expanded _ table? _ r₂ r₃ r₄ r₅ _ l l' hq keyed fresh substituted hq' read _ guard _ =>
    have hkeeps := Run.keeps_grows w site r₃
    have hgrows : r₃.Grows r' :=
      (hkeeps.intern value).of_run ((hkeeps.aliasValue a).of_run (hkeeps.quiet _ _ hq'
        ((hkeeps.aliasTable a application?).of_run (refl_of _ r₃) substituted)) read) hint
    have hkeyed : r₂.Grows r₃ :=
      ((Run.keeps_grows w site r₂).guardKey a application?).of_run (refl_of _ r₂) keyed
    -- the key has become the representative of the form before anything else was done, and stays so
    have hrep : Interner.isInternable (a.form application?) = true →
        r'.engine.interner.hints.get? (a.form application?).stableKey =
          some (a.key r.engine.interner application?) := by
      intro hi
      refine hgrows.interner _ _ ?_
      rcases application? with - | ⟨label, args⟩
      · cases hi
      · have hinterner : r₃.engine.interner =
            (r.engine.interner.intern (a.form (some (label, args)))).2 := by
          rw [← hq.engine]
          exact congrArg (fun x ↦ x.2.engine.interner) keyed.symm
        rw [hinterner]
        exact Interner.intern_get? _ hi
    have hmem (k : Hint) (hk : k.isParameter = false) :
        k ∈ (Sane.guardOf p?).hints → k ∈ n.guard.hints := by
      rw [guard, Guard.mem_add, Guard.mem_withoutRebound hk]
      exact .inl
    rcases hu with hi | ⟨k, hk, ha⟩
    · rcases application? with - | ⟨_, _⟩ <;> cases hi
    refine countP_lt (fun m _ hm ↦ ?_) ⟨k, hk, ?_, ?_⟩
    · rw [Bool.not_eq_true'] at hm ⊢
      have hall := trans_of _ hq.grows (trans_of _ hkeyed hgrows)
      exact Bool.eq_false_iff.mpr fun hbefore ↦
        Bool.eq_false_iff.mp hm (isGuarded_mono hs hall.interner hmem hbefore)
    · rw [Bool.not_eq_true']
      exact Bool.eq_false_iff.mpr fun hbefore ↦ fresh (key_mem_of_isGuarded ha hbefore)
    · rw [Bool.not_eq_false']
      refine isGuarded_of_key_mem ha ?_ hrep
      rw [Sane.guardOf_some, guard]
      exact Guard.mem_add.mpr (.inr rfl)

/-- Each step makes the measure smaller. -/
theorem measure_lt {v v' : Visit} (hv : v.Within u) (hs : v.run.engine.interner.Sound)
    (hread : ∀ l text, v.hint = .deferred l text → v'.hint.isRead = true)
    (hnext : v.Next w site v') : v'.measure site u < v.measure site u := by
  have hgrows : v.run.Grows v'.run := (grows_reduceStep w site _ _).of_run hnext
  obtain ⟨hint, p?, r⟩ := v
  obtain ⟨h, q?, r'⟩ := v'
  have hadvance : Advance w site r hint p? (.goOn h q?) r' := .of_reduceStep hnext
  cases hadvance with
  | @overridden c _ text _ n _ _ replaced fresh _ _ _ guard names =>
    -- the override has been applied now, and the guard is that of the parent
    refine Prod.Lex.toLex_lt_toLex'.mpr ⟨openAliases_le hs hgrows fun k _ hk ↦ ?_, fun _ ↦ ?_⟩
    · rwa [Sane.guardOf_some, guard]
    refine Prod.Lex.toLex_lt_toLex.mpr (.inl (countP_lt (fun k _ hk ↦ ?_) ⟨c.name, ?_, ?_, ?_⟩))
    · simp only [Sane.overriddenOf_some, names, List.mem_append, not_or, decide_eq_true_eq] at hk ⊢
      exact hk.1
    · exact List.mem_map_of_mem (Dict.mem_of_get? replaced)
    · exact decide_eq_true fresh
    · simp [names]
  | @member l hs' _ _ only =>
    have hmem : h ∈ leavesAll hs' := mem_of_mem_distinct (only ▸ List.mem_singleton_self h)
    refine Prod.Lex.toLex_lt_toLex.mpr (.inr ⟨rfl, ?_⟩)
    refine Prod.Lex.toLex_lt_toLex.mpr (.inr ⟨rfl, ?_⟩)
    exact Prod.Lex.toLex_lt_toLex.mpr (.inr ⟨rfl, rank_lt_of_mem_leavesAll hmem⟩)
  | @parameter p _ _ n _ l fresh _ _ _ guard names =>
    refine Prod.Lex.toLex_lt_toLex'.mpr ⟨openAliases_le hs hgrows fun k _ hk ↦ ?_, fun _ ↦ ?_⟩
    · rw [Sane.guardOf_some, guard]
      exact Guard.mem_add.mpr (.inl hk)
    refine Prod.Lex.toLex_lt_toLex.mpr (.inr ⟨?_, ?_⟩)
    · simp only [openOverrides, Sane.overriddenOf_some, names]
    refine Prod.Lex.toLex_lt_toLex.mpr (.inl (countP_lt (fun k _ hk ↦ ?_)
      ⟨.parameter p, ?_, ?_, ?_⟩))
    · simp only [Guard.has, Sane.guardOf_some, guard, Guard.mem_add, Bool.and_eq_true,
        Bool.not_eq_true', decide_eq_false_iff_not, not_or] at hk ⊢
      exact ⟨hk.1, hk.2.1⟩
    · obtain hi | ⟨k, hk, ha⟩ := hv.hint
      · cases hi
      · cases ha
        exact hk
    · simp [Hint.isParameter, Guard.has, fresh]
    · simp [Hint.isParameter, Guard.has, guard, Guard.mem_add]
  | expanded expansion interned =>
    exact Prod.Lex.toLex_lt_toLex.mpr (.inl (openAliases_lt site expansion interned hs hv.hint))
  | read _ =>
    refine Prod.Lex.toLex_lt_toLex'.mpr ⟨openAliases_le hs hgrows fun _ _ hk ↦ hk, fun _ ↦ ?_⟩
    refine Prod.Lex.toLex_lt_toLex.mpr (.inr ⟨rfl, ?_⟩)
    exact Prod.Lex.toLex_lt_toLex.mpr (.inr ⟨rfl, rank_lt_deferred (hread _ _ rfl) _ _⟩)

/-! ### What a step reads -/

/-- An alias and its arguments can be told from the form. -/
theorem form_inj {a b : Alias} {application? application?' : Option (Label × List Hint)}
    (h : a.form application? = b.form application?') : a = b ∧ application? = application?' := by
  rcases application? with - | ⟨l, args⟩ <;> rcases application?' with - | ⟨l', args'⟩ <;> cases h
  · exact ⟨rfl, rfl⟩
  · exact ⟨rfl, rfl⟩

variable {W : World} {v v' : Visit} {a : Alias} {application? : Option (Label × List Hint)}

/-- A step from an alias goes on with what its body gives, interned. -/
theorem Next.alias_inv (hW : w.Steady W) (hcalm : v.run.Calm w W site) (hnext : v.Next w site v')
    (hform : v.hint = a.form application?) :
    ∃ b s s' value, W.aliases.get? a.id = some b ∧ b.hint w a.name s = (.ok value, s') ∧
      v.run.store.next ≤ s.next ∧ s'.next ≤ v'.run.store.next ∧
      (Interner.isInternable value = true →
        v'.run.engine.interner.hints.get? value.stableKey = some v'.hint) ∧
      (Interner.isInternable value = false → v'.hint = value) := by
  obtain ⟨hint, p?, r⟩ := v
  obtain ⟨h, q?, r'⟩ := v'
  have hadvance : Advance w site r hint p? (.goOn h q?) r' := .of_reduceStep hnext
  obtain rfl : hint = a.form application? := hform
  generalize hk : a.form application? = k at hadvance
  cases hadvance with
  | overridden | member | parameter | read =>
    rcases application? with - | ⟨_, _⟩ <;> cases hk
  | @expanded b application?' _ value _ n r₁ _ expansion interned =>
    obtain ⟨rfl, rfl⟩ := form_inj hk
    cases expansion with
    | @expanded _ table? _ r₂ r₃ r₄ r₅ _ l l' hq keyed fresh substituted hq' read _ _ _ =>
      have hcalm' : r₅.Calm w W site := by
        have hkeeps : Run.Keeps w site (Run.Calm w W site) _ := Run.keeps_calm hW
        exact hkeeps.quiet _ _ hq' ((hkeeps.aliasTable a application?).of_run
          ((hkeeps.guardKey a application?).of_run (hkeeps.quiet _ _ hq hcalm) keyed) substituted)
      have hgrows : r.Grows r₅ := by
        have hkeeps := Run.keeps_grows w site r
        exact hkeeps.quiet _ _ hq' ((hkeeps.aliasTable a application?).of_run
          ((hkeeps.guardKey a application?).of_run hq.grows keyed) substituted)
      obtain ⟨rfl, rfl⟩ := Run.intern_inv interned
      rcases aliasValue_cases w a r₅ with ⟨b, hb, he⟩ | ⟨-, he⟩ <;> rw [he] at read
      · obtain ⟨s, hs, rfl⟩ := Run.onStore_inv read
        rw [hcalm'.world] at hb
        refine ⟨b, r₅.store, s, value, hb, hs, hgrows.store.next, Nat.le_refl _, fun hi ↦ ?_,
          fun hi ↦ ?_⟩
        · exact Interner.intern_get? _ hi
        · simp [Interner.intern, hi]
      · cases read

/-- The text that a step from a visit reads, if it reads one. -/
def textOf? (site : Site) (v : Visit) : Option String :=
  match v.hint with
  | .deferred _ text => some text
  | .ofClass c => site.config.overrides.get? c.name
  | _ => none

/-- A step that reads a text goes on with its hint. -/
theorem Next.text_inv {text : String} (hnext : v.Next w site v') (ht : v.textOf? site = some text) :
    ∃ r₁, Run.Quiet v.run r₁ ∧ site.destringify w text r₁ = (.ok v'.hint, v'.run) := by
  obtain ⟨hint, p?, r⟩ := v
  obtain ⟨h, q?, r'⟩ := v'
  have hadvance : Advance w site r hint p? (.goOn h q?) r' := .of_reduceStep hnext
  cases hadvance with
  | overridden replaced _ quiet read _ _ _ =>
    have htext := replaced.symm.trans ht
    cases htext
    exact ⟨_, quiet, read⟩
  | read read =>
    cases ht
    exact ⟨r, refl_of _ r, read⟩
  | @expanded a application? =>
    rcases application? with - | ⟨_, _⟩ <;> cases ht
  | member | parameter => cases ht

/-- What is read anew is what an alias or a text stands for. -/
theorem Next.readsAnew (hnext : v.Next w site v') (hv : v.ReadsAnew) :
    (∃ (a : Alias) (application? : Option (Label × List Hint)), v.hint = a.form application?) ∨
      ∃ text, v.textOf? site = some text := by
  obtain ⟨hint, p?, r⟩ := v
  obtain ⟨h, q?, r'⟩ := v'
  have hadvance : Advance w site r hint p? (.goOn h q?) r' := .of_reduceStep hnext
  rcases hv with hform | ⟨l, text, rfl⟩ | ⟨c, rfl⟩
  · exact .inl hform
  · exact .inr ⟨text, rfl⟩
  · generalize hk : Hint.ofClass c = k at hadvance
    cases hadvance with
    | overridden replaced =>
      cases hk
      exact .inr ⟨_, replaced⟩
    | @expanded a application? =>
      rcases application? with - | ⟨_, _⟩ <;> cases hk
    | member | parameter | read => cases hk

end Visit

/-! ### Steps without end -/

section Descent

variable {w W : World} {site : Site} {f : ℕ → Visit} (hnext : ∀ n, (f n).Next w site (f (n + 1)))

include hnext

/-- Later runs have grown from earlier ones. -/
theorem grows_of_le {m n : ℕ} (h : m ≤ n) : (f m).run.Grows (f n).run := by
  induction h with
  | refl => exact refl_of _ _
  | step _ ih => exact trans_of _ ih ((grows_reduceStep w site _ _).of_run (hnext _))

theorem calm_of_next (hW : w.Steady W) (hcalm : (f 0).run.Calm w W site) :
    ∀ n, (f n).run.Calm w W site := by
  intro n
  induction n with
  | zero => exact hcalm
  | succ n ih => exact ((Run.keeps_calm hW).reduceStep _ _).of_run ih (hnext n)

/-- All steps from an alias go on with the same, up to labels and hints that bring nothing along. -/
theorem alias_values_agree (hW : w.Steady W) (hcalm : (f 0).run.Calm w W site) {m n : ℕ}
    (hmn : m < n) {a b : Alias} {app? app?' : Option (Label × List Hint)}
    (hm : (f m).hint = a.form app?) (hn : (f n).hint = b.form app?') (hid : a.id = b.id) :
    ((f (m + 1)).hint.isInert = true ∧ (f (n + 1)).hint.isInert = true) ∨
      Hint.Alike Eq false (f (m + 1)).hint (f (n + 1)).hint := by
  obtain ⟨body, s, s', h, hbody, hread, -, hs', hrep, hself⟩ :=
    (hnext m).alias_inv hW (calm_of_next hnext hW hcalm m) hm
  obtain ⟨body', t, t', k, hbody', hread', ht, -, hrep', hself'⟩ :=
    (hnext n).alias_inv hW (calm_of_next hnext hW hcalm n) hn
  rw [← hid, hbody] at hbody'
  cases hbody'
  have hst : s'.next ≤ t.next :=
    Nat.le_trans hs' (Nat.le_trans (grows_of_le hnext hmn).store.next ht)
  have hinert {k : Hint} (hk : k.isInert = true) : Interner.isInternable k = false := by
    cases k <;> first
      | rfl
      | cases hk
  -- hints of one key that are interned have one representative
  have hsame (hi : Interner.isInternable h = true) (hi' : Interner.isInternable k = true)
      (hkey : h.stableKey = k.stableKey) : (f (m + 1)).hint = (f (n + 1)).hint := by
    have hold := (grows_of_le hnext (Nat.succ_le_succ (Nat.le_of_lt hmn))).interner _ _ (hrep hi)
    have hnew := hrep' hi'
    rw [← hkey, hold] at hnew
    exact Option.some.inj hnew
  rcases (hW _ _ hbody).reread hread hread' hst with ⟨hi, hi', hkey⟩ | ⟨hi, hi'⟩ | halike
  · exact .inr (hsame hi hi' hkey ▸ .refl (fun _ ↦ rfl) _)
  · rw [hself (hinert hi), hself' (hinert hi')]
    exact .inl ⟨hi, hi'⟩
  · have hkind : Interner.isInternable h = Interner.isInternable k := by cases halike <;> rfl
    cases hi : Interner.isInternable h with
    | true => exact .inr (hsame hi (hkind ▸ hi) (Hint.stableKey_of_alike halike) ▸
        .refl (fun _ ↦ rfl) _)
    | false =>
      rw [hself hi, hself' (hkind ▸ hi)]
      exact .inr halike

/-- All steps that read one text go on with alike hints. -/
theorem texts_agree {m n : ℕ} (hmn : m < n) {text : String}
    (hm : (f m).textOf? site = some text) (hn : (f n).textOf? site = some text) :
    Hint.Alike Eq false (f (m + 1)).hint (f (n + 1)).hint := by
  obtain ⟨r, -, hread⟩ := (hnext m).text_inv hm
  obtain ⟨t, hquiet, hread'⟩ := (hnext n).text_inv hn
  obtain ⟨scope, r₁, n₁, -, hfirst, hscope, hnames, -⟩ := Site.destringify_inv hread
  obtain ⟨scope', t₁, n₂, hforward, hsecond, -, -, -⟩ := Site.destringify_inv hread'
  have hgrows : (f (m + 1)).run.Grows t := trans_of _ (grows_of_le hnext hmn) hquiet.grows
  obtain ⟨held, hheld, hbetween⟩ := hgrows.scope _ hscope
  have hforward' : site.forwardScope w t = (.ok held, t) := by
    rcases Site.forwardScope_cases w site t with ⟨_, hs, he⟩ | ⟨hs, -⟩ | ⟨hs, -⟩ <;>
      rw [hheld] at hs <;> cases hs
    exact he
  rw [hforward] at hforward'
  cases hforward'
  have hlater : (Site.readText w text (r₁.names scope)).2.Grows (t.names scope') := by
    rwa [hfirst, ← hnames]
  have hagain := Site.readText_again w text hlater
  rw [hfirst, hsecond] at hagain
  cases hagain with
  | ok halike => exact halike

/-- What aliases of one label stand for along the steps is covered by one hint. -/
theorem exists_alias_value (hW : w.Steady W) (hcalm : (f 0).run.Calm w W site) (id : Label) :
    ∃ k, ∀ n (a : Alias) (app? : Option (Label × List Hint)), (f n).hint = a.form app? →
      a.id = id → Covered [k] (f (n + 1)).hint := by
  by_cases hex : ∃ n, ∃ (a : Alias) (app? : Option (Label × List Hint)),
      (f n).hint = a.form app? ∧ a.id = id
  · obtain ⟨m, a, app?, hm, rfl⟩ := hex
    refine ⟨(f (m + 1)).hint, fun n b app?' hn hid ↦ ?_⟩
    rcases Nat.lt_trichotomy m n with hmn | rfl | hnm
    · rcases alias_values_agree hnext hW hcalm hmn hm hn hid.symm with ⟨-, hi⟩ | halike
      · exact .inl hi
      · exact .inr ⟨_, List.mem_singleton_self _, halike.symm fun _ _ h ↦ h.symm⟩
    · exact covered_of_mem (List.mem_singleton_self _)
    · rcases alias_values_agree hnext hW hcalm hnm hn hm hid with ⟨hi, -⟩ | halike
      · exact .inl hi
      · exact .inr ⟨_, List.mem_singleton_self _, halike⟩
  · exact ⟨.any, fun n b app? hn hid ↦ absurd ⟨n, b, app?, hn, hid⟩ hex⟩

/-- What one text stands for along the steps is covered by one hint without texts. -/
theorem exists_text_value (hW : w.Steady W) (hcalm : (f 0).run.Calm w W site) (text : String) :
    ∃ k : Hint, k.isRead = true ∧
      ∀ n, (f n).textOf? site = some text → Covered [k] (f (n + 1)).hint := by
  by_cases hex : ∃ n, (f n).textOf? site = some text
  · obtain ⟨m, hm⟩ := hex
    refine ⟨(f (m + 1)).hint, ?_, fun n hn ↦ .inr ⟨_, List.mem_singleton_self _, ?_⟩⟩
    · obtain ⟨r, hquiet, hread⟩ := (hnext m).text_inv hm
      exact (Site.calm_destringify text).value_of_run
        (Run.calm_quiet hquiet (calm_of_next hnext hW hcalm m)) hread
    · rcases Nat.lt_trichotomy m n with hmn | rfl | hnm
      · exact (texts_agree hnext hmn hm hn).symm fun _ _ h ↦ h.symm
      · exact .refl (fun _ ↦ rfl) _
      · exact texts_agree hnext hnm hn hm
  · exact ⟨.any, rfl, fun n hn ↦ absurd ⟨n, hn⟩ hex⟩

end Descent

/-! ### All that can come up -/

/-- The hints in the outcomes of substitutions. -/
def Substitution.Cache.hints (c : Substitution.Cache) : List Hint :=
  c.values.flatMap fun o ↦ match o.result with
    | .ok (some t) => t.entries.values
    | _ => []

theorem Substitution.Cache.all_mem_hints (c : Substitution.Cache) : c.All (· ∈ c.hints) := by
  intro e he t ht k hk
  refine List.mem_flatMap.mpr ⟨e.2, List.mem_map_of_mem he, ?_⟩
  rw [ht]
  exact List.mem_map_of_mem hk

/-- What the parameters of a world admit. -/
def World.admitted (w : World) : List Hint :=
  .union 0 [] :: w.params.values.flatMap fun d ↦
    d.bound?.toList ++ [.union 0 (d.constraints?.getD [])]

theorem World.admits_of_subset {w : World} {u : List Hint} (h : w.admitted ⊆ u) :
    Visit.Admits u w := by
  have hdecl {p : TypeParameter} {d : ParamDecl} {k : Hint} (hd : w.params.get? p.id = some d)
      (hk : k ∈ d.bound?.toList ++ [.union 0 (d.constraints?.getD [])]) : k ∈ u :=
    h (List.mem_cons_of_mem _ (List.mem_flatMap.mpr
      ⟨d, List.mem_map_of_mem (Dict.mem_of_get? hd), hk⟩))
  refine ⟨fun p k hk ↦ ?_, fun p l ↦ ?_⟩
  · obtain ⟨d, hd, hb⟩ := Option.bind_eq_some_iff.mp hk
    refine covered_of_mem (hdecl hd (List.mem_append_left _ ?_))
    rw [hb]
    exact List.mem_singleton_self k
  · refine .inr ⟨.union 0 (w.constraints p), ?_,
      .union l 0 (AlikeAll.refl (fun _ ↦ rfl) _) (.refl _) fun _ ↦ rfl⟩
    unfold World.constraints
    cases hd : w.params.get? p.id with
    | none => exact h List.mem_cons_self
    | some d => exact hdecl hd (List.mem_append_right _ (List.mem_singleton_self _))

/-- The text that a hint is. -/
def Hint.text? : Hint → Option String
  | .deferred _ text => some text
  | _ => none

theorem closed_partsAll (hs : List Hint) : Closed (partsAll hs) :=
  fun _ hk _ hm ↦ mem_partsAll_of_children hm hs hk

theorem subset_partsAll (hs : List Hint) : hs ⊆ partsAll hs :=
  fun k hk ↦ mem_partsAll.mpr ⟨k, hk, self_mem_parts k⟩

/-- One hint for each alias, and one for each text. -/
structure Readings where
  value : Label → Hint
  read : String → Hint

namespace Readings

section Cover

variable (W : World) (site : Site) (v : Visit) (R : Readings)

/-- What is there at a visit from which steps start: its hint, what its parent binds and the outcomes
of substitutions, what parameters admit and what aliases stand for. -/
def origin : List Hint :=
  v.hint :: ((Sane.tableOf v.parent?).entries.values ++
    (v.run.engine.substitutions.hints ++ (W.admitted ++ W.aliases.keys.map R.value)))

/-- The texts among all that, and those of overrides. -/
def texts : List String :=
  (partsAll (R.origin W v)).filterMap Hint.text? ++ site.config.overrides.values

/-- What covers all hints that come up. What texts stand for holds no more texts, so that there is
no need to go on from there. -/
def cover : List Hint := partsAll (R.origin W v) ++ partsAll ((R.texts W site v).map R.read)

theorem origin_subset_cover : R.origin W v ⊆ R.cover W site v :=
  fun _ hk ↦ List.mem_append_left _ (subset_partsAll _ hk)

theorem closed_cover : Closed (R.cover W site v) := by
  intro k hk m hm
  rcases List.mem_append.mp hk with hk | hk
  · exact List.mem_append_left _ (closed_partsAll _ k hk hm)
  · exact List.mem_append_right _ (closed_partsAll _ k hk hm)

theorem admits_cover : Visit.Admits (R.cover W site v) W :=
  World.admits_of_subset fun _ hk ↦ R.origin_subset_cover W site v (by simp [origin, hk])

theorem within_cover : v.Within (R.cover W site v) where
  hint := covered_of_mem (R.origin_subset_cover W site v List.mem_cons_self)
  table e he := by
    have hmem : e.2 ∈ (Sane.tableOf v.parent?).entries.values := List.mem_map_of_mem he
    exact covered_of_mem (R.origin_subset_cover W site v (by simp [origin, hmem]))
  cache e he t ht k hk := by
    have hmem := v.run.engine.substitutions.all_mem_hints e he t ht k hk
    exact covered_of_mem (R.origin_subset_cover W site v (by simp [origin, hmem]))

variable {W site v R}

theorem value_mem_cover {id : Label} (hid : id ∈ W.aliases.keys) :
    R.value id ∈ R.cover W site v := by
  have hmem : R.value id ∈ W.aliases.keys.map R.value := List.mem_map_of_mem hid
  exact R.origin_subset_cover W site v (by simp only [origin, List.mem_cons, List.mem_append, hmem,
    or_true])

theorem read_mem_cover {text : String} (ht : text ∈ R.texts W site v) :
    R.read text ∈ R.cover W site v :=
  List.mem_append_right _ (subset_partsAll _ (List.mem_map_of_mem ht))

/-- A text that is covered is one of the texts that were there from the start. -/
theorem mem_texts_of_covered (hread : ∀ text, (R.read text).isRead = true) {l : Label}
    {text : String} (h : Covered (R.cover W site v) (.deferred l text)) :
    text ∈ R.texts W site v := by
  rcases h with hi | ⟨k, hk, ha⟩
  · cases hi
  cases ha with
  | deferred _ m _ =>
    rcases List.mem_append.mp hk with hk | hk
    · exact List.mem_append_left _ (List.mem_filterMap.mpr ⟨_, hk, rfl⟩)
    · obtain ⟨u, hu, hk⟩ := mem_partsAll.mp hk
      obtain ⟨t, -, rfl⟩ := List.mem_map.mp hu
      cases isRead_of_mem_parts _ (hread t) hk

end Cover

/-- Along steps, each alias and each text stands for its one hint. -/
structure Hold (site : Site) (f : ℕ → Visit) (R : Readings) : Prop where
  value : ∀ id n (a : Alias) (app? : Option (Label × List Hint)), (f n).hint = a.form app? →
    a.id = id → Covered [R.value id] (f (n + 1)).hint
  isRead : ∀ text, (R.read text).isRead = true
  read : ∀ text n, (f n).textOf? site = some text → Covered [R.read text] (f (n + 1)).hint

section Steps

variable {w W : World} {site : Site} {f : ℕ → Visit} {R : Readings}
  (hnext : ∀ n, (f n).Next w site (f (n + 1))) (hW : w.Steady W)
  (hcalm : (f 0).run.Calm w W site)

include hnext hW hcalm

/-- There is one hint for each alias and each text. -/
theorem exists_hold : ∃ R : Readings, R.Hold site f := by
  choose value hvalue using exists_alias_value hnext hW hcalm
  choose read hisRead hread using exists_text_value hnext hW hcalm
  exact ⟨⟨value, read⟩, hvalue, hisRead, hread⟩

/-- All that comes up is covered by what there is at the start. -/
theorem Hold.within (hR : R.Hold site f) : ∀ n, (f n).Within (R.cover W site (f 0)) := by
  intro n
  induction n with
  | zero => exact R.within_cover W site (f 0)
  | succ n ih =>
    have hcalmAt := calm_of_next hnext hW hcalm n
    refine ih.step (R.closed_cover W site (f 0))
      (hcalmAt.world.symm ▸ R.admits_cover W site (f 0)) (fun hv ↦ ?_) (hnext n)
    rcases (hnext n).readsAnew hv with ⟨a, app?, hform⟩ | ⟨text, htext⟩
    · obtain ⟨b, _, _, _, hb, -⟩ := (hnext n).alias_inv hW hcalmAt hform
      have hid : a.id ∈ W.aliases.keys := List.mem_map_of_mem (Dict.mem_of_get? hb)
      exact (hR.value a.id n a app? hform rfl).mono
        (List.cons_subset.mpr ⟨value_mem_cover hid, List.nil_subset _⟩)
    · suffices ht : text ∈ R.texts W site (f 0) from
        (hR.read text n htext).mono (List.cons_subset.mpr ⟨read_mem_cover ht, List.nil_subset _⟩)
      -- it is the hint itself, which is covered, or the text of an override
      unfold Visit.textOf? at htext
      split at htext
      · rename_i l text' hhint
        cases htext
        exact mem_texts_of_covered hR.isRead (hhint ▸ ih.hint)
      · exact List.mem_append_right _ (List.mem_map_of_mem (Dict.mem_of_get? htext))
      · cases htext

end Steps

end Readings

/-- Steps do not go on without end. -/
theorem not_descending {w W : World} {site : Site} {f : ℕ → Visit} (hW : w.Steady W)
    (hcalm : (f 0).run.Calm w W site) (hs : (f 0).run.engine.interner.Sound)
    (hnext : ∀ n, (f n).Next w site (f (n + 1))) : False := by
  obtain ⟨R, hR⟩ := Readings.exists_hold hnext hW hcalm
  obtain ⟨n, hn⟩ := WellFounded.not_rel_apply_succ (r := (· < ·))
    fun n ↦ (f n).measure site (R.cover W site (f 0))
  refine hn (Visit.measure_lt (hR.within hnext hW hcalm n)
    ((grows_of_le hnext (Nat.zero_le n)).sound hs) ?_ (hnext n))
  intro l text hhint
  have ht : (f n).textOf? site = some text := by rw [Visit.textOf?, hhint]
  obtain ⟨r, hquiet, hdes⟩ := (hnext n).text_inv ht
  exact (Site.calm_destringify text).value_of_run
    (Run.calm_quiet hquiet (calm_of_next hnext hW hcalm n)) hdes

/-! ### The end of reduction -/

/-- From a visit from which steps do not go on without end, reduction ends; more depth changes
nothing. -/
theorem ends_of_acc {w : World} {site : Site} {P : Run → Prop} {E : Failure → Prop}
    (hP : Run.Keeps w site P E) {v : Visit} (hacc : Acc (fun v' v ↦ v.Next w site v') v)
    (hv : P v.run) :
    ∃ n out r', (∀ depth, n ≤ depth → reduce w site depth v.hint v.parent? v.run = (out, r')) ∧
      ∀ e, out = .error e → E e := by
  induction hacc with
  | intro v _ ih =>
    have hstep := hP.reduceStep v.hint v.parent?
    rcases hr : reduceStep w site v.hint v.parent? v.run with ⟨e | (s | ⟨h, q?⟩), r'⟩
    · refine ⟨1, .error e, r', fun depth hd ↦ ?_, fun e' he ↦ ?_⟩
      · obtain ⟨depth, rfl⟩ := Nat.exists_eq_add_of_le' hd
        exact reduce_succ_error hr
      · cases he
        exact hstep.failure_of_run hv hr
    · refine ⟨1, .ok s, r', fun depth hd ↦ ?_, nofun⟩
      obtain ⟨depth, rfl⟩ := Nat.exists_eq_add_of_le' hd
      exact reduce_succ_done hr
    · obtain ⟨n, out, r'', hends, hE⟩ := ih ⟨h, q?, r'⟩ hr (hstep.of_run hv hr)
      refine ⟨n + 1, out, r'', fun depth hd ↦ ?_, hE⟩
      obtain ⟨depth, rfl⟩ := Nat.exists_eq_add_of_le' (Nat.le_of_add_left_le hd)
      rw [reduce_succ_goOn hr]
      exact hends depth (Nat.le_of_succ_le_succ hd)

/-- Reduction ends, with a model or a report, whatever hint it starts from and whatever that is below:
if reading aliases gives hints of one key each, and no name that texts may use stands for a hint with
a text in it. -/
theorem reduce_ends {w : World} {site : Site} {r : Run} (hW : w.Steady (w.under r.store))
    (hcalm : r.Calm w (w.under r.store) site) (hs : r.engine.interner.Sound) (hint : Hint)
    (p? : Option Sane) :
    ∃ n out r', (∀ depth, n ≤ depth → reduce w site depth hint p? r = (out, r')) ∧
      ∀ e, out = .error e → ∃ c, e = .cause c := by
  refine ends_of_acc (Run.keeps_calm hW) (v := ⟨hint, p?, r⟩) ?_ hcalm
  by_contra hacc
  obtain ⟨f, hstart, hnext⟩ := not_acc_iff_exists_descending_chain.mp hacc
  exact not_descending hW (hstart ▸ hcalm) (hstart ▸ hs) hnext

/-! ### Aliases and overrides that name each other -/

/-- An alias that stands for a text is steady. -/
theorem AliasBody.steady_deferred (w : World) (text : String) :
    (AliasBody.value (.hint (.deferred text))).Steady w := by
  refine ⟨fun _ _ _ _ _ _ h k hh hk ↦ ?_, fun _ _ ↦ ⟨rfl, rfl⟩, nofun⟩
  cases hh
  cases hk
  rfl

namespace Entwined

/-- The alias `Ping`. -/
def ping : Alias := ⟨50, "Ping", []⟩

/-- The alias `Pong`. -/
def pong : Alias := ⟨51, "Pong", []⟩

/-- Each of the two aliases stands for a text that names the other one. -/
def world : World where
  classes := Builtin.classes
  params := ∅
  aliases := ⟨[(ping.id, .value (.hint (.deferred "Pong | Date"))),
    (pong.id, .value (.hint (.deferred "Ping")))]⟩

/-- A place with the two aliases, and with overrides of two classes by each other. -/
def site : Site where
  config := ⟨false, ⟨[("Date", "Error"), ("Error", "Date")]⟩, defaultScopeName⟩
  scopeName := defaultScopeName
  names := [("Ping", .alias ping), ("Pong", .alias pong)]
  classStack := []
  owner? := none

/-- A run in which nothing has been reduced yet. -/
def start : Run := ⟨{ Store.initial with next := 52 }, .fresh, none, []⟩

theorem steady : world.Steady (world.under start.store) := by
  rw [World.under_eq rfl rfl]
  intro id b hb
  rcases List.mem_pair.mp (Dict.mem_of_get? hb) with h | h <;> cases h <;>
    exact AliasBody.steady_deferred _ _

theorem calm : start.Calm world (world.under start.store) site where
  world := rfl
  scope := nofun
  names _ := by decide

end Entwined

/-- Reduction of two aliases that name each other ends. -/
theorem reduce_ends_of_entwined :
    ∃ n out r', (∀ depth, n ≤ depth →
        reduce Entwined.world Entwined.site depth (.alias Entwined.ping) none Entwined.start =
          (out, r')) ∧
      ∀ e, out = .error e → ∃ c, e = .cause c :=
  reduce_ends Entwined.steady Entwined.calm Interner.sound_empty (.alias Entwined.ping) none

end TypeHints
