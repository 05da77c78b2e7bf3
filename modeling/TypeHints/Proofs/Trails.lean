import Mathlib.Data.List.Permutation
import Mathlib.Data.List.ProdSigma
import Mathlib.Data.Set.Finite.Lattice
import TypeHints.Proofs.Leads

/-!
# Trails of texts

Nothing guards a text that is read: if names stand for texts, one text leads to another one, and so
on, and reduction follows. Where a text leads is no matter of the run that it is read in
(`Site.lead_congr`), so each text has a trail (`Site.trail`). Reduction ends exactly where the trail
does (`Spot.answered_iff`).

Only the texts that names stand for and those of overrides can come up on a trail, and an override
is applied once (`Spot.Bounded`). So a trail that goes on for ever comes back to where it was
(`Site.trail_stops_iff`), and sanitizing a text ends exactly if its trail does not
(`sanitizeRoot_ends_iff`). In both directions the depth is the only difference between a trail and a
reduction:

* where the trail stops, some depth is enough, and a greater one changes nothing
  (`Spot.exists_answered`);
* where it goes on for ever, every depth is exhausted, by induction on the depth
  (`Spot.run_eq_tooDeep`): each step of the trail takes at least one step of reduction.

Trails are followed for names that stand for texts. Then what is read has no parameters and no
aliases in it, and nothing else than texts and classes leads anywhere. A name that stands for its
own text is the shortest trail that comes back (`sanitizeRoot_circular_unanswered`), and an override
of a class by the class itself does not come back, since it is applied once.
-/

namespace TypeHints

open Attempt Hint
open ForwardRef (Namesake namesake_refl namesake_equivalence)

/-! ### Runs along a trail -/

namespace Spot

/-- Where a text leads, read in a run. -/
def next (w : World) (site : Site) (r : Run) (s : Spot) : Option Spot :=
  (site.destringify w s.text r).1.toOption.bind (site.lead s.overridden)

/-- Where the trail of a text is some steps later. -/
def after (w : World) (site : Site) (r : Run) : ℕ → Spot → Option Spot
  | 0, s => some s
  | n + 1, s => (s.next w site r).bind (after w site r n)

section Runs

variable {w W : World} {site : Site} {names : Label → String} {s s' : Spot} {q? : Option Sane}
  {r r₁ : Run}

/-- What a text leads to does not depend on the run that it is read in. -/
theorem read_cases (hr : r.At w W site names) (hr₁ : r₁.At w W site names) (s : Spot) :
    (∃ c r₂, site.destringify w s.text r₁ = (.error c, r₂) ∧ s.next w site r = none) ∨
    ∃ h r₂, site.destringify w s.text r₁ = (.ok h, r₂) ∧ r₂.At w W site names ∧
      s.next w site r = site.lead s.overridden h := by
  have hagree : Outcomes (Cause.Alike Namesake false) (Hint.Alike Namesake false)
      (site.destringify w s.text r).1 (site.destringify w s.text r₁).1 :=
    (Site.destringify_agree s.text).outcomes hr hr₁
  have hat := (Site.keeps_at_destringify s.text).keeps r₁ hr₁
  unfold next
  rcases hread : site.destringify w s.text r₁ with ⟨c | h, r₂⟩ <;> rw [hread] at hagree hat
  · generalize (site.destringify w s.text r).1 = x at hagree ⊢
    cases hagree
    exact .inl ⟨c, r₂, rfl, rfl⟩
  · generalize (site.destringify w s.text r).1 = x at hagree ⊢
    cases hagree with
    | ok halike => exact .inr ⟨h, r₂, rfl, hat,
        Site.lead_congr (fun _ _ ↦ namesake_equivalence.symm) halike⟩

theorem run_of_read {c : Cause} {r₂ : Run} (depth : Nat)
    (hread : site.destringify w s.text r₁ = (.error c, r₂)) :
    s.run w site depth q? r₁ = (.error (.cause c), r₂) := by
  refine bind_apply_error ?_
  rw [mapFailure, hread]

theorem run_of_read_ok {h : Hint} {r₂ : Run} (depth : Nat)
    (hread : site.destringify w s.text r₁ = (.ok h, r₂)) :
    s.run w site depth q? r₁ = reduce w site depth h q? r₂ :=
  bind_apply_ok (mapFailure_eq_ok_iff.mpr hread)

/-- At the end of a trail there is an answer. -/
theorem answered_of_next_eq_none (hseed : ∀ e ∈ site.names, e.2.text?.isSome = true)
    (hr : r.At w W site names) (hr₁ : r₁.At w W site names)
    (hq : Sane.overriddenOf q? = s.overridden) (hnext : s.next w site r = none) (depth : Nat) :
    Answered (s.run w site (depth + 2) q? r₁).1 := by
  rcases read_cases hr hr₁ s with ⟨c, r₂, hread, -⟩ | ⟨h, r₂, hread, -, hlead⟩
  · rw [run_of_read _ hread]
    exact answered_cause _
  · rw [run_of_read_ok _ hread]
    rw [hlead, ← hq] at hnext
    exact answered_of_lead_eq_none (Site.isUndeclared_of_destringify hseed hr₁ hread) hnext depth

/-- On the trail, reduction from a text is reduction from the next one. -/
theorem run_of_next_eq_some (hr : r.At w W site names) (hr₁ : r₁.At w W site names)
    (hq : Sane.overriddenOf q? = s.overridden) (hnext : s.next w site r = some s') :
    ∃ d q?' r₂, 0 < d ∧ r₂.At w W site names ∧ Sane.overriddenOf q?' = s'.overridden ∧
      ∀ depth, s.run w site (depth + d) q? r₁ = s'.run w site depth q?' r₂ := by
  rcases read_cases hr hr₁ s with ⟨c, r₂, -, hnone⟩ | ⟨h, r₂, hread, hr₂, hlead⟩
  · rw [hnone] at hnext
    cases hnext
  · rw [hlead, ← hq] at hnext
    obtain ⟨d, q?', r₃, hd, hquiet, hq', hreads⟩ := reduce_of_lead hnext r₂ (w := w)
    exact ⟨d, q?', r₃, hd, hr₂.quiet hquiet, hq', fun depth ↦
      (run_of_read_ok _ hread).trans (hreads depth)⟩

/-- Where a trail stops, reduction ends. -/
theorem exists_answered (hseed : ∀ e ∈ site.names, e.2.text?.isSome = true)
    (hr : r.At w W site names) (n : ℕ) : ∀ {s : Spot} {q? : Option Sane} {r₁ : Run},
    r₁.At w W site names → Sane.overriddenOf q? = s.overridden → s.after w site r n = none →
      ∃ depth, Answered (s.run w site depth q? r₁).1 := by
  induction n with
  | zero =>
    intro s q? r₁ _ _ hnone
    cases hnone
  | succ n ih =>
    intro s q? r₁ hr₁ hq hnone
    cases hnext : s.next w site r with
    | none => exact ⟨2, answered_of_next_eq_none hseed hr hr₁ hq hnext 0⟩
    | some s' =>
      rw [after, hnext] at hnone
      obtain ⟨d, q?', r₂, -, hr₂, hq', hrun⟩ := run_of_next_eq_some hr hr₁ hq hnext
      obtain ⟨depth, hanswered⟩ := ih hr₂ hq' hnone
      exact ⟨depth + d, (hrun depth).symm ▸ hanswered⟩

/-- A depth that is enough stays enough. -/
theorem run_of_le_of_ne_tooDeep {m n : ℕ} (hmn : m ≤ n)
    (hm : (s.run w site m q? r₁).1 ≠ .error (.crash .tooDeep)) :
    s.run w site n q? r₁ = s.run w site m q? r₁ := by
  rcases hread : site.destringify w s.text r₁ with ⟨c | h, r₂⟩
  · rw [run_of_read _ hread, run_of_read _ hread]
  · rw [run_of_read_ok _ hread] at hm ⊢
    rw [run_of_read_ok _ hread]
    exact reduce_of_le_of_ne_tooDeep hmn hm

/-- Where a trail goes on for ever, every depth is exhausted. -/
theorem run_eq_tooDeep (hr : r.At w W site names) (depth : ℕ) :
    ∀ {s : Spot} {q? : Option Sane} {r₁ : Run}, r₁.At w W site names →
      Sane.overriddenOf q? = s.overridden → (∀ n, s.after w site r n ≠ none) →
      (s.run w site depth q? r₁).1 = .error (.crash .tooDeep) := by
  have hsome {s : Spot} (hs : ∀ n, s.after w site r n ≠ none) : ∃ s', s.next w site r = some s' := by
    cases hnext : s.next w site r with
    | none => exact absurd (by rw [after, hnext]; rfl) (hs 1)
    | some s' => exact ⟨s', rfl⟩
  induction depth using Nat.strongRecOn with
  | ind depth ih =>
    intro s q? r₁ hr₁ hq hs
    obtain ⟨s', hnext⟩ := hsome hs
    have hs' (n : ℕ) : s'.after w site r n ≠ none := by
      have hsucc := hs (n + 1)
      rwa [after, hnext] at hsucc
    obtain ⟨d, q?', r₂, hd, hr₂, hq', hrun⟩ := run_of_next_eq_some hr hr₁ hq hnext
    by_cases hle : d ≤ depth
    · obtain ⟨n, rfl⟩ := Nat.exists_eq_add_of_le' hle
      rw [hrun]
      exact ih n (Nat.lt_add_of_pos_right hd) hr₂ hq' hs'
    · -- cut short before the next text is read, as reduction is right after reading it
      by_contra hne
      have hread := hrun 0
      rw [Nat.zero_add, run_of_le_of_ne_tooDeep (Nat.le_of_not_le hle) hne] at hread
      rw [hread] at hne
      rcases read_cases hr hr₂ s' with ⟨c, _, -, hnone⟩ | ⟨h, r₃, hread', -, -⟩
      · obtain ⟨s'', hnext'⟩ := hsome hs'
        rw [hnone] at hnext'
        cases hnext'
      · rw [run_of_read_ok _ hread'] at hne
        exact hne rfl

/-- Reduction from a text ends exactly if its trail does. -/
theorem answered_iff (hseed : ∀ e ∈ site.names, e.2.text?.isSome = true)
    (hr : r.At w W site names) (hr₁ : r₁.At w W site names)
    (hq : Sane.overriddenOf q? = s.overridden) :
    (∃ depth, Answered (s.run w site depth q? r₁).1) ↔ ∃ n, s.after w site r n = none := by
  refine ⟨fun ⟨depth, hanswered⟩ ↦ ?_, fun ⟨n, hn⟩ ↦ exists_answered hseed hr n hr₁ hq hn⟩
  by_contra hnone
  exact hanswered .tooDeep (run_eq_tooDeep hr depth hr₁ hq fun n hn ↦ hnone ⟨n, hn⟩)

end Runs

/-! ### Trails that come back -/

section Trails

variable {w W : World} {site : Site} {names : Label → String} {s s' : Spot} {r : Run} {m n : ℕ}

/-- Trails can be followed in two parts. -/
theorem after_add (w : World) (site : Site) (r : Run) (n : ℕ) :
    ∀ (m : ℕ) (s : Spot),
      s.after w site r (m + n) = (s.after w site r m).bind (after w site r n)
  | 0, s => by rw [Nat.zero_add]; rfl
  | m + 1, s => by
    rw [Nat.succ_add]
    show (s.next w site r).bind (after w site r (m + n)) = _
    rw [after, Option.bind_assoc]
    exact congrArg _ (funext fun s' ↦ after_add w site r n m s')

theorem after_succ (w : World) (site : Site) (r : Run) (n : ℕ) (s : Spot) :
    s.after w site r (n + 1) = (s.after w site r n).bind (next w site r) := by
  rw [after_add]
  exact congrArg _ (funext fun s' ↦ Option.bind_fun_some _)

/-- A trail that has stopped does not go on. -/
theorem after_eq_none_of_le (hmn : m ≤ n) (hm : s.after w site r m = none) :
    s.after w site r n = none := by
  rw [← Nat.add_sub_of_le hmn, after_add, hm]
  rfl

/-- A trail that comes back to where it was goes round for ever. -/
theorem after_ne_none_of_eq (hmn : m < n) (heq : s.after w site r m = s.after w site r n)
    (hm : s.after w site r m ≠ none) (k : ℕ) : s.after w site r k ≠ none := by
  induction k using Nat.strongRecOn with
  | ind k ih =>
    by_cases hk : k < n
    · rw [heq] at hm
      exact fun hnone ↦ hm (after_eq_none_of_le hk.le hnone)
    · have hback : s.after w site r k = s.after w site r (m + (k - n)) := by
        rw [after_add, heq, ← after_add, Nat.add_sub_of_le (Nat.le_of_not_lt hk)]
      rw [hback]
      exact ih _ (by omega)

/-- A text leads to one that a name stands for, or to the text of an override that has not been
applied. -/
theorem next_cases (hseed : ∀ e ∈ site.names, e.2.text?.isSome = true) (hr : r.At w W site names)
    (hnext : s.next w site r = some s') :
    s'.text ∈ site.texts ∧ s'.overridden = s.overridden ∨
      ∃ name, name ∉ s.overridden ∧ site.config.overrides.get? name = some s'.text ∧
        s'.overridden = s.overridden ++ [name] := by
  rcases hread : site.destringify w s.text r with ⟨c | h, r₁⟩ <;> rw [next, hread] at hnext
  · cases hnext
  have hlead : site.lead s.overridden h = some s' := hnext
  unfold Site.lead at hlead
  split at hlead
  · rename_i k hflat
    have hmem : k ∈ leavesAll [h] := mem_of_mem_distinct (hflat ▸ List.mem_singleton_self k)
    obtain ⟨h', hh', hk⟩ := mem_leavesAll.mp hmem
    rw [List.mem_singleton.mp hh'] at hk
    have hundeclared := Site.isUndeclared_of_destringify hseed hr hread k hk
    cases k with
    | deferred l text =>
      cases hlead
      exact .inl ⟨of_decide_eq_true hundeclared, rfl⟩
    | ofClass c =>
      dsimp only [Site.leafLead] at hlead
      split at hlead
      · cases hlead
      · rename_i hfresh
        obtain ⟨text, hget, rfl⟩ := Option.map_eq_some_iff.mp hlead
        exact .inr ⟨c.name, hfresh, hget, rfl⟩
    | _ => cases hlead
  · cases hlead

/-- What holds of all that comes up on a trail: the text is one of finitely many, and each override
has been applied at most once. -/
structure Bounded (site : Site) (texts : List String) (s : Spot) : Prop where
  text : s.text ∈ texts
  nodup : s.overridden.Nodup
  within : s.overridden ⊆ site.config.overrides.keys

theorem Bounded.next {texts : List String} (hseed : ∀ e ∈ site.names, e.2.text?.isSome = true)
    (hr : r.At w W site names) (hsite : site.texts ⊆ texts)
    (hoverrides : site.config.overrides.values ⊆ texts) (hs : s.Bounded site texts)
    (hnext : s.next w site r = some s') : s'.Bounded site texts := by
  rcases next_cases hseed hr hnext with ⟨htext, heq⟩ | ⟨name, hfresh, hget, heq⟩
  · exact ⟨hsite htext, heq ▸ hs.nodup, heq ▸ hs.within⟩
  · have hentry := Dict.mem_of_get? hget
    refine ⟨hoverrides (List.mem_map_of_mem hentry), ?_, ?_⟩ <;> rw [heq]
    · exact List.nodup_append.mpr ⟨hs.nodup, List.nodup_singleton name, fun a ha b hb hab ↦
        hfresh (List.mem_singleton.mp hb ▸ hab ▸ ha)⟩
    · exact List.append_subset.mpr ⟨hs.within,
        List.cons_subset.mpr ⟨List.mem_map_of_mem hentry, List.nil_subset _⟩⟩

theorem Bounded.after {texts : List String} (hseed : ∀ e ∈ site.names, e.2.text?.isSome = true)
    (hr : r.At w W site names) (hsite : site.texts ⊆ texts)
    (hoverrides : site.config.overrides.values ⊆ texts) (hs : s.Bounded site texts) :
    ∀ {n : ℕ} {s' : Spot}, s.after w site r n = some s' → s'.Bounded site texts
  | 0, _, hn => by cases hn; exact hs
  | n + 1, s', hn => by
    rw [after_succ] at hn
    obtain ⟨t, ht, hnext⟩ := Option.bind_eq_some_iff.mp hn
    exact (Bounded.after hseed hr hsite hoverrides hs ht).next hseed hr hsite hoverrides hnext

/-- Only finitely much can come up on a trail. -/
theorem finite_bounded (site : Site) (texts : List String) :
    {s : Spot | s.Bounded site texts}.Finite := by
  let orders := site.config.overrides.keys.sublists.flatMap List.permutations
  refine ((texts ×ˢ orders).map fun e ↦ (⟨e.1, e.2⟩ : Spot)).finite_toSet.subset fun s hs ↦ ?_
  obtain ⟨l, hperm, hsub⟩ := List.subperm_of_subset hs.nodup hs.within
  refine List.mem_map.mpr ⟨(s.text, s.overridden), List.mem_product.mpr ⟨hs.text, ?_⟩, rfl⟩
  exact List.mem_flatMap.mpr ⟨l, List.mem_sublists.mpr hsub, List.mem_permutations.mpr hperm.symm⟩

end Trails

end Spot

/-! ### Sanitizing texts -/

/-- Where the trail of a text is some steps later, while no override has been applied before. -/
def Site.trail (w : World) (site : Site) (r : Run) (text : String) (n : ℕ) : Option Spot :=
  Spot.after w site r n ⟨text, []⟩

section Root

variable {w W : World} {site : Site} {names : Label → String} {r : Run}

/-- A trail stops exactly if it does not come back to where it was. -/
theorem Site.trail_stops_iff (hseed : ∀ e ∈ site.names, e.2.text?.isSome = true)
    (hr : r.At w W site names) (text : String) :
    (∃ n, site.trail w r text n = none) ↔
      ∀ m n, m < n → site.trail w r text m = site.trail w r text n →
        site.trail w r text m = none := by
  constructor
  · rintro ⟨k, hk⟩ m n hmn heq
    by_contra hm
    exact Spot.after_ne_none_of_eq hmn heq hm k hk
  · intro hreturns
    by_contra hnone
    have hsome (n : ℕ) : ∃ s, site.trail w r text n = some s :=
      Option.ne_none_iff_exists'.mp fun hn ↦ hnone ⟨n, hn⟩
    choose f hf using hsome
    -- the trail never comes back, so that it would be somewhere else at each step
    have hinjective : Function.Injective f := by
      intro m n hmn
      have heq : site.trail w r text m = site.trail w r text n := by rw [hf m, hf n, hmn]
      rcases Nat.lt_trichotomy m n with hlt | rfl | hlt
      · exact absurd ((hf m).symm.trans (hreturns m n hlt heq)) nofun
      · rfl
      · exact absurd ((hf n).symm.trans (hreturns n m hlt heq.symm)) nofun
    let texts := text :: (site.texts ++ site.config.overrides.values)
    have hbounded (n : ℕ) : (f n).Bounded site texts := by
      refine Spot.Bounded.after hseed hr ?_ ?_
        ⟨List.mem_cons_self, List.nodup_nil, List.nil_subset _⟩ (hf n)
      · exact fun t ht ↦ List.mem_cons_of_mem _ (List.mem_append_left _ ht)
      · exact fun t ht ↦ List.mem_cons_of_mem _ (List.mem_append_right _ ht)
    exact Set.infinite_of_injective_forall_mem hinjective hbounded
      (Spot.finite_bounded site texts)

/-- Reduction of a text starts where its trail does. -/
theorem sanitizeRoot_string (w : World) (site : Site) (text label : String) (r : Run) :
    ∃ q? r₁, r.Quiet r₁ ∧ Sane.overriddenOf q? = [] ∧
      ∀ depth, sanitizeRoot w site (depth + 1) (.string text) label r =
        mapFailure (Failure.report label) (Spot.run w site depth ⟨text, []⟩ q?) r₁ := by
  obtain ⟨l, r₁, hcoerce, hquiet⟩ := Run.coerceRoot_string w text r
  obtain ⟨q?, r₂, hquiet', hq, hreads⟩ := reduce_of_leafLead (w := w)
    (rfl : site.leafLead (Sane.overriddenOf none) (.deferred l text) = some ⟨text, []⟩) r₁
  refine ⟨q?, r₂, trans_of _ hquiet hquiet', hq, fun depth ↦ ?_⟩
  rw [sanitizeRoot_eq hcoerce, mapFailure, mapFailure, hreads]
  rfl

/-- Every depth is exhausted by a text whose trail goes on for ever. -/
theorem sanitizeRoot_eq_tooDeep (hr : r.At w W site names) {text : String}
    (htrail : ∀ n, site.trail w r text n ≠ none) (depth : ℕ) (label : String) :
    (sanitizeRoot w site depth (.string text) label r).1 = .error (.crash .tooDeep) := by
  cases depth with
  | zero => rfl
  | succ depth =>
    obtain ⟨q?, r₁, hquiet, hq, hrun⟩ := sanitizeRoot_string w site text label r
    rw [hrun, report_eq_crash_iff]
    exact Spot.run_eq_tooDeep hr depth (hr.quiet hquiet) hq htrail

/-- If names stand for texts, sanitizing a text gives a model or a diagnostic, whatever the depth from
some depth on, exactly if the trail of the text does not come back to where it was. -/
theorem sanitizeRoot_ends_iff (hseed : ∀ e ∈ site.names, e.2.text?.isSome = true)
    (hr : r.At w W site names) (text label : String) :
    (∃ depth out r', (∀ n, depth ≤ n → sanitizeRoot w site n (.string text) label r = (out, r')) ∧
      ∀ c, out ≠ .error (.crash c)) ↔
      ∀ m n, m < n → site.trail w r text m = site.trail w r text n →
        site.trail w r text m = none := by
  obtain ⟨q?, r₁, hquiet, hq, hrun⟩ := sanitizeRoot_string w site text label r
  rw [← Site.trail_stops_iff hseed hr text]
  refine Iff.trans ?_ (Spot.answered_iff hseed hr (hr.quiet hquiet) (s := ⟨text, []⟩) hq)
  constructor
  · rintro ⟨depth, out, r', hends, hcrash⟩
    refine ⟨depth, fun c hc ↦ hcrash c ?_⟩
    have hreport : (mapFailure (Failure.report label) (Spot.run w site depth ⟨text, []⟩ q?) r₁).1 =
        .error (.crash c) := report_eq_crash_iff.mpr hc
    rwa [← hrun, hends _ (Nat.le_succ depth)] at hreport
  · rintro ⟨depth, hanswered⟩
    refine ⟨depth + 1, (sanitizeRoot w site (depth + 1) (.string text) label r).1,
      (sanitizeRoot w site (depth + 1) (.string text) label r).2, fun n hn ↦ ?_, fun c hc ↦ ?_⟩
    · obtain ⟨k, rfl⟩ := Nat.exists_eq_add_of_le' (Nat.le_of_add_left_le hn)
      have hstable := Spot.run_of_le_of_ne_tooDeep (Nat.le_of_succ_le_succ hn) (hanswered .tooDeep)
      rw [hrun, hrun, mapFailure, mapFailure, hstable]
    · rw [hrun] at hc
      exact hanswered c (report_eq_crash_iff.mp hc)

end Root

/-! ### Names that stand for texts -/

namespace Seeded

/-- A site with two names that stand for texts and an override that stands for the class itself. -/
def site : Site :=
  { Repeated.site with
    config := ⟨false, Dict.ofList [("Date", "Date")], defaultScopeName⟩
    names := [("Event", .deferred 50 "Time | Time"), ("Time", .deferred 51 "Date")] }

/-- A site with a name that stands for itself. -/
def circular : Site := { Repeated.site with names := [("Event", .deferred 50 "Event")] }

/-- A run in which nothing has been read yet. -/
def start : Run := ⟨{ Store.initial with next := 52 }, .fresh, none, []⟩

theorem at_start (site : Site) : start.At .builtin (World.builtin.under Store.initial) site
    (Store.initial.shown Builtin.classes) :=
  ⟨rfl, rfl, Registry.sound_empty, nofun⟩

end Seeded

/-- The trail of a name goes on through the other one to a class, whose override is applied once. -/
theorem sanitizeRoot_ends_of_seeded :
    ∃ depth out r', (∀ n, depth ≤ n →
      sanitizeRoot .builtin Seeded.site n (.string "Event") "" Seeded.start = (out, r')) ∧
      ∀ c, out ≠ .error (.crash c) := by
  have hseed : ∀ e ∈ Seeded.site.names, e.2.text?.isSome = true := by decide
  have hstops : Seeded.site.trail .builtin Seeded.start "Event" 4 = none := by decide +kernel
  exact (sanitizeRoot_ends_iff hseed (Seeded.at_start _) "Event" "").mpr
    ((Site.trail_stops_iff hseed (Seeded.at_start _) "Event").mp ⟨4, hstops⟩)

/-- A name that stands for itself leads back to itself, so that no depth is enough for an answer. -/
theorem sanitizeRoot_circular_unanswered : ¬ ∃ depth, ∀ c,
    (sanitizeRoot .builtin Seeded.circular depth (.string "Event") "" Seeded.start).1 ≠
      .error (.crash c) := by
  have hback : Seeded.circular.trail .builtin Seeded.start "Event" 0 =
      Seeded.circular.trail .builtin Seeded.start "Event" 1 := by decide +kernel
  rintro ⟨depth, hcrash⟩
  exact hcrash .tooDeep (sanitizeRoot_eq_tooDeep (Seeded.at_start _)
    (Spot.after_ne_none_of_eq Nat.one_pos hback nofun) depth "")

end TypeHints
