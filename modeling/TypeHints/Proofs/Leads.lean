import TypeHints.Proofs.Arguments
import TypeHints.Proofs.Termination

/-!
# Where hints lead

Reduction of a text goes on with what the text stands for, and so does reduction of a class with an
override that has not been applied yet, and that of a union whose only member is such a hint
(`Site.lead`). Hints that are alike lead to one text (`Site.lead_congr`). A `Spot` is such a text
with the names of the classes whose overrides have been applied on the way there.

A hint that leads somewhere is reduced by reading that text, after a step or two (`reduce_of_lead`).
Where all names of a site stand for texts, what texts stand for needs no declaration; so a hint that
leads nowhere is reduced, or refused, in at most two steps (`answered_of_lead_eq_none`). The second
step is that of the only member of a union.

Likeness is compared through keys. Of the hints with one key, all or none are texts or classes,
since the first characters of keys tell kinds apart as far as needed
(`Hint.isLeading_of_stableKey_eq`). So the only member of a flat union corresponds to that of an
alike one, also where the unions repeat members in different numbers and orders
(`Hint.AlikeAll.flat_singleton`).

The engine does not come in here: which representative takes the place of a union with two members
or more is no matter, for such a union leads nowhere.
-/

namespace TypeHints

open Attempt Hint
open ForwardRef (Namesake namesake_refl namesake_equivalence)

/-! ### Where a hint leads -/

/-- A text on a trail, with the names of the classes whose overrides have been applied on the way
there. -/
structure Spot where
  text : String
  overridden : List String
deriving DecidableEq

namespace Site

/-- The text that the reduction of a text or a class goes on with. -/
def leafLead (site : Site) (overridden : List String) : Hint → Option Spot
  | .deferred _ text => some ⟨text, overridden⟩
  | .ofClass c =>
    if c.name ∈ overridden then none
    else (site.config.overrides.get? c.name).map fun text ↦ ⟨text, overridden ++ [c.name]⟩
  | _ => none

/-- The text that the reduction of a hint goes on with: a union leads where its only member does. -/
def lead (site : Site) (overridden : List String) (h : Hint) : Option Spot :=
  match flatMembers [h] with
  | [k] => site.leafLead overridden k
  | _ => none

end Site

/-! ### Likeness -/

namespace Hint

/-- Whether a hint is a text or a class. -/
def isLeading : Hint → Bool
  | .deferred _ _ | .ofClass _ => true
  | _ => false

/-- The first character of the keys of hints of one kind. -/
def initial : Hint → Char
  | .any | .alias _ => 'a'
  | .primitive _ => 'p'
  | .ofClass _ => 'c'
  | .literal _ _ => 'l'
  | .union _ _ => 'u'
  | .tuple _ _ | .parameter _ => 't'
  | .template _ => 'g'
  | .subscripted _ _ _ => 's'
  | .forwardRef _ => 'f'
  | .deferred _ _ => 'd'

/-- The key of a hint begins with the character of its kind. -/
theorem head?_stableKey (h : Hint) : h.stableKey.toList.head? = some h.initial := by
  cases h <;> simp only [stableKey, key, nominalKey, originKey, initial, String.toList_append] <;> rfl

/-- Texts and classes are told from all others by the beginning of their keys. -/
theorem isLeading_of_stableKey_eq {h k : Hint} (hk : h.stableKey = k.stableKey)
    (hh : h.isLeading = true) : k.isLeading = true := by
  have hinitial : h.initial = k.initial := by
    have heq := congrArg (fun s ↦ s.toList.head?) hk
    rw [head?_stableKey, head?_stableKey] at heq
    exact Option.some.inj heq
  cases h <;> cases hh <;> cases k <;> first
    | rfl
    | cases hinitial

section Likeness

variable {ρ : ForwardRef → ForwardRef → Prop} {h k : Hint} {hs ks : List Hint}

theorem Alike.isLeading_eq (hk : Alike ρ false h k) : h.isLeading = k.isLeading := by
  cases hk <;> rfl

/-- Texts and classes that are alike have one key. -/
theorem Alike.stableKey_eq_of_isLeading (hk : Alike ρ false h k) (hh : h.isLeading = true) :
    h.stableKey = k.stableKey := by
  cases hk <;> first
    | rfl
    | cases hh

theorem distinct_eq_nil_iff {seen : List String} (hs : List Hint) :
    distinct seen hs = [] ↔ ∀ h ∈ hs, h.stableKey ∈ seen := by
  induction hs with
  | nil => simp [distinct]
  | cons h hs ih =>
    unfold distinct
    split
    · rename_i hmem
      rw [ih, List.forall_mem_cons, and_iff_right hmem]
    · rename_i hmem
      refine iff_of_false (List.cons_ne_nil _ _) fun hall ↦ hmem ?_
      exact hall h List.mem_cons_self

/-- The only member of a union that is a text or a class has one that is alike in an alike union. -/
theorem AlikeAll.flat_singleton (hk : AlikeAll ρ false hs ks) (hflat : flatMembers hs = [h])
    (hh : h.isLeading = true) : ∃ k, flatMembers ks = [k] ∧ Alike ρ false h k := by
  have hleaves := alikeAll_iff_forall₂.mp hk.leavesAll
  unfold flatMembers at hflat ⊢
  generalize Hint.leavesAll hs = xs at hleaves hflat
  generalize Hint.leavesAll ks = ys at hleaves ⊢
  cases hleaves with
  | nil => cases hflat
  | @cons x y xs ys hxy hrest =>
    rw [Hint.distinct, if_neg List.not_mem_nil] at hflat ⊢
    obtain ⟨rfl, hnil⟩ := List.cons.inj hflat
    refine ⟨y, congrArg (y :: ·) ((distinct_eq_nil_iff _).mpr fun z hz ↦ ?_), hxy⟩
    obtain ⟨i, hi, rfl⟩ := List.mem_iff_getElem.mp hz
    have hi' : i < xs.length := hrest.length_eq ▸ hi
    have hkey := List.mem_singleton.mp ((distinct_eq_nil_iff _).mp hnil _ (List.getElem_mem hi'))
    have halike : Alike ρ false xs[i] ys[i] := hrest.get hi' hi
    rw [List.mem_singleton, ← halike.stableKey_eq_of_isLeading
      (isLeading_of_stableKey_eq hkey.symm hh), hkey, hxy.stableKey_eq_of_isLeading hh]

end Likeness

end Hint

namespace Site

variable {ρ : ForwardRef → ForwardRef → Prop} {site : Site} {overridden : List String} {h k : Hint}

/-- Alike texts and classes lead to one text. -/
theorem leafLead_congr (hk : Hint.Alike ρ false h k) :
    site.leafLead overridden h = site.leafLead overridden k := by
  cases hk <;> rfl

theorem leafLead_eq_none (hh : h.isLeading = false) : site.leafLead overridden h = none := by
  cases h <;> first
    | rfl
    | cases hh

theorem lead_eq_none (hh : ∀ k, flatMembers [h] = [k] → k.isLeading = false) :
    site.lead overridden h = none := by
  unfold lead
  split
  · exact leafLead_eq_none (hh _ ‹_›)
  · rfl

/-- Alike hints lead to one text. -/
theorem lead_congr (hρ : ∀ r s, ρ r s → ρ s r) (hk : Hint.Alike ρ false h k) :
    site.lead overridden h = site.lead overridden k := by
  by_cases hh : ∃ x, flatMembers [h] = [x] ∧ x.isLeading = true
  · obtain ⟨x, hx, hlead⟩ := hh
    obtain ⟨y, hy, hxy⟩ := (AlikeAll.cons hk .nil).flat_singleton hx hlead
    simp only [lead, hx, hy, leafLead_congr hxy]
  · rw [lead_eq_none fun x hx ↦ Bool.eq_false_iff.mpr fun hlead ↦ hh ⟨x, hx, hlead⟩,
      lead_eq_none fun y hy ↦ Bool.eq_false_iff.mpr fun hlead ↦ hh ?_]
    obtain ⟨x, hx, hyx⟩ := (AlikeAll.cons (hk.symm hρ) .nil).flat_singleton hy hlead
    exact ⟨x, hx, hyx.isLeading_eq ▸ hlead⟩

end Site

/-! ### Hints of texts -/

namespace Hint

/-- Whether a hint is reduced without declarations, and is one of some texts if it is a text. -/
def isUndeclared (texts : List String) : Hint → Bool
  | .parameter _ | .alias _ | .subscripted _ (.alias _) _ => false
  | .deferred _ text => text ∈ texts
  | _ => true

theorem isUndeclared_of_nil {texts : List String} {h : Hint} (hh : h.isUndeclared [] = true) :
    h.isUndeclared texts = true := by
  unfold isUndeclared at hh ⊢
  split <;> first
    | rfl
    | cases hh

/-- The leaves of what is read are of this kind if those of names are. -/
theorem composes_isUndeclared (texts : List String) :
    Hint.Composes fun h ↦ ∀ k ∈ h.leaves, k.isUndeclared texts = true where
  any _ hk := List.mem_singleton.mp hk ▸ rfl
  ofClass _ _ hk := List.mem_singleton.mp hk ▸ rfl
  forwardRef _ _ hk := List.mem_singleton.mp hk ▸ rfl
  template _ _ hk := List.mem_singleton.mp hk ▸ rfl
  literal _ _ _ hk := List.mem_singleton.mp hk ▸ rfl
  union _ _ hall k hk := by
    obtain ⟨h, hh, hk⟩ := mem_leavesAll.mp hk
    exact hall h hh k hk
  tuple _ _ _ _ hk := List.mem_singleton.mp hk ▸ rfl
  subscripted _ o _ ho _ _ hk := by
    rw [List.mem_singleton.mp hk]
    cases o with
    | template _ | forwardRef _ => rfl
    | «alias» a => exact ho (.alias a) (List.mem_singleton_self _)

end Hint

/-- The texts that the names of a place stand for. -/
def Site.texts (site : Site) : List String := site.names.filterMap fun e ↦ e.2.text?

/-- Where all names stand for texts, reading a text needs no declaration, and what it leads to is one
of these texts. -/
theorem Site.isUndeclared_of_destringify {w W : World} {site : Site} {names : Label → String}
    {text : String} {h : Hint} {r r₁ : Run} (hseed : ∀ e ∈ site.names, e.2.text?.isSome = true)
    (hr : r.At w W site names) (hread : site.destringify w text r = (.ok h, r₁)) :
    ∀ k ∈ h.leaves, k.isUndeclared site.texts = true := by
  have hcomposes := composes_isUndeclared site.texts
  refine value_of_destringify hcomposes hr (fun base hbase ↦ ?_) hread
  refine startScope_all (fun e he ↦ ?_) hcomposes.ofClass (fun e he ↦ ?_) hbase
  · have hbuiltin : ∀ e ∈ Builtin.scope, e.2.isUnion = false ∧ e.2.isUndeclared [] = true := by
      decide
    obtain ⟨hunion, hundeclared⟩ := hbuiltin e he
    rw [leaves_of_not_isUnion hunion]
    exact fun k hk ↦ List.mem_singleton.mp hk ▸ isUndeclared_of_nil hundeclared
  · obtain ⟨name, k⟩ := e
    cases k with
    | deferred l text =>
      intro k hk
      rw [List.mem_singleton.mp hk]
      exact decide_eq_true (List.mem_filterMap.mpr ⟨_, he, rfl⟩)
    | _ => cases hseed _ he

/-! ### Steps -/

/-- Reduction from a text on: the text is read, and what it stands for is reduced. -/
def Spot.run (w : World) (site : Site) (depth : Nat) (s : Spot) (p? : Option Sane) :
    Attempt Run Failure Sane := do
  reduce w site depth (← (site.destringify w s.text).mapFailure .cause) p?

/-- An outcome is a value, or a failure that is reported. -/
def Answered {α : Type} (x : Except Failure α) : Prop := ∀ c, x ≠ .error (.crash c)

theorem answered_ok {α : Type} (a : α) : Answered (.ok a) := by
  rintro c ⟨⟩

theorem answered_cause {α : Type} (c : Cause) : Answered (.error (.cause c) : Except Failure α) := by
  rintro d ⟨⟩

section Steps

variable {w : World} {site : Site} {h : Hint} {p? : Option Sane} {s : Spot} {r : Run}

/-- A text or a class is reduced by reading the text that it leads to. -/
theorem reduce_of_leafLead (hs : site.leafLead (Sane.overriddenOf p?) h = some s) (r : Run) :
    ∃ q? r₁, r.Quiet r₁ ∧ Sane.overriddenOf q? = s.overridden ∧
      ∀ depth, reduce w site (depth + 1) h p? r = s.run w site depth q? r₁ := by
  have hreads {q? : Option Sane} {r₁ : Run} (hstep : reduceStep w site h p? r =
      ((site.destringify w s.text).mapFailure Failure.cause >>= fun k ↦ pure (Stage.goOn k q?)) r₁)
      (depth : Nat) : reduce w site (depth + 1) h p? r = s.run w site depth q? r₁ := by
    unfold Spot.run
    rcases hread : (site.destringify w s.text).mapFailure Failure.cause r₁ with ⟨f | k, r₂⟩
    · rw [reduce_succ_error (hstep.trans (bind_apply_error hread)), bind_apply_error hread]
    · rw [reduce_succ_goOn (hstep.trans (bind_apply_ok hread)), bind_apply_ok hread]
  cases h with
  | deferred l text =>
    cases hs
    exact ⟨p?, r, refl_of _ r, rfl, hreads rfl⟩
  | ofClass c =>
    dsimp only [Site.leafLead] at hs
    split at hs
    · cases hs
    rename_i hfresh
    obtain ⟨text, hget, rfl⟩ := Option.map_eq_some_iff.mp hs
    obtain ⟨anc, r₁, hanc, hon, hquiet⟩ := Run.ancestry_apply (.ofClass c) p? r
    obtain ⟨r₂, hlog, hquiet'⟩ := Run.log_apply (ε := Failure) site
      ("overriding " ++ c.name ++ " with " ++ Text.quote text) r₁
    have hfree : c.name ∉ anc.overridden := hon.overridden ▸ hfresh
    have hlabel : (Run.fresh : Attempt Run Failure Label) r₂ =
        (.ok r₂.store.next, (Run.fresh r₂ : Except Failure Label × Run).2) := rfl
    refine ⟨some (anc.overriding r₂.store.next c.name), _, trans_of _ hquiet
      (trans_of _ hquiet' (Run.quiet_fresh.of_run hlabel)), ?_, hreads ?_⟩
    · simp only [Sane.overriddenOf_some, Sane.overriding, hon.overridden, if_neg hfresh]
    · show reduceClass w site c p? r = _
      rw [reduceClass, hget]
      dsimp only
      rw [bind_apply_ok hanc, if_neg hfree, bind_apply_ok hlog, bind_apply_ok hlabel]
  | _ => cases hs

/-- A union with one member is reduced by reducing it. -/
theorem reduce_of_flat_singleton {l : Label} {hs : List Hint} {k : Hint}
    (hflat : flatMembers hs = [k]) (hany : k ≠ .any) (depth : Nat) :
    reduce w site (depth + 1) (.union l hs) p? r = reduce w site depth k p? r := by
  refine reduce_succ_goOn ?_
  show reduceUnion l hs p? r = _
  rw [reduceUnion, hflat, if_neg fun hmem ↦ hany (List.mem_singleton.mp hmem).symm]
  rfl

/-- The members of a union, and any other hint alone. -/
theorem flatMembers_union (l : Label) (hs : List Hint) :
    flatMembers [.union l hs] = flatMembers hs := by
  show distinct [] (leavesAll hs ++ []) = _
  rw [List.append_nil]
  rfl

theorem flatMembers_of_not_isUnion (hu : h.isUnion = false) : flatMembers [h] = [h] := by
  show distinct [] (h.leaves ++ []) = _
  rw [leaves_of_not_isUnion hu]
  rfl

/-- A hint is reduced by reading the text that it leads to, after a step or two. -/
theorem reduce_of_lead (hs : site.lead (Sane.overriddenOf p?) h = some s) (r : Run) :
    ∃ d q? r₁, 0 < d ∧ r.Quiet r₁ ∧ Sane.overriddenOf q? = s.overridden ∧
      ∀ depth, reduce w site (depth + d) h p? r = s.run w site depth q? r₁ := by
  unfold Site.lead at hs
  split at hs
  · rename_i k hflat
    obtain ⟨q?, r₁, hquiet, hnames, hreads⟩ := reduce_of_leafLead hs r (w := w)
    cases hu : h.isUnion with
    | false =>
      rw [flatMembers_of_not_isUnion hu] at hflat
      cases hflat
      exact ⟨1, q?, r₁, Nat.one_pos, hquiet, hnames, hreads⟩
    | true =>
      cases h with
      | union l hs' =>
        rw [flatMembers_union] at hflat
        have hany : k ≠ .any := by
          rintro rfl
          cases hs
        exact ⟨2, q?, r₁, Nat.two_pos, hquiet, hnames, fun depth ↦
          (reduce_of_flat_singleton hflat hany (depth + 1)).trans (hreads depth)⟩
      | _ => cases hu
  · cases hs

/-- A hint that stands for itself is answered by its model. -/
theorem answered_of_settle {k : Hint} {t? : Option Table} (depth : Nat)
    (hstep : reduceStep w site h p? r = Run.settle k p? t? r) :
    Answered (reduce w site (depth + 1) h p? r).1 := by
  rw [reduce_succ_done (hstep.trans rfl)]
  exact answered_ok _

/-- What is no union, needs no declaration and leads nowhere is reduced in one step. -/
theorem answered_of_leafLead_eq_none {texts : List String} (hu : h.isUnion = false)
    (hh : h.isUndeclared texts = true) (hs : site.leafLead (Sane.overriddenOf p?) h = none)
    (depth : Nat) : Answered (reduce w site (depth + 1) h p? r).1 := by
  have happlied (l : Label) (o : Origin) (args : List Hint)
      (ho : (Hint.subscripted l o args).isUndeclared texts = true) :
      Answered (reduce w site (depth + 1) (.subscripted l o args) p? r).1 := by
    cases o with
    | template t =>
      rcases reduceStep_template_cases w site l t args p? r with ⟨c, r₁, -, hstep⟩ |
        ⟨table?, r₁, m, r₂, -, hstep⟩
      · rw [reduce_succ_error hstep]
        exact answered_cause _
      · rw [reduce_succ_done hstep]
        exact answered_ok _
    | «alias» _ => cases ho
    | forwardRef _ => exact answered_of_settle depth rfl
  cases h with
  | any =>
    rw [reduce_succ_done rfl]
    exact answered_ok _
  | ofClass c =>
    dsimp only [Site.leafLead] at hs
    cases hget : site.config.overrides.get? c.name with
    | none => exact answered_of_settle depth (by rw [reduceStep, reduceClass, hget])
    | some text =>
      rw [hget] at hs
      split at hs
      · rename_i hmem
        obtain ⟨anc, r₁, hanc, hon, -⟩ := Run.ancestry_apply (.ofClass c) p? r
        have hstep : reduceStep w site (.ofClass c) p? r =
            Run.settle (.ofClass c) p? none r₁ := by
          show reduceClass w site c p? r = _
          rw [reduceClass, hget]
          dsimp only
          rw [bind_apply_ok hanc, if_pos (hon.overridden ▸ hmem)]
        rw [reduce_succ_done (hstep.trans rfl)]
        exact answered_ok _
      · cases hs
  | subscripted l o args => exact happlied l o args hh
  | union _ _ => cases hu
  | parameter _ => cases hh
  | «alias» _ => cases hh
  | deferred _ _ => cases hs
  | primitive _ | literal _ _ | tuple _ _ | template _ | forwardRef _ =>
    exact answered_of_settle depth rfl

/-- What needs no declaration and leads nowhere is reduced in at most two steps. -/
theorem answered_of_lead_eq_none {texts : List String}
    (hh : ∀ k ∈ h.leaves, k.isUndeclared texts = true)
    (hs : site.lead (Sane.overriddenOf p?) h = none) (depth : Nat) :
    Answered (reduce w site (depth + 2) h p? r).1 := by
  cases hu : h.isUnion with
  | false =>
    rw [leaves_of_not_isUnion hu] at hh
    unfold Site.lead at hs
    rw [flatMembers_of_not_isUnion hu] at hs
    exact answered_of_leafLead_eq_none hu (hh h (List.mem_singleton_self h)) hs (depth + 1)
  | true =>
    cases h with
    | union l hs' =>
      unfold Site.lead at hs
      rw [flatMembers_union] at hs
      by_cases hone : ∃ k, flatMembers hs' = [k] ∧ k ≠ .any
      · obtain ⟨k, hflat, hany⟩ := hone
        rw [hflat] at hs
        have hmem : k ∈ leavesAll hs' := mem_of_mem_distinct (hflat ▸ List.mem_singleton_self k)
        rw [reduce_of_flat_singleton hflat hany]
        exact answered_of_leafLead_eq_none (isUnion_of_mem_leavesAll hs' hmem) (hh k hmem) hs depth
      · have hstep : (∃ m r₁, reduceStep w site (.union l hs') p? r = (.ok (.done m), r₁)) ∨
            reduceStep w site (.union l hs') p? r = (.error (.cause .emptyUnion), r) := by
          show (∃ m r₁, reduceUnion l hs' p? r = _) ∨ reduceUnion l hs' p? r = _
          unfold reduceUnion
          by_cases hany : Hint.any ∈ flatMembers hs'
          · rw [if_pos hany]
            exact .inl ⟨_, _, rfl⟩
          · rw [if_neg hany]
            rcases hm : flatMembers hs' with - | ⟨k, - | ⟨k', ks⟩⟩
            · exact .inr rfl
            · rw [hm, List.mem_singleton] at hany
              exact absurd ⟨k, hm, Ne.symm hany⟩ hone
            · dsimp only
              unfold canonicalUnion
              split <;> exact .inl ⟨_, _, rfl⟩
        rcases hstep with ⟨m, r₁, hstep⟩ | hstep
        · rw [reduce_succ_done hstep]
          exact answered_ok _
        · rw [reduce_succ_error hstep]
          exact answered_cause _
    | _ => cases hu

end Steps

end TypeHints
