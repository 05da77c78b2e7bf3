import TypeHints.Proofs.Growth
import TypeHints.Proofs.Keys

/-!
# The form of reduced hints

A reduced hint is what checks are made from, so whoever takes it apart relies on its form: it is
none of the hints that stand for another one, it admits everything just when it is the ignorable
model, and a union in it is flat. `Sane.Normal` says so, and `normal_reduce` shows it of every model
that reduction gives.

A union may be replaced by an earlier one with its key. The representative need not be flat itself,
for keys do not show how a union was nested, but it is a union, since no other kind has keys that
begin as those of unions do (`Hint.isUnion_of_key_eq`). So what is said of a union is that it has
the key of a flat one (`Hint.HasFlatKey`), and `normal_reduce_to_nested` has a union of which no
more can be said.

Interners are those that come about by interning (`Interner.Reachable`). Of these only soundness is
used, and reduction keeps it, so the argument goes step by step: a step that ends well ends in the
ignorable model, in a template, or in a hint that stands for itself. Each kind of hint has its own
lemma. Parameters and aliases never end but in the ignorable model; a class, a literal and the like
end as they are. The induction is on the depth, and the steps that go on have nothing to show.
-/

namespace TypeHints

open Attempt

/-! ### Reachable interners -/

namespace Interner

/-- The interners that come about by interning one hint after another. -/
inductive Reachable : Interner → Prop
  | empty : Reachable .empty
  | intern {i : Interner} (h : Hint) (reached : Reachable i) : Reachable (i.intern h).2

/-- Reachable interners are sound. -/
theorem Reachable.sound {i : Interner} (h : Reachable i) : i.Sound := by
  induction h with
  | empty => exact sound_empty
  | intern h _ ih => exact ih.intern h

end Interner

/-! ### Normal forms -/

namespace Hint

/-- Whether a hint stands for itself: aliases, parameters, texts and applications of templates and
of aliases stand for other hints. -/
def standsForItself : Hint → Bool
  | .parameter _ | .alias _ | .deferred _ _ => false
  | .subscripted _ (.template _) _ | .subscripted _ (.alias _) _ => false
  | _ => true

/-- The members of a flat union: at least two, none of them a union or anything at all, and no two
with one key. -/
structure FlatMembers (hs : List Hint) : Prop where
  two : 2 ≤ hs.length
  members : ∀ h ∈ hs, h.isUnion = false ∧ h ≠ .any
  keys : hs.Pairwise (·.stableKey ≠ ·.stableKey)

/-- A union has the key of a flat one. -/
def HasFlatKey (h : Hint) : Prop :=
  h.isUnion = true → ∃ label hs, FlatMembers hs ∧ h.stableKey = (union label hs).stableKey

theorem standsForItself_of_isUnion {h : Hint} (hh : h.isUnion = true) :
    h.standsForItself = true ∧ h ≠ .any := by
  cases h with
  | union _ _ => exact ⟨rfl, Hint.noConfusion⟩
  | _ => exact absurd hh Bool.false_ne_true

theorem hasFlatKey_of_not_isUnion {h : Hint} (hh : h.isUnion = false) : h.HasFlatKey := by
  intro hu
  rw [hh] at hu
  cases hu

/-- The flat members of a union, unless there are fewer than two or everything is among them. -/
theorem flatMembers_spec {hs : List Hint} (hany : .any ∉ flatMembers hs)
    (htwo : 2 ≤ (flatMembers hs).length) : FlatMembers (flatMembers hs) where
  two := htwo
  members h hh := by
    refine ⟨isUnion_of_mem_leavesAll hs (mem_of_mem_distinct hh), ?_⟩
    rintro rfl
    exact hany hh
  keys := pairwise_distinct _ _

/-- Of the hints that are interned, only unions have keys of unions. -/
theorem isUnion_of_key_eq {h : Hint} {label : Label} {hs : List Hint}
    (hi : Interner.isInternable h = true) (hk : h.stableKey = (union label hs).stableKey) :
    h.isUnion = true := by
  -- the keys of literals, tuples and applications begin with other letters
  have hchars := congrArg String.toList hk
  cases h with
  | union _ _ => rfl
  | literal _ _ | tuple _ _ | subscripted _ _ _ => simp [stableKey, key] at hchars
  | _ => exact absurd hi Bool.false_ne_true

end Hint

namespace Sane

/-- A model in the form that reduction ends in. -/
structure Normal (s : Sane) : Prop where
  standsForItself : s.hint.standsForItself = true
  any_iff : s.hint = .any ↔ s = .ignorable
  union : s.hint.HasFlatKey

theorem normal_ignorable : Normal .ignorable :=
  ⟨rfl, iff_of_true rfl rfl, Hint.hasFlatKey_of_not_isUnion rfl⟩

theorem normal_create {hint : Hint} (hself : hint.standsForItself = true) (hany : hint ≠ .any)
    (hflat : hint.HasFlatKey) (label : Label) (p? : Option Sane) (table? : Option Table) :
    (create label hint p? table?).Normal := by
  refine ⟨hself, iff_of_false hany fun h ↦ hany ?_, hflat⟩
  exact congrArg Sane.hint h

end Sane

/-! ### Steps that end -/

section Steps

variable {w : World} {site : Site} {p? : Option Sane} {s : Sane} {r r' : Run}

/-- A hint that stands for itself ends in a model in normal form. -/
theorem normal_settle {hint : Hint} {table? : Option Table}
    (hself : hint.standsForItself = true) (hany : hint ≠ .any) (hflat : hint.HasFlatKey)
    (h : Run.settle hint p? table? r = (.ok (.done s), r')) : s.Normal := by
  obtain ⟨l, hs, -⟩ := settle_inv h
  cases hs
  exact Sane.normal_create hself hany hflat l p? table?

/-- What a flat union comes to, itself or its representative, is a union with the key of a flat
one. -/
theorem canonicalUnion_spec {label : Label} {hs : List Hint} {h : Hint}
    (hi : r.engine.interner.Sound) (hms : Hint.FlatMembers (Hint.flatMembers hs))
    (hu : canonicalUnion label hs (Hint.flatMembers hs) r = (.ok h, r')) :
    h.isUnion = true ∧ h.HasFlatKey := by
  unfold canonicalUnion at hu
  split at hu
  · rename_i heq
    cases hu
    rw [heq] at hms
    exact ⟨rfl, fun _ ↦ ⟨label, hs, hms, rfl⟩⟩
  · obtain ⟨l, r₁, hl, hu⟩ := bind_eq_ok_iff.mp hu
    cases hl
    cases hu
    have hkey := hi.stableKey_intern (.union r.store.next (Hint.flatMembers hs))
    have hkind := hi.isInternable_intern (.union r.store.next (Hint.flatMembers hs))
    exact ⟨Hint.isUnion_of_key_eq hkind hkey, fun _ ↦ ⟨_, _, hms, hkey⟩⟩

/-- A union ends flat, up to its key. -/
theorem normal_reduceUnion {label : Label} {hs : List Hint} (hi : r.engine.interner.Sound)
    (h : reduceUnion label hs p? r = (.ok (.done s), r')) : s.Normal := by
  unfold reduceUnion at h
  by_cases hany : Hint.any ∈ Hint.flatMembers hs
  · rw [if_pos hany] at h
    cases h
    exact Sane.normal_ignorable
  · rw [if_neg hany] at h
    rcases hm : Hint.flatMembers hs with - | ⟨k, - | ⟨k', ks⟩⟩ <;> rw [hm] at h
    · cases h
    · cases h
    · obtain ⟨u, r₁, hu, h⟩ := bind_eq_ok_iff.mp h
      have htwo : 2 ≤ (Hint.flatMembers hs).length := by
        rw [hm]
        exact Nat.le_add_left 2 ks.length
      rw [← hm] at hu
      obtain ⟨hunion, hflat⟩ := canonicalUnion_spec hi (Hint.flatMembers_spec hany htwo) hu
      obtain ⟨hself, hany⟩ := Hint.standsForItself_of_isUnion hunion
      exact normal_settle hself hany hflat h

theorem normal_reduceClass {c : ClassHint}
    (h : reduceClass w site c p? r = (.ok (.done s), r')) : s.Normal := by
  have hsettled {r r' : Run} (h : Run.settle (.ofClass c) p? none r = (.ok (.done s), r')) :
      s.Normal :=
    normal_settle rfl Hint.noConfusion (Hint.hasFlatKey_of_not_isUnion rfl) h
  unfold reduceClass at h
  cases hget : site.config.overrides.get? c.name with
  | none =>
    rw [hget] at h
    exact hsettled h
  | some text =>
    rw [hget] at h
    obtain ⟨anc, r₁, -, h⟩ := bind_eq_ok_iff.mp h
    by_cases hfresh : c.name ∈ anc.overridden
    · rw [if_pos hfresh] at h
      exact hsettled h
    · rw [if_neg hfresh] at h
      obtain ⟨_, r₂, -, h⟩ := bind_eq_ok_iff.mp h
      obtain ⟨_, r₃, -, h⟩ := bind_eq_ok_iff.mp h
      obtain ⟨_, r₄, -, h⟩ := bind_eq_ok_iff.mp h
      cases h

/-- A parameter ends nowhere but in the ignorable model. -/
theorem normal_reduceParameter {p : TypeParameter}
    (h : reduceParameter w site p p? r = (.ok (.done s), r')) : s.Normal := by
  obtain ⟨anc, r₁, -, h⟩ := bind_eq_ok_iff.mp h
  by_cases hfound : anc.guard.has (.parameter p)
  · rw [if_pos hfound] at h
    obtain ⟨_, r₂, -, h⟩ := bind_eq_ok_iff.mp h
    cases h
    exact Sane.normal_ignorable
  · rw [if_neg hfound] at h
    obtain ⟨n, r₂, -, h⟩ := bind_eq_ok_iff.mp h
    obtain ⟨w', r₃, -, h⟩ := bind_eq_ok_iff.mp h
    rcases hk : anc.table.get? p with - | k
    · rcases hb : w'.bound? p with - | b
      · rcases hc : w'.constraints p with - | ⟨c, cs⟩ <;> rw [hk, hb, hc] at h
        · cases h
          exact Sane.normal_ignorable
        · obtain ⟨_, r₄, -, h⟩ := bind_eq_ok_iff.mp h
          cases h
      · rw [hk, hb] at h
        cases h
    · rw [hk] at h
      cases h

/-- Nor does an alias. -/
theorem normal_reduceAlias {a : Alias} {application? : Option (Label × List Hint)}
    (h : reduceAlias w site a application? p? r = (.ok (.done s), r')) : s.Normal := by
  obtain ⟨o, r₁, -, h⟩ := bind_eq_ok_iff.mp h
  cases o with
  | none =>
    obtain ⟨_, r₂, -, h⟩ := bind_eq_ok_iff.mp h
    cases h
    exact Sane.normal_ignorable
  | some expansion =>
    obtain ⟨_, r₂, -, h⟩ := bind_eq_ok_iff.mp h
    cases h

theorem normal_reduceTemplate {label : Label} {t : Template} {args : List Hint}
    (h : reduceTemplate w site label t args p? r = (.ok (.done s), r')) : s.Normal := by
  obtain ⟨table?, r₁, -, h⟩ := bind_eq_ok_iff.mp h
  have hsettled {r r' : Run} (h : Run.settle (.template t) p? table? r = (.ok (.done s), r')) :
      s.Normal :=
    normal_settle rfl Hint.noConfusion (Hint.hasFlatKey_of_not_isUnion rfl) h
  cases table? with
  | none => exact hsettled h
  | some table =>
    obtain ⟨_, r₂, -, h⟩ := bind_eq_ok_iff.mp h
    exact hsettled h

/-- A step that ends gives a model in normal form. -/
theorem normal_reduceStep {hint : Hint} (hi : r.engine.interner.Sound)
    (h : reduceStep w site hint p? r = (.ok (.done s), r')) : s.Normal := by
  unfold reduceStep at h
  split at h
  · cases h
    exact Sane.normal_ignorable
  · exact normal_reduceClass h
  · exact normal_reduceUnion hi h
  · exact normal_reduceParameter h
  · exact normal_reduceTemplate h
  · exact normal_reduceAlias h
  · exact normal_reduceAlias h
  · obtain ⟨_, r₁, -, h⟩ := bind_eq_ok_iff.mp h
    cases h
  -- what is left stands for itself and is no union
  all_goals
    exact normal_settle rfl Hint.noConfusion (Hint.hasFlatKey_of_not_isUnion rfl) h

/-- Where the interner is sound, every model that reduction gives is in normal form. -/
theorem normal_reduce_of_sound (depth : Nat) :
    ∀ {hint : Hint} {p? : Option Sane} {r r' : Run}, r.engine.interner.Sound →
      reduce w site depth hint p? r = (.ok s, r') → s.Normal := by
  induction depth with
  | zero =>
    intro hint p? r r' _ h
    cases h
  | succ depth ih =>
    intro hint p? r r' hi h
    obtain ⟨st, r₁, hst, h⟩ := bind_eq_ok_iff.mp h
    cases st with
    | done s' =>
      cases h
      exact normal_reduceStep hi hst
    | goOn h' q? =>
      -- steps keep the interner sound, whatever they read on the way
      have hgrows : r.Grows r₁ := (grows_reduceStep w site hint p?).of_run hst
      exact ih (hgrows.sound hi) h

end Steps

/-- Every model that reduction gives, from any hint below any parent, is in normal form, whatever
has been interned before. -/
theorem normal_reduce {w : World} {site : Site} {depth : Nat} {hint : Hint} {p? : Option Sane}
    {s : Sane} {r r' : Run} (hi : r.engine.interner.Reachable)
    (h : reduce w site depth hint p? r = (.ok s, r')) : s.Normal :=
  normal_reduce_of_sound depth hi.sound h

/-! ### A representative that is not flat

The flat union of the literal `"a|union:lit:string:b"` and `string` has the key of
`"a" | ("b" | string)`. If the nested union has been interned, it takes the place of the flat one.
-/

namespace SharedKey

/-- The union `"a" | ("b" | string)`. -/
def nested : Hint :=
  .union 52 [.literal 50 (.string "a"), .union 51 [.literal 53 (.string "b"), .primitive .string]]

/-- The union of a literal with `string | string`. -/
def hint : Hint :=
  .union 55 [.literal 54 (.string "a|union:lit:string:b"),
    .union 56 [.primitive .string, .primitive .string]]

/-- A place without settings and names of its own. -/
def site : Site := ⟨⟨false, ∅, defaultScopeName⟩, defaultScopeName, [], [], none⟩

/-- A run in which nothing but the nested union has been interned. -/
def start : Run where
  store := { Store.initial with next := 57 }
  engine := { Engine.fresh with interner := (Interner.empty.intern nested).2 }
  scope? := none
  log := []

/-- The hint reduced. -/
@[irreducible]
def reduced : Except Failure Sane × Run := reduce .builtin site 1 hint none start

end SharedKey

/-- The nested union takes the place of the flat one, and its key is still that of a flat union. -/
theorem normal_reduce_to_nested : ∃ s r',
    SharedKey.start.engine.interner.Reachable ∧
      reduce .builtin SharedKey.site 1 SharedKey.hint none SharedKey.start = (.ok s, r') ∧
      s.hint = SharedKey.nested ∧ s.Normal := by
  have hok : SharedKey.reduced =
      (.ok (SharedKey.reduced.1.toOption.getD .ignorable), SharedKey.reduced.2) :=
    eq_ok_of_isSome (x := SharedKey.reduced) (by decide +kernel) Sane.ignorable
  have hreached : SharedKey.start.engine.interner.Reachable := .intern SharedKey.nested .empty
  have hrun : reduce .builtin SharedKey.site 1 SharedKey.hint none SharedKey.start = _ :=
    (SharedKey.reduced.eq_def).symm.trans hok
  exact ⟨_, _, hreached, hrun, by decide +kernel, normal_reduce hreached hrun⟩

end TypeHints
