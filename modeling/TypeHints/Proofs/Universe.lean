import TypeHints.Proofs.AliasValues
import TypeHints.Proofs.Keys
import TypeHints.Proofs.Reading

/-!
# The hints that a reduction comes to

No hint that reduction goes on with has to be a part of the one before: texts and aliases are read
anew each time. Still, up to the labels of composite hints, only so many hints come up. A list of
hints covers a hint (`Hint.Covered`) if one of its members is alike, or the hint brings nothing
along. If a list is closed under parts and covers the bounds of parameters and what aliases and
texts stand for, then it covers whatever a step goes on with (`Visit.Within.step`).

What is at hand at a visit is more than its hint: its parent binds parameters to hints, and outcomes
of substitutions that have been kept may bind them again later. `Visit.Within` asks that all of it
is covered, and a step keeps this:

* a part of a hint is covered with the hint, as the list is closed (`Covered.children`);
* what a parameter is bound to is in the bindings of the parent, which are merged from arguments of
  applications (`aliasTable_all`);
* what is read anew (`Visit.ReadsAnew`) is covered by assumption. That there is a finite list with
  this property is another matter, and depends on aliases giving the same each time.

A class counts as read anew, since an override may take its place.
-/

namespace TypeHints

open Attempt Hint

/-! ### Parts of hints -/

namespace Hint

mutual

/-- A hint with its children, their children and so on. -/
def parts : Hint → List Hint
  | .union l hs => .union l hs :: partsAll hs
  | .tuple l hs => .tuple l hs :: partsAll hs
  | .subscripted l o hs => .subscripted l o hs :: partsAll hs
  | .template t => .template t :: t.params.map .parameter
  | h => [h]

/-- The parts of hints, in order. -/
def partsAll : List Hint → List Hint
  | [] => []
  | h :: hs => parts h ++ partsAll hs

end

/-- A hint is a part of itself. -/
theorem self_mem_parts (h : Hint) : h ∈ h.parts := by
  cases h <;> exact List.mem_cons_self

theorem mem_partsAll {k : Hint} {hs : List Hint} : k ∈ partsAll hs ↔ ∃ h ∈ hs, k ∈ h.parts := by
  induction hs with
  | nil => simp [partsAll]
  | cons h hs ih => simp [partsAll, ih]

/-- So are its children. -/
theorem children_subset_parts (h : Hint) : h.children ⊆ h.parts := by
  have hall (hs : List Hint) : hs ⊆ partsAll hs :=
    fun k hk ↦ mem_partsAll.mpr ⟨k, hk, self_mem_parts k⟩
  cases h with
  | union l hs | tuple l hs | subscripted l o hs => exact List.subset_cons_of_subset _ (hall hs)
  | template t => exact List.subset_cons_of_subset _ fun _ hk ↦ hk
  | _ => exact List.nil_subset _

mutual

/-- The parts of a hint are closed under children. -/
theorem mem_parts_of_children {k m : Hint} (hm : m ∈ k.children) :
    ∀ h : Hint, k ∈ h.parts → m ∈ h.parts
  | .union l hs, hk | .tuple l hs, hk | .subscripted l o hs, hk => by
    rcases List.mem_cons.mp hk with rfl | hk
    · exact children_subset_parts _ hm
    · exact List.mem_cons_of_mem _ (mem_partsAll_of_children hm hs hk)
  | .template t, hk => by
    rcases List.mem_cons.mp hk with rfl | hk
    · exact children_subset_parts _ hm
    · obtain ⟨p, -, rfl⟩ := List.mem_map.mp hk
      cases hm
  | .any, hk | .primitive _, hk | .ofClass _, hk | .literal _ _, hk | .parameter _, hk
  | .alias _, hk | .forwardRef _, hk | .deferred _ _, hk => by
    obtain rfl := List.mem_singleton.mp hk
    cases hm

theorem mem_partsAll_of_children {k m : Hint} (hm : m ∈ k.children) :
    ∀ hs : List Hint, k ∈ partsAll hs → m ∈ partsAll hs
  | [], hk => by cases hk
  | h :: hs, hk => by
    rcases List.mem_append.mp hk with hk | hk
    · exact List.mem_append_left _ (mem_parts_of_children hm h hk)
    · exact List.mem_append_right _ (mem_partsAll_of_children hm hs hk)

end

mutual

/-- No part of a hint without texts is a text. -/
theorem isRead_of_mem_parts {k : Hint} : ∀ h : Hint, h.isRead = true → k ∈ h.parts →
    k.isRead = true
  | .union l hs, hr, hk | .tuple l hs, hr, hk | .subscripted l o hs, hr, hk => by
    rcases List.mem_cons.mp hk with rfl | hk
    · exact hr
    · exact isRead_of_mem_partsAll hs hr hk
  | .template t, _, hk => by
    rcases List.mem_cons.mp hk with rfl | hk
    · rfl
    · obtain ⟨p, -, rfl⟩ := List.mem_map.mp hk
      rfl
  | .any, hr, hk | .primitive _, hr, hk | .ofClass _, hr, hk | .literal _ _, hr, hk
  | .parameter _, hr, hk | .alias _, hr, hk | .forwardRef _, hr, hk | .deferred _ _, hr, hk => by
    obtain rfl := List.mem_singleton.mp hk
    exact hr

theorem isRead_of_mem_partsAll {k : Hint} : ∀ hs : List Hint, areRead hs = true →
    k ∈ partsAll hs → k.isRead = true
  | [], _, hk => by cases hk
  | h :: hs, hr, hk => by
    obtain ⟨hh, hhs⟩ := Bool.and_eq_true_iff.mp hr
    rcases List.mem_append.mp hk with hk | hk
    · exact isRead_of_mem_parts h hh hk
    · exact isRead_of_mem_partsAll hs hhs hk

end

/-- Alike hints with the members of unions in order have alike children. -/
theorem Alike.children {ρ : ForwardRef → ForwardRef → Prop} {h k : Hint} (hk : Alike ρ false h k) :
    List.Forall₂ (Alike ρ false) h.children k.children := by
  cases hk with
  | union _ _ members _ order =>
    obtain rfl := order rfl
    exact alikeAll_iff_forall₂.mp members
  | tuple _ _ hs | appliedTemplate _ _ _ hs | appliedAlias _ _ _ hs | appliedRef _ _ _ hs =>
    exact alikeAll_iff_forall₂.mp hs
  | template t =>
    simp only [Hint.children, List.forall₂_map_left_iff, List.forall₂_map_right_iff]
    exact List.forall₂_same.mpr fun p _ ↦ .parameter p
  | _ => exact .nil

/-! ### Covers -/

/-- A list covers a hint: a member is alike, or the hint brings nothing along. -/
def Covered (u : List Hint) (h : Hint) : Prop :=
  h.isInert = true ∨ ∃ k ∈ u, Alike Eq false h k

/-- A list holds the children of its members. -/
def Closed (u : List Hint) : Prop := ∀ h ∈ u, h.children ⊆ u

/-- A list covers its members. -/
theorem covered_of_mem {u : List Hint} {h : Hint} (hu : h ∈ u) : Covered u h :=
  .inr ⟨h, hu, .refl (fun _ ↦ rfl) h⟩

theorem Covered.mono {u u' : List Hint} {h : Hint} (hu : u ⊆ u') (hh : Covered u h) :
    Covered u' h :=
  hh.imp_right fun ⟨k, hk, ha⟩ ↦ ⟨k, hu hk, ha⟩

/-- A closed list covers the children of what it covers. -/
theorem Covered.children {u : List Hint} (hu : Closed u) {h k : Hint} (hh : Covered u h)
    (hi : h.isInert = false) (hk : k ∈ h.children) : Covered u k := by
  rcases hh with hh | ⟨m, hm, ha⟩
  · rw [hi] at hh
    cases hh
  · obtain ⟨k', hk', hkk'⟩ : ∃ k' ∈ m.children, Alike Eq false k k' := by
      obtain ⟨i, hi, rfl⟩ := List.mem_iff_getElem.mp hk
      have hlen := ha.children.length_eq
      exact ⟨_, List.getElem_mem (hlen ▸ hi), ha.children.get hi (hlen ▸ hi)⟩
    exact .inr ⟨k', hu m hm hk', hkk'⟩

mutual

/-- It covers the members of unions in unions as well. -/
theorem covered_leaves {u : List Hint} (hu : Closed u) :
    ∀ {h : Hint}, Covered u h → ∀ k ∈ h.leaves, Covered u k
  | .union _ _, hh, k, hk =>
    covered_leavesAll hu (fun _ hm ↦ hh.children hu rfl hm) k hk
  | .any, hh, _, hk | .primitive _, hh, _, hk | .ofClass _, hh, _, hk | .literal _ _, hh, _, hk
  | .tuple _ _, hh, _, hk | .parameter _, hh, _, hk | .template _, hh, _, hk | .alias _, hh, _, hk
  | .subscripted _ _ _, hh, _, hk | .forwardRef _, hh, _, hk | .deferred _ _, hh, _, hk =>
    List.mem_singleton.mp hk ▸ hh

theorem covered_leavesAll {u : List Hint} (hu : Closed u) :
    ∀ {hs : List Hint}, (∀ h ∈ hs, Covered u h) → ∀ k ∈ leavesAll hs, Covered u k
  | [], _, _, hk => by cases hk
  | h :: hs, hhs, k, hk => by
    rcases List.mem_append.mp hk with hk | hk
    · exact covered_leaves hu (hhs h List.mem_cons_self) k hk
    · exact covered_leavesAll hu (fun m hm ↦ hhs m (List.mem_cons_of_mem _ hm)) k hk

end

end Hint

/-! ### Tables -/

/-- Every hint that a table binds a parameter to has a property. -/
def Table.All (P : Hint → Prop) (t : Table) : Prop := ∀ e ∈ t.entries.entries, P e.2

namespace Table

variable {P : Hint → Prop}

theorem All.get? {t : Table} (h : t.All P) {p : TypeParameter} {k : Hint} (hk : t.get? p = some k) :
    P k :=
  h _ (Dict.mem_of_get? hk)

theorem All.merge {l : Label} {parent : Table} {child? : Option Table} (h : parent.All P)
    (hc : ∀ t, child? = some t → t.All P) : (Table.merge l parent child?).All P := by
  intro e he
  rcases mem_merge he with he | ⟨t, ht, he⟩
  · exact h e he
  · exact hc t ht e he

end Table

/-- Every hint in the outcomes of substitutions has a property. -/
def Substitution.Cache.All (P : Hint → Prop) (c : Substitution.Cache) : Prop :=
  ∀ e ∈ c.entries, ∀ t, e.2.result = .ok (some t) → t.All P

namespace Substitution

variable {P : Hint → Prop} {w : World} {hint : Hint} {params : List TypeParameter}
  {args : List Hint}

/-- What an application binds is among its arguments. -/
theorem compute_all {d : Dict TypeParameter Hint} (hargs : ∀ h ∈ args, P h)
    (h : compute w hint params args = .ok (some d)) : ∀ e ∈ d.entries, P e.2 := by
  unfold compute at h
  split at h
  · cases h
  split at h
  · cases h
  split at h
  · cases h
  dsimp only at h
  split at h
  · cases h
  · cases h
    intro e he
    have hkept := List.mem_filter.mp (Dict.mem_ofList he)
    exact hargs _ (List.of_mem_zip hkept.1).2

/-- So it is if the outcome was kept from an earlier one. -/
theorem build_all (w : World) (label : Label) (hint : Hint) (params : List TypeParameter)
    {args : List Hint} {c : Cache} (hargs : ∀ h ∈ args, P h) (hc : Cache.All P c) :
    Cache.All P (build w label hint params args c).2 ∧
      ∀ t, (build w label hint params args c).1.result = .ok (some t) → t.All P := by
  unfold build
  dsimp only
  split
  · rename_i o ho
    exact ⟨hc, hc _ (Dict.mem_of_get? ho)⟩
  · have hnew : ∀ t, ((compute w hint params args).map fun t ↦ t.map fun entries ↦
        (⟨label, entries⟩ : Table)) = .ok (some t) → t.All P := by
      intro t ht
      rcases hcomp : compute w hint params args with e | - | d <;> rw [hcomp] at ht <;> cases ht
      exact compute_all hargs hcomp
    refine ⟨fun e he ↦ ?_, hnew⟩
    rcases Dict.mem_put he with he | rfl
    · exact hc e he
    · exact hnew

end Substitution

theorem Run.substitute_all {P : Hint → Prop} {w : World} {hint : Hint}
    {params : List TypeParameter} {args : List Hint} {r r' : Run} {table? : Option Table}
    (h : substitute w hint params args r = (.ok table?, r')) (hargs : ∀ h ∈ args, P h)
    (hc : r.engine.substitutions.All P) :
    r'.engine.substitutions.All P ∧ ∀ t, table? = some t → t.All P := by
  have hbuild := Substitution.build_all (w.under r.store) r.store.next hint params hargs hc
  have hcache : r'.engine.substitutions = (Substitution.build (w.under r.store) r.store.next hint
      params args r.engine.substitutions).2 := congrArg (fun x ↦ x.2.engine.substitutions) h.symm
  rw [hcache]
  refine ⟨hbuild.1, fun t ht ↦ hbuild.2 t (result_of_substitute ?_)⟩
  rw [h, ht]

/-! ### Steps -/

/-- The bindings that an application of an alias makes are among its arguments, or kept. -/
theorem aliasTable_all {P : Hint → Prop} {w : World} {a : Alias}
    {application? : Option (Label × List Hint)} {r r' : Run} {table? : Option Table}
    (h : aliasTable w a application? r = (.ok table?, r'))
    (hargs : ∀ k ∈ (a.form application?).children, P k) (hc : r.engine.substitutions.All P) :
    r'.engine.substitutions.All P ∧ ∀ t, table? = some t → t.All P := by
  rcases application? with - | ⟨label, args⟩
  · cases h
    exact ⟨hc, nofun⟩
  · exact Run.substitute_all h hargs hc

theorem substitutions_guardKey {a : Alias} {application? : Option (Label × List Hint)} {r r' : Run}
    {k : Hint} (h : guardKey a application? r = (.ok k, r')) :
    r'.engine.substitutions = r.engine.substitutions := by
  rcases application? with - | ⟨label, args⟩ <;> cases h <;> rfl

theorem substitutions_aliasValue {w : World} {a : Alias} {r r' : Run} {k : Hint}
    (h : aliasValue w a r = (.ok k, r')) :
    r'.engine.substitutions = r.engine.substitutions := by
  rcases aliasValue_cases w a r with ⟨b, -, he⟩ | ⟨-, he⟩ <;> rw [he] at h
  · exact congrArg (fun x ↦ x.2.engine.substitutions) h.symm
  · cases h

namespace Visit

/-- What a visit has at hand is covered: its hint, the bindings that its parent hands on and the
outcomes of substitutions. -/
structure Within (u : List Hint) (v : Visit) : Prop where
  hint : Covered u v.hint
  table : (Sane.tableOf v.parent?).All (Covered u)
  cache : v.run.engine.substitutions.All (Covered u)

/-- The hint of a visit is replaced by what is read anew: an alias or an application of one, a text,
or a class that may have an override. -/
def ReadsAnew (v : Visit) : Prop :=
  (∃ (a : Alias) (application? : Option (Label × List Hint)), v.hint = a.form application?) ∨
    (∃ l text, v.hint = .deferred l text) ∨ ∃ c, v.hint = .ofClass c

/-- What a parameter admits is covered. -/
structure Admits (u : List Hint) (w : World) : Prop where
  bound : ∀ p h, w.bound? p = some h → Covered u h
  constraints : ∀ p l, Covered u (.union l (w.constraints p))

variable {w : World} {site : Site} {u : List Hint} {v v' : Visit}

/-- A step goes on with what is covered if that holds of all that is read anew. -/
theorem Within.step (hu : Closed u) (hw : Admits u (w.under v.run.store))
    (hread : v.ReadsAnew → Covered u v'.hint) (hv : v.Within u) (hnext : v.Next w site v') :
    v'.Within u := by
  obtain ⟨hint, p?, r⟩ := v
  obtain ⟨h, q?, r'⟩ := v'
  obtain ⟨hhint, htable, hcache⟩ := hv
  have hadvance : Advance w site r hint p? (.goOn h q?) r' := .of_reduceStep hnext
  cases hadvance with
  | overridden _ _ hq hdes ht _ _ =>
    refine ⟨hread (.inr (.inr ⟨_, rfl⟩)), ?_, ?_⟩
    · simpa only [Sane.tableOf_some, ht] using htable
    · obtain ⟨_, _, _, -, -, -, -, hengine⟩ := Site.destringify_inv hdes
      simpa only [hengine, hq.engine] using hcache
  | @member l hs h p? only =>
    refine ⟨?_, htable, hcache⟩
    have hmem : h ∈ leavesAll hs := mem_of_mem_distinct (only ▸ List.mem_singleton_self h)
    exact covered_leaves hu hhint h hmem
  | parameter l _ hq stands ht _ _ =>
    refine ⟨?_, by simpa only [Sane.tableOf_some, ht] using htable, ?_⟩
    · rcases stands with hk | ⟨-, hb⟩ | ⟨-, -, -, l', rfl⟩
      · exact htable.get? hk
      · exact hw.bound _ _ hb
      · exact hw.constraints _ l'
    · simpa only [hq.engine] using hcache
  | @expanded a application? _ value _ n r₁ _ expansion interned =>
    -- the value is read anew; what is new in the bindings are arguments, children of the form
    have hnew : Covered u h := hread (.inl ⟨a, application?, rfl⟩)
    cases expansion with
    | expanded l l' hq keyed _ substituted hq' read ht _ _ =>
      have hargs : ∀ k ∈ (a.form application?).children, Covered u k := fun k hk ↦
        hhint.children hu (by rcases application? with - | ⟨_, _⟩ <;> rfl) hk
      have hall := aliasTable_all substituted hargs
        (by rwa [substitutions_guardKey keyed, hq.engine])
      refine ⟨hnew, by simpa only [Sane.tableOf_some, ht] using htable.merge hall.2, ?_⟩
      have hinterned : r'.engine.substitutions = r₁.engine.substitutions :=
        congrArg (fun x ↦ x.2.engine.substitutions) interned.symm
      simpa only [hinterned, substitutions_aliasValue read, hq'.engine] using hall.1
  | read hdes =>
    refine ⟨hread (.inr (.inl ⟨_, _, rfl⟩)), htable, ?_⟩
    obtain ⟨_, _, _, -, -, -, -, hengine⟩ := Site.destringify_inv hdes
    simpa only [hengine] using hcache

end Visit

end TypeHints
