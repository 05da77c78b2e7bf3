import TypeHints.Proofs.Actions
import TypeHints.Sanitize

/-!
# What a step of reduction can do

`Advance` lists the ways in which a step can end well: with which hint it goes on, what that hint is
reduced below, and what each way presupposes. `Advance.of_reduceStep` reads any successful step as
one of them, so that a property of reduction is a property of these few cases. No proof about whole
reductions opens the definition of a step.

A step ends well in one of these ways:

* the hint need not be checked, stands for itself, or is a template in place of its application, and
  the reduction is done;
* something else takes its place, and reduction goes on: an override, the only member of a union,
  what a parameter is bound to, the value of an alias, or the hint of a text.

Aliases have a case analysis of their own (`Expansion`), since they are dropped when their key is
being expanded already. What goes on with a new parent is below the same bindings, guard and names
as before, but for what the case says (`Sane.HandsOn`).

Most of a step only gives labels out and logs lines. `Run.Quiet` says that nothing else changed. A
`Visit` is a hint that reduction comes to, with its parent and the state that it is met in, and
`visits` lists all of them for a reduction.
-/

namespace TypeHints

open Attempt

/-! ### What a parent hands on -/

namespace Sane

/-- The bindings that a parent hands on, if there is one. -/
def tableOf (parent? : Option Sane) : Table := (parent?.map Sane.table).getD .empty

/-- The guard that a parent hands on, if there is one. -/
def guardOf (parent? : Option Sane) : Guard := (parent?.map Sane.guard).getD .empty

/-- The names of applied overrides that a parent hands on, if there is one. -/
def overriddenOf (parent? : Option Sane) : List String := (parent?.map Sane.overridden).getD []

@[simp] theorem tableOf_some (s : Sane) : tableOf (some s) = s.table := rfl
@[simp] theorem guardOf_some (s : Sane) : guardOf (some s) = s.guard := rfl
@[simp] theorem overriddenOf_some (s : Sane) : overriddenOf (some s) = s.overridden := rfl

/-- A model hands on just what its parent does. -/
structure HandsOn (s : Sane) (parent? : Option Sane) : Prop where
  table : s.table = tableOf parent?
  guard : s.guard = guardOf parent?
  overridden : s.overridden = overriddenOf parent?

end Sane

/-! ### Tables -/

namespace Table

variable {l : Label} {parent : Table} {child? : Option Table}

/-- A merge gives one of the tables if the other one binds nothing, and else inserts the bindings of
the child among those of the parent. -/
theorem merge_cases (l : Label) (parent : Table) (child? : Option Table) :
    (merge l parent child? = parent ∧ ∀ t, child? = some t → t.entries.entries = []) ∨
    (∃ t, child? = some t ∧ merge l parent child? = t ∧ parent.entries.entries = []) ∨
    ∃ t, child? = some t ∧
      merge l parent child? = ⟨l, parent.entries.insertAll t.entries.entries⟩ := by
  cases child? with
  | none => exact .inl ⟨rfl, nofun⟩
  | some child =>
    by_cases hchild : child.entries.isEmpty = true
    · refine .inl ⟨by rw [merge, if_pos hchild], fun t ht ↦ ?_⟩
      cases ht
      exact List.isEmpty_iff.mp hchild
    · by_cases hparent : parent.entries.isEmpty = true
      · refine .inr (.inl ⟨child, rfl, ?_, List.isEmpty_iff.mp hparent⟩)
        rw [merge, if_neg hchild, if_pos hparent]
      · exact .inr (.inr ⟨child, rfl, by rw [merge, if_neg hchild, if_neg hparent]⟩)

/-- Every binding of a merge is one of the parent or of the child. -/
theorem mem_merge {e : TypeParameter × Hint} (he : e ∈ (merge l parent child?).entries.entries) :
    e ∈ parent.entries.entries ∨ ∃ t, child? = some t ∧ e ∈ t.entries.entries := by
  rcases merge_cases l parent child? with ⟨hm, -⟩ | ⟨t, ht, hm, -⟩ | ⟨t, ht, hm⟩ <;> rw [hm] at he
  · exact .inl he
  · exact .inr ⟨t, ht, he⟩
  · exact (Dict.mem_insertAll he).imp id fun he ↦ ⟨t, ht, he⟩

end Table

/-! ### Guards -/

/-- Whether a hint is a parameter. -/
def Hint.isParameter : Hint → Bool
  | .parameter _ => true
  | _ => false

theorem Guard.mem_add {l : Label} {g : Guard} {h k : Hint} :
    k ∈ (g.add l h).hints ↔ k ∈ g.hints ∨ k = h := by
  unfold Guard.add
  split
  · rename_i hm
    refine ⟨.inl, ?_⟩
    rintro (hk | rfl)
    · exact hk
    · exact hm
  · simp

/-- Only parameters leave a guard. -/
theorem Guard.mem_withoutRebound {l : Label} {g : Guard} {table? : Option Table} {k : Hint}
    (hk : k.isParameter = false) : k ∈ (g.withoutRebound l table?).hints ↔ k ∈ g.hints := by
  cases table? with
  | none => exact Iff.rfl
  | some t =>
    have hb : Guard.isRebound t k = false := by
      cases k <;> first
        | rfl
        | cases hk
    unfold Guard.withoutRebound
    dsimp only
    split
    · simp [hb]
    · exact Iff.rfl

/-! ### Steps that give labels out -/

namespace Run

/-- Nothing has changed but the labels given out and the lines logged. -/
structure Quiet (r r' : Run) : Prop where
  store : r'.store = { r.store with next := r'.store.next }
  next : r.store.next ≤ r'.store.next
  engine : r'.engine = r.engine
  scope : r'.scope? = r.scope?

instance : IsPreorder Run Quiet where
  refl _ := ⟨rfl, Nat.le_refl _, rfl, rfl⟩
  trans r₁ r₂ r₃ h h' := by
    refine ⟨?_, Nat.le_trans h.next h'.next, h'.engine.trans h.engine, h'.scope.trans h.scope⟩
    rw [h'.store, h.store]

variable {ε : Type}

theorem Quiet.under {r r' : Run} (h : Quiet r r') (w : World) :
    w.under r'.store = w.under r.store := by
  rw [h.store]
  rfl

theorem quiet_fresh : Follows Quiet (fresh : Attempt Run ε Label) :=
  fun _ ↦ ⟨rfl, Nat.le_succ _, rfl, rfl⟩

theorem quiet_world (w : World) : Follows Quiet (world w) := fun r ↦ refl_of Quiet r

/-- Creating a model gives out labels at most. -/
theorem quiet_model (hint : Hint) (parent? : Option Sane) (table? : Option Table) :
    Follows Quiet (model hint parent? table?) :=
  quiet_fresh.bind fun _ ↦ .pure _

theorem quiet_expanding (s : Sane) (h : Hint) : Follows Quiet (expanding s h) :=
  quiet_fresh.bind fun _ ↦ .pure _

theorem quiet_ancestry (hint : Hint) (parent? : Option Sane) :
    Follows Quiet (ancestry hint parent?) := by
  cases parent? with
  | none => exact quiet_model hint none none
  | some p => exact .pure p

theorem quiet_log (site : Site) (message : String) :
    Follows Quiet (site.log message : Attempt Run ε Unit) := by
  unfold Site.log
  split
  · exact fun _ ↦ ⟨rfl, Nat.le_refl _, rfl, rfl⟩
  · exact .pure ()

/-- The model of a hint is created under a fresh label. -/
theorem model_apply (hint : Hint) (parent? : Option Sane) (table? : Option Table) (r : Run) :
    (model hint parent? table? r).1 = .ok (.create r.store.next hint parent? table?) := rfl

theorem expanding_apply (s : Sane) (h : Hint) (r : Run) :
    (expanding s h r).1 = .ok (s.expanding r.store.next h) := rfl

/-- There always is an ancestry, and it hands on what the parent does. -/
theorem ancestry_apply (hint : Hint) (parent? : Option Sane) (r : Run) :
    ∃ s r₁, ancestry hint parent? r = (.ok s, r₁) ∧ s.HandsOn parent? ∧ Quiet r r₁ := by
  cases parent? with
  | none =>
    exact ⟨_, _, rfl, ⟨rfl, rfl, rfl⟩, quiet_model hint none none r⟩
  | some p => exact ⟨p, r, rfl, ⟨rfl, rfl, rfl⟩, refl_of Quiet r⟩

/-- An action on the store changes nothing but the store. -/
theorem onStore_inv {α : Type} {a : Attempt Store ε α} {r r' : Run} {x : α}
    (h : onStore a r = (.ok x, r')) : ∃ s, a r.store = (.ok x, s) ∧ r' = { r with store := s } := by
  unfold onStore at h
  rcases ha : a r.store with ⟨y, s⟩
  rw [ha] at h
  cases h
  exact ⟨s, rfl, rfl⟩

/-- Interning on a run changes nothing but the interner. -/
theorem intern_inv {k h : Hint} {r r' : Run} (hk : (intern k : Attempt Run ε Hint) r = (.ok h, r')) :
    h = (r.engine.interner.intern k).1 ∧
      r' = { r with engine := { r.engine with interner := (r.engine.interner.intern k).2 } } := by
  cases hk
  exact ⟨rfl, rfl⟩

theorem log_apply (site : Site) (message : String) (r : Run) :
    ∃ r₁, (site.log message : Attempt Run ε Unit) r = (.ok (), r₁) ∧ Quiet r r₁ := by
  refine ⟨_, Prod.ext ?_ rfl, quiet_log site message r⟩
  unfold Site.log
  split <;> rfl

end Run

/-! ### The cases of a step -/

/-- An alias, or an application of it. -/
def Alias.form (a : Alias) : Option (Label × List Hint) → Hint
  | none => .alias a
  | some (label, args) => .subscripted label (.alias a) args

/-- The hint that an alias or an application of it is guarded by, against an interner. -/
def Alias.key (i : Interner) (a : Alias) : Option (Label × List Hint) → Hint
  | none => .alias a
  | some (label, args) => (i.intern (.subscripted label (.alias a) args)).1

/-- An alias is guarded by itself, and an application of one by its representative. -/
theorem guardKey_apply (a : Alias) (application? : Option (Label × List Hint)) (r : Run) :
    (guardKey a application? r).1 = .ok (a.key r.engine.interner application?) := by
  cases application? <;> rfl

/-- An alias stands for what its body gives; an alias without a body cannot be read. -/
theorem aliasValue_cases (w : World) (a : Alias) (r : Run) :
    (∃ b, (w.under r.store).aliases.get? a.id = some b ∧
      aliasValue w a r = Run.onStore (b.hint w a.name) r) ∨
    ((w.under r.store).aliases.get? a.id = none ∧
      aliasValue w a r = (.error (.cause (.unreadableAlias a.name "")), r)) := by
  have hworld : Run.world w r = (.ok (w.under r.store), r) := rfl
  unfold aliasValue
  rw [bind_apply_ok hworld]
  cases hb : (w.under r.store).aliases.get? a.id with
  | some b => exact .inl ⟨b, rfl, rfl⟩
  | none => exact .inr ⟨rfl, rfl⟩

/-- What expanding an alias comes to: nothing exactly when its key is in the guard, else its value
and the parent that the value is reduced below. -/
inductive Expansion (w : World) (a : Alias) (application? : Option (Label × List Hint))
    (p? : Option Sane) (r : Run) : Option (Hint × Sane) → Run → Prop
  | guarded {r₁ r' : Run} (quiet : Run.Quiet r r₁)
      (keyed : guardKey a application? r₁ = (.ok (a.key r.engine.interner application?), r'))
      (found : a.key r.engine.interner application? ∈ (Sane.guardOf p?).hints) :
      Expansion w a application? p? r none r'
  | expanded {value : Hint} {table? : Option Table} {n : Sane} {r₁ r₂ r₃ r₄ r' : Run}
      (l l' : Label) (quiet : Run.Quiet r r₁)
      (keyed : guardKey a application? r₁ = (.ok (a.key r.engine.interner application?), r₂))
      (fresh : a.key r.engine.interner application? ∉ (Sane.guardOf p?).hints)
      (substituted : aliasTable w a application? r₂ = (.ok table?, r₃)) (quiet' : Run.Quiet r₃ r₄)
      (read : aliasValue w a r₄ = (.ok value, r'))
      (table : n.table = (Sane.tableOf p?).merge l table?)
      (guard : n.guard = ((Sane.guardOf p?).withoutRebound l table?).add l'
        (a.key r.engine.interner application?))
      (names : n.overridden = Sane.overriddenOf p?) :
      Expansion w a application? p? r (some (value, n)) r'

/-- Nothing but an alias or an application of it has its form. -/
theorem Alias.ne_form {hint : Hint} (h : ∀ a, hint ≠ .alias a)
    (h' : ∀ l a args, hint ≠ .subscripted l (.alias a) args) (a : Alias) :
    ∀ application?, hint ≠ a.form application?
  | none => h a
  | some (label, args) => h' label a args

/-- The ways in which a step from a hint below a parent can end well. -/
inductive Advance (w : World) (site : Site) (r : Run) : Hint → Option Sane → Stage → Run → Prop
  /-- The hint need not be checked. -/
  | ignored {hint : Hint} {p? : Option Sane} {r' : Run} :
      Advance w site r hint p? (.done .ignorable) r'
  /-- The hint, or the flat union of its members, stands for itself; no alias does. -/
  | settled {hint result : Hint} {p? : Option Sane} {r' : Run} (label : Label)
      (noAlias : ∀ (a : Alias) (application? : Option (Label × List Hint)),
        hint ≠ a.form application?)
      (stands : result = hint ∨ ∃ (l l' : Label) (hs : List Hint), hint = .union l hs ∧
        result = (r.engine.interner.intern (.union l' (Hint.flatMembers hs))).1) :
      Advance w site r hint p? (.done (.create label result p? none)) r'
  /-- A template takes the place of its application. -/
  | applied {label : Label} {t : Template} {args : List Hint} {p? : Option Sane}
      {table? : Option Table} {r₁ r' : Run} (l : Label)
      (substituted : Run.substitute w (.subscripted label (.template t) args) t.params args r =
        (.ok table?, r₁))
      (quiet : Run.Quiet r₁ r') :
      Advance w site r (.subscripted label (.template t) args) p?
        (.done (.create l (.template t) p? table?)) r'
  /-- An override takes the place of a class. -/
  | overridden {c : ClassHint} {p? : Option Sane} {text : String} {h : Hint} {n : Sane}
      {r₁ r' : Run} (replaced : site.config.overrides.get? c.name = some text)
      (fresh : c.name ∉ Sane.overriddenOf p?) (quiet : Run.Quiet r r₁)
      (read : site.destringify w text r₁ = (.ok h, r')) (table : n.table = Sane.tableOf p?)
      (guard : n.guard = Sane.guardOf p?)
      (names : n.overridden = Sane.overriddenOf p? ++ [c.name]) :
      Advance w site r (.ofClass c) p? (.goOn h (some n)) r'
  /-- The only member of a union takes its place. -/
  | member {label : Label} {hs : List Hint} {h : Hint} {p? : Option Sane}
      (only : Hint.flatMembers hs = [h]) :
      Advance w site r (.union label hs) p? (.goOn h p?) r
  /-- What a parameter is bound to, or else admits, takes its place. -/
  | parameter {p : TypeParameter} {p? : Option Sane} {h : Hint} {n : Sane} {r' : Run} (l : Label)
      (fresh : Hint.parameter p ∉ (Sane.guardOf p?).hints) (quiet : Run.Quiet r r')
      (stands : (Sane.tableOf p?).get? p = some h ∨
        (Sane.tableOf p?).get? p = none ∧ (w.under r.store).bound? p = some h ∨
        (Sane.tableOf p?).get? p = none ∧ (w.under r.store).bound? p = none ∧
          (w.under r.store).constraints p ≠ [] ∧
          ∃ label, h = .union label ((w.under r.store).constraints p))
      (table : n.table = Sane.tableOf p?)
      (guard : n.guard = (Sane.guardOf p?).add l (.parameter p))
      (names : n.overridden = Sane.overriddenOf p?) :
      Advance w site r (.parameter p) p? (.goOn h (some n)) r'
  /-- What an alias stands for takes its place, below the bindings of its application. -/
  | expanded {a : Alias} {application? : Option (Label × List Hint)} {p? : Option Sane}
      {value h : Hint} {n : Sane} {r₁ r' : Run}
      (expansion : Expansion w a application? p? r (some (value, n)) r₁)
      (interned : (Run.intern value : Attempt Run Failure Hint) r₁ = (.ok h, r')) :
      Advance w site r (a.form application?) p? (.goOn h (some n)) r'
  /-- The hint of a text takes its place. -/
  | read {label : Label} {text : String} {h : Hint} {p? : Option Sane} {r' : Run}
      (read : site.destringify w text r = (.ok h, r')) :
      Advance w site r (.deferred label text) p? (.goOn h p?) r'

section Inversion

variable {w : World} {site : Site} {p? : Option Sane} {st : Stage} {r r' : Run}

/-- A hint that stands for itself ends in its model. -/
theorem settle_inv {hint : Hint} {table? : Option Table}
    (h : Run.settle hint p? table? r = (.ok st, r')) :
    ∃ l, st = .done (.create l hint p? table?) ∧ Run.Quiet r r' := by
  obtain ⟨s, r₁, hm, h⟩ := bind_eq_ok_iff.mp h
  cases h
  have hs := Run.model_apply hint p? table? r
  rw [hm] at hs
  cases hs
  exact ⟨_, rfl, (Run.quiet_model hint p? table?).of_run hm⟩

/-- The cases of a class: it stands for itself, or an override takes its place. -/
theorem reduceClass_inv {c : ClassHint} (h : reduceClass w site c p? r = (.ok st, r')) :
    Advance w site r (.ofClass c) p? st r' := by
  unfold reduceClass at h
  cases hget : site.config.overrides.get? c.name with
  | none =>
    rw [hget] at h
    obtain ⟨l, rfl, -⟩ := settle_inv h
    exact .settled l (Alias.ne_form (by simp) (by simp)) (.inl rfl)
  | some text =>
    rw [hget] at h
    obtain ⟨anc, r₁, ha, h⟩ := bind_eq_ok_iff.mp h
    obtain ⟨_, _, ha', hon, hq⟩ := Run.ancestry_apply (.ofClass c) p? r
    cases ha.symm.trans ha'
    by_cases hfresh : c.name ∈ anc.overridden
    · rw [if_pos hfresh] at h
      obtain ⟨l, rfl, -⟩ := settle_inv h
      exact .settled l (Alias.ne_form (by simp) (by simp)) (.inl rfl)
    · rw [if_neg hfresh] at h
      obtain ⟨_, r₂, hlog, h⟩ := bind_eq_ok_iff.mp h
      obtain ⟨l, r₃, hl, h⟩ := bind_eq_ok_iff.mp h
      obtain ⟨v, r₄, hread, h⟩ := bind_eq_ok_iff.mp h
      cases h
      have hq₃ : Run.Quiet r r₃ := trans_of _ hq <|
        trans_of _ ((Run.quiet_log site _).of_run hlog) (Run.quiet_fresh.of_run hl)
      rw [hon.overridden] at hfresh
      refine .overridden hget hfresh hq₃ (mapFailure_eq_ok_iff.mp hread) hon.table hon.guard ?_
      simp only [Sane.overriding, hon.overridden, if_neg hfresh]

/-- The union of flat members is the given one, or the representative of a new one. -/
theorem canonicalUnion_inv {label : Label} {hs members : List Hint} {u : Hint}
    (h : canonicalUnion label hs members r = (.ok u, r')) :
    u = .union label hs ∨ ∃ l, u = (r.engine.interner.intern (.union l members)).1 := by
  unfold canonicalUnion at h
  split at h
  · cases h
    exact .inl rfl
  · obtain ⟨l, r₁, hl, h⟩ := bind_eq_ok_iff.mp h
    cases hl
    cases h
    exact .inr ⟨r.store.next, rfl⟩

/-- The cases of a union: nothing to check, the only member, or the flat union. -/
theorem reduceUnion_inv {label : Label} {hs : List Hint}
    (h : reduceUnion label hs p? r = (.ok st, r')) :
    Advance w site r (.union label hs) p? st r' := by
  unfold reduceUnion at h
  by_cases hany : Hint.any ∈ Hint.flatMembers hs
  · rw [if_pos hany] at h
    cases h
    exact .ignored
  · rw [if_neg hany] at h
    rcases hm : Hint.flatMembers hs with - | ⟨k, - | ⟨k', ks⟩⟩ <;> rw [hm] at h
    · cases h
    · cases h
      exact .member hm
    · obtain ⟨u, r₁, hu, h⟩ := bind_eq_ok_iff.mp h
      obtain ⟨l, rfl, -⟩ := settle_inv h
      refine .settled l (Alias.ne_form (by simp) (by simp)) ?_
      rw [← hm] at hu
      rcases canonicalUnion_inv hu with rfl | ⟨l', rfl⟩
      · exact .inl rfl
      · exact .inr ⟨label, l', hs, rfl, rfl⟩

/-- The cases of a parameter: nothing to check, or what it stands for. -/
theorem reduceParameter_inv {p : TypeParameter}
    (h : reduceParameter w site p p? r = (.ok st, r')) :
    Advance w site r (.parameter p) p? st r' := by
  obtain ⟨anc, r₁, ha, h⟩ := bind_eq_ok_iff.mp h
  obtain ⟨_, _, ha', hon, hq⟩ := Run.ancestry_apply (.parameter p) p? r
  cases ha.symm.trans ha'
  by_cases hfound : anc.guard.has (.parameter p)
  · rw [if_pos hfound] at h
    obtain ⟨_, r₂, -, h⟩ := bind_eq_ok_iff.mp h
    cases h
    exact .ignored
  · rw [if_neg hfound] at h
    obtain ⟨n, r₂, hn, h⟩ := bind_eq_ok_iff.mp h
    obtain ⟨w', r₃, hw, h⟩ := bind_eq_ok_iff.mp h
    cases hw
    have hn' := Run.expanding_apply anc (.parameter p) r₁
    rw [hn] at hn'
    cases hn'
    have hq₂ : Run.Quiet r r₂ := trans_of _ hq ((Run.quiet_expanding anc _).of_run hn)
    have hfresh' : Hint.parameter p ∉ (Sane.guardOf p?).hints := by
      simpa [Guard.has, hon.guard] using hfound
    have hguard : (anc.expanding r₁.store.next (.parameter p)).guard =
        (Sane.guardOf p?).add r₁.store.next (.parameter p) := by
      rw [← hon.guard]
      rfl
    simp only [hq₂.under w, hon.table] at h
    rcases hk : (Sane.tableOf p?).get? p with - | k
    · rcases hb : (w.under r.store).bound? p with - | b
      · rcases hc : (w.under r.store).constraints p with - | ⟨c, cs⟩ <;> rw [hk, hb, hc] at h
        · cases h
          exact .ignored
        · obtain ⟨l, r₃, hl, h⟩ := bind_eq_ok_iff.mp h
          cases h
          refine .parameter _ hfresh' (trans_of _ hq₂ (Run.quiet_fresh.of_run hl))
            (.inr (.inr ⟨hk, hb, ?_, l, ?_⟩)) hon.table hguard hon.overridden
          · rw [hc]
            exact List.cons_ne_nil c cs
          · rw [hc]
      · rw [hk, hb] at h
        cases h
        exact .parameter _ hfresh' hq₂ (.inr (.inl ⟨hk, hb⟩)) hon.table hguard hon.overridden
    · rw [hk] at h
      cases h
      exact .parameter _ hfresh' hq₂ (.inl hk) hon.table hguard hon.overridden

/-- Expanding an alias comes to nothing exactly when its key is being expanded. -/
theorem expandAlias_inv {a : Alias} {application? : Option (Label × List Hint)}
    {o : Option (Hint × Sane)} (h : expandAlias w a application? p? r = (.ok o, r')) :
    Expansion w a application? p? r o r' := by
  obtain ⟨anc, r₁, ha, h⟩ := bind_eq_ok_iff.mp h
  obtain ⟨_, _, ha', hon, hq⟩ := Run.ancestry_apply (.alias a) p? r
  cases ha.symm.trans ha'
  obtain ⟨key, r₂, hkey, h⟩ := bind_eq_ok_iff.mp h
  have hkey' := guardKey_apply a application? r₁
  rw [hkey, hq.engine] at hkey'
  cases hkey'
  by_cases hfound : anc.guard.has (a.key r.engine.interner application?)
  · rw [if_pos hfound] at h
    cases h
    exact .guarded hq hkey (by simpa [Guard.has, hon.guard] using hfound)
  · rw [if_neg hfound] at h
    obtain ⟨table?, r₃, htable, h⟩ := bind_eq_ok_iff.mp h
    obtain ⟨m, r₄, hm, h⟩ := bind_eq_ok_iff.mp h
    obtain ⟨n, r₅, hn, h⟩ := bind_eq_ok_iff.mp h
    obtain ⟨value, r₆, hread, h⟩ := bind_eq_ok_iff.mp h
    cases h
    have hm' := Run.model_apply (.alias a) (some anc) table? r₃
    rw [hm] at hm'
    cases hm'
    have hn' := Run.expanding_apply (.create r₃.store.next (.alias a) (some anc) table?)
      (a.key r.engine.interner application?) r₄
    rw [hn] at hn'
    cases hn'
    have hq' : Run.Quiet r₃ r₅ :=
      trans_of _ ((Run.quiet_model _ _ _).of_run hm) ((Run.quiet_expanding _ _).of_run hn)
    refine .expanded r₃.store.next r₄.store.next hq hkey ?_ htable hq' hread ?_ ?_ hon.overridden
    · simpa [Guard.has, hon.guard] using hfound
    · rw [← hon.table]
      rfl
    · rw [← hon.guard]
      rfl

/-- An alias whose key is being expanded comes to nothing. -/
theorem expandAlias_of_guarded (a : Alias) (application? : Option (Label × List Hint))
    (h : a.key r.engine.interner application? ∈ (Sane.guardOf p?).hints) :
    (expandAlias w a application? p? r).1 = .ok none := by
  obtain ⟨anc, r₁, ha, hon, hq⟩ := Run.ancestry_apply (.alias a) p? r
  have hkey := guardKey_apply a application? r₁
  rw [hq.engine] at hkey
  have hkey' : guardKey a application? r₁ =
      (.ok (a.key r.engine.interner application?), (guardKey a application? r₁).2) :=
    Prod.ext hkey rfl
  have hfound : anc.guard.has (a.key r.engine.interner application?) = true := by
    simpa [Guard.has, hon.guard] using h
  rw [expandAlias, bind_apply_ok ha, bind_apply_ok hkey', if_pos hfound]
  rfl

/-- The cases of an alias: nothing to check, or its value below its bindings. -/
theorem reduceAlias_inv {a : Alias} {application? : Option (Label × List Hint)}
    (h : reduceAlias w site a application? p? r = (.ok st, r')) :
    Advance w site r (a.form application?) p? st r' := by
  obtain ⟨o, r₁, ho, h⟩ := bind_eq_ok_iff.mp h
  split at h
  · obtain ⟨_, r₂, -, h⟩ := bind_eq_ok_iff.mp h
    cases h
    exact .ignored
  · obtain ⟨v, r₂, hv, h⟩ := bind_eq_ok_iff.mp h
    cases h
    exact .expanded (expandAlias_inv ho) hv

/-- An application of a template ends in a model of the template below its bindings. -/
theorem reduceTemplate_inv {label : Label} {t : Template} {args : List Hint}
    (h : reduceTemplate w site label t args p? r = (.ok st, r')) :
    ∃ (table? : Option Table) (r₁ : Run) (l : Label),
      Run.substitute w (.subscripted label (.template t) args) t.params args r =
        (.ok table?, r₁) ∧ st = .done (.create l (.template t) p? table?) ∧ Run.Quiet r₁ r' := by
  obtain ⟨table?, r₁, htable, h⟩ := bind_eq_ok_iff.mp h
  cases table? with
  | none =>
    obtain ⟨l, rfl, hq⟩ := settle_inv h
    exact ⟨_, _, l, htable, rfl, hq⟩
  | some table =>
    obtain ⟨_, r₂, hlog, h⟩ := bind_eq_ok_iff.mp h
    obtain ⟨l, rfl, hq⟩ := settle_inv h
    exact ⟨_, _, l, htable, rfl, trans_of _ ((Run.quiet_log site _).of_run hlog) hq⟩

/-- An application of a template is reported as its bindings are, or ends in a model. -/
theorem reduceStep_template_cases (w : World) (site : Site) (label : Label) (t : Template)
    (args : List Hint) (p? : Option Sane) (r : Run) :
    (∃ c r₁, Run.substitute w (.subscripted label (.template t) args) t.params args r =
        (.error (.cause c), r₁) ∧
      reduceStep w site (.subscripted label (.template t) args) p? r = (.error (.cause c), r₁)) ∨
    ∃ table? r₁ s r₂, Run.substitute w (.subscripted label (.template t) args) t.params args r =
        (.ok table?, r₁) ∧
      reduceStep w site (.subscripted label (.template t) args) p? r = (.ok (.done s), r₂) := by
  rcases hsub : Run.substitute w (.subscripted label (.template t) args) t.params args r with
    ⟨f | table?, r₁⟩
  · have hcause (x : Except Cause (Option Table)) (hx : x.mapError .cause = .error f) :
        ∃ c, f = .cause c := by
      cases x <;> cases hx
      exact ⟨_, rfl⟩
    obtain ⟨c, rfl⟩ := hcause _ (congrArg Prod.fst hsub)
    exact .inl ⟨c, r₁, rfl, bind_apply_error hsub⟩
  · refine .inr ⟨table?, r₁, ?_⟩
    cases table? with
    | none => exact ⟨_, _, rfl, (bind_apply_ok hsub).trans rfl⟩
    | some table =>
      obtain ⟨r₂, hlog, -⟩ := Run.log_apply (ε := Failure) site
        ((Hint.subscripted label (.template t) args).repr ++ " binds " ++ bindingText table) r₁
      exact ⟨_, _, rfl, (bind_apply_ok hsub).trans ((bind_apply_ok hlog).trans rfl)⟩

/-- A step that ends well ends in one of the ways of `Advance`. -/
theorem Advance.of_reduceStep {hint : Hint} (h : reduceStep w site hint p? r = (.ok st, r')) :
    Advance w site r hint p? st r' := by
  unfold reduceStep at h
  split at h
  · cases h
    exact .ignored
  · exact reduceClass_inv h
  · exact reduceUnion_inv h
  · exact reduceParameter_inv h
  · obtain ⟨_, _, l, htable, rfl, hq⟩ := reduceTemplate_inv h
    exact .applied l htable hq
  · rename_i label a args
    exact (reduceAlias_inv h : Advance w site r (a.form (some (label, args))) p? st r')
  · rename_i a
    exact (reduceAlias_inv h : Advance w site r (a.form none) p? st r')
  · obtain ⟨k, r₁, hk, h⟩ := bind_eq_ok_iff.mp h
    cases h
    exact .read (mapFailure_eq_ok_iff.mp hk)
  all_goals
    obtain ⟨l, rfl, -⟩ := settle_inv h
    exact .settled l (Alias.ne_form (by simp) (by simp)) (.inl rfl)

end Inversion

/-- A parameter that a model binds and does not guard leads to what it is bound to. -/
theorem reduceStep_bound (w : World) (site : Site) (r : Run) {s : Sane} {p : TypeParameter} {a : Hint}
    (hbound : s.table.get? p = some a) (hguard : Hint.parameter p ∉ s.guard.hints) :
    ∃ r', reduceStep w site (.parameter p) (some s) r =
        (.ok (.goOn a (some (s.expanding r.store.next (.parameter p)))), r') ∧ Run.Quiet r r' := by
  have hfree : ¬ s.guard.has (.parameter p) := by simpa [Guard.has] using hguard
  have hancestry : Run.ancestry (.parameter p) (some s) r = (.ok s, r) := rfl
  have hworld (r : Run) : Run.world w r = (.ok (w.under r.store), r) := rfl
  refine ⟨_, ?_, Run.quiet_expanding s (.parameter p) r⟩
  show reduceParameter w site p (some s) r = _
  rw [reduceParameter, bind_apply_ok hancestry, if_neg hfree,
    bind_apply_ok (Prod.ext (Run.expanding_apply s (.parameter p) r) rfl), bind_apply_ok (hworld _)]
  simp only [hbound]
  rfl

/-! ### Visits -/

/-- A hint that reduction comes to, the parent that it is to be reduced below and the state that it
is met in. -/
structure Visit where
  hint : Hint
  parent? : Option Sane
  run : Run

/-- A step of reduction leads from a visit to another one. -/
def Visit.Next (w : World) (site : Site) (v v' : Visit) : Prop :=
  reduceStep w site v.hint v.parent? v.run = (.ok (.goOn v'.hint v'.parent?), v'.run)

/-- The hints that reduction comes to from a hint below a parent, first to last. -/
def visits (w : World) (site : Site) : Nat → Hint → Option Sane → Run → List Visit
  | 0, _, _, _ => []
  | depth + 1, hint, parent?, r =>
    ⟨hint, parent?, r⟩ :: match reduceStep w site hint parent? r with
      | (.ok (.goOn h p?), r') => visits w site depth h p? r'
      | _ => []

section Visits

variable {w : World} {site : Site} {depth : Nat} {hint h : Hint} {p? q? : Option Sane}
  {s : Sane} {r r' : Run}

theorem reduce_succ_done (hs : reduceStep w site hint p? r = (.ok (.done s), r')) :
    reduce w site (depth + 1) hint p? r = (.ok s, r') :=
  bind_apply_ok hs

theorem reduce_succ_goOn (hs : reduceStep w site hint p? r = (.ok (.goOn h q?), r')) :
    reduce w site (depth + 1) hint p? r = reduce w site depth h q? r' :=
  bind_apply_ok hs

theorem reduce_succ_error {f : Failure} (hs : reduceStep w site hint p? r = (.error f, r')) :
    reduce w site (depth + 1) hint p? r = (.error f, r') :=
  bind_apply_error hs

theorem visits_succ_done (hs : reduceStep w site hint p? r = (.ok (.done s), r')) :
    visits w site (depth + 1) hint p? r = [⟨hint, p?, r⟩] := by
  simp only [visits, hs]

theorem visits_succ_goOn (hs : reduceStep w site hint p? r = (.ok (.goOn h q?), r')) :
    visits w site (depth + 1) hint p? r =
      ⟨hint, p?, r⟩ :: visits w site depth h q? r' := by
  simp only [visits, hs]

theorem visits_succ_error {f : Failure} (hs : reduceStep w site hint p? r = (.error f, r')) :
    visits w site (depth + 1) hint p? r = [⟨hint, p?, r⟩] := by
  simp only [visits, hs]

end Visits

/-! ### Calls -/

section Calls

variable {w : World} {site : Site} {depth : Nat} {label : String} {r r₁ r' : Run} {s : Sane}

/-- A text is coerced to itself. -/
theorem Run.coerceRoot_string (w : World) (text : String) (r : Run) :
    ∃ l r', Run.coerceRoot w (.string text) r = (.ok (.deferred l text), r') ∧ r.Quiet r' :=
  ⟨_, _, rfl, ⟨rfl, Nat.le_succ _, rfl, rfl⟩⟩

/-- Sanitizing a root goes on with the reduction of its coerced hint. -/
theorem sanitizeRoot_eq {raw : Value} {hint : Hint}
    (h : Run.coerceRoot w raw r = (.ok hint, r₁)) :
    sanitizeRoot w site depth raw label r =
      mapFailure (Failure.report label) (reduce w site depth hint none) r₁ := by
  simp only [sanitizeRoot, mapFailure]
  rw [bind_apply_ok h]

/-- Sanitizing a child is the reduction of its representative. -/
theorem sanitizeChild_eq (parent : Sane) (hint : Hint) :
    sanitizeChild w site depth parent hint label r =
      mapFailure (Failure.report label)
        (reduce w site depth (r.engine.interner.intern hint).1 (some parent))
        ((Run.intern hint : Attempt Run Failure Hint) r).2 := rfl

end Calls

end TypeHints
