import TypeHints.Proofs.Bindings
import TypeHints.Proofs.Sharing
import TypeHints.Proofs.Surroundings

/-!
# Two reductions side by side

Two reductions of alike hints below corresponding parents, in the same surroundings, go through
corresponding steps and end alike (`reduce_agree`), whatever their engines have kept before. The
engine comes in through the hints that the steps handle. If keys tell just those apart that are not
alike, it does not matter which representative a key has (`InOrder.intern_alike`), what a guard
holds (`Sane.Match.guarded_iff`) and which members a flat union keeps. If labels stand for one
application each, it does not matter whether an outcome has been kept (`substitute_agree`).

Which parents correspond is left open (`Sane.Corresponds`). They have to hand on alike bindings and
alike guards, except for what they say of some parameters, as long as the second run comes to none
of these (`Sane.Match`). Two uses are made of this freedom: parents that are alike in every respect,
where a call is compared after a history and in a fresh engine, and parents that differ in what an
application binds, where an argument is compared above and below the application.

Each side has its own book and its own property of hints, since the two runs need not meet the same
hints. What is known of a visit (`Visit.Known`) is asked of the visits of both. The proof goes along
the step of reduction, one lemma for each kind of hint, and then by induction on the depth
(`reduceStep_agree`, `reduce_agree`). Labels that a run gives out are its own: alike hints may
differ in them, and nothing but likeness is claimed of what the runs end in.
-/

namespace TypeHints

open Attempt Hint

/-- Nothing but a parameter is alike to a parameter. -/
theorem Hint.Alike.isParameter_eq {ρ : ForwardRef → ForwardRef → Prop} {mixed : Bool} {h k : Hint}
    (hk : Hint.Alike ρ mixed h k) : h.isParameter = k.isParameter := by
  cases hk <;> rfl

theorem Guard.has_iff {g : Guard} {h : Hint} : g.has h = true ↔ h ∈ g.hints := decide_eq_true_iff

/-! ### Parents -/

/-- Two applications make alike bindings, and no parameter has two. -/
structure Table.Match (ρ : ForwardRef → ForwardRef → Prop) (mixed : Bool)
    (table? table'? : Option Table) : Prop where
  entries : Option.Rel (fun t t' : Table ↦ AlikeBindings ρ mixed t.entries.entries t'.entries.entries)
    table? table'?
  proper : Table.Proper table?
  proper' : Table.Proper table'?

namespace Table.Match

variable {ρ : ForwardRef → ForwardRef → Prop} {mixed : Bool} {table? table'? : Option Table}

theorem none : Table.Match ρ mixed none none :=
  ⟨.none, nofun, nofun⟩

theorem lookup (h : Table.Match ρ mixed table? table'?) (p : TypeParameter) :
    Option.Rel (Hint.Alike ρ mixed) (Table.lookup? table? p) (Table.lookup? table'? p) := by
  cases h.entries with
  | none => exact .none
  | some hentries => exact hentries.find p

end Table.Match

/-- Tables match if their entries are those of bindings that are alike. -/
theorem Table.match_of_entries {ρ : ForwardRef → ForwardRef → Prop} {mixed : Bool}
    {x y : Except Failure (Option Table)} {d? d'? : Except Cause (Option (Dict TypeParameter Hint))}
    (hx : x.map (·.map Table.entries) = d?.mapError .cause)
    (hy : y.map (·.map Table.entries) = d'?.mapError .cause)
    (h : Outcomes (Cause.Alike ρ mixed) (Option.Rel fun d d' : Dict TypeParameter Hint ↦
      AlikeBindings ρ mixed d.entries d'.entries) d? d'?)
    (hd : ∀ d, d? = .ok (some d) → d.keys.Nodup) (hd' : ∀ d, d'? = .ok (some d) → d.keys.Nodup) :
    Outcomes (Failure.Alike ρ mixed) (Table.Match ρ mixed) x y := by
  cases h with
  | error hc =>
    rcases x with f | t <;> rcases y with f' | t' <;> cases hx <;> cases hy
    exact .error (.cause hc)
  | ok hds =>
    cases hds with
    | none =>
      rcases x with f | - | t <;> rcases y with f' | - | t' <;> cases hx <;> cases hy
      exact .ok .none
    | some hdd =>
      rcases x with f | - | t <;> rcases y with f' | - | t' <;> cases hx <;> cases hy
      refine .ok ⟨.some hdd, fun t ht ↦ ?_, fun t ht ↦ ?_⟩ <;> obtain rfl := Option.some.inj ht
      · exact hd _ rfl
      · exact hd' _ rfl

namespace Sane

/-- Two parents hand on alike bindings and alike guards, except for what they say of a parameter and
its binding in the second one with `X`. -/
structure Match (ρ : ForwardRef → ForwardRef → Prop) (mixed : Bool)
    (X : TypeParameter → Option Hint → Prop) (p? q? : Option Sane) : Prop where
  table : ∀ p, ¬ X p ((tableOf q?).get? p) →
    Option.Rel (Hint.Alike ρ mixed) ((tableOf p?).get? p) ((tableOf q?).get? p)
  parameters : ∀ p, ¬ X p ((tableOf q?).get? p) →
    (Hint.parameter p ∈ (guardOf p?).hints ↔ Hint.parameter p ∈ (guardOf q?).hints)
  forth : ∀ h ∈ (guardOf p?).hints, h.isParameter = false →
    ∃ k ∈ (guardOf q?).hints, Hint.Alike ρ mixed h k
  back : ∀ k ∈ (guardOf q?).hints, k.isParameter = false →
    ∃ h ∈ (guardOf p?).hints, Hint.Alike ρ mixed h k
  overridden : overriddenOf p? = overriddenOf q?

/-- A relation of parents that the steps of reduction keep, and that says enough of what parents hand
on. -/
structure Corresponds (ρ : ForwardRef → ForwardRef → Prop) (mixed : Bool)
    (X : TypeParameter → Option Hint → Prop) (R : Option Sane → Option Sane → Prop) : Prop where
  toMatch : ∀ {p? q?}, R p? q? → Match ρ mixed X p? q?
  ignorable : R (some .ignorable) (some .ignorable)
  handsOn : ∀ {p? q? s t}, R p? q? → s.HandsOn p? → t.HandsOn q? → R (some s) (some t)
  create : ∀ {p? q? table? table'?}, R p? q? → Table.Match ρ mixed table? table'? →
    ∀ l m a b, R (some (.create l a p? table?)) (some (.create m b q? table'?))
  expanding : ∀ {s t a b}, R (some s) (some t) → Hint.Alike ρ mixed a b →
    (a ∈ s.guard.hints ↔ b ∈ t.guard.hints) →
    ∀ l m, R (some (s.expanding l a)) (some (t.expanding m b))
  overriding : ∀ {s t}, R (some s) (some t) →
    ∀ l m name, R (some (s.overriding l name)) (some (t.overriding m name))

namespace Match

variable {ρ : ForwardRef → ForwardRef → Prop} {mixed : Bool}
  {X : TypeParameter → Option Hint → Prop} {p? q? : Option Sane} {s t : Sane}

protected theorem refl (hρ : ∀ r, ρ r r) (p? : Option Sane) : Match ρ mixed X p? p? where
  table p _ := by
    cases (tableOf p?).get? p with
    | none => exact .none
    | some h => exact .some (.refl hρ h)
  parameters _ _ := Iff.rfl
  forth h hh _ := ⟨h, hh, .refl hρ h⟩
  back h hh _ := ⟨h, hh, .refl hρ h⟩
  overridden := rfl

/-- Models that hand on just what their parents do match as these do. -/
theorem handsOn (h : Match ρ mixed X p? q?) (hs : s.HandsOn p?) (ht : t.HandsOn q?) :
    Match ρ mixed X (some s) (some t) := by
  obtain ⟨htable, hparameters, hforth, hback, hoverridden⟩ := h
  refine ⟨?_, ?_, ?_, ?_, ?_⟩ <;>
    simp only [tableOf_some, guardOf_some, overriddenOf_some, hs.table, hs.guard, hs.overridden,
      ht.table, ht.guard, ht.overridden]
  · exact htable
  · exact hparameters
  · exact hforth
  · exact hback
  · exact hoverridden

/-- Hints that are alike may be entered in both guards. -/
theorem expanding (h : Match ρ mixed X (some s) (some t)) (l m : Label) {a b : Hint}
    (hab : Hint.Alike ρ mixed a b) :
    Match ρ mixed X (some (s.expanding l a)) (some (t.expanding m b)) := by
  refine ⟨h.table, fun p hp ↦ ?_, fun k hk hkind ↦ ?_, fun k hk hkind ↦ ?_, h.overridden⟩
  · have hself : Hint.parameter p = a ↔ Hint.parameter p = b :=
      eq_comm.trans ((hab.eq_parameter_iff p).trans eq_comm)
    exact Guard.mem_add.trans ((or_congr (h.parameters p hp) hself).trans Guard.mem_add.symm)
  · rcases Guard.mem_add.mp hk with hk | rfl
    · obtain ⟨m, hm, hkm⟩ := h.forth k hk hkind
      exact ⟨m, Guard.mem_add.mpr (.inl hm), hkm⟩
    · exact ⟨b, Guard.mem_add.mpr (.inr rfl), hab⟩
  · rcases Guard.mem_add.mp hk with hk | rfl
    · obtain ⟨m, hm, hkm⟩ := h.back k hk hkind
      exact ⟨m, Guard.mem_add.mpr (.inl hm), hkm⟩
    · exact ⟨a, Guard.mem_add.mpr (.inr rfl), hab⟩

/-- The same override may be noted in both. -/
theorem overriding (h : Match ρ mixed X (some s) (some t)) (l m : Label) (name : String) :
    Match ρ mixed X (some (s.overriding l name)) (some (t.overriding m name)) := by
  have hnames : s.overridden = t.overridden := h.overridden
  refine ⟨h.table, h.parameters, h.forth, h.back, ?_⟩
  simp only [overriddenOf_some, Sane.overriding, hnames]

/-- Bindings that are alike may be made below both. What a binding says of a parameter holds from
then on, whatever the parents say. -/
theorem create (h : Match ρ mixed X p? q?) (l m : Label) (a b : Hint)
    {table? table'? : Option Table} (ht : Table.Match ρ mixed table? table'?) :
    Match ρ mixed X (some (.create l a p? table?)) (some (.create m b q? table'?)) := by
  have hget (p : TypeParameter) : (tableOf (some (Sane.create m b q? table'?))).get? p =
      (Table.lookup? table'? p).or ((tableOf q?).get? p) :=
    Table.get?_merge ht.proper' m (tableOf q?) p
  refine ⟨fun p hp ↦ ?_, fun p hp ↦ ?_, fun k hk hkind ↦ ?_, fun k hk hkind ↦ ?_, h.overridden⟩
  · have hget' : (tableOf (some (Sane.create l a p? table?))).get? p =
        (Table.lookup? table? p).or ((tableOf p?).get? p) :=
      Table.get?_merge ht.proper l (tableOf p?) p
    have hlookup := ht.lookup p
    rw [hget] at hp ⊢
    rw [hget']
    -- where the new bindings say nothing of `p`, the parents decide
    generalize Table.lookup? table? p = x, Table.lookup? table'? p = y at hlookup hp
    cases hlookup with
    | none => exact h.table p hp
    | some hxy => exact .some hxy
  · have hlookup := ht.lookup p
    rw [hget] at hp
    refine Guard.parameter_mem_withoutRebound.trans
      (Iff.trans ?_ Guard.parameter_mem_withoutRebound.symm)
    generalize Table.lookup? table? p = x, Table.lookup? table'? p = y at hlookup hp
    cases hlookup with
    | none => exact and_congr_left fun _ ↦ h.parameters p hp
    | some hxy => simp
  · obtain ⟨m, hm, hkm⟩ := h.forth k ((Guard.mem_withoutRebound hkind).mp hk) hkind
    exact ⟨m, (Guard.mem_withoutRebound (hkm.isParameter_eq.symm.trans hkind)).mpr hm, hkm⟩
  · obtain ⟨m, hm, hkm⟩ := h.back k ((Guard.mem_withoutRebound hkind).mp hk) hkind
    exact ⟨m, (Guard.mem_withoutRebound (hkm.isParameter_eq.trans hkind)).mpr hm, hkm⟩

end Match

theorem corresponds_match {ρ : ForwardRef → ForwardRef → Prop} (hρ : ∀ r, ρ r r) (mixed : Bool)
    (X : TypeParameter → Option Hint → Prop) : Corresponds ρ mixed X (Match ρ mixed X) where
  toMatch h := h
  ignorable := .refl hρ _
  handsOn h := h.handsOn
  create h ht l m a b := h.create l m a b ht
  expanding h hab _ l m := h.expanding l m hab
  overriding h := h.overriding

end Sane

/-! ### Runs that are in order -/

/-- Among representatives with `M`, a hint with `M` has one with `M`. -/
theorem Interner.intern_holds {M : Hint → Prop} {i : Interner}
    (hi : ∀ k v, i.hints.get? k = some v → M v) {h : Hint} (hh : M h) : M (i.intern h).1 := by
  rcases Interner.intern_cases h i with ⟨-, he⟩ | ⟨-, k, hk, he⟩ | ⟨-, -, he⟩ <;> rw [he]
  · exact hh
  · exact hi _ _ hk
  · exact hh

/-- Where keys are faithful, the representative is alike. -/
theorem Hint.Faithful.intern_alike {ρ : ForwardRef → ForwardRef → Prop} {mixed : Bool}
    {M : Hint → Prop} (hM : Faithful ρ mixed M) {i : Interner} (hs : i.Sound)
    (hi : ∀ k v, i.hints.get? k = some v → M v) {h : Hint} (hh : M h) :
    M (i.intern h).1 ∧ Hint.Alike ρ mixed (i.intern h).1 h := by
  have hrep : M (i.intern h).1 := Interner.intern_holds hi hh
  exact ⟨hrep, (hM _ _ hrep hh).mp (hs.stableKey_intern h)⟩

/-- A run has its surroundings, and what its engine keeps can be relied on: representatives stand
under their own keys and have `M`, outcomes are those of the book `B`. -/
structure Run.InOrder (w W : World) (site : Site) (names : Label → String) (B : Book)
    (M : Hint → Prop) (r : Run) : Prop where
  surroundings : r.At w W site names
  sound : r.engine.interner.Sound
  holds : r.Holds M
  honest : r.engine.substitutions.Honest w.classes B

namespace Run.InOrder

variable {w W : World} {site : Site} {names : Label → String} {B : Book} {M : Hint → Prop}
  {r r' : Run} {ε α : Type}

/-- A run stays in order if just representatives with `M` are added to what its engine keeps. -/
theorem adds (hr : r.InOrder w W site names B M) (hat : r'.At w W site names) (hg : r.Grows r')
    (h : Run.Adds M (fun _ _ ↦ False) r r') : r'.InOrder w W site names B M where
  surroundings := hat
  sound := hg.sound hr.sound
  holds k v hk := (h.kept k v hk).elim (hr.holds k v) id
  honest k out hk := (h.known k out hk).elim (hr.honest k out) False.elim

theorem quiet (hr : r.InOrder w W site names B M) (h : Quiet r r') :
    r'.InOrder w W site names B M :=
  hr.adds (hr.surroundings.quiet h) h.grows h.adds

theorem intern {h : Hint} (hM : M h) (hr : r.InOrder w W site names B M) :
    ((Run.intern h : Attempt Run ε Hint) r).2.InOrder w W site names B M := by
  have hat := hr.surroundings
  exact hr.adds ⟨hat.world, hat.shown, hat.refs, hat.scope⟩ (grows_intern h r) (adds_intern hM r)

theorem destringify (text : String) (hr : r.InOrder w W site names B M) :
    (site.destringify w text r).2.InOrder w W site names B M :=
  hr.adds ((Site.keeps_at_destringify text).keeps r hr.surroundings)
    (Site.grows_destringify w site text r) (adds_destringify w site text r)

theorem aliasValue (hW : w.Pure W) (a : Alias) (hr : r.InOrder w W site names B M) :
    (TypeHints.aliasValue w a r).2.InOrder w W site names B M :=
  hr.adds ((keeps_at_aliasValue hW a).keeps r hr.surroundings) (grows_aliasValue w a r)
    (adds_aliasValue w a r)

theorem substitute {m : Label} {o : Origin} {args : List Hint} (hB : B.Has W m o args)
    (hr : r.InOrder w W site names B M) :
    (Run.substitute w (.subscripted m o args) o.params args r).2.InOrder w W site names B M := by
  obtain ⟨hat, hsound, hholds, hhonest⟩ := hr
  have hB : B.Has (w.under r.store) m o args := hat.world ▸ hB
  exact ⟨⟨hat.world, hat.shown, hat.refs, hat.scope⟩, hsound, hholds,
    (hhonest.build (w := w.under r.store) rfl hB r.store.next).1⟩

/-- The representative of a hint with `M` has `M`, and is alike. -/
theorem intern_alike {ρ : ForwardRef → ForwardRef → Prop} {mixed : Bool}
    (hM : Faithful ρ mixed M) {h : Hint} (hh : M h) (hr : r.InOrder w W site names B M) :
    M (r.engine.interner.intern h).1 ∧ Hint.Alike ρ mixed (r.engine.interner.intern h).1 h :=
  hM.intern_alike hr.sound hr.holds hh

end Run.InOrder

/-! ### Two runs that are in order -/

/-- Two stages correspond: both end in alike models, or both go on with alike hints. -/
inductive Stage.Alike (ρ : ForwardRef → ForwardRef → Prop) (mixed : Bool)
    (R : Option Sane → Option Sane → Prop) : Stage → Stage → Prop
  | done {s t : Sane} (hint : Hint.Alike ρ mixed s.hint t.hint) (handsOn : R (some s) (some t)) :
      Alike ρ mixed R (.done s) (.done t)
  | goOn {h k : Hint} {p? q? : Option Sane} (hint : Hint.Alike ρ mixed h k)
      (parents : R p? q?) : Alike ρ mixed R (.goOn h p?) (.goOn k q?)

/-- Two runs at one site in the same surroundings, each in order with a book and hints of its own. -/
abbrev Comparison.inOrder (w W : World) (site : Site) (names : Label → String) (B B' : Book)
    (M M' : Hint → Prop) : Comparison Run :=
  .pair (Run.InOrder w W site names B M) (Run.InOrder w W site names B' M')

open ForwardRef (Namesake namesake_refl namesake_equivalence)

section Agreement

variable {w W : World} {site : Site} {names : Label → String} {B B' : Book} {M M' : Hint → Prop}
  {mixed : Bool} {X : TypeParameter → Option Hint → Prop}
  {R : Option Sane → Option Sane → Prop} {p? q? : Option Sane}

/-! ### Actions without the engine -/

section Quiet

variable {ε α β : Type} {E : ε → ε → Prop} {V : α → β → Prop}

/-- Actions that only give labels out and log lines keep both runs in order. -/
theorem quiet_agree {a : Attempt Run ε α} {b : Attempt Run ε β} (ha : Follows Run.Quiet a)
    (hb : Follows Run.Quiet b) (h : ∀ r r', Outcomes E V (a r).1 (b r').1) :
    Agree (.inOrder w W site names B B' M M') E V a b :=
  .of_keeps (fun r hr ↦ hr.quiet (ha r)) (fun r hr ↦ hr.quiet (hb r)) fun r r' _ _ ↦ h r r'

theorem fresh_agree : Agree (.inOrder w W site names B B' M M') E (fun _ _ ↦ True)
    (Run.fresh : Attempt Run ε Label) (Run.fresh : Attempt Run ε Label) :=
  quiet_agree Run.quiet_fresh Run.quiet_fresh fun _ _ ↦ .ok trivial

theorem log_agree (m m' : String) : Agree (.inOrder w W site names B B' M M') E (fun _ _ ↦ True)
    (site.log m : Attempt Run ε Unit) (site.log m' : Attempt Run ε Unit) := by
  refine quiet_agree (Run.quiet_log site m) (Run.quiet_log site m') fun r r' ↦ ?_
  rw [Site.log_fst, Site.log_fst]
  exact .ok trivial

end Quiet

section Models

variable (hR : Sane.Corresponds Namesake mixed X R)

include hR

theorem model_agree (h : R p? q?) (a b : Hint) {table? table'? : Option Table}
    (ht : Table.Match Namesake mixed table? table'?) :
    Agree (.inOrder w W site names B B' M M') (Failure.Alike Namesake mixed)
      (fun s t ↦ ∃ l m, s = .create l a p? table? ∧ t = .create m b q? table'? ∧ R (some s) (some t))
      (Run.model a p? table?) (Run.model b q? table'?) :=
  fresh_agree.bind_pair fun l m _ ↦ .pure ⟨l, m, rfl, rfl, hR.create h ht l m a b⟩

theorem settle_agree (h : R p? q?) {a b : Hint} (hab : Hint.Alike Namesake mixed a b)
    {table? table'? : Option Table} (ht : Table.Match Namesake mixed table? table'?) :
    Agree (.inOrder w W site names B B' M M') (Failure.Alike Namesake mixed)
      (Stage.Alike Namesake mixed R) (Run.settle a p? table?) (Run.settle b q? table'?) := by
  refine (model_agree hR h a b ht).bind_pair ?_
  rintro _ _ ⟨l, m, rfl, rfl, hst⟩
  exact .pure (.done hab hst)

theorem expanding_agree {s t : Sane} (h : R (some s) (some t)) {a b : Hint}
    (hab : Hint.Alike Namesake mixed a b) (hmem : a ∈ s.guard.hints ↔ b ∈ t.guard.hints) :
    Agree (.inOrder w W site names B B' M M') (Failure.Alike Namesake mixed)
      (fun s t ↦ R (some s) (some t)) (Run.expanding s a) (Run.expanding t b) :=
  fresh_agree.bind_pair fun l m _ ↦ .pure (hR.expanding h hab hmem l m)

theorem ancestry_agree (h : R p? q?) (a b : Hint) :
    Agree (.inOrder w W site names B B' M M') (Failure.Alike Namesake mixed)
      (fun s t ↦ s.HandsOn p? ∧ t.HandsOn q? ∧ R (some s) (some t)) (Run.ancestry a p?)
      (Run.ancestry b q?) := by
  refine quiet_agree (Run.quiet_ancestry a p?) (Run.quiet_ancestry b q?) fun r r' ↦ ?_
  obtain ⟨s, _, hs, hon, -⟩ := Run.ancestry_apply a p? r
  obtain ⟨t, _, ht, hon', -⟩ := Run.ancestry_apply b q? r'
  rw [hs, ht]
  exact .ok ⟨hon, hon', hR.handsOn h hon hon'⟩

end Models

/-! ### Actions on the engine -/

section Engine

theorem destringify_agree (text : String) :
    Agree (.inOrder w W site names B B' M M') (Failure.Alike Namesake mixed)
      (Hint.Alike Namesake mixed) ((site.destringify w text).mapFailure .cause)
      ((site.destringify w text).mapFailure .cause) := by
  refine Agree.mapFailure (E := Cause.Alike Namesake mixed) (.of_keeps
    (fun _ hr ↦ hr.destringify text) (fun _ hr ↦ hr.destringify text) fun _ _ hr hr' ↦ ?_)
    fun _ _ h ↦ .cause h
  exact (Site.destringify_agree text).outcomes hr.surroundings hr'.surroundings

theorem aliasValue_agree_inOrder (hW : w.Pure W) (a : Alias) :
    Agree (.inOrder w W site names B B' M M') (Failure.Alike Namesake mixed)
      (Hint.Alike Namesake mixed) (aliasValue w a) (aliasValue w a) :=
  .of_keeps (fun _ hr ↦ hr.aliasValue hW a) (fun _ hr ↦ hr.aliasValue hW a) fun _ _ hr hr' ↦
    (aliasValue_agree hW a).outcomes hr.surroundings hr'.surroundings

/-- Applications that are in the books bind alike or fail alike, whatever has been kept. -/
theorem substitute_agree {m m' : Label} {o : Origin} {args args' : List Hint}
    (hB : B.Has W m o args) (hB' : B'.Has W m' o args')
    (hh : Hint.Alike Namesake mixed (.subscripted m o args) (.subscripted m' o args'))
    (hargs : AlikeAll Namesake mixed args args') :
    Agree (.inOrder w W site names B B' M M') (Failure.Alike Namesake mixed)
      (Table.Match Namesake mixed) (Run.substitute w (.subscripted m o args) o.params args)
      (Run.substitute w (.subscripted m' o args') o.params args') := by
  refine .of_keeps (fun _ hr ↦ hr.substitute hB) (fun _ hr ↦ hr.substitute hB') fun r r' hr hr' ↦ ?_
  have hfirst := Run.substitute_eq hr.honest (hr.surroundings.world ▸ hB)
  have hsecond := Run.substitute_eq hr'.honest (hr'.surroundings.world ▸ hB')
  have hcompute := Substitution.compute_agree namesake_refl W hh o.params hargs
  rw [hr.surroundings.world] at hfirst
  rw [hr'.surroundings.world] at hsecond
  exact Table.match_of_entries hfirst hsecond hcompute (fun _ ↦ Substitution.nodup_of_compute)
    fun _ ↦ Substitution.nodup_of_compute

/-- Alike hints have alike representatives. -/
theorem intern_agree (hM : Faithful Namesake mixed M) (hM' : Faithful Namesake mixed M')
    {h k : Hint} (hh : M h) (hk : M' k) (hhk : Hint.Alike Namesake mixed h k) :
    Agree (.inOrder w W site names B B' M M') (Failure.Alike Namesake mixed)
      (Hint.Alike Namesake mixed) (Run.intern h : Attempt Run Failure Hint)
      (Run.intern k : Attempt Run Failure Hint) := by
  refine .of_keeps (fun _ hr ↦ hr.intern hh) (fun _ hr ↦ hr.intern hk) fun _ _ hr hr' ↦ .ok ?_
  have he : Equivalence (Hint.Alike Namesake mixed) := alike_equivalence namesake_equivalence
  exact he.trans (he.trans (hr.intern_alike hM hh).2 hhk) (he.symm (hr'.intern_alike hM' hk).2)

end Engine

/-! ### Steps -/

section Steps

variable (hR : Sane.Corresponds Namesake mixed X R)

include hR

theorem reduceClass_agree (h : R p? q?) (c : ClassHint) :
    Agree (.inOrder w W site names B B' M M') (Failure.Alike Namesake mixed)
      (Stage.Alike Namesake mixed R) (reduceClass w site c p?) (reduceClass w site c q?) := by
  unfold reduceClass
  cases site.config.overrides.get? c.name with
  | none => exact settle_agree hR h (.ofClass c) .none
  | some text =>
    refine (ancestry_agree hR h _ _).bind_pair ?_
    rintro s t ⟨hs, ht, hst⟩
    have hoverridden : s.overridden = t.overridden := (hR.toMatch hst).overridden
    rw [hoverridden]
    split
    · exact settle_agree hR h (.ofClass c) .none
    · refine (log_agree _ _).bind_pair fun _ _ _ ↦ fresh_agree.bind_pair fun l m _ ↦ ?_
      exact (destringify_agree text).bind_pair fun _ _ hk ↦
        .pure (.goOn hk (hR.overriding hst l m c.name))

omit hR in
/-- Unions with alike members come to alike flat unions. -/
theorem canonicalUnion_agree (hM : Faithful Namesake mixed M) (hM' : Faithful Namesake mixed M')
    (l m : Label) {hs ks : List Hint} (hsame : SameMembers Namesake mixed hs ks)
    (hleaves : ∀ k ∈ leavesAll hs, M k) (hleaves' : ∀ k ∈ leavesAll ks, M' k)
    (hflat : ∀ l, M (.union l (flatMembers hs))) (hflat' : ∀ l, M' (.union l (flatMembers ks))) :
    Agree (.inOrder w W site names B B' M M') (Failure.Alike Namesake mixed)
      (Hint.Alike Namesake mixed) (canonicalUnion l hs (flatMembers hs))
      (canonicalUnion m ks (flatMembers ks)) := by
  have hflats := hsame.flat namesake_equivalence hM hM' hleaves hleaves'
  have hself : flatMembers hs = hs ↔ flatMembers ks = ks :=
    ⟨hsame.flat_eq_self namesake_equivalence hM hM' hleaves hleaves',
      (hsame.symm fun _ _ ↦ namesake_equivalence.symm).flat_eq_self namesake_equivalence hM' hM
        hleaves' hleaves⟩
  unfold canonicalUnion
  by_cases hhs : flatMembers hs = hs
  · rw [if_pos hhs, if_pos (hself.mp hhs)]
    exact .pure (hsame.union l m)
  · rw [if_neg hhs, if_neg (hself.not.mp hhs)]
    exact fresh_agree.bind_pair fun l m _ ↦
      intern_agree hM hM' (hflat l) (hflat' m) (hflats.union l m)

/-- Unions with the same members, up to order and repetition, are reduced alike. -/
theorem reduceUnion_agree (hM : Faithful Namesake mixed M) (hM' : Faithful Namesake mixed M')
    (h : R p? q?) (l m : Label) {hs ks : List Hint} (hsame : SameMembers Namesake mixed hs ks)
    (hleaves : ∀ k ∈ leavesAll hs, M k) (hleaves' : ∀ k ∈ leavesAll ks, M' k)
    (hflat : ∀ l, M (.union l (flatMembers hs))) (hflat' : ∀ l, M' (.union l (flatMembers ks))) :
    Agree (.inOrder w W site names B B' M M') (Failure.Alike Namesake mixed)
      (Stage.Alike Namesake mixed R) (reduceUnion l hs p?) (reduceUnion m ks q?) := by
  have hflats := hsame.flat namesake_equivalence hM hM' hleaves hleaves'
  have hany := hflats.any_mem_iff fun _ _ ↦ namesake_equivalence.symm
  unfold reduceUnion
  by_cases hmem : Hint.any ∈ flatMembers hs
  · rw [if_pos hmem, if_pos (hany.mp hmem)]
    exact .pure (.done .any hR.ignorable)
  · rw [if_neg hmem, if_neg (hany.not.mp hmem)]
    have hcanonical : Agree (.inOrder w W site names B B' M M') (Failure.Alike Namesake mixed)
        (Hint.Alike Namesake mixed) (canonicalUnion l hs (flatMembers hs))
        (canonicalUnion m ks (flatMembers ks)) :=
      canonicalUnion_agree hM hM' l m hsame hleaves hleaves' hflat hflat'
    -- alike flat unions have the same number of members, so the other cases do not come up
    rcases hx : flatMembers hs with - | ⟨x, - | ⟨x', xs⟩⟩ <;>
      rcases hy : flatMembers ks with - | ⟨y, - | ⟨y', ys⟩⟩ <;>
      rw [hx, hy] at hflats <;> first | cases hflats.length_eq | skip
    · exact .fail (.cause (.same .emptyUnion))
    · exact .pure (.goOn hflats.singleton h)
    · rw [hx, hy] at hcanonical
      exact hcanonical.bind_pair fun _ _ hk ↦ settle_agree hR h hk .none

/-- A parameter that is not excepted leads to alike hints. -/
theorem reduceParameter_agree (h : R p? q?) {p : TypeParameter}
    (hX : ¬ X p ((Sane.tableOf q?).get? p)) :
    Agree (.inOrder w W site names B B' M M') (Failure.Alike Namesake mixed)
      (Stage.Alike Namesake mixed R) (reduceParameter w site p p?) (reduceParameter w site p q?) := by
  refine (ancestry_agree hR h _ _).bind_pair ?_
  rintro s t ⟨hs, ht, hst⟩
  have hmatch := hR.toMatch h
  have hguard : s.guard.has (.parameter p) = t.guard.has (.parameter p) := by
    unfold Guard.has
    rw [hs.guard, ht.guard, decide_eq_decide]
    exact hmatch.parameters p hX
  have hlookup : Option.Rel (Hint.Alike Namesake mixed) (s.table.get? p) (t.table.get? p) := by
    rw [hs.table, ht.table]
    exact hmatch.table p hX
  rw [hguard]
  split
  · exact (log_agree _ _).bind_pair fun _ _ _ ↦ .pure (.done .any hR.ignorable)
  · refine (expanding_agree hR hst (.parameter p) (decide_eq_decide.mp hguard)).bind_pair
      fun n n' hn ↦ ?_
    refine Agree.bind_pair (V := fun w₁ w₂ ↦ w₁ = W ∧ w₂ = W) ?_ ?_
    · exact .of_keeps (fun _ hr ↦ hr) (fun _ hr ↦ hr) fun r r' hr hr' ↦
        .ok ⟨hr.surroundings.world, hr'.surroundings.world⟩
    · rintro w₁ w₂ ⟨h₁, h₂⟩
      rw [h₁, h₂]
      generalize s.table.get? p = x, t.table.get? p = y at hlookup
      cases hlookup with
      | some hk => exact .pure (.goOn hk hn)
      | none =>
        cases W.bound? p with
        | some bound => exact .pure (.goOn (.refl namesake_refl bound) hn)
        | none =>
          cases W.constraints p with
          | nil => exact .pure (.done .any hR.ignorable)
          | cons k ks =>
            exact fresh_agree.bind_pair fun l m _ ↦
              .pure (.goOn (.union l m (.refl namesake_refl _) (.refl _) fun _ ↦ rfl) hn)

/-- Alike applications of a template make alike bindings. -/
theorem reduceTemplate_agree (h : R p? q?) {m m' : Label} (t : Template) {args args' : List Hint}
    (hB : B.Has W m (.template t) args) (hB' : B'.Has W m' (.template t) args')
    (hargs : AlikeAll Namesake mixed args args') :
    Agree (.inOrder w W site names B B' M M') (Failure.Alike Namesake mixed)
      (Stage.Alike Namesake mixed R) (reduceTemplate w site m t args p?)
      (reduceTemplate w site m' t args' q?) := by
  refine (substitute_agree hB hB' (.appliedTemplate m m' t hargs) hargs).bind_pair
    fun table? table'? htable ↦ ?_
  have hsettle : Agree (.inOrder w W site names B B' M M') (Failure.Alike Namesake mixed)
      (Stage.Alike Namesake mixed R) (Run.settle (.template t) p? table?)
      (Run.settle (.template t) q? table'?) := settle_agree hR h (.template t) htable
  cases htable.entries with
  | none => exact hsettle
  | some _ => exact (log_agree _ _).bind_pair fun _ _ _ ↦ hsettle

end Steps

/-! ### Aliases -/

/-- Two applications, if there are any, have alike arguments. -/
abbrev AlikeApplications (ρ : ForwardRef → ForwardRef → Prop) (mixed : Bool)
    (application? application'? : Option (Label × List Hint)) : Prop :=
  Option.Rel (fun x y ↦ AlikeAll ρ mixed x.2 y.2) application? application'?

/-- A guard of representatives that holds something alike to a hint holds its representative. -/
theorem Run.InOrder.intern_mem {r : Run} (hr : r.InOrder w W site names B M)
    (hM : Faithful Namesake mixed M) {g : Guard} (hg : g.Settled r.engine.interner) {h : Hint}
    (hh : M h) (hkind : Interner.isInternable h = true)
    (hmem : ∃ k ∈ g.hints, Hint.Alike Namesake mixed k h) :
    (r.engine.interner.intern h).1 ∈ g.hints := by
  obtain ⟨k, hk, hkh⟩ := hmem
  have hkept := hg k hk (hkh.isInternable_eq.trans hkind)
  have hkey : k.stableKey = h.stableKey := (hM k h (hr.holds _ _ hkept) hh).mpr hkh
  rw [Interner.intern_of_get? hkind (hkey ▸ hkept)]
  exact hk

section Aliases

variable {application? application'? : Option (Label × List Hint)} {r r' : Run}

/-- Alike applications of an alias have alike keys, and the guards hold both keys or none. -/
theorem guardKey_agree (hM : Faithful Namesake mixed M) (hM' : Faithful Namesake mixed M')
    (hmatch : Sane.Match Namesake mixed X p? q?) (a : Alias)
    (happ : AlikeApplications Namesake mixed application? application'?)
    (hform : M (a.form application?)) (hform' : M' (a.form application'?))
    (hs : (Sane.guardOf p?).Settled r.engine.interner)
    (hs' : (Sane.guardOf q?).Settled r'.engine.interner) :
    AgreeAt (.inOrder w W site names B B' M M') (Failure.Alike Namesake mixed)
      (fun k k' ↦ Hint.Alike Namesake mixed k k' ∧ k.isParameter = false ∧ k'.isParameter = false ∧
        (k ∈ (Sane.guardOf p?).hints ↔ k' ∈ (Sane.guardOf q?).hints))
      (guardKey a application?) (guardKey a application'?) r r' := by
  rintro ⟨hr, hr'⟩ -
  have he : Equivalence (Hint.Alike Namesake mixed) := alike_equivalence namesake_equivalence
  cases happ with
  | none =>
    refine ⟨.ok ⟨.alias a, rfl, rfl, fun h ↦ ?_, fun h ↦ ?_⟩, hr, hr'⟩
    · obtain ⟨k, hk, halike⟩ := hmatch.forth _ h rfl
      cases halike
      exact hk
    · obtain ⟨k, hk, halike⟩ := hmatch.back _ h rfl
      cases halike
      exact hk
  | @some x y hargs =>
    obtain ⟨l, args⟩ := x
    obtain ⟨m, args'⟩ := y
    have hforms : Hint.Alike Namesake mixed (.subscripted l (.alias a) args)
        (.subscripted m (.alias a) args') := .appliedAlias l m a hargs
    obtain ⟨-, hk⟩ := hr.intern_alike hM hform
    obtain ⟨-, hk'⟩ := hr'.intern_alike hM' hform'
    refine ⟨.ok ⟨he.trans (he.trans hk hforms) (he.symm hk'), hk.isParameter_eq,
      hk'.isParameter_eq, fun h ↦ ?_, fun h ↦ ?_⟩, hr.intern hform, hr'.intern hform'⟩
    · obtain ⟨n, hn, halike⟩ := hmatch.forth _ h hk.isParameter_eq
      exact hr'.intern_mem hM' hs' hform' rfl
        ⟨n, hn, he.trans (he.symm halike) (he.trans hk hforms)⟩
    · obtain ⟨n, hn, halike⟩ := hmatch.back _ h hk'.isParameter_eq
      exact hr.intern_mem hM hs hform rfl
        ⟨n, hn, he.trans halike (he.trans hk' (he.symm hforms))⟩

theorem aliasTable_agree (a : Alias)
    (happ : AlikeApplications Namesake mixed application? application'?)
    (hB : ∀ m args, application? = some (m, args) → B.Has W m (.alias a) args)
    (hB' : ∀ m args, application'? = some (m, args) → B'.Has W m (.alias a) args) :
    Agree (.inOrder w W site names B B' M M') (Failure.Alike Namesake mixed)
      (Table.Match Namesake mixed) (aliasTable w a application?) (aliasTable w a application'?) := by
  cases happ with
  | none => exact .pure .none
  | @some x y hargs =>
    obtain ⟨l, args⟩ := x
    obtain ⟨m, args'⟩ := y
    exact substitute_agree (hB l args rfl) (hB' m args' rfl) (.appliedAlias l m a hargs) hargs

/-- Alike applications of an alias are expanded alike: both come up again, or both stand for alike
hints below corresponding parents. -/
theorem expandAlias_agree (hW : w.Pure W) (hM : Faithful Namesake mixed M)
    (hM' : Faithful Namesake mixed M') (hR : Sane.Corresponds Namesake mixed X R) (h : R p? q?)
    (a : Alias) (happ : AlikeApplications Namesake mixed application? application'?)
    (hform : M (a.form application?)) (hform' : M' (a.form application'?))
    (hB : ∀ m args, application? = some (m, args) → B.Has W m (.alias a) args)
    (hB' : ∀ m args, application'? = some (m, args) → B'.Has W m (.alias a) args)
    (hs : (Sane.guardOf p?).Settled r.engine.interner)
    (hs' : (Sane.guardOf q?).Settled r'.engine.interner) :
    AgreeAt (.inOrder w W site names B B' M M') (Failure.Alike Namesake mixed)
      (Option.Rel fun x y ↦ Hint.Alike Namesake mixed x.1 y.1 ∧ R (some x.2) (some y.2))
      (expandAlias w a application? p?) (expandAlias w a application'? q?) r r' := by
  refine (ancestry_agree hR h _ _ r r').bind_pair ?_
  rintro s t r₁ r₁' ⟨hon, hon', hst⟩ hanc hanc'
  rw [← ((Run.quiet_ancestry _ _).of_run hanc).engine] at hs
  rw [← ((Run.quiet_ancestry _ _).of_run hanc').engine] at hs'
  refine (guardKey_agree hM hM' (hR.toMatch h) a happ hform hform' hs hs').bind_pair ?_
  rintro k k' r₂ r₂' ⟨hk, hkind, hkind', hmem⟩ - -
  rw [← hon.guard, ← hon'.guard] at hmem
  by_cases hfound : k ∈ s.guard.hints
  · rw [if_pos (Guard.has_iff.mpr hfound), if_pos (Guard.has_iff.mpr (hmem.mp hfound))]
    exact Agree.pure .none r₂ r₂'
  · have hfresh : k' ∉ t.guard.hints := hmem.not.mp hfound
    rw [if_neg (Guard.has_iff.not.mpr hfound), if_neg (Guard.has_iff.not.mpr hfresh)]
    refine (aliasTable_agree a happ hB hB').bind_pair (fun table? table'? htable ↦ ?_) r₂ r₂'
    refine (model_agree hR hst (.alias a) (.alias a) htable).bind_pair ?_
    rintro n n' ⟨l, m, rfl, rfl, hn⟩
    -- a key that is no parameter is in the guard of the new model just if it was there before
    have hmem' : k ∈ (Sane.create l (.alias a) (some s) table?).guard.hints ↔
        k' ∈ (Sane.create m (.alias a) (some t) table'?).guard.hints :=
      (Guard.mem_withoutRebound hkind).trans (hmem.trans (Guard.mem_withoutRebound hkind').symm)
    refine (expanding_agree hR hn hk hmem').bind_pair fun _ _ hcarrier ↦ ?_
    exact (aliasValue_agree_inOrder hW a).bind_pair fun _ _ hvalue ↦
      .pure (.some ⟨hvalue, hcarrier⟩)

/-- Alike applications of an alias lead to alike values, or are both dropped. -/
theorem reduceAlias_agree (hW : w.Pure W) (hM : Faithful Namesake mixed M)
    (hM' : Faithful Namesake mixed M') (hR : Sane.Corresponds Namesake mixed X R) (h : R p? q?)
    (a : Alias) (happ : AlikeApplications Namesake mixed application? application'?)
    (hhandles : ∀ k, Visit.Handles w ⟨a.form application?, p?, r⟩ k → M k)
    (hhandles' : ∀ k, Visit.Handles w ⟨a.form application'?, q?, r'⟩ k → M' k)
    (hB : ∀ m args, application? = some (m, args) → B.Has W m (.alias a) args)
    (hB' : ∀ m args, application'? = some (m, args) → B'.Has W m (.alias a) args)
    (hs : (Sane.guardOf p?).Settled r.engine.interner)
    (hs' : (Sane.guardOf q?).Settled r'.engine.interner) :
    AgreeAt (.inOrder w W site names B B' M M') (Failure.Alike Namesake mixed)
      (Stage.Alike Namesake mixed R) (reduceAlias w site a application? p?)
      (reduceAlias w site a application'? q?) r r' := by
  refine (expandAlias_agree hW hM hM' hR h a happ (hhandles _ .self) (hhandles' _ .self) hB hB' hs
    hs').bind_pair ?_
  rintro x y r₁ r₁' hxy hx hy
  cases hxy with
  | none => exact (log_agree _ _).bind_pair (fun _ _ _ ↦ .pure (.done .any hR.ignorable)) r₁ r₁'
  | some hxy =>
    refine Agree.bind_pair (intern_agree hM hM' (hhandles _ (.value rfl hx))
      (hhandles' _ (.value rfl hy)) hxy.1) (fun _ _ hk ↦ .pure (.goOn hk hxy.2)) r₁ r₁'

end Aliases

/-! ### Whole reductions -/

/-- What is known of a visit: the hints that it handles have `M`, and the application that is
visited, if there is one, is in the book. -/
structure Visit.Known (w : World) (B : Book) (M : Hint → Prop) (v : Visit) : Prop where
  handled : ∀ k, v.Handles w k → M k
  booked : v.Booked w B

/-- A visit comes to no parameter whose binding has `X`. -/
def Visit.Avoids (X : TypeParameter → Option Hint → Prop) (v : Visit) : Prop :=
  ∀ p, v.hint = .parameter p → ¬ X p ((Sane.tableOf v.parent?).get? p)

section Runs

variable (hW : w.Pure W) (hM : Faithful Namesake mixed M) (hM' : Faithful Namesake mixed M')
  (hR : Sane.Corresponds Namesake mixed X R)

include hW hM hM' hR

/-- One step from corresponding visits leads to corresponding stages, or fails alike. -/
theorem reduceStep_agree {v v' : Visit} (hhint : Hint.Alike Namesake mixed v.hint v'.hint)
    (hparents : R v.parent? v'.parent?) (hv : v.Known w B M) (hv' : v'.Known w B' M')
    (hX : v'.Avoids X) (hs : (Sane.guardOf v.parent?).Settled v.run.engine.interner)
    (hs' : (Sane.guardOf v'.parent?).Settled v'.run.engine.interner) :
    AgreeAt (.inOrder w W site names B B' M M') (Failure.Alike Namesake mixed)
      (Stage.Alike Namesake mixed R) (reduceStep w site v.hint v.parent?)
      (reduceStep w site v'.hint v'.parent?) v.run v'.run := by
  obtain ⟨h, p?, r⟩ := v
  obtain ⟨k, q?, r'⟩ := v'
  obtain ⟨hhandled, hbooked⟩ := hv
  obtain ⟨hhandled', hbooked'⟩ := hv'
  dsimp only at hhint hparents hs hs' ⊢
  rintro ⟨hr, hr'⟩ hok
  have hB (m : Label) (o : Origin) (args : List Hint) (heq : h = .subscripted m o args) :
      B.Has W m o args := hr.surroundings.world ▸ hbooked m o args heq
  have hB' (m : Label) (o : Origin) (args : List Hint) (heq : k = .subscripted m o args) :
      B'.Has W m o args := hr'.surroundings.world ▸ hbooked' m o args heq
  have hsettle {a b : Hint} (hab : Hint.Alike Namesake mixed a b) :
      AgreeAt (.inOrder w W site names B B' M M') (Failure.Alike Namesake mixed)
        (Stage.Alike Namesake mixed R) (Run.settle a p? none) (Run.settle b q? none) r r' :=
    settle_agree hR hparents hab .none r r'
  -- hints that stand for themselves end the step on both sides
  replace hsettle {a b : Hint} (hab : Hint.Alike Namesake mixed a b) :=
    hsettle hab ⟨hr, hr'⟩ trivial
  cases hhint with
  | any => exact Agree.pure (.done .any hR.ignorable) r r' ⟨hr, hr'⟩ trivial
  | primitive name => exact hsettle (.primitive name)
  | ofClass c => exact reduceClass_agree hR hparents c r r' ⟨hr, hr'⟩ trivial
  | literal l m v => exact hsettle (.literal l m v)
  | union l m members perm order =>
    exact reduceUnion_agree hR hM hM' hparents l m ⟨_, members, perm, order⟩
      (fun _ hk ↦ hhandled _ (.leaf rfl hk)) (fun _ hk ↦ hhandled' _ (.leaf rfl hk))
      (fun l ↦ hhandled _ (.flat rfl l)) (fun l ↦ hhandled' _ (.flat rfl l)) r r' ⟨hr, hr'⟩ trivial
  | tuple l m elements => exact hsettle (.tuple l m elements)
  | parameter p => exact reduceParameter_agree hR hparents (hX p rfl) r r' ⟨hr, hr'⟩ trivial
  | template t => exact hsettle (.template t)
  | «alias» a =>
    exact reduceAlias_agree hW hM hM' hR hparents a .none hhandled hhandled' nofun nofun hs hs'
      ⟨hr, hr'⟩ trivial
  | appliedTemplate l m t args =>
    exact reduceTemplate_agree hR hparents t (hB l _ _ rfl) (hB' m _ _ rfl) args r r' ⟨hr, hr'⟩
      trivial
  | @appliedAlias l m a args args' hargs =>
    have happ : AlikeApplications Namesake mixed (some (l, args)) (some (m, args')) := .some hargs
    refine reduceAlias_agree hW hM hM' hR hparents a happ hhandled hhandled' (fun _ _ heq ↦ ?_)
      (fun _ _ heq ↦ ?_) hs hs' ⟨hr, hr'⟩ trivial <;> obtain ⟨rfl, rfl⟩ := heq
    · exact hB _ _ _ rfl
    · exact hB' _ _ _ rfl
  | appliedRef l m refs args => exact hsettle (.appliedRef l m refs args)
  | forwardRef refs => exact hsettle (.forwardRef refs)
  | deferred l m text =>
    exact (destringify_agree text).bind_pair (fun _ _ hk ↦ .pure (.goOn hk hparents)) r r'
      ⟨hr, hr'⟩ trivial

/-- Reductions of alike hints below corresponding parents end in alike models below which parents
correspond again, or fail alike. -/
theorem reduce_agree (depth : Nat) : ∀ {h k : Hint} {p? q? : Option Sane} {r r' : Run},
    Hint.Alike Namesake mixed h k → R p? q? →
    (∀ v ∈ visits w site depth h p? r, v.Known w B M) →
    (∀ v ∈ visits w site depth k q? r', v.Known w B' M' ∧ v.Avoids X) →
    (Sane.guardOf p?).Settled r.engine.interner → (Sane.guardOf q?).Settled r'.engine.interner →
    AgreeAt (.inOrder w W site names B B' M M') (Failure.Alike Namesake mixed)
      (fun s t ↦ Hint.Alike Namesake mixed s.hint t.hint ∧ R (some s) (some t))
      (reduce w site depth h p?) (reduce w site depth k q?) r r' := by
  induction depth with
  | zero => exact fun _ _ _ _ _ _ ↦ Agree.fail (.crash .tooDeep) _ _
  | succ depth ih =>
    intro h k p? q? r r' hhint hparents hv hv' hs hs' hin
    obtain ⟨hknown, havoids⟩ := hv' ⟨k, q?, r'⟩ List.mem_cons_self
    have hstep : AgreeAt (.inOrder w W site names B B' M M') (Failure.Alike Namesake mixed)
        (Stage.Alike Namesake mixed R) (reduceStep w site h p?) (reduceStep w site k q?) r r' :=
      reduceStep_agree hW hM hM' hR hhint hparents (hv ⟨h, p?, r⟩ List.mem_cons_self) hknown havoids
        hs hs'
    refine hstep.bind_pair (fun st st' r₁ r₁' hst h₁ h₁' ↦ ?_) hin
    cases hst with
    | done hhint hhandsOn => exact Agree.pure ⟨hhint, hhandsOn⟩ r₁ r₁'
    | goOn hhint hparents =>
      rw [visits_succ_goOn h₁, List.forall_mem_cons] at hv
      rw [visits_succ_goOn h₁', List.forall_mem_cons] at hv'
      exact ih hhint hparents hv.2 hv'.2 (hs.goOn hin.1.sound h₁) (hs'.goOn hin.2.sound h₁')

/-- So do reductions of the representatives of alike hints. -/
theorem reduce_intern_agree {depth : Nat} {h k : Hint} {r r' : Run} (hh : M h) (hk : M' k)
    (hhk : Hint.Alike Namesake mixed h k) (hparents : R p? q?)
    (hv : ∀ v ∈ visits w site depth (r.engine.interner.intern h).1 p?
      (Run.intern h r : Except Failure Hint × Run).2, v.Known w B M)
    (hv' : ∀ v ∈ visits w site depth (r'.engine.interner.intern k).1 q?
      (Run.intern k r' : Except Failure Hint × Run).2, v.Known w B' M' ∧ v.Avoids X)
    (hs : (Sane.guardOf p?).Settled r.engine.interner)
    (hs' : (Sane.guardOf q?).Settled r'.engine.interner) :
    AgreeAt (.inOrder w W site names B B' M M') (Failure.Alike Namesake mixed)
      (fun s t ↦ Hint.Alike Namesake mixed s.hint t.hint ∧ R (some s) (some t))
      (do reduce w site depth (← Run.intern h) p?) (do reduce w site depth (← Run.intern k) q?)
      r r' := by
  refine (intern_agree hM hM' hh hk hhk r r').bind_pair fun a b r₁ r₁' hab ha hb ↦ ?_
  have hgrows : r.Grows r₁ := (Run.grows_intern h).of_run ha
  have hgrows' : r'.Grows r₁' := (Run.grows_intern k).of_run hb
  cases ha
  cases hb
  exact reduce_agree hW hM hM' hR depth hab hparents hv hv' (hs.mono hgrows.interner)
    (hs'.mono hgrows'.interner)

end Runs

end Agreement

end TypeHints
