import TypeHints.Proofs.Calm
import TypeHints.Proofs.Reading

/-!
# What names stand for at a site

What happened before a text is read shows in three places:

* the classes that have been asked for keep the names that they were first asked for by;
* the forward scope of the site holds the references that its texts have come to;
* the registry holds those of all sites.

None of this changes what a text stands for, up to the identity of references: two states of one
runtime at one site have the same surroundings (`Run.At`), and in the same surroundings a text is
read as alike hints (`Site.destringify_agree`), references being alike if they are namesakes
(`ForwardRef.Namesake`). So is an alias, if reading its body depends on nothing but the names that
classes are shown by (`AliasBody.Pure`).

The point is that a name which was deferred earlier is an entry in one state and is none in the
other. In the first one the entry is found, in the second one a reference is made or found; both are
references to this name in this scope (`Naming.lookup_new`). For that, `Scope.Extends` keeps track
of how a scope has grown: by references to names that it did not hold before, and by nothing else.

What is compared are two runs that keep a property each, with no relation between their states
(`Comparison.pair`). So agreement comes down to the outcomes (`Attempt.Agree.of_keeps`), and that a
property is kept is shown for one run at a time. The same invariant tells of which hints the names
of a site stand for (`Site.value_of_destringify`).
-/

namespace TypeHints

open Attempt Hint

/-! ### Comparing runs that keep a property each -/

/-- The first run keeps one property, the second one another, and nothing else is asked of them. -/
def Comparison.pair {σ : Type} (P Q : σ → Prop) : Comparison σ where
  rel s t := P s ∧ Q t
  ok _ := True

namespace Attempt

variable {σ ε δ α β α' β' : Type} {P Q : σ → Prop} {E : ε → δ → Prop} {V : α → β → Prop}

/-- Nothing is asked of later states, so that nothing has to be kept backwards. -/
theorem Comparison.backward_pair (R : σ → σ → Prop) : (Comparison.pair P Q).Backward R :=
  fun _ _ _ _ ↦ trivial

/-- What holds of the outcomes alone is enough if each action keeps its property. -/
theorem Agree.of_keeps {a : Attempt σ ε α} {b : Attempt σ δ β} (ha : ∀ s, P s → P (a s).2)
    (hb : ∀ t, Q t → Q (b t).2) (h : ∀ s t, P s → Q t → Outcomes E V (a s).1 (b t).1) :
    Agree (Comparison.pair P Q) E V a b :=
  fun s t hst _ ↦ ⟨h s t hst.1 hst.2, ha s hst.1, hb t hst.2⟩

/-- From states with the properties, the outcomes correspond. -/
theorem Agree.outcomes {a : Attempt σ ε α} {b : Attempt σ δ β}
    (h : Agree (Comparison.pair P Q) E V a b) {s t : σ} (hs : P s) (ht : Q t) :
    Outcomes E V (a s).1 (b t).1 :=
  (h s t ⟨hs, ht⟩ trivial).1

/-- Two sequences agree if their first parts do, and the rests from where these have ended. -/
theorem AgreeAt.bind_pair {W : α' → β' → Prop} {a : Attempt σ ε α} {b : Attempt σ δ β}
    {f : α → Attempt σ ε α'} {g : β → Attempt σ δ β'} {s t : σ}
    (h : AgreeAt (Comparison.pair P Q) E V a b s t)
    (hfg : ∀ x y s' t', V x y → a s = (.ok x, s') → b t = (.ok y, t') →
      AgreeAt (Comparison.pair P Q) E W (f x) (g y) s' t') :
    AgreeAt (Comparison.pair P Q) E W (a >>= f) (b >>= g) s t :=
  h.bind (R := fun _ _ ↦ True) (Comparison.backward_pair _) (fun _ _ ↦ trivial) hfg

/-- The same for all states with the properties. -/
theorem Agree.bind_pair {W : α' → β' → Prop} {a : Attempt σ ε α} {b : Attempt σ δ β}
    {f : α → Attempt σ ε α'} {g : β → Attempt σ δ β'} (h : Agree (Comparison.pair P Q) E V a b)
    (hfg : ∀ x y, V x y → Agree (Comparison.pair P Q) E W (f x) (g y)) :
    Agree (Comparison.pair P Q) E W (a >>= f) (b >>= g) :=
  fun s t ↦ (h s t).bind_pair fun x y s' t' hxy _ _ ↦ hfg x y hxy s' t'

end Attempt

/-! ### Names of classes -/

namespace Store

variable {ε : Type}

/-- The name that a class is shown by, or will be once it is asked for. -/
def shown (cs : Classes) (s : Store) (id : Label) : String :=
  (s.shownNames.get? id).getD (cs.name id)

/-- Every class is shown by the same name. -/
def SameShown (cs : Classes) (s s' : Store) : Prop := s'.shown cs = s.shown cs

instance (cs : Classes) : IsPreorder Store (SameShown cs) where
  refl _ := rfl
  trans _ _ _ h h' := Eq.trans h' h

/-- A class that is asked for by its own name is shown by the same name before and after. -/
theorem classHintOf_apply (ε : Type) (cs : Classes) (id : Label) (s : Store) :
    ∃ s', (classHintOf cs id s : Except ε ClassHint × Store) = (.ok ⟨id, s.shown cs id⟩, s') ∧
      s.SameShown cs s' := by
  unfold classHintOf classHint
  cases h : s.shownNames.get? id with
  | some name =>
    refine ⟨s, ?_, rfl⟩
    simp only [shown, h, Option.getD_some]
  | none =>
    refine ⟨{ s with shownNames := s.shownNames.insert id (cs.name id) }, ?_, funext fun id' ↦ ?_⟩
    · simp only [shown, h, Option.getD_none]
    · simp only [shown, Dict.get?_insert]
      split
      · rename_i heq
        rw [← heq, h]
        rfl
      · rfl

/-- To ask for a class by its own name changes no name that is shown. -/
theorem sameShown_classHintOf (cs : Classes) (id : Label) :
    Follows (SameShown cs) (classHintOf cs id : Attempt Store ε ClassHint) := by
  intro s
  obtain ⟨s', hs', hshown⟩ := classHintOf_apply ε cs id s
  rw [hs']
  exact hshown

theorem records_sameShown (cs : Classes) : Records cs (SameShown cs) where
  fresh _ := rfl
  classHint := sameShown_classHintOf cs
  record ps h s := by
    show SameShown cs s (ps.record h s)
    unfold Parts.record
    split
    · rfl
    · rfl
    · split <;> rfl
    · rfl

end Store

/-! ### Namesakes -/

/-- Two references of one kind have one name and stand in one scope. -/
structure ForwardRef.Namesake (r s : ForwardRef) : Prop where
  name : r.name = s.name
  scope : r.scope = s.scope
  kind : r.kind = s.kind

namespace ForwardRef

theorem namesake_refl (r : ForwardRef) : r.Namesake r := ⟨rfl, rfl, rfl⟩

/-- To be namesakes is an equivalence. -/
theorem namesake_equivalence : Equivalence Namesake where
  refl := namesake_refl
  symm h := ⟨h.name.symm, h.scope.symm, h.kind.symm⟩
  trans h h' := ⟨h.name.trans h'.name, h.scope.trans h'.scope, h.kind.trans h'.kind⟩

end ForwardRef

namespace Registry

variable {mixed : Bool} {label : Label} {kind : RefKind} {name scope : String}
  {owner? : Option Label} {g g' g₁ : Registry}

/-- A reference that a sound registry makes has the names that were asked for, and these are
valid. -/
theorem make_ok (hg : g.Sound) {r : ForwardRef}
    (h : make label kind name scope owner? g = (.ok r, g₁)) :
    r.Namesake ⟨0, name, scope, kind, none⟩ ∧ r.Valid := by
  rcases make_cases label kind name scope owner? g with ⟨r', hr, he⟩ | ⟨-, hvalid, he⟩ |
    ⟨-, -, c, he, -⟩ <;> rw [he] at h <;> cases h
  · obtain ⟨hkey, hvalid⟩ := hg _ _ hr
    obtain ⟨hk, hn, hs⟩ := refKey_inj hvalid.name hvalid.scope hkey.symm
    exact ⟨⟨hn, hs, hk⟩, hvalid⟩
  · exact ⟨⟨rfl, rfl, rfl⟩, hvalid⟩

/-- If one registry fails to make a reference, every sound one does. -/
theorem make_error (hg' : g'.Sound) {c : Cause}
    (h : make label kind name scope owner? g = (.error c, g₁)) (label' : Label)
    (owner?' : Option Label) : make label' kind name scope owner?' g' = (.error c, g') := by
  rcases make_cases label kind name scope owner? g with ⟨r', -, he⟩ | ⟨-, -, he⟩ |
    ⟨-, hinvalid, d, he, hfail⟩ <;> rw [he] at h <;> cases h
  refine hfail label' owner?' g' ?_
  cases hr : g'.refs.get? (refKey kind name scope) with
  | none => rfl
  | some r =>
    obtain ⟨hkey, hvalid⟩ := hg' _ _ hr
    obtain ⟨-, hn, hs⟩ := refKey_inj hvalid.name hvalid.scope hkey.symm
    rw [← hn, ← hs, hvalid.name, hvalid.scope] at hinvalid
    cases hinvalid

/-- Sound registries make namesakes, or fail alike. -/
theorem make_agree (hg : g.Sound) (hg' : g'.Sound) (label label' : Label)
    (owner? owner?' : Option Label) :
    Outcomes Eq ForwardRef.Namesake (make label kind name scope owner? g).1
      (make label' kind name scope owner?' g').1 := by
  rcases h : make label kind name scope owner? g with ⟨c | r, g₁⟩
  · rw [make_error hg' h]
    exact .error rfl
  · rcases h' : make label' kind name scope owner?' g' with ⟨c | r', g₁'⟩
    · rw [make_error hg h'] at h
      cases h
    · have he := ForwardRef.namesake_equivalence
      exact .ok (he.trans (make_ok hg h).1 (he.symm (make_ok hg' h').1))

end Registry

/-! ### Scopes -/

/-- A scope has grown from another one by references to names that this one does not hold. -/
structure Scope.Extends (base s : Scope) : Prop where
  name : s.name = base.name
  entries : ∀ name, s.entries.get? name = base.entries.get? name ∨
    base.entries.get? name = none ∧ ∃ r : ForwardRef, s.entries.get? name = some (.forwardRef r) ∧
      r.Namesake ⟨0, name, base.name, .subscriptable, none⟩ ∧ r.Valid

/-- A scope has grown from itself, by nothing. -/
theorem Scope.extends_refl (s : Scope) : s.Extends s := ⟨rfl, fun _ ↦ .inl rfl⟩

/-- All names of a scope stand for hints with `V`. -/
def Scope.All (V : Hint → Prop) (s : Scope) : Prop := ∀ name h, s.entries.get? name = some h → V h

/-- Hints that reading a text builds have `V` if those that it builds them of do. -/
structure Hint.Composes (V : Hint → Prop) : Prop where
  any : V .any
  ofClass : ∀ c, V (.ofClass c)
  forwardRef : ∀ r, V (.forwardRef r)
  template : ∀ t, V (.template t)
  literal : ∀ l v, V (.literal l v)
  union : ∀ l hs, (∀ h ∈ hs, V h) → V (.union l hs)
  tuple : ∀ l hs, (∀ h ∈ hs, V h) → V (.tuple l hs)
  subscripted : ∀ l (o : Origin) hs, V o.toHint → (∀ h ∈ hs, V h) → V (.subscripted l o hs)

section All

variable {V : Hint → Prop}

/-- What holds of references and of the names of a scope holds of the names once it has grown. -/
theorem Scope.Extends.all {base s : Scope} (h : base.Extends s) (href : ∀ r, V (.forwardRef r))
    (hbase : base.All V) : s.All V := by
  intro name k hk
  rcases h.entries name with heq | ⟨-, r, hr, -⟩
  · exact hbase name k (heq ▸ hk)
  · cases hr.symm.trans hk
    exact href r

/-- Reading a text gives a hint with `V` where all names stand for one. -/
theorem Naming.keeps_all (w : World) (hV : Hint.Composes V) :
    Naming.Keeps w (fun n ↦ n.scope.All V) V (fun _ ↦ True) where
  fresh := .of_keeps fun _ hn ↦ hn
  classHint _ := ⟨fun _ hn ↦ hn, fun _ _ c _ ↦ hV.ofClass c, fun _ _ _ _ ↦ trivial⟩
  lookup name _ ht := by
    refine ⟨fun n hn ↦ ?_, fun n hn h hh ↦ ?_, fun _ _ _ _ ↦ trivial⟩
    · rcases lookup_cases name ht n with ⟨_, -, he⟩ | ⟨-, -, r, g, -, he⟩ | ⟨-, -, _, g, -, he⟩ |
        ⟨-, -, _, -, he⟩ <;> rw [he]
      · intro k v hk
        rw [Scope.entries_record] at hk
        exact hn k v hk
      · intro k v hk
        rw [Scope.entries_record, Dict.get?_insert] at hk
        split at hk
        · cases hk
          exact hV.forwardRef r
        · exact hn k v hk
      · exact hn
      · exact hn
    · rcases lookup_cases name ht n with ⟨k, hk, he⟩ | ⟨-, -, r, g, -, he⟩ | ⟨-, -, _, g, -, he⟩ |
        ⟨-, -, _, -, he⟩ <;> rw [he] at hh <;> cases hh
      · exact hn name _ hk
      · exact hV.forwardRef r
  member _ _ := ⟨fun n hn ↦ by rw [onRefs_apply]; exact hn, fun _ _ r _ ↦ hV.forwardRef r,
    fun _ _ _ _ ↦ trivial⟩
  sealedTwin _ := ⟨fun n hn ↦ by rw [onRefs_apply]; exact hn, fun _ _ r _ ↦ hV.forwardRef r,
    fun _ _ _ _ ↦ trivial⟩
  any := hV.any
  literal := hV.literal
  union := hV.union
  tuple := hV.tuple
  array := hV.template _
  subscripted := hV.subscripted
  expression _ _ := trivial

end All

namespace Naming

/-- The scope has grown from `base`, the registry is sound, the declarations are those of `W`, and
classes are shown by `names`. -/
structure At (w W : World) (base : Scope) (names : Label → String) (n : Naming) : Prop where
  scope : base.Extends n.scope
  refs : n.refs.Sound
  world : w.under n.store = W
  shown : n.store.shown w.classes = names

section At

variable {w W : World} {base : Scope} {names : Label → String} {mixed : Bool} {n m : Naming}

/-- An action on the store that declares nothing and shows classes as before keeps the surroundings.
-/
theorem At.onStore {α : Type} {a : Attempt Store Cause α}
    (ha : Follows (Store.SameShown w.classes) a) (hd : Follows Store.SameDecls a)
    (hn : n.At w W base names) : (Naming.onStore a n).2.At w W base names :=
  ⟨hn.scope, hn.refs, ((hd n.store).under w).trans hn.world, (ha n.store).trans hn.shown⟩

/-- So does an action that only adds to the registry. -/
theorem At.onRefs {a : Label → Attempt Registry Cause ForwardRef}
    (ha : ∀ l, Follows Registry.Grows (a l)) (hn : n.At w W base names) :
    (Naming.onRefs a n).2.At w W base names := by
  rw [onRefs_apply]
  exact ⟨hn.scope, (ha n.store.next n.refs).sound hn.refs, hn.world, hn.shown⟩

/-- So does looking up a name. -/
theorem At.lookup (name : String) {trust? : Option Trust} (ht : isTrusted trust? = true)
    (hn : n.At w W base names) : (Naming.lookup name trust? n).2.At w W base names := by
  have hworld : w.under { n.store with next := n.store.next + 1 } = W := hn.world
  have hnames : ({ n.store with next := n.store.next + 1 } : Store).shown w.classes = names :=
    hn.shown
  rcases lookup_cases name ht n with ⟨h, -, he⟩ | ⟨hnone, -, r, g, hmake, he⟩ |
    ⟨-, -, c, g, hmake, he⟩ | ⟨-, -, c, -, he⟩ <;> rw [he]
  · refine ⟨⟨?_, fun k ↦ ?_⟩, hn.refs, hn.world, hn.shown⟩
    · exact (n.scope.grows_recorded name).name.trans hn.scope.name
    · rw [Scope.entries_record]
      exact hn.scope.entries k
  · have hg := ((Registry.grows_make _ _ _ _ _).of_run hmake).sound hn.refs
    refine ⟨⟨?_, fun k ↦ ?_⟩, hg, hworld, hnames⟩
    · exact (Scope.grows_recorded _ name).name.trans hn.scope.name
    · rw [Scope.entries_record, Dict.get?_insert]
      split
      · rename_i heq
        subst heq
        have hbase : base.entries.get? name = none := by
          rcases hn.scope.entries name with heq | ⟨hbase, -⟩
          · exact heq.symm.trans hnone
          · exact hbase
        rw [hn.scope.name] at hmake
        exact .inr ⟨hbase, r, rfl, Registry.make_ok hn.refs hmake⟩
      · exact hn.scope.entries k
  · exact ⟨hn.scope, ((Registry.grows_make _ _ _ _ _).of_run hmake).sound hn.refs, hworld,
      hnames⟩
  · exact hn

/-- Reading a text keeps the surroundings. -/
theorem keeps_at (w W : World) (base : Scope) (names : Label → String) :
    Naming.Keeps w (At w W base names) (fun _ ↦ True) (fun _ ↦ True) where
  fresh := .of_keeps fun _ ↦ At.onStore (fun _ ↦ rfl) Store.sameDecls_fresh
  classHint id := .of_keeps fun _ ↦ At.onStore (Store.sameShown_classHintOf w.classes id)
    (Store.sameDecls_classHint _ _)
  lookup name _ ht := .of_keeps fun _ ↦ At.lookup name ht
  member _ _ := .of_keeps fun _ ↦ At.onRefs fun _ ↦ Registry.grows_make _ _ _ _ _
  sealedTwin _ := .of_keeps fun _ ↦ At.onRefs fun _ ↦ Registry.grows_sealedTwin _ _
  any := trivial
  literal _ _ := trivial
  union _ _ _ := trivial
  tuple _ _ _ := trivial
  array := trivial
  subscripted _ _ _ _ _ := trivial
  expression _ _ := trivial

/-- Looking up a name that the base does not hold is asking for a reference to it. -/
theorem lookup_new (name : String) {trust? : Option Trust} (ht : isTrusted trust? = true)
    (hn : n.At w W base names) (hbase : base.entries.get? name = none) :
    Outcomes Eq (fun h r ↦ ∃ r' : ForwardRef, h = .forwardRef r' ∧ r'.Namesake r)
      (Naming.lookup name trust? n).1
      (Registry.make 0 .subscriptable name base.name none .empty).1 := by
  rcases lookup_cases name ht n with ⟨h, hk, he⟩ | ⟨-, -, r, g, hmake, he⟩ |
    ⟨-, -, c, g, hmake, he⟩ | ⟨-, -, c, hc, he⟩ <;> rw [he]
  · -- what the scope holds beside its base is the reference that was asked for
    rcases hn.scope.entries name with heq | ⟨-, r, hr, hnamesake, hvalid⟩
    · rw [hk, hbase] at heq
      cases heq
    · rw [hk] at hr
      cases hr
      rcases Registry.make_cases 0 .subscriptable name base.name none .empty with ⟨_, hr, -⟩ |
        ⟨-, -, he'⟩ | ⟨-, hinvalid, -⟩
      · cases hr
      · rw [he']
        exact .ok ⟨r, rfl, hnamesake⟩
      · have hname : r.name = name := hnamesake.name
        have hscope : r.scope = base.name := hnamesake.scope
        rw [← hname, ← hscope, hvalid.name, hvalid.scope] at hinvalid
        cases hinvalid
  · have hagree : Outcomes Eq ForwardRef.Namesake
        (Registry.make n.store.next .subscriptable name n.scope.name n.scope.owner? n.refs).1
        (Registry.make 0 .subscriptable name n.scope.name none .empty).1 :=
      Registry.make_agree hn.refs Registry.sound_empty _ _ _ _
    rw [hmake, hn.scope.name] at hagree
    generalize (Registry.make 0 .subscriptable name base.name none .empty).1 = z at hagree
    cases hagree with
    | ok hr => exact .ok ⟨r, rfl, hr⟩
  · rw [hn.scope.name] at hmake
    rw [Registry.make_error Registry.sound_empty hmake]
    exact .error rfl
  · have hmake : (Registry.make 0 .subscriptable name base.name none .empty).1 = .error c := by
      simp only [Registry.make, hc, show Registry.empty.refs.get? _ = none from rfl]
    rw [hmake]
    exact .error rfl

/-- In the same surroundings a name stands for alike hints. -/
theorem lookup_agree (name : String) {trust? : Option Trust} (ht : isTrusted trust? = true)
    (hn : n.At w W base names) (hm : m.At w W base names) :
    Outcomes (Cause.Alike ForwardRef.Namesake mixed) (Hint.Alike ForwardRef.Namesake mixed)
      (Naming.lookup name trust? n).1 (Naming.lookup name trust? m).1 := by
  cases hbase : base.entries.get? name with
  | some h =>
    have hlookup {k : Naming} (hk : k.At w W base names) :
        (Naming.lookup name trust? k).1 = .ok h := by
      rcases hk.scope.entries name with heq | ⟨hnone, -⟩
      · exact lookup_of_entry trust? (heq.trans hbase)
      · rw [hbase] at hnone
        cases hnone
    rw [hlookup hn, hlookup hm]
    exact .ok (.refl ForwardRef.namesake_refl h)
  | none =>
    have hfirst := lookup_new name ht hn hbase
    have hsecond := lookup_new name ht hm hbase
    have he := ForwardRef.namesake_equivalence
    generalize (Naming.lookup name trust? n).1 = x, (Naming.lookup name trust? m).1 = y,
      (Registry.make 0 .subscriptable name base.name none .empty).1 = z at hfirst hsecond
    cases hfirst with
    | error heq =>
      cases hsecond with
      | error heq' =>
        rw [heq, heq']
        exact .error (.same _)
    | ok hr =>
      cases hsecond with
      | ok hr' =>
        obtain ⟨r, rfl, hr⟩ := hr
        obtain ⟨s, rfl, hs⟩ := hr'
        exact .ok (.forwardRef (he.trans hr (he.symm hs)))

/-- In the same surroundings texts are read alike. -/
theorem comparable_at (w W : World) (base : Scope) (names : Label → String) (mixed : Bool) :
    Comparable w ForwardRef.Namesake mixed
      (Comparison.pair (At w W base names) (At w W base names)) where
  backward := Comparison.backward_pair _
  fresh := .of_keeps (keeps_at w W base names).fresh.keeps (keeps_at w W base names).fresh.keeps
    fun _ _ _ _ ↦ .ok trivial
  classHint id := by
    have hkeeps := ((keeps_at w W base names).classHint id).keeps
    refine .of_keeps hkeeps hkeeps fun n m hn hm ↦ ?_
    have hhint {k : Naming} (hk : k.At w W base names) :
        (Naming.onStore (Store.classHintOf w.classes id) k).1 = .ok ⟨id, names id⟩ := by
      obtain ⟨s, hs, -⟩ := Store.classHintOf_apply Cause w.classes id k.store
      rw [Naming.onStore, hs, hk.shown]
    rw [hhint hn, hhint hm]
    exact .ok rfl
  lookup name trust? ht := by
    have hkeeps := ((keeps_at w W base names).lookup name trust? ht).keeps
    exact .of_keeps hkeeps hkeeps fun _ _ ↦ lookup_agree name ht
  member r s name hrs := by
    have hkeeps (r : ForwardRef) := ((keeps_at w W base names).member r name).keeps
    refine .of_keeps (hkeeps r) (hkeeps s) fun n m hn hm ↦ ?_
    rw [onRefs_apply, onRefs_apply]
    unfold Registry.member
    rw [hrs.name, hrs.scope, hrs.kind]
    exact (Registry.make_agree hn.refs hm.refs _ _ _ _).imp (fun c d h ↦ h ▸ .same c) fun _ _ h ↦ h
  sealedTwin r s hrs := by
    have hkeeps (r : ForwardRef) := ((keeps_at w W base names).sealedTwin r).keeps
    refine .of_keeps (hkeeps r) (hkeeps s) fun n m hn hm ↦ ?_
    rw [onRefs_apply, onRefs_apply]
    unfold Registry.sealedTwin
    rw [hrs.name, hrs.scope, hrs.kind]
    cases s.kind with
    | «sealed» => exact .error (.same _)
    | subscriptable =>
      exact (Registry.make_agree hn.refs hm.refs _ _ _ _).imp (fun c d h ↦ h ▸ .same c)
        fun _ _ h ↦ h

end At

end Naming

/-! ### Sites -/

/-- The forward scope of a site before its texts have come to anything, if classes are shown by
`names`. -/
def Site.startScope (w : World) (site : Site) (names : Label → String) : Except Cause Scope :=
  let classes := site.classStack.map fun id ↦ (w.classes.name id, Hint.ofClass ⟨id, names id⟩)
  Scope.create site.scopeName (Members.assigned (classes ++ site.names)) site.owner?

/-- The surroundings of a run at a site: the declarations are those of `W`, classes are shown by
`names`, the registry is sound, and the forward scope, if there is one, has grown from the one that
the site starts with. -/
structure Run.At (w W : World) (site : Site) (names : Label → String) (r : Run) : Prop where
  world : w.under r.store = W
  shown : r.store.shown w.classes = names
  refs : r.engine.refs.Sound
  scope : ∀ s, r.scope? = some s → ∃ base, site.startScope w names = .ok base ∧ base.Extends s

/-- The surroundings stay where nothing happens. -/
theorem Run.At.quiet {w W : World} {site : Site} {names : Label → String} {r r' : Run}
    (hr : r.At w W site names) (h : Run.Quiet r r') : r'.At w W site names := by
  refine ⟨(h.under w).trans hr.world, ?_, ?_, fun s hs ↦ hr.scope s (h.scope ▸ hs)⟩
  · rw [h.store]
    exact hr.shown
  · rw [h.engine]
    exact hr.refs

/-- The names at a site are in the surroundings of the site. -/
theorem Run.At.naming {w W : World} {site : Site} {names : Label → String} {r : Run}
    (hr : r.At w W site names) {base s : Scope} (hs : base.Extends s) :
    (r.names s).At w W base names :=
  ⟨hs, hr.refs, hr.world, hr.shown⟩

theorem Run.onNames_fst {α : Type} (s : Scope) (a : Attempt Naming Cause α) (r : Run) :
    (onNames s a r).1 = (a (r.names s)).1 := rfl

namespace Site

variable {w W : World} {site : Site} {names : Label → String} {mixed : Bool} {r : Run}

/-- Only the names that classes are shown by have been looked at, or chosen. -/
theorem classNames_apply (ε : Type) (ids : List Label) : ∀ r : Run, ∃ s,
    (classNames w ids : Attempt Run ε (List (String × Hint))) r =
        (.ok (ids.map fun id ↦ (w.classes.name id, .ofClass ⟨id, r.store.shown w.classes id⟩)),
          { r with store := s }) ∧
      r.store.SameShown w.classes s ∧ r.store.SameDecls s := by
  induction ids with
  | nil => exact fun r ↦ ⟨r.store, rfl, rfl, refl_of _ _⟩
  | cons id ids ih =>
    intro r
    obtain ⟨s, hs, hshown⟩ := Store.classHintOf_apply ε w.classes id r.store
    have hdecls : r.store.SameDecls s := (Store.sameDecls_classHint _ _).of_run hs
    have hclass : (Run.onStore (Store.classHintOf w.classes id) : Attempt Run ε ClassHint) r =
        (.ok ⟨id, r.store.shown w.classes id⟩, { r with store := s }) := by
      rw [Run.onStore, hs]
    obtain ⟨s', hs', hshown', hdecls'⟩ := ih { r with store := s }
    refine ⟨s', ?_, trans_of _ hshown hshown', trans_of _ hdecls hdecls'⟩
    rw [classNames, bind_apply_ok hclass, bind_apply_ok hs', hshown]
    rfl

/-- To log a message does not fail. -/
theorem log_fst {ε : Type} (message : String) :
    ((site.log message : Attempt Run ε Unit) r).1 = .ok () := by
  unfold Site.log
  split <;> rfl

/-- The scope that is made for a site is the one that the site starts with. -/
theorem makeScope_apply (hr : r.At w W site names) : ∃ s,
    site.makeScope w r = (site.startScope w names, { r with store := s }) ∧
      r.store.SameShown w.classes s ∧ r.store.SameDecls s := by
  obtain ⟨s, hs, hshown, hdecls⟩ := classNames_apply (w := w) Cause site.classStack r
  refine ⟨s, ?_, hshown, hdecls⟩
  rw [makeScope, bind_apply_ok hs, hr.shown]
  rfl

/-- Asking for the forward scope of a site gives one that has grown from its start, or fails as the
start does. -/
theorem forwardScope_at (hr : r.At w W site names) : ∃ r₁, r₁.At w W site names ∧
    r₁.engine = r.engine ∧
    ((∃ base s, site.startScope w names = .ok base ∧ base.Extends s ∧
        site.forwardScope w r = (.ok s, r₁)) ∨
      ∃ c, site.startScope w names = .error c ∧ site.forwardScope w r = (.error c, r₁)) := by
  rcases forwardScope_cases w site r with ⟨s, hs, he⟩ | ⟨hnone, s, r₁, hm, he⟩ |
    ⟨hnone, c, r₁, hm, he⟩
  · obtain ⟨base, hbase, hextends⟩ := hr.scope s hs
    exact ⟨r, hr, rfl, .inl ⟨base, s, hbase, hextends, he⟩⟩
  · obtain ⟨t, ht, hshown, hdecls⟩ := makeScope_apply hr
    rw [ht] at hm
    obtain ⟨hbase, rfl⟩ := Prod.mk.inj hm
    have hat : Run.At w W site names { r with store := t, scope? := some s } := by
      refine ⟨(hdecls.under w).trans hr.world, hshown.trans hr.shown, hr.refs, fun s' hs' ↦ ?_⟩
      cases hs'
      exact ⟨s, hbase, s.extends_refl⟩
    exact ⟨_, hat, rfl, .inl ⟨s, s, hbase, s.extends_refl, he⟩⟩
  · obtain ⟨t, ht, hshown, hdecls⟩ := makeScope_apply hr
    rw [ht] at hm
    obtain ⟨hbase, rfl⟩ := Prod.mk.inj hm
    have hat : Run.At w W site names { r with store := t } :=
      ⟨(hdecls.under w).trans hr.world, hshown.trans hr.shown, hr.refs, hr.scope⟩
    exact ⟨_, hat, rfl, .inr ⟨c, hbase, he⟩⟩

/-- The names that a site starts with are the builtin ones, the classes around it and its own. -/
theorem startScope_all {V : Hint → Prop} {base : Scope} (hbuiltin : ∀ e ∈ Builtin.scope, V e.2)
    (hclass : ∀ c, V (.ofClass c)) (hnames : ∀ e ∈ site.names, V e.2)
    (hbase : site.startScope w names = .ok base) : base.All V := by
  unfold startScope Scope.create at hbase
  cases hvalid : validDotted "Forward scope name" site.scopeName with
  | error c =>
    rw [hvalid] at hbase
    cases hbase
  | ok _ =>
    rw [hvalid] at hbase
    cases hbase
    intro name h hh
    rcases List.mem_append.mp (Dict.mem_ofList (Dict.mem_of_get? hh)) with he | he
    · exact hbuiltin _ he
    · rcases List.mem_append.mp (Members.mem_assigned he) with he | he
      · obtain ⟨id, -, heq⟩ := List.mem_map.mp he
        cases heq
        exact hclass _
      · exact hnames _ he

/-- A text stands for a hint with `V` where all names that the site starts with do. -/
theorem value_of_destringify {V : Hint → Prop} {text : String} {h : Hint} {r₁ : Run}
    (hV : Hint.Composes V) (hr : r.At w W site names)
    (hscope : ∀ base, site.startScope w names = .ok base → base.All V)
    (hread : site.destringify w text r = (.ok h, r₁)) : V h := by
  obtain ⟨s, r', n, hforward, hn, -⟩ := destringify_inv hread
  obtain ⟨_, -, -, ⟨base, s', hbase, hextends, he⟩ | ⟨c, -, he⟩⟩ := forwardScope_at hr
  · cases hforward.symm.trans he
    exact (yields_readText (Naming.keeps_all w hV) text).value_of_run
      (hextends.all hV.forwardRef (hscope base hbase)) hn
  · cases hforward.symm.trans he

/-- Asking for the forward scope keeps the surroundings. -/
theorem keeps_at_forwardScope : Yields (Run.At w W site names) (site.forwardScope w)
    (fun s ↦ ∃ base, site.startScope w names = .ok base ∧ base.Extends s) (fun _ ↦ True) := by
  refine ⟨fun r hr ↦ ?_, fun r hr s hs ↦ ?_, fun _ _ _ _ ↦ trivial⟩ <;>
    obtain ⟨r₁, hr₁, -, ⟨base, s', hbase, hextends, he⟩ | ⟨c, -, he⟩⟩ := forwardScope_at hr
  · rwa [he]
  · rwa [he]
  · rw [he] at hs
    cases hs
    exact ⟨base, hbase, hextends⟩
  · rw [he] at hs
    cases hs

/-- Reading names against the scope keeps the surroundings if the reading does. -/
theorem keeps_at_onNames {α : Type} {a : Attempt Naming Cause α} {base s : Scope}
    (ha : ∀ n : Naming, n.At w W base names → (a n).2.At w W base names)
    (hbase : site.startScope w names = .ok base) (hextends : base.Extends s) :
    Yields (Run.At w W site names) (Run.onNames s a) (fun _ ↦ True) (fun _ ↦ True) := by
  refine .of_keeps fun r hr ↦ ?_
  have hat := ha _ (hr.naming hextends)
  refine ⟨hat.world, hat.shown, hat.refs, fun s' hs' ↦ ⟨base, hbase, ?_⟩⟩
  obtain rfl := Option.some.inj hs'
  exact hat.scope

/-- Reading a text at a site keeps the surroundings. -/
theorem keeps_at_destringify (text : String) :
    Yields (Run.At w W site names) (site.destringify w text) (fun _ ↦ True) (fun _ ↦ True) := by
  refine keeps_at_forwardScope.bind fun s hs ↦ ?_
  obtain ⟨base, hbase, hextends⟩ := hs
  refine (keeps_at_onNames (yields_readText (Naming.keeps_at w W base names) text).keeps hbase
    hextends).bind fun h _ ↦ ?_
  refine Yields.bind (V := fun _ ↦ True) ?_ fun _ _ ↦ .pure trivial
  exact .of_keeps fun r hr ↦ hr.quiet (Run.quiet_log site _ r)

/-- In the same surroundings a text is read as alike hints. -/
theorem destringify_agree (text : String) :
    Agree (Comparison.pair (Run.At w W site names) (Run.At w W site names))
      (Cause.Alike ForwardRef.Namesake mixed) (Hint.Alike ForwardRef.Namesake mixed)
      (site.destringify w text) (site.destringify w text) := by
  refine Agree.bind_pair (V := fun s s' ↦ ∃ base, site.startScope w names = .ok base ∧
    base.Extends s ∧ base.Extends s') ?_ fun s s' hs ↦ ?_
  · refine .of_keeps keeps_at_forwardScope.keeps keeps_at_forwardScope.keeps fun r r' hr hr' ↦ ?_
    obtain ⟨_, -, -, ⟨base, s, hbase, hextends, he⟩ | ⟨c, hc, he⟩⟩ := forwardScope_at hr <;>
      obtain ⟨_, -, -, ⟨base', s', hbase', hextends', he'⟩ | ⟨c', hc', he'⟩⟩ :=
        forwardScope_at hr' <;> rw [he, he']
    · rw [hbase] at hbase'
      cases hbase'
      exact .ok ⟨base, hbase, hextends, hextends'⟩
    · rw [hbase] at hc'
      cases hc'
    · rw [hc] at hbase'
      cases hbase'
    · rw [hc] at hc'
      cases hc'
      exact .error (.same c)
  · obtain ⟨base, hbase, hextends, hextends'⟩ := hs
    have hkeeps {s : Scope} (hextends : base.Extends s) (r : Run) :
        r.At w W site names → (Run.onNames s (readText w text) r).2.At w W site names :=
      (keeps_at_onNames (yields_readText (Naming.keeps_at w W base names) text).keeps hbase
        hextends).keeps r
    refine Agree.bind_pair (V := Hint.Alike ForwardRef.Namesake mixed)
      (.of_keeps (hkeeps hextends) (hkeeps hextends') fun r r' hr hr' ↦ ?_) fun h k hhk ↦ ?_
    · rw [Run.onNames_fst, Run.onNames_fst]
      exact (readText_agree (Naming.comparable_at w W base names mixed) text).outcomes
        (hr.naming hextends) (hr'.naming hextends')
    · refine Agree.bind_pair (V := fun _ _ ↦ True) ?_ fun _ _ _ ↦ .pure hhk
      refine .of_keeps (fun r hr ↦ hr.quiet (Run.quiet_log site _ r))
        (fun r hr ↦ hr.quiet (Run.quiet_log site _ r)) fun r r' _ _ ↦ ?_
      rw [log_fst, log_fst]
      exact .ok trivial

end Site

/-! ### Aliases -/

/-- Two failures say the same of hints that are alike, or are the same crash. -/
inductive Failure.Alike (ρ : ForwardRef → ForwardRef → Prop) (mixed : Bool) :
    Failure → Failure → Prop
  | cause {c d : Cause} (h : Cause.Alike ρ mixed c d) : Alike ρ mixed (.cause c) (.cause d)
  | crash (c : Crash) : Alike ρ mixed (.crash c) (.crash c)

/-- Reading the body of an alias depends only on the names that classes are shown by: it gives one
hint up to labels, or the same failure, and it declares nothing. -/
structure AliasBody.Pure (w : World) (b : AliasBody) : Prop where
  outcome : ∀ name s t, s.shown w.classes = t.shown w.classes →
    Outcomes Eq (Hint.Alike Eq false) (b.hint w name s).1 (b.hint w name t).1
  decls : ∀ name, Follows Store.SameDecls (b.hint w name)

/-- The bodies of all aliases of `W` are pure, read in `w`. -/
def World.Pure (w W : World) : Prop := ∀ id b, W.aliases.get? id = some b → b.Pure w

/-- A failure says the same as itself. -/
theorem Failure.Alike.refl {ρ : ForwardRef → ForwardRef → Prop} {mixed : Bool} :
    ∀ f : Failure, Failure.Alike ρ mixed f f
  | .cause c => .cause (.same c)
  | .crash c => .crash c

section Values

variable {w W : World} {site : Site} {names : Label → String} (hW : w.Pure W)

include hW

/-- Reading an alias keeps the surroundings. -/
theorem keeps_at_aliasValue (a : Alias) :
    Yields (Run.At w W site names) (aliasValue w a) (fun _ ↦ True) (fun _ ↦ True) := by
  refine .of_keeps fun r hr ↦ ?_
  rcases aliasValue_cases w a r with ⟨b, hb, he⟩ | ⟨-, he⟩ <;> rw [he]
  · have hpure := hW a.id b (hr.world ▸ hb)
    refine ⟨((hpure.decls a.name r.store).under w).trans hr.world, ?_, hr.refs, hr.scope⟩
    exact (follows_hint (Store.records_sameShown w.classes) a.name b r.store).trans hr.shown
  · exact hr

/-- In the same surroundings an alias is read as alike hints. -/
theorem aliasValue_agree {mixed : Bool} (a : Alias) :
    Agree (Comparison.pair (Run.At w W site names) (Run.At w W site names))
      (Failure.Alike ForwardRef.Namesake mixed) (Hint.Alike ForwardRef.Namesake mixed)
      (aliasValue w a) (aliasValue w a) := by
  refine .of_keeps (keeps_at_aliasValue hW a).keeps (keeps_at_aliasValue hW a).keeps
    fun r r' hr hr' ↦ ?_
  rcases aliasValue_cases w a r with ⟨b, hb, he⟩ | ⟨hb, he⟩ <;>
    rcases aliasValue_cases w a r' with ⟨b', hb', he'⟩ | ⟨hb', he'⟩ <;>
    rw [hr.world] at hb <;> rw [hr'.world, hb] at hb'
  · cases hb'
    rw [he, he']
    have hread := (hW a.id b hb).outcome a.name r.store r'.store (hr.shown.trans hr'.shown.symm)
    exact hread.imp (fun _ _ heq ↦ heq ▸ Failure.Alike.refl _) fun _ _ hk ↦
      hk.weaken (fun r s heq ↦ heq ▸ r.namesake_refl) mixed
  · cases hb'
  · cases hb'
  · rw [he, he']
    exact .error (.refl _)

end Values

end TypeHints
