import TypeHints.Proofs.Growth

/-!
# Calm runs

Two things can shift under a reduction: the declarations of the program, if reading an alias
declares something anew, and the texts, if a text stands for a hint with another text in it. A run
is calm (`Run.Calm`) if neither can happen:

* its aliases are steady (`World.Steady`): reading the body of an alias gives hints of one key, and
  declares nothing;
* no name that its texts may use stands for a hint that has a text left in it (`Scope.Read`).

Reduction keeps a run calm, and fails with a report only (`Run.keeps_calm`). What is asked of the
names is asked of the forward scope, if the run has one already, and else of the names that the site
will make its scope of. Names that are deferred later stand for references, which have no text in
them, so that nothing more has to be known about texts that are still to come.

There is one lemma for each action that a step of reduction may take. Most of them are about states
in parts: an action on the store cannot touch the scope, and an action on the registry declares
nothing. That declarations stay the same (`Store.SameDecls`) is a preorder and goes both ways, so
that it can be followed along any run.
-/

namespace TypeHints

open Attempt

/-! ### Hints without texts -/

namespace Hint

mutual

/-- Whether no text is left in a hint that is still to be read, at any depth. -/
def isRead : Hint → Bool
  | .union _ hs => areRead hs
  | .tuple _ hs => areRead hs
  | .subscripted _ _ hs => areRead hs
  | .deferred _ _ => false
  | _ => true

/-- Whether no text is left in hints that is still to be read. -/
def areRead : List Hint → Bool
  | [] => true
  | h :: hs => isRead h && areRead hs

end

/-- No text is left in hints if none is left in any of them. -/
theorem areRead_iff {hs : List Hint} : areRead hs = true ↔ ∀ h ∈ hs, h.isRead = true := by
  induction hs with
  | nil => simp [areRead]
  | cons h hs ih => simp [areRead, ih]

end Hint

/-- No name in a scope stands for a hint that has a text left in it. -/
def Scope.Read (s : Scope) : Prop :=
  ∀ name h, s.entries.get? name = some h → h.isRead = true

/-! ### Declarations -/

/-- Nothing has been declared by writing it down. -/
structure Store.SameDecls (s s' : Store) : Prop where
  params : s'.params = s.params
  aliasValues : s'.aliasValues = s.aliasValues

namespace Store

variable {ε : Type}

instance : IsPreorder Store SameDecls where
  refl _ := ⟨rfl, rfl⟩
  trans _ _ _ h h' := ⟨h'.params.trans h.params, h'.aliasValues.trans h.aliasValues⟩

/-- Declarations that are the same are the same the other way round. -/
theorem SameDecls.symm {s s' : Store} (h : s.SameDecls s') : s'.SameDecls s :=
  ⟨h.params.symm, h.aliasValues.symm⟩

theorem sameDecls_fresh : Follows SameDecls (fresh : Attempt Store ε Label) := fun _ ↦ ⟨rfl, rfl⟩

/-- To ask for the hint of a class declares nothing. -/
theorem sameDecls_classHint (name : String) (id : Label) :
    Follows SameDecls (classHint name id : Attempt Store ε ClassHint) := by
  intro s
  unfold classHint
  split
  · exact refl_of _ s
  · exact ⟨rfl, rfl⟩

/-- The world under a store depends on the declarations only. -/
theorem SameDecls.under {s s' : Store} (h : s.SameDecls s') (w : World) :
    w.under s' = w.under s := by
  simp only [World.under, h.params, h.aliasValues]

end Store

/-- Reading the body of an alias gives hints of one key only, declares nothing and breaks off only
with a report. -/
structure AliasBody.Steady (w : World) (b : AliasBody) : Prop where
  key : ∀ name name' s s' t t' h k, b.hint w name s = (.ok h, s') →
    b.hint w name' t = (.ok k, t') → h.stableKey = k.stableKey
  decls : ∀ name, Follows Store.SameDecls (b.hint w name)
  failure : ∀ name s e, (b.hint w name s).1 = .error e → ∃ c, e = .cause c

/-- The bodies of all aliases of `W` are steady, read in `w`. -/
def World.Steady (w W : World) : Prop := ∀ id b, W.aliases.get? id = some b → b.Steady w

/-! ### Reading texts -/

namespace Naming

/-- Nothing has been declared since a store, and the names stand for hints without texts. -/
structure Calm (s₀ : Store) (n : Naming) : Prop where
  decls : s₀.SameDecls n.store
  read : n.scope.Read

variable {s₀ : Store} {α : Type}

/-- An action on the store that declares nothing keeps the names calm. -/
theorem calm_onStore {a : Attempt Store Cause α} {V : α → Prop} (ha : Follows Store.SameDecls a)
    (hV : ∀ s x, (a s).1 = .ok x → V x) : Yields (Calm s₀) (onStore a) V (fun _ ↦ True) where
  keeps n hn := ⟨trans_of Store.SameDecls hn.decls (ha n.store), hn.read⟩
  value n _ x hx := hV n.store x hx
  failure _ _ _ _ := trivial

/-- References have no text in them. -/
theorem calm_onRefs (a : Label → Attempt Registry Cause ForwardRef) :
    Yields (Calm s₀) (onRefs a) (fun r ↦ (Hint.forwardRef r).isRead = true) (fun _ ↦ True) where
  keeps n hn := by
    rw [onRefs_apply]
    exact ⟨⟨hn.decls.params, hn.decls.aliasValues⟩, hn.read⟩
  value _ _ _ _ := rfl
  failure _ _ _ _ := trivial

/-- A name stands for a hint without texts, or is deferred. -/
theorem calm_lookup (name : String) {trust? : Option Trust} (ht : isTrusted trust? = true) :
    Yields (Calm s₀) (lookup name trust?) (fun h ↦ h.isRead = true) (fun _ ↦ True) := by
  refine ⟨fun n hn ↦ ?_, fun n hn h hh ↦ ?_, fun _ _ _ _ ↦ trivial⟩
  · rcases lookup_cases name ht n with ⟨h, hk, he⟩ | ⟨-, -, r, g, -, he⟩ | ⟨-, -, c, g, -, he⟩ |
      ⟨-, -, c, -, he⟩ <;> rw [he]
    · refine ⟨hn.decls, fun k v hk ↦ hn.read k v ?_⟩
      rwa [Scope.entries_record] at hk
    · refine ⟨⟨hn.decls.params, hn.decls.aliasValues⟩, fun k v hk ↦ ?_⟩
      rw [Scope.entries_record, Dict.get?_insert] at hk
      split at hk
      · cases hk
        rfl
      · exact hn.read k v hk
    · exact ⟨⟨hn.decls.params, hn.decls.aliasValues⟩, hn.read⟩
    · exact hn
  · rcases lookup_cases name ht n with ⟨k, hk, he⟩ | ⟨-, -, r, g, -, he⟩ | ⟨-, -, c, g, -, he⟩ |
      ⟨-, -, c, -, he⟩ <;> rw [he] at hh <;> cases hh
    · exact hn.read name _ hk
    · rfl

/-- Reading a text keeps names calm, and gives a hint without texts. -/
theorem keeps_calm (w : World) (s₀ : Store) :
    Naming.Keeps w (Calm s₀) (fun h ↦ h.isRead = true) (fun _ ↦ True) where
  fresh := calm_onStore Store.sameDecls_fresh fun _ _ _ ↦ trivial
  classHint _ := calm_onStore (Store.sameDecls_classHint _ _) fun _ _ _ ↦ rfl
  lookup name _ ht := calm_lookup name ht
  member _ _ := calm_onRefs _
  sealedTwin _ := calm_onRefs _
  any := rfl
  literal _ _ := rfl
  union _ _ h := Hint.areRead_iff.mpr h
  tuple _ _ h := Hint.areRead_iff.mpr h
  array := rfl
  subscripted _ _ _ _ h := Hint.areRead_iff.mpr h
  expression _ _ := trivial

end Naming

/-! ### Runs -/

/-- The declarations are those of `W`, and no name that texts may use stands for a hint that has a
text left in it: neither in the scope that the run holds nor, if it holds none, among the names of
the site. -/
structure Run.Calm (w W : World) (site : Site) (r : Run) : Prop where
  world : w.under r.store = W
  scope : ∀ s, r.scope? = some s → s.Read
  names : r.scope? = none → ∀ e ∈ site.names, e.2.isRead = true

namespace Run

variable {w W : World} {site : Site} {ε α : Type}

/-- A run stays calm if its declarations and its scope stay. -/
theorem Calm.congr {r r' : Run} (h : r.Calm w W site) (hd : r.store.SameDecls r'.store)
    (hs : r'.scope? = r.scope?) : r'.Calm w W site :=
  ⟨(hd.under w).trans h.world, fun s hs' ↦ h.scope s (hs ▸ hs'), fun hn ↦ h.names (hs ▸ hn)⟩

theorem calm_onStore {a : Attempt Store ε α} {E : ε → Prop} (ha : Follows Store.SameDecls a)
    (hE : ∀ s e, (a s).1 = .error e → E e) :
    Yields (Calm w W site) (onStore a) (fun _ ↦ True) E where
  keeps r hr := hr.congr (ha r.store) rfl
  value _ _ _ _ := trivial
  failure r _ e he := hE r.store e he

theorem calm_intern (h : Hint) : Yields (Calm w W site) (intern h) (fun _ ↦ True)
    (fun e : Failure ↦ ∃ c, e = .cause c) where
  keeps _ hr := hr.congr (refl_of _ _) rfl
  value _ _ _ _ := trivial
  failure _ _ _ he := by cases he

/-- An application fails with a report only, and declares nothing. -/
theorem calm_substitute (hint : Hint) (params : List TypeParameter) (args : List Hint) :
    Yields (Calm w W site) (substitute w hint params args) (fun _ ↦ True)
      (fun e ↦ ∃ c, e = .cause c) where
  keeps _ hr := hr.congr ⟨rfl, rfl⟩ rfl
  value _ _ _ _ := trivial
  failure r _ e he := by
    have hmap : ∀ x : Except Cause (Option Table), x.mapError Failure.cause = .error e →
        ∃ c, e = .cause c := by
      rintro (c | t) h <;> cases h
      exact ⟨c, rfl⟩
    exact hmap _ he

/-- Under steady aliases, reading one keeps a run calm. -/
theorem calm_aliasValue (hW : w.Steady W) (a : Alias) :
    Yields (Calm w W site) (aliasValue w a) (fun _ ↦ True) (fun e ↦ ∃ c, e = .cause c) := by
  refine ⟨fun r hr ↦ ?_, fun _ _ _ _ ↦ trivial, fun r hr e he ↦ ?_⟩
  · rcases aliasValue_cases w a r with ⟨b, hb, h⟩ | ⟨-, h⟩ <;> rw [h]
    · have hsteady := hW a.id b (hr.world ▸ hb)
      exact hr.congr (hsteady.decls a.name r.store) rfl
    · exact hr
  · rcases aliasValue_cases w a r with ⟨b, hb, h⟩ | ⟨-, h⟩ <;> rw [h] at he
    · have hsteady := hW a.id b (hr.world ▸ hb)
      exact hsteady.failure a.name r.store e he
    · cases he
      exact ⟨_, rfl⟩

/-- A run stays calm where nothing happens. -/
theorem calm_quiet {r r' : Run} (h : Quiet r r') (hr : r.Calm w W site) : r'.Calm w W site :=
  hr.congr ⟨by rw [h.store], by rw [h.store]⟩ h.scope

end Run

/-! ### Scopes of sites -/

namespace Site

open Run

variable {w W : World} {site : Site}

theorem calm_classNames : ∀ ids : List Label,
    Yields (Calm w W site) (classNames w ids : Attempt Run Cause (List (String × Hint)))
      (fun cs ↦ ∀ e ∈ cs, e.2.isRead = true) (fun _ ↦ True)
  | [] => .pure (by simp)
  | _ :: ids => (calm_onStore (Store.sameDecls_classHint _ _) fun _ _ _ ↦ trivial).bind
      fun c _ ↦ (calm_classNames ids).bind fun cs hcs ↦
        .pure (List.forall_mem_cons.mpr ⟨rfl, hcs⟩)

/-- The names of a scope that is created are those that it is given, and builtin ones. -/
theorem read_create {name : String} {seed : List (String × Hint)} {owner? : Option Label}
    {s : Scope} (h : Scope.create name seed owner? = .ok s)
    (hseed : ∀ e ∈ seed, e.2.isRead = true) : s.Read := by
  unfold Scope.create at h
  cases hv : validDotted "Forward scope name" name with
  | error c =>
    rw [hv] at h
    cases h
  | ok n =>
    rw [hv] at h
    cases h
    intro k v hk
    have hbuiltin : ∀ e ∈ Builtin.scope, e.2.isRead = true := by decide
    rcases List.mem_append.mp (Dict.mem_ofList (Dict.mem_of_get? hk)) with he | he
    · exact hbuiltin _ he
    · exact hseed _ he

/-- The scope of a site has its names from the site. -/
theorem calm_makeScope (hnames : ∀ e ∈ site.names, e.2.isRead = true) :
    Yields (Calm w W site) (site.makeScope w) Scope.Read (fun _ ↦ True) := by
  refine (calm_classNames _).bind fun cs hcs ↦ .ofExcept (fun s hs ↦ ?_) fun _ _ ↦ trivial
  refine read_create hs fun e he ↦ ?_
  exact (List.mem_append.mp (Members.mem_assigned he)).elim (hcs e) (hnames e)

/-- So has the scope that the run keeps. -/
theorem calm_forwardScope :
    Yields (Calm w W site) (site.forwardScope w) Scope.Read (fun _ ↦ True) := by
  refine ⟨fun r hr ↦ ?_, fun r hr s hs ↦ ?_, fun _ _ _ _ ↦ trivial⟩
  · rcases forwardScope_cases w site r with ⟨_, -, he⟩ | ⟨hn, s, r₁, hm, he⟩ |
      ⟨hn, c, r₁, hm, he⟩ <;> rw [he]
    · exact hr
    · have hmake := calm_makeScope (w := w) (W := W) (hr.names hn)
      refine ⟨(hmake.of_run hr hm).world, fun s' hs' ↦ ?_, fun hn' ↦ by cases hn'⟩
      cases hs'
      exact hmake.value_of_run hr hm
    · exact (calm_makeScope (hr.names hn)).of_run hr hm
  · rcases forwardScope_cases w site r with ⟨_, hs', he⟩ | ⟨hn, s, r₁, hm, he⟩ |
      ⟨hn, c, r₁, hm, he⟩ <;> rw [he] at hs <;> cases hs
    · exact hr.scope _ hs'
    · exact (calm_makeScope (hr.names hn)).value_of_run hr hm

theorem calm_onNames {α : Type} {scope : Scope} {a : Attempt Naming Cause α} {V : α → Prop}
    (hscope : scope.Read) (ha : ∀ s₀, Yields (Naming.Calm s₀) a V (fun _ ↦ True)) :
    Yields (Calm w W site) (onNames scope a) V (fun _ ↦ True) := by
  have hstart (r : Run) : Naming.Calm r.store ⟨scope, r.engine.refs, r.store⟩ :=
    ⟨refl_of _ _, hscope⟩
  refine ⟨fun r hr ↦ ?_, fun r _ x hx ↦ (ha r.store).value _ (hstart r) x hx, fun _ _ _ _ ↦ trivial⟩
  have hend := (ha r.store).keeps _ (hstart r)
  refine ⟨(hend.decls.under w).trans hr.world, fun s hs ↦ ?_, fun hn ↦ by cases hn⟩
  cases hs
  exact hend.read

theorem calm_log (message : String) :
    Yields (Calm w W site) (site.log message : Attempt Run Cause Unit) (fun _ ↦ True)
      (fun _ ↦ True) :=
  .of_keeps fun r hr ↦ calm_quiet (quiet_log site message r) hr

/-- Reading a text keeps a run calm, and leaves no text in the hint. -/
theorem calm_destringify (text : String) : Yields (Calm w W site) (site.destringify w text)
    (fun h ↦ h.isRead = true) (fun _ ↦ True) := by
  refine calm_forwardScope.bind fun scope hscope ↦ ?_
  refine (calm_onNames hscope fun s₀ ↦ yields_readText (Naming.keeps_calm w s₀) text).bind
    fun h hh ↦ ?_
  exact (calm_log _).bind fun _ _ ↦ .pure hh

end Site

/-! ### Reduction -/

/-- Under steady aliases a run stays calm while hints are reduced, and the actions of a step fail with
a report only. -/
theorem Run.keeps_calm {w W : World} {site : Site} (hW : w.Steady W) :
    Run.Keeps w site (Calm w W site) (fun e ↦ ∃ c, e = .cause c) where
  quiet _ _ h hr := calm_quiet h hr
  intern h := calm_intern h
  substitute hint params args := calm_substitute hint params args
  aliasValue a := calm_aliasValue hW a
  destringify text := ((Site.calm_destringify text).mono fun _ _ ↦ trivial).mapFailure
    fun c _ ↦ ⟨c, rfl⟩
  emptyUnion := ⟨_, rfl⟩

end TypeHints
