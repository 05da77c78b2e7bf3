import TypeHints.Proofs.References
import TypeHints.Proofs.Invariants

/-!
# What runs leave behind

Sanitizing only adds to what runs share: a name that a class is shown by, a forward reference, an
entry of a scope, an outcome of a substitution and a representative of a key stay what they are.
`Run.Grows` collects this, and every action that reduction is built from follows it
(`grows_reduceStep`, `grows_reduce`). So whatever has been found once is found again, in whatever
order hints are sanitized.

Growth is put together from that of the parts:

* `Store.Grows`: labels are given out in order, and classes keep the names that they are shown by;
* `Registry.Grows`, for references and their owners;
* `Scope.Grows` and `Naming.Grows`: entries stay, and a new entry is the registered reference of a
  dotted name;
* inclusion of dictionaries for outcomes of substitutions and for representatives.

`Run.Grows` also carries the soundness of the interner along (`Interner.Sound`): a representative is
a composite hint or a literal, and it stands under its own key. That a hint and its representative
have the same key follows from this and from nothing else.

Building hints, reading objects and coercing raw hints move the store by few steps. What is said of
these actions is said for any relation that the steps follow (`Store.Moves`, `Store.Records`), so
that it need not be said again for relations finer than growth.
-/

namespace TypeHints

open Attempt

/-! ### The interner -/

namespace Interner

/-- A representative is a hint of a kind that is interned, and stands under its own key. -/
structure Sound (i : Interner) : Prop where
  key : ∀ k h, i.hints.get? k = some h → h.stableKey = k
  internable : ∀ k h, i.hints.get? k = some h → isInternable h = true

/-- The interner that holds nothing is sound. -/
theorem sound_empty : Sound empty := by
  constructor <;> intro k h hk <;> cases hk

/-- Interning a hint gives the representative of its key, or makes the hint the representative. -/
theorem intern_cases (h : Hint) (i : Interner) :
    (isInternable h = false ∧ i.intern h = (h, i)) ∨
      (isInternable h = true ∧ ∃ found, i.hints.get? h.stableKey = some found ∧
        i.intern h = (found, i)) ∨
      (isInternable h = true ∧ i.hints.get? h.stableKey = none ∧
        i.intern h = (h, ⟨i.hints.insert h.stableKey h⟩)) := by
  unfold intern
  by_cases hi : isInternable h = true
  · rw [if_pos hi]
    cases hf : i.hints.get? h.stableKey with
    | none => exact .inr (.inr ⟨hi, rfl, rfl⟩)
    | some found => exact .inr (.inl ⟨hi, found, rfl, rfl⟩)
  · rw [if_neg hi]
    exact .inl ⟨by simpa using hi, rfl⟩

/-- Representatives stay when a hint is interned. -/
theorem intern_within (h : Hint) (i : Interner) : i.hints.Within (i.intern h).2.hints := by
  rcases intern_cases h i with ⟨-, he⟩ | ⟨-, _, -, he⟩ | ⟨-, hn, he⟩ <;> rw [he]
  · exact Dict.within_refl _
  · exact Dict.within_refl _
  · exact Dict.within_insert h hn

/-- A hint whose key has a representative is interned as this one. -/
theorem intern_of_get? {h k : Hint} {i : Interner} (hi : isInternable h = true)
    (hk : i.hints.get? h.stableKey = some k) : i.intern h = (k, i) := by
  simp only [intern, hi, hk, if_true]

/-- Once interned, a hint of an interned kind has its representative for good. -/
theorem intern_get? {h : Hint} (i : Interner) (hi : isInternable h = true) :
    (i.intern h).2.hints.get? h.stableKey = some (i.intern h).1 := by
  rcases intern_cases h i with ⟨hn, -⟩ | ⟨-, _, hf, he⟩ | ⟨-, -, he⟩
  · rw [hi] at hn
    cases hn
  · rw [he]
    exact hf
  · rw [he]
    exact Dict.get?_insert_self _ _ _

namespace Sound

variable {i : Interner}

/-- Interning keeps an interner sound. -/
protected theorem intern (hs : i.Sound) (h : Hint) : (i.intern h).2.Sound := by
  rcases intern_cases h i with ⟨-, he⟩ | ⟨-, _, -, he⟩ | ⟨hi, -, he⟩ <;> rw [he]
  · exact hs
  · exact hs
  · refine ⟨fun k v hk ↦ ?_, fun k v hk ↦ ?_⟩ <;> rw [Dict.get?_insert] at hk <;> split at hk
    · rename_i heq
      cases hk
      exact heq
    · exact hs.key k v hk
    · cases hk
      exact hi
    · exact hs.internable k v hk

/-- A representative has the key of the hint. -/
theorem stableKey_intern (hs : i.Sound) (h : Hint) : (i.intern h).1.stableKey = h.stableKey := by
  rcases intern_cases h i with ⟨-, he⟩ | ⟨-, found, hf, he⟩ | ⟨-, -, he⟩ <;> rw [he]
  exact hs.key _ _ hf

/-- It is of a kind that is interned just if the hint is. -/
theorem isInternable_intern (hs : i.Sound) (h : Hint) :
    isInternable (i.intern h).1 = isInternable h := by
  rcases intern_cases h i with ⟨-, he⟩ | ⟨hi, found, hf, he⟩ | ⟨-, -, he⟩ <;> rw [he]
  rw [hi]
  exact hs.internable _ _ hf

end Sound

end Interner

/-! ### The store -/

namespace Store

variable {ε : Type}

/-- Labels are given out in order, and a class keeps the name that it is shown by. -/
structure Grows (s s' : Store) : Prop where
  next : s.next ≤ s'.next
  shownNames : s.shownNames.Within s'.shownNames

instance : IsPreorder Store Grows where
  refl _ := ⟨Nat.le_refl _, Dict.within_refl _⟩
  trans _ _ _ h h' := ⟨Nat.le_trans h.next h'.next, h.shownNames.trans h'.shownNames⟩

/-- Giving out a label lets the store grow. -/
theorem grows_fresh : Follows Grows (fresh : Attempt Store ε Label) :=
  fun _ ↦ ⟨Nat.le_succ _, Dict.within_refl _⟩

/-- So does asking for a class, which may get a name to be shown by. -/
theorem grows_classHint (name : String) (id : Label) :
    Follows Grows (classHint name id : Attempt Store ε ClassHint) := by
  intro s
  unfold classHint
  cases h : s.shownNames.get? id with
  | none => exact ⟨Nat.le_refl _, Dict.within_insert name h⟩
  | some _ => exact refl_of Grows s

theorem grows_record (ps : Parts) (h : Hint) :
    Follows Grows (Attempt.modify (ps.record h) : Attempt Store ε Unit) := by
  intro s
  show Grows s (ps.record h s)
  unfold Parts.record
  split
  · exact ⟨Nat.le_refl _, Dict.within_refl _⟩
  · exact ⟨Nat.le_refl _, Dict.within_refl _⟩
  · split
    · exact ⟨Nat.le_refl _, Dict.within_refl _⟩
    · exact refl_of Grows s
  · exact refl_of Grows s

/-- The store moves along `R` when a label is given out and when a class is asked for by its own
name. -/
structure Moves (cs : Classes) (R : Store → Store → Prop) : Prop where
  fresh : ∀ {ε : Type}, Follows R (fresh : Attempt Store ε Label)
  classHint : ∀ {ε : Type} (id : Label), Follows R (classHintOf cs id : Attempt Store ε ClassHint)

/-- The store also moves along `R` when something that was written down is recorded. -/
structure Records (cs : Classes) (R : Store → Store → Prop) : Prop extends Moves cs R where
  record : ∀ {ε : Type} (ps : Parts) (h : Hint),
    Follows R (Attempt.modify (ps.record h) : Attempt Store ε Unit)

theorem records_grows (cs : Classes) : Records cs Grows :=
  ⟨⟨grows_fresh, fun _ ↦ grows_classHint _ _⟩, grows_record⟩

end Store

/-! ### Actions on the store

What is built, read and coerced moves the store by these steps only.
-/

section Moves

variable {ε : Type} {cs : Classes} {R : Store → Store → Prop} [IsPreorder Store R]

namespace HintRecipe

mutual

theorem follows_build (hR : Store.Moves cs R) : ∀ r : HintRecipe,
    Follows R (build cs r : Attempt Store ε Hint)
  | .existing _ => .pure _
  | .ofClass id => (hR.classHint id).bind fun _ ↦ .pure _
  | .literal _ => hR.fresh.bind fun _ ↦ .pure _
  | .union rs => (follows_buildAll hR rs).bind fun _ ↦ hR.fresh.bind fun _ ↦ .pure _
  | .tuple rs => (follows_buildAll hR rs).bind fun _ ↦ hR.fresh.bind fun _ ↦ .pure _
  | .subscripted _ rs => (follows_buildAll hR rs).bind fun _ ↦ hR.fresh.bind fun _ ↦ .pure _
  | .deferred _ => hR.fresh.bind fun _ ↦ .pure _

theorem follows_buildAll (hR : Store.Moves cs R) : ∀ rs : List HintRecipe,
    Follows R (buildAll cs rs : Attempt Store ε (List Hint))
  | [] => .pure _
  | r :: rs => (follows_build hR r).bind fun _ ↦ (follows_buildAll hR rs).bind fun _ ↦ .pure _

end

end HintRecipe

namespace Recipe

mutual

theorem follows_build (hR : Store.Moves cs R) : ∀ r : Recipe,
    Follows R (build cs r : Attempt Store ε Value)
  | .value _ => .pure _
  | .list rs => (follows_buildAll hR rs).bind fun _ ↦ .pure _
  | .hint r => (HintRecipe.follows_build hR r).bind fun _ ↦ .pure _

theorem follows_buildAll (hR : Store.Moves cs R) : ∀ rs : List Recipe,
    Follows R (buildAll cs rs : Attempt Store ε (List Value))
  | [] => .pure _
  | r :: rs => (follows_build hR r).bind fun _ ↦ (follows_buildAll hR rs).bind fun _ ↦ .pure _

end

end Recipe

namespace Value

theorem follows_readParts (hR : Store.Records cs R) (ps : Parts) :
    Follows R (readParts cs ps : Attempt Store ε (Option Hint)) := by
  refine hR.fresh.bind fun label ↦ ?_
  cases ps.assemble? cs label with
  | none => exact .pure _
  | some h => exact (hR.record ps h).bind fun _ ↦ .pure _

mutual

theorem follows_reading (hR : Store.Records cs R) : ∀ v : Value,
    Follows R (reading cs v : Attempt Store ε Reading)
  | .hint _ => .pure _
  | .array vs => (follows_readings hR vs).bind fun _ ↦ .pure _
  | .object ms => (follows_parts hR ms).bind fun ps ↦ (follows_readParts hR ps).bind fun _ ↦ .pure _
  | .bare ms => (follows_parts hR ms).bind fun ps ↦ (follows_readParts hR ps).bind fun _ ↦ .pure _
  | .undefined | .null | .bool _ | .number _ | .bigint _ | .string _ | .symbol _ | .ofClass _
  | .prototype _ | .instance _ | .function _ | .boxed _ | .cell _ => .pure _

theorem follows_readings (hR : Store.Records cs R) : ∀ vs : List Value,
    Follows R (readings cs vs : Attempt Store ε (List Reading))
  | [] => .pure _
  | v :: vs => (follows_reading hR v).bind fun _ ↦ (follows_readings hR vs).bind fun _ ↦ .pure _

theorem follows_parts (hR : Store.Records cs R) : ∀ ms : List (String × Value),
    Follows R (parts cs ms : Attempt Store ε Parts)
  | [] => .pure _
  | (_, v) :: ms => (follows_reading hR v).bind fun _ ↦ (follows_parts hR ms).bind fun _ ↦ .pure _

end

theorem follows_readHint (hR : Store.Records cs R) (v : Value) :
    Follows R (readHint cs v : Attempt Store ε (Option Hint)) :=
  (follows_reading hR v).bind fun _ ↦ .pure _

end Value

end Moves

/-! ### Coercion -/

section Coercion

variable {w : World} {R : Store → Store → Prop} [IsPreorder Store R]

mutual

/-- Coercing a raw hint moves the store by recorded steps only. -/
theorem follows_coerce (hR : Store.Records w.classes R) (v : Value) : Follows R (coerce w v) := by
  unfold coerce
  split
  · exact hR.fresh.bind fun _ ↦ .pure _
  · rename_i vs
    exact (follows_coerceAll hR vs).bind fun _ ↦ (Follows.ofExcept _).bind fun _ ↦
      hR.fresh.bind fun _ ↦ .pure _
  · split
    · exact (hR.classHint _).bind fun _ ↦ .pure _
    · refine (Value.follows_readHint hR _).bind fun o ↦ ?_
      cases o with
      | none => exact .fail _
      | some _ => exact .pure _

theorem follows_coerceAll (hR : Store.Records w.classes R) (vs : List Value) :
    Follows R (coerceAll w vs) := by
  cases vs with
  | nil => exact .pure _
  | cons v vs =>
    intro s
    have hv := follows_coerce hR v s
    simp only [coerceAll, run]
    rcases hr : coerce w v s with ⟨(c | c) | h, s'⟩ <;> rw [hr] at hv
    · exact trans_of _ hv (follows_coerceAll hR vs s')
    · exact hv
    · exact trans_of _ hv (follows_coerceAll hR vs s')

end

theorem follows_coerceKeyed (hR : Store.Records w.classes R) (v : Value) :
    Follows R (coerceKeyed w v) := by
  refine (follows_coerce hR v).bind fun h ↦ ?_
  cases v.keyFault? w.classes with
  | none => exact .pure _
  | some _ => exact .fail _

theorem follows_hint (hR : Store.Records w.classes R) (name : String) (b : AliasBody) :
    Follows R (b.hint w name) := by
  refine Follows.bind ?_ fun v ↦ follows_coerceKeyed hR v
  cases b with
  | value recipe => exact Recipe.follows_build hR.toMoves _
  | failure _ => exact .fail _
  | thrown _ => exact (Follows.ofExcept _).bind fun _ ↦ .fail _

end Coercion

/-! ### Names -/

namespace Scope

/-- The entries of a scope stay, and so do its name and its owner. -/
structure Grows (s s' : Scope) : Prop where
  name : s'.name = s.name
  owner : s'.owner? = s.owner?
  entries : s.entries.Within s'.entries

instance : IsPreorder Scope Grows where
  refl _ := ⟨rfl, rfl, Dict.within_refl _⟩
  trans _ _ _ h h' :=
    ⟨h'.name.trans h.name, h'.owner.trans h.owner, h.entries.trans h'.entries⟩

theorem grows_recorded (s : Scope) (name : String) : s.Grows (s.record name) := by
  unfold record
  split
  · exact refl_of Grows s
  · exact ⟨rfl, rfl, Dict.within_refl _⟩

end Scope

namespace Naming

/-- What names are looked up against only grows. A new entry of the scope is the registered reference
of a dotted name. -/
structure Grows (n n' : Naming) : Prop where
  scope : n.scope.Grows n'.scope
  refs : n.refs.Grows n'.refs
  store : n.store.Grows n'.store
  added : ∀ name h, n'.scope.entries.get? name = some h → n.scope.entries.get? name = some h ∨
    Text.isDottedIdentifier name = true ∧ ∃ r, h = .forwardRef r ∧
      n'.refs.refs.get? (Registry.refKey .subscriptable name n.scope.name) = some r

instance : IsPreorder Naming Grows where
  refl _ := ⟨refl_of _ _, refl_of _ _, refl_of _ _, fun _ _ h ↦ .inl h⟩
  trans _ _ _ h h' := by
    refine ⟨trans_of _ h.scope h'.scope, trans_of _ h.refs h'.refs, trans_of _ h.store h'.store,
      fun name k hk ↦ ?_⟩
    rcases h'.added name k hk with hk | ⟨hn, r, rfl, hr⟩
    · refine (h.added name k hk).imp_right ?_
      rintro ⟨hn, r, rfl, hr⟩
      exact ⟨hn, r, rfl, h'.refs.refs _ _ hr⟩
    · exact .inr ⟨hn, r, rfl, h.scope.name ▸ hr⟩

/-- A change that leaves the scope alone. -/
theorem grows_of_scope_eq {n n' : Naming} (hs : n'.scope = n.scope) (hr : n.refs.Grows n'.refs)
    (ht : n.store.Grows n'.store) : n.Grows n' := by
  refine ⟨?_, hr, ht, ?_⟩ <;> rw [hs]
  · exact refl_of _ _
  · exact fun _ _ h ↦ .inl h

variable {α : Type}

theorem grows_onStore {a : Attempt Store Cause α} (ha : Follows Store.Grows a) :
    Follows Grows (onStore a) :=
  fun n ↦ grows_of_scope_eq rfl (refl_of _ n.refs) (ha n.store)

theorem grows_onRefs {a : Label → Attempt Registry Cause α}
    (ha : ∀ l, Follows Registry.Grows (a l)) : Follows Grows (onRefs a) :=
  (grows_onStore Store.grows_fresh).bind fun l n ↦
    grows_of_scope_eq rfl (ha l n.refs) (refl_of _ n.store)

/-- An action on the registry takes one label and leaves the scope alone. -/
theorem onRefs_apply (a : Label → Attempt Registry Cause α) (n : Naming) :
    onRefs a n = ((a n.store.next n.refs).1,
      { n with
        refs := (a n.store.next n.refs).2
        store := { n.store with next := n.store.next + 1 } }) := rfl

/-- The outcomes of looking a name up, for a caller who may defer it: an entry, a new reference,
which becomes one, or a failure for a name that is not valid. -/
theorem lookup_cases (name : String) {trust? : Option Trust} (ht : isTrusted trust? = true)
    (n : Naming) :
    (∃ h, n.scope.entries.get? name = some h ∧
      lookup name trust? n = (.ok h, { n with scope := n.scope.record name })) ∨
    (n.scope.entries.get? name = none ∧ Text.isDottedIdentifier name = true ∧ ∃ r g,
      Registry.make n.store.next .subscriptable name n.scope.name n.scope.owner? n.refs = (.ok r, g) ∧
      lookup name trust? n = (.ok (.forwardRef r),
        ⟨Scope.record { n.scope with entries := n.scope.entries.insert name (.forwardRef r) } name,
          g, { n.store with next := n.store.next + 1 }⟩)) ∨
    (n.scope.entries.get? name = none ∧ Text.isDottedIdentifier name = true ∧ ∃ c g,
      Registry.make n.store.next .subscriptable name n.scope.name n.scope.owner? n.refs =
        (.error c, g) ∧
      lookup name trust? n = (.error c,
        { n with refs := g, store := { n.store with next := n.store.next + 1 } })) ∨
    (n.scope.entries.get? name = none ∧ Text.isDottedIdentifier name = false ∧
      ∃ c, validDotted "Forward reference" name = .error c ∧ lookup name trust? n = (.error c, n)) := by
  cases he : n.scope.entries.get? name with
  | some h => exact .inl ⟨h, rfl, by simp only [lookup, he]⟩
  | none =>
    refine .inr ?_
    cases hv : validDotted "Forward reference" name with
    | error c =>
      exact .inr (.inr ⟨rfl, not_isDottedIdentifier_of_validDotted hv, c, rfl, by
        simp only [lookup, he, hv]⟩)
    | ok _ =>
      have hvalid := isDottedIdentifier_of_validDotted hv
      rcases hm : Registry.make n.store.next .subscriptable name n.scope.name n.scope.owner? n.refs
        with ⟨c | r, g⟩
      · refine .inr (.inl ⟨rfl, hvalid, c, g, rfl, ?_⟩)
        simp only [lookup, he, hv, ht, if_true, onRefs_apply, hm]
      · refine .inl ⟨rfl, hvalid, r, g, rfl, ?_⟩
        simp only [lookup, he, hv, ht, if_true, onRefs_apply, hm]

/-- Looking a name up lets grow what names are looked up against. -/
theorem grows_lookup (name : String) {trust? : Option Trust} (ht : isTrusted trust? = true) :
    Follows Grows (lookup name trust?) := by
  intro n
  have hstore : n.store.Grows { n.store with next := n.store.next + 1 } :=
    ⟨Nat.le_succ _, Dict.within_refl _⟩
  rcases lookup_cases name ht n with ⟨h, -, he⟩ | ⟨hnone, hvalid, r, g, hm, he⟩ |
    ⟨-, -, c, g, hm, he⟩ | ⟨-, -, c, -, he⟩ <;> rw [he]
  · refine ⟨n.scope.grows_recorded name, refl_of _ _, refl_of _ _, fun k v hk ↦ .inl ?_⟩
    rwa [Scope.entries_record] at hk
  · have hg := (Registry.grows_make _ _ _ _ _).of_run hm
    refine ⟨trans_of _ ?_ (Scope.grows_recorded _ name), hg, hstore, fun k v hk ↦ ?_⟩
    · exact ⟨rfl, rfl, Dict.within_insert _ hnone⟩
    · rw [Scope.entries_record, Dict.get?_insert] at hk
      split at hk
      · rename_i heq
        cases hk
        subst heq
        exact .inr ⟨hvalid, r, rfl, Registry.get?_of_make hm⟩
      · exact .inl hk
  · exact grows_of_scope_eq rfl ((Registry.grows_make _ _ _ _ _).of_run hm) hstore
  · exact refl_of Grows n

end Naming

/-- What names are looked up against keeps growing while a text is read. -/
theorem Naming.keeps_grows (w : World) (n₀ : Naming) :
    Naming.Keeps w n₀.Grows (fun _ ↦ True) (fun _ ↦ True) where
  fresh := (grows_onStore Store.grows_fresh).yields n₀
  classHint _ := (grows_onStore (Store.grows_classHint _ _)).yields n₀
  lookup name _ ht := (grows_lookup name ht).yields n₀
  member _ _ := (grows_onRefs fun _ ↦ Registry.grows_make _ _ _ _ _).yields n₀
  sealedTwin _ := (grows_onRefs fun _ ↦ Registry.grows_sealedTwin _ _).yields n₀
  any := trivial
  literal _ _ := trivial
  union _ _ _ := trivial
  tuple _ _ _ := trivial
  array := trivial
  subscripted _ _ _ _ _ := trivial
  expression _ _ := trivial

namespace Expression

open Naming

variable (w : World) (text : String)

theorem grows_memberPath (names : List String) (h : Hint) :
    Follows Grows (memberPath w text h names) :=
  .of_yields fun n₀ ↦ yields_memberPath (keeps_grows w n₀) text names h trivial

theorem grows_applyArguments (origin : Hint) (args : List Hint) :
    Follows Grows (applyArguments text origin args) :=
  .of_yields fun n₀ ↦ yields_applyArguments (keeps_grows .builtin n₀) text trivial fun _ _ ↦ trivial

theorem grows_convertAll (nodes : List Node) : Follows Grows (convertAll w text nodes) :=
  .of_yields fun n₀ ↦ yields_convertAll text (keeps_grows w n₀) nodes

end Expression

/-! ### Runs -/

namespace Run

/-- What names are looked up against at a run with a scope. -/
def names (r : Run) (s : Scope) : Naming := ⟨s, r.engine.refs, r.store⟩

/-- What a run shares with others only grows, and so does the scope that it holds; a run that holds
none may come to hold one. -/
structure Grows (r r' : Run) : Prop where
  store : r.store.Grows r'.store
  modules : r'.engine.modules = r.engine.modules
  refs : r.engine.refs.Grows r'.engine.refs
  substitutions : r.engine.substitutions.Within r'.engine.substitutions
  interner : r.engine.interner.hints.Within r'.engine.interner.hints
  sound : r.engine.interner.Sound → r'.engine.interner.Sound
  scope : ∀ s, r.scope? = some s → ∃ s', r'.scope? = some s' ∧ (r.names s).Grows (r'.names s')

instance : IsPreorder Run Grows where
  refl r := ⟨refl_of _ _, rfl, refl_of _ _, Dict.within_refl _, Dict.within_refl _, id,
    fun s hs ↦ ⟨s, hs, refl_of _ _⟩⟩
  trans r₁ r₂ r₃ h h' := by
    refine ⟨trans_of _ h.store h'.store, h'.modules.trans h.modules, trans_of _ h.refs h'.refs,
      h.substitutions.trans h'.substitutions, h.interner.trans h'.interner,
      fun hs ↦ h'.sound (h.sound hs), fun s hs ↦ ?_⟩
    obtain ⟨s', hs', hg⟩ := h.scope s hs
    obtain ⟨s'', hs'', hg'⟩ := h'.scope s' hs'
    exact ⟨s'', hs'', trans_of _ hg hg'⟩

/-- A change that leaves the scope alone. -/
theorem grows_scope {r r' : Run} (hs : r'.scope? = r.scope?)
    (hr : r.engine.refs.Grows r'.engine.refs) (ht : r.store.Grows r'.store) :
    ∀ s, r.scope? = some s → ∃ s', r'.scope? = some s' ∧ (r.names s).Grows (r'.names s') :=
  fun s h ↦ ⟨s, hs.trans h, Naming.grows_of_scope_eq rfl hr ht⟩

variable {ε α : Type}

theorem Quiet.grows {r r' : Run} (h : Quiet r r') : Grows r r' := by
  have hstore : r.store.Grows r'.store := by
    refine ⟨h.next, ?_⟩
    rw [h.store]
    exact Dict.within_refl _
  have hrefs : r.engine.refs.Grows r'.engine.refs := by
    rw [h.engine]
    exact refl_of _ _
  refine ⟨hstore, ?_, hrefs, ?_, ?_, ?_, grows_scope h.scope hrefs hstore⟩ <;> rw [h.engine]
  · exact Dict.within_refl _
  · exact Dict.within_refl _
  · exact id

theorem grows_of_quiet {a : Attempt Run ε α} (h : Follows Quiet a) : Follows Grows a :=
  fun r ↦ (h r).grows

theorem grows_onStore {a : Attempt Store ε α} (ha : Follows Store.Grows a) :
    Follows Grows (onStore a) :=
  fun r ↦ ⟨ha r.store, rfl, refl_of _ _, Dict.within_refl _, Dict.within_refl _, id,
    grows_scope rfl (refl_of _ _) (ha r.store)⟩

theorem grows_intern (h : Hint) : Follows Grows (intern h : Attempt Run ε Hint) :=
  fun r ↦ ⟨refl_of _ _, rfl, refl_of _ _, Dict.within_refl _,
    r.engine.interner.intern_within h, fun hs ↦ hs.intern h,
    grows_scope rfl (refl_of _ _) (refl_of _ _)⟩

theorem grows_coerceRoot (w : World) (raw : Value) : Follows Grows (coerceRoot w raw) :=
  (grows_onStore (follows_coerceKeyed (Store.records_grows _) raw)).bind fun _ ↦ grows_intern _

end Run

namespace Substitution

/-- Outcomes that have been kept stay when another application is substituted. -/
theorem build_within (w : World) (label : Label) (hint : Hint) (params : List TypeParameter)
    (args : List Hint) (cache : Cache) :
    cache.Within (build w label hint params args cache).2 := by
  unfold build
  dsimp only
  split
  · exact Dict.within_refl _
  · rename_i h
    exact Dict.within_insert _ h

end Substitution

section Substitute

variable {w : World} {r : Run} {hint : Hint} {params : List TypeParameter} {args : List Hint}

/-- The bindings of an application are those of its outcome. -/
theorem Run.substitute_fst : (substitute w hint params args r).1 =
    (Substitution.build (w.under r.store) r.store.next hint params args
      r.engine.substitutions).1.result.mapError .cause := rfl

theorem Run.result_of_substitute {t? : Option Table}
    (h : (substitute w hint params args r).1 = .ok t?) :
    (Substitution.build (w.under r.store) r.store.next hint params args
      r.engine.substitutions).1.result = .ok t? := by
  rw [substitute_fst] at h
  rcases hresult : (Substitution.build (w.under r.store) r.store.next hint params args
    r.engine.substitutions).1.result with c | o <;> rw [hresult] at h <;> cases h
  rfl

end Substitute

theorem Run.grows_substitute (w : World) (hint : Hint) (params : List TypeParameter)
    (args : List Hint) : Follows Grows (substitute w hint params args) :=
  (grows_of_quiet quiet_fresh).bind fun label r ↦
    ⟨refl_of _ _, rfl, refl_of _ _,
      Substitution.build_within (w.under r.store) label hint params args r.engine.substitutions,
      Dict.within_refl _, id, grows_scope rfl (refl_of _ _) (refl_of _ _)⟩

namespace Site

open Run

variable {ε : Type} (w : World) (site : Site)

theorem grows_classNames : ∀ ids : List Label,
    Follows Grows (classNames w ids : Attempt Run ε (List (String × Hint)))
  | [] => .pure _
  | _ :: ids => (grows_onStore (Store.grows_classHint _ _)).bind fun _ ↦
      (grows_classNames ids).bind fun _ ↦ .pure _

theorem grows_makeScope : Follows Grows (site.makeScope w) :=
  (grows_classNames w _).bind fun _ ↦ .ofExcept _

/-- The forward scope of a site is the one that the run holds, else a new one, which it then
holds. -/
theorem forwardScope_cases (r : Run) :
    (∃ s, r.scope? = some s ∧ site.forwardScope w r = (.ok s, r)) ∨
      (r.scope? = none ∧ ∃ s r₁, site.makeScope w r = (.ok s, r₁) ∧
        site.forwardScope w r = (.ok s, { r₁ with scope? := some s })) ∨
      (r.scope? = none ∧ ∃ c r₁, site.makeScope w r = (.error c, r₁) ∧
        site.forwardScope w r = (.error c, r₁)) := by
  cases hs : r.scope? with
  | some s =>
    refine .inl ⟨s, rfl, ?_⟩
    rw [forwardScope, bind_apply_ok (get_apply r), hs]
    rfl
  | none =>
    have hmake : site.forwardScope w r = (do
        let s ← makeScope w site
        Attempt.modify fun r ↦ { r with scope? := some s }
        return s : Attempt Run Cause Scope) r := by
      rw [forwardScope, bind_apply_ok (get_apply r), hs]
    rcases hm : site.makeScope w r with ⟨c | s, r₁⟩
    · exact .inr (.inr ⟨rfl, c, r₁, rfl, hmake.trans (bind_apply_error hm)⟩)
    · exact .inr (.inl ⟨rfl, s, r₁, rfl, hmake.trans (bind_apply_ok hm)⟩)

/-- Asking for the forward scope lets a run grow. -/
theorem grows_forwardScope : Follows Grows (site.forwardScope w) := by
  intro r
  rcases forwardScope_cases w site r with ⟨s, -, he⟩ | ⟨hn, s, r₁, hm, he⟩ | ⟨-, c, r₁, hm, he⟩ <;>
    rw [he]
  · exact refl_of Grows r
  · have hg := (grows_makeScope w site).of_run hm
    refine ⟨hg.store, hg.modules, hg.refs, hg.substitutions, hg.interner, hg.sound, ?_⟩
    intro s hs
    rw [hn] at hs
    cases hs
  · exact (grows_makeScope w site).of_run hm

/-- The forward scope that was asked for is the one that the run holds afterwards. -/
theorem scope_of_forwardScope {r r' : Run} {s : Scope} (h : site.forwardScope w r = (.ok s, r')) :
    r'.scope? = some s := by
  rcases forwardScope_cases w site r with ⟨_, hs, he⟩ | ⟨-, _, r₁, -, he⟩ | ⟨-, c, r₁, -, he⟩ <;>
    rw [he] at h <;> cases h
  · exact hs
  · rfl

theorem grows_readText (text : String) : Follows Naming.Grows (readText w text) :=
  .of_yields fun n₀ ↦ yields_readText (Naming.keeps_grows w n₀) text

theorem grows_onNames {α : Type} {scope : Scope} {a : Attempt Naming Cause α}
    (ha : Follows Naming.Grows a) {r : Run} (hs : r.scope? = some scope) :
    Grows r (onNames scope a r).2 := by
  have hg := ha ⟨scope, r.engine.refs, r.store⟩
  refine ⟨hg.store, rfl, hg.refs, Dict.within_refl _, Dict.within_refl _, id, fun s hs' ↦ ?_⟩
  rw [hs] at hs'
  cases hs'
  exact ⟨_, rfl, hg⟩

/-- Reading a text at a site lets a run grow. -/
theorem grows_destringify (text : String) : Follows Grows (site.destringify w text) := by
  intro r
  have hf := grows_forwardScope w site r
  unfold destringify
  rw [bind_apply]
  rcases hr : site.forwardScope w r with ⟨c | s, r₁⟩ <;> rw [hr] at hf
  · exact hf
  · have hn := grows_onNames (grows_readText w text) (scope_of_forwardScope w site hr)
    dsimp only
    rw [bind_apply]
    rcases hr' : onNames s (readText w text) r₁ with ⟨c | h, r₂⟩ <;> rw [hr'] at hn
    · exact trans_of _ hf hn
    · exact trans_of _ hf <| trans_of _ hn <|
        ((grows_of_quiet (quiet_log site _)).bind fun _ ↦ .pure h) r₂

end Site

/-! ### Steps -/

section Steps

open Run

variable (w : World) (site : Site)

theorem grows_aliasValue (a : Alias) : Follows Grows (aliasValue w a) := by
  refine (grows_of_quiet (quiet_world w)).bind fun w' ↦ ?_
  split
  · exact .fail _
  · exact grows_onStore (follows_hint (Store.records_grows _) a.name _)

/-- A run keeps growing while hints are reduced. -/
theorem Run.keeps_grows (r₀ : Run) : Run.Keeps w site r₀.Grows (fun _ ↦ True) where
  quiet _ _ h hr := trans_of _ hr h.grows
  intern h := (grows_intern h).yields r₀
  substitute _ _ _ := (grows_substitute _ _ _ _).yields r₀
  aliasValue a := (grows_aliasValue w a).yields r₀
  destringify text := ((Site.grows_destringify w site text).mapFailure _).yields r₀
  emptyUnion := trivial

/-- A step of reduction lets a run grow. -/
theorem grows_reduceStep (hint : Hint) (p? : Option Sane) :
    Follows Grows (reduceStep w site hint p?) :=
  .of_yields fun r₀ ↦ (Run.keeps_grows w site r₀).reduceStep hint p?

/-- So does a whole reduction, to whatever depth. -/
theorem grows_reduce (depth : Nat) (hint : Hint) (p? : Option Sane) :
    Follows Grows (reduce w site depth hint p?) :=
  .of_yields fun r₀ ↦ (Run.keeps_grows w site r₀).reduce trivial depth hint p?

end Steps

end TypeHints
