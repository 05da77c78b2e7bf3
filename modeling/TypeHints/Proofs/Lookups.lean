import TypeHints.Proofs.Growth
import TypeHints.Proofs.Bindings

/-!
# What a forward scope answers

A forward scope is asked for names, one after the other, by callers who may defer names and by
callers who may not. Which names it holds is decided by the names that it was created with and by
the trusted lookups so far: `Scope.Holds`. What it answers is decided once for each name, and
`Scope.minify` lists the answers (`lookup_law`).

The one place where a lookup makes something is a trusted lookup of a dotted name that the scope
does not hold. It cannot fail there, because a scope is created under a dotted name only; so a
lookup that fails has not come to the registry, and leaves everything as it is
(`Naming.lookup_cases_of_dotted`).

What holds after some questions is put into one invariant, `Naming.Asked`, which is kept by each
question and so by any number of them (`Naming.Asked.step`, `Naming.Asked.run`). A question does one
of three things, and there is a lemma for each:

* it leaves everything as it is (`Naming.Asked.unchanged`);
* it finds an entry, which is recorded (`Naming.Asked.recording`);
* it makes an entry first (`Naming.Asked.adding`), and this is then found like any other.

The invariant says where each entry comes from, which is why an answer never changes: entries stay,
and answers are entries. What is recorded is the list of names that were found, each where it first
came, so that the scope lists just the lookups that have succeeded.
-/

namespace TypeHints

open Attempt

/-! ### Questions to a scope -/

/-- What a scope may be asked. -/
inductive Query where
  | lookup (name : String) (trust? : Option Trust)
  | has (name : String)

namespace Query

/-- What names are looked up against after a question. -/
def after (n : Naming) : Query → Naming
  | .lookup name trust? => (Naming.lookup name trust? n).2
  | .has _ => n

/-- The name and the hint of a lookup that succeeds. -/
def found? (n : Naming) : Query → Option (String × Hint)
  | .lookup name trust? => (Naming.lookup name trust? n).1.toOption.map fun h ↦ (name, h)
  | .has _ => none

/-- A question that makes an entry of a name which has none. -/
def Defers (name : String) (q : Query) : Prop :=
  Text.isDottedIdentifier name = true ∧
    ∃ trust?, isTrusted trust? = true ∧ q = .lookup name trust?

end Query

namespace Naming

/-- What names are looked up against after questions, first to last. -/
def run (n : Naming) (qs : List Query) : Naming := qs.foldl Query.after n

/-- The names and hints of the lookups that succeed, first to last. -/
def found : Naming → List Query → List (String × Hint)
  | _, [] => []
  | n, q :: qs => (q.found? n).toList ++ found (q.after n) qs

end Naming

namespace Scope

/-- The hint that a scope is created with under a name. Names of its own win over builtin ones. -/
def given? (seed : List (String × Hint)) (name : String) : Option Hint :=
  ((Dict.ofList seed).get? name).or ((Dict.ofList Builtin.scope).get? name)

/-- A scope holds a name after some questions: it was created with it, or has deferred it. -/
def Holds (seed : List (String × Hint)) (qs : List Query) (name : String) : Prop :=
  (given? seed name).isSome = true ∨ ∃ q ∈ qs, q.Defers name

/-- A scope is created under a dotted name, with its own names and the builtin ones. -/
theorem create_spec {name : String} {seed : List (String × Hint)} {owner? : Option Label}
    {s : Scope} (h : create name seed owner? = .ok s) :
    Text.isDottedIdentifier s.name = true ∧ s.recorded = [] ∧
      ∀ k, s.entries.get? k = given? seed k := by
  unfold create at h
  rcases hvalid : validDotted "Forward scope name" name with c | t <;> rw [hvalid] at h
  · cases h
  · cases h
    have ht : t = name := by
      unfold validDotted at hvalid
      split at hvalid <;> cases hvalid
      rfl
    refine ⟨ht ▸ isDottedIdentifier_of_validDotted hvalid, rfl, fun k ↦ ?_⟩
    have hentries : Dict.ofList (Builtin.scope ++ seed) =
        (Dict.ofList Builtin.scope).insertAll seed := List.foldl_append
    rw [hentries, Dict.get?_insertAll_eq_or, given?]

end Scope

namespace Naming

variable {n : Naming} {name : String} {trust? : Option Trust}

/-- The outcomes of a lookup in a scope with a dotted name: an entry, a new reference for a trusted
caller, or a failure that leaves everything as it is. -/
theorem lookup_cases_of_dotted (hn : Text.isDottedIdentifier n.scope.name = true) (name : String)
    (trust? : Option Trust) :
    (∃ h, n.scope.entries.get? name = some h ∧
      lookup name trust? n = (.ok h, { n with scope := n.scope.record name })) ∨
    (n.scope.entries.get? name = none ∧ Text.isDottedIdentifier name = true ∧
      isTrusted trust? = true ∧ ∃ r g,
        Registry.make n.store.next .subscriptable name n.scope.name n.scope.owner? n.refs =
          (.ok r, g) ∧
        lookup name trust? n = (.ok (.forwardRef r),
          ⟨Scope.record { n.scope with entries := n.scope.entries.insert name (.forwardRef r) }
            name, g, { n.store with next := n.store.next + 1 }⟩)) ∨
    (n.scope.entries.get? name = none ∧
      ¬ (Text.isDottedIdentifier name = true ∧ isTrusted trust? = true) ∧
      ∃ c, lookup name trust? n = (.error c, n)) := by
  cases htrust : isTrusted trust? with
  | true =>
    rcases lookup_cases name htrust n with h | ⟨hnone, hname, r, g, hmake, he⟩ |
      ⟨hnone, hname, c, g, hmake, -⟩ | ⟨hnone, hname, c, -, he⟩
    · exact .inl h
    · exact .inr (.inl ⟨hnone, hname, rfl, r, g, hmake, he⟩)
    · -- both names are valid, so that making the reference does not fail
      rcases Registry.make_cases n.store.next .subscriptable name n.scope.name n.scope.owner?
        n.refs with ⟨r, -, he⟩ | ⟨-, -, he⟩ | ⟨-, hinvalid, -⟩
      · cases he.symm.trans hmake
      · cases he.symm.trans hmake
      · rw [hname, hn] at hinvalid
        cases hinvalid
    · exact .inr (.inr ⟨hnone, by simp [hname], c, he⟩)
  | false =>
    cases hget : n.scope.entries.get? name with
    | some h => exact .inl ⟨h, rfl, by simp only [lookup, hget]⟩
    | none =>
      refine .inr (.inr ⟨rfl, by simp, ?_⟩)
      cases hvalid : validDotted "Forward reference" name with
      | error c => exact ⟨c, by simp only [lookup, hget, hvalid]⟩
      | ok _ => exact ⟨.unknownName n.scope.name name, by simp [lookup, hget, hvalid, htrust]⟩

section Dotted

variable (hn : Text.isDottedIdentifier n.scope.name = true)

include hn

/-- A lookup succeeds if the name has an entry, or if it may get one. -/
theorem lookup_isOk_iff (name : String) (trust? : Option Trust) :
    (∃ h, (lookup name trust? n).1 = .ok h) ↔ (n.scope.entries.get? name).isSome = true ∨
      Text.isDottedIdentifier name = true ∧ isTrusted trust? = true := by
  rcases lookup_cases_of_dotted hn name trust? with ⟨h, hget, he⟩ |
    ⟨hget, hname, htrust, r, g, -, he⟩ | ⟨hget, hnot, c, he⟩ <;> rw [he, hget]
  · exact ⟨fun _ ↦ .inl rfl, fun _ ↦ ⟨h, rfl⟩⟩
  · exact ⟨fun _ ↦ .inr ⟨hname, htrust⟩, fun _ ↦ ⟨.forwardRef r, rfl⟩⟩
  · constructor
    · rintro ⟨_, h⟩
      cases h
    · rintro (h | h)
      · cases h
      · exact absurd h hnot

/-- A question that finds nothing leaves everything as it is. -/
theorem after_of_found?_eq_none {q : Query} (hq : q.found? n = none) : q.after n = n := by
  cases q with
  | has name => rfl
  | lookup name trust? =>
    rcases lookup_cases_of_dotted hn name trust? with ⟨h, -, he⟩ | ⟨-, -, -, r, g, -, he⟩ |
      ⟨-, -, c, he⟩ <;> simp only [Query.found?, Query.after, he] at hq ⊢
    · cases hq
    · cases hq

/-- A caller who is not trusted changes neither the entries nor the references. -/
theorem lookup_of_not_trusted (name : String) (htrust : isTrusted trust? = false) :
    (lookup name trust? n).2.scope.entries = n.scope.entries ∧
      (lookup name trust? n).2.refs = n.refs := by
  rcases lookup_cases_of_dotted hn name trust? with ⟨h, -, he⟩ | ⟨-, -, htrusted, -⟩ |
    ⟨-, -, c, he⟩
  · rw [he]
    exact ⟨Scope.entries_record _ _, rfl⟩
  · cases htrust.symm.trans htrusted
  · rw [he]
    exact ⟨rfl, rfl⟩

end Dotted

/-! ### What questions keep -/

/-- What holds after some questions, among them the lookups `es` that have succeeded: the scope
holds what it held at the start and the names that were deferred, and lookups have answered with its
entries, which are recorded in order of first success. -/
structure Asked (start : Naming) (qs : List Query) (es : List (String × Hint)) (n : Naming) :
    Prop where
  name : n.scope.name = start.scope.name
  kept : start.scope.entries.Within n.scope.entries
  /-- A new entry is the registered reference of a name that was deferred. -/
  added : ∀ k h, n.scope.entries.get? k = some h → start.scope.entries.get? k = some h ∨
    (∃ q ∈ qs, q.Defers k) ∧ ∃ r, h = .forwardRef r ∧
      n.refs.refs.get? (Registry.refKey .subscriptable k start.scope.name) = some r
  deferred : ∀ q ∈ qs, ∀ k, q.Defers k → (n.scope.entries.get? k).isSome = true
  answers : ∀ e ∈ es, n.scope.entries.get? e.1 = some e.2
  recorded : n.scope.recorded = (Dict.ofList es).keys

namespace Asked

variable {start : Naming} {qs : List Query} {q : Query} {es : List (String × Hint)} {h : Hint}

/-- Before the first question nothing has been answered. -/
theorem nothing (h : start.scope.recorded = []) : Asked start [] [] start where
  name := rfl
  kept := Dict.within_refl _
  added _ _ hk := .inl hk
  deferred := nofun
  answers := nofun
  recorded := h

/-- A question that leaves everything as it is has deferred no name without an entry. -/
theorem unchanged (ha : Asked start qs es n)
    (hq : ∀ k, q.Defers k → (n.scope.entries.get? k).isSome = true) :
    Asked start (qs ++ [q]) es n := by
  refine { ha with added := fun k h hk ↦ ?_, deferred := fun q' hq' k hk ↦ ?_ }
  · refine (ha.added k h hk).imp id (And.imp_left ?_)
    rintro ⟨q', hq', hdefers⟩
    exact ⟨q', List.mem_append_left _ hq', hdefers⟩
  · rcases List.mem_append.mp hq' with hq' | hq'
    · exact ha.deferred q' hq' k hk
    · exact hq k (List.mem_singleton.mp hq' ▸ hk)

/-- An entry is found and recorded. -/
theorem recording (ha : Asked start qs es n) (hget : n.scope.entries.get? name = some h) :
    Asked start qs (es ++ [(name, h)]) { n with scope := n.scope.record name } := by
  have hkeys : (n.scope.record name).recorded = (Dict.ofList (es ++ [(name, h)])).keys := by
    have hlast : Dict.ofList (es ++ [(name, h)]) = (Dict.ofList es).insert name h :=
      List.foldl_append
    rw [hlast, Dict.keys_insert, ← ha.recorded, Scope.record]
    split <;> rfl
  have hentries : (n.scope.record name).entries = n.scope.entries := Scope.entries_record _ _
  have hname : (n.scope.record name).name = n.scope.name := (Scope.grows_recorded _ _).name
  refine ⟨hname.trans ha.name, ?_, ?_, ?_, fun e he ↦ ?_, hkeys⟩
  · rw [hentries]
    exact ha.kept
  · rw [hentries]
    exact ha.added
  · rw [hentries]
    exact ha.deferred
  · rw [hentries]
    rcases List.mem_append.mp he with he | he
    · exact ha.answers e he
    · rwa [List.mem_singleton.mp he]

/-- A name without an entry gets one. -/
theorem adding (ha : Asked start qs es n) (hget : n.scope.entries.get? name = none)
    (hname : Text.isDottedIdentifier name = true) (htrust : isTrusted trust? = true)
    {r : ForwardRef} {g : Registry} (hrefs : n.refs.refs.Within g.refs)
    (hr : g.refs.get? (Registry.refKey .subscriptable name n.scope.name) = some r) (s : Store) :
    Asked start (qs ++ [.lookup name trust?]) es
      ⟨{ n.scope with entries := n.scope.entries.insert name (.forwardRef r) }, g, s⟩ := by
  have hwithin := Dict.within_insert (.forwardRef r) hget
  have hself : ((n.scope.entries.insert name (.forwardRef r)).get? name).isSome = true := by
    rw [Dict.get?_insert_self]
    rfl
  refine ⟨ha.name, ha.kept.trans hwithin, fun k h hk ↦ ?_, fun q hq k hk ↦ ?_,
    fun e he ↦ hwithin _ _ (ha.answers e he), ha.recorded⟩
  · have hk : (n.scope.entries.insert name (.forwardRef r)).get? k = some h := hk
    rw [Dict.get?_insert] at hk
    split at hk
    · next heq =>
      cases hk
      subst heq
      rw [ha.name] at hr
      exact .inr ⟨⟨_, List.mem_append_right _ (List.mem_singleton_self _), hname, trust?, htrust,
        rfl⟩, r, rfl, hr⟩
    · refine (ha.added k h hk).imp id ?_
      rintro ⟨⟨q, hq, hdefers⟩, r', rfl, hr'⟩
      exact ⟨⟨q, List.mem_append_left _ hq, hdefers⟩, r', rfl, hrefs _ _ hr'⟩
  · rcases List.mem_append.mp hq with hq | hq
    · obtain ⟨v, hv⟩ := Option.isSome_iff_exists.mp (ha.deferred q hq k hk)
      exact Option.isSome_iff_exists.mpr ⟨v, hwithin _ _ hv⟩
    · obtain ⟨-, t, -, heq⟩ := hk
      rw [List.mem_singleton.mp hq] at heq
      cases heq
      exact hself

/-- Asking a question keeps this. -/
theorem step (ha : Asked start qs es n) (hstart : Text.isDottedIdentifier start.scope.name = true)
    (q : Query) : Asked start (qs ++ [q]) (es ++ (q.found? n).toList) (q.after n) := by
  cases q with
  | has name =>
    have hnot : ∀ k, ¬ (Query.has name).Defers k := by
      rintro k ⟨-, t, -, heq⟩
      cases heq
    simp only [Query.found?, Query.after, Option.toList_none, List.append_nil]
    exact ha.unchanged fun k hk ↦ absurd hk (hnot k)
  | lookup name trust? =>
    have hn : Text.isDottedIdentifier n.scope.name = true := by rw [ha.name, hstart]
    -- a lookup can defer no other name than its own
    have hself (hsome : Text.isDottedIdentifier name = true → isTrusted trust? = true →
        (n.scope.entries.get? name).isSome = true) :
        ∀ k, (Query.lookup name trust?).Defers k → (n.scope.entries.get? k).isSome = true := by
      rintro k ⟨hk, t, ht, heq⟩
      cases heq
      exact hsome hk ht
    rcases lookup_cases_of_dotted hn name trust? with ⟨h, hget, he⟩ |
      ⟨hget, hname, htrust, r, g, hmake, he⟩ | ⟨hget, hnot, c, he⟩ <;>
      simp only [Query.found?, Query.after, he, Except.toOption]
    · exact (ha.unchanged (hself fun _ _ ↦ by rw [hget]; rfl)).recording hget
    · have hrefs := ((Registry.grows_make _ _ _ _ _).of_run hmake).refs
      have hadded := ha.adding hget hname htrust hrefs (Registry.get?_of_make hmake)
        { n.store with next := n.store.next + 1 }
      exact hadded.recording (Dict.get?_insert_self _ _ _)
    · simp only [Option.map_none, Option.toList_none, List.append_nil]
      exact ha.unchanged (hself fun hname htrust ↦ absurd ⟨hname, htrust⟩ hnot)

/-- Asking any questions keeps this. -/
theorem run (hstart : Text.isDottedIdentifier start.scope.name = true) (qs' : List Query) :
    ∀ {qs : List Query} {es : List (String × Hint)} {n : Naming}, Asked start qs es n →
      Asked start (qs ++ qs') (es ++ n.found qs') (n.run qs') := by
  induction qs' with
  | nil =>
    intro qs es n ha
    rw [found, List.append_nil, List.append_nil]
    exact ha
  | cons q qs' ih =>
    intro qs es n ha
    have hrest := ih (ha.step hstart q)
    rw [List.append_assoc, List.append_assoc, List.singleton_append] at hrest
    exact hrest

/-- The names that have an entry: those of the start, and those that were deferred. -/
theorem isSome_iff (ha : Asked start qs es n) (name : String) :
    (n.scope.entries.get? name).isSome = true ↔
      (start.scope.entries.get? name).isSome = true ∨ ∃ q ∈ qs, q.Defers name := by
  constructor
  · intro hsome
    obtain ⟨h, hget⟩ := Option.isSome_iff_exists.mp hsome
    refine (ha.added name h hget).imp (fun hstart ↦ ?_) And.left
    rw [hstart]
    rfl
  · rintro (hsome | ⟨q, hq, hdefers⟩)
    · obtain ⟨h, hget⟩ := Option.isSome_iff_exists.mp hsome
      exact Option.isSome_iff_exists.mpr ⟨h, ha.kept _ _ hget⟩
    · exact ha.deferred q hq name hdefers

/-- Lookups of one name have answered with one hint. -/
theorem answer_eq (ha : Asked start qs es n) : ∀ e ∈ es, ∀ f ∈ es, e.1 = f.1 → e.2 = f.2 := by
  intro e he f hf heq
  have hsame := ha.answers e he
  rw [heq, ha.answers f hf] at hsame
  exact (Option.some.inj hsame).symm

/-- An answer is the entry of the start, or else the reference of a name that was deferred. -/
theorem answer_cases (ha : Asked start qs es n) {e : String × Hint} (he : e ∈ es) :
    start.scope.entries.get? e.1 = some e.2 ∨ start.scope.entries.get? e.1 = none ∧
      ∃ r, e.2 = .forwardRef r ∧
        n.refs.refs.get? (Registry.refKey .subscriptable e.1 start.scope.name) = some r := by
  have hget := ha.answers e he
  cases hstart : start.scope.entries.get? e.1 with
  | some h =>
    have hkept := ha.kept e.1 h hstart
    exact .inl (hkept.symm.trans hget)
  | none =>
    rcases ha.added _ _ hget with hstart' | ⟨-, r, hr, hregistered⟩
    · cases hstart.symm.trans hstart'
    · exact .inr ⟨rfl, r, hr, hregistered⟩

/-- What a scope lists are the lookups that have succeeded, each name once. -/
theorem minify_eq (ha : Asked start qs es n) : n.scope.minify = (Dict.ofList es).entries := by
  have hlisted : ∀ es : List (String × Hint), (∀ e ∈ es, n.scope.entries.get? e.1 = some e.2) →
      (es.map Prod.fst).filterMap (fun k ↦ (n.scope.entries.get? k).map fun h ↦ (k, h)) = es := by
    intro es
    induction es with
    | nil => exact fun _ ↦ rfl
    | cons e es ih =>
      intro hes
      obtain ⟨he, hes⟩ := List.forall_mem_cons.mp hes
      rw [List.map_cons, List.filterMap_cons, he, Option.map_some, ih hes]
  rw [Scope.minify, ha.recorded]
  exact hlisted _ fun e he ↦ ha.answers e (Dict.mem_ofList he)

end Asked

end Naming

open Naming

/-- What a scope answers after any questions: it holds the names that it was created with and those
that trusted lookups have deferred. A lookup succeeds if the scope holds the name, or if it is a
dotted one and the caller is trusted. Lookups of one name answer with one hint, which is the one
that the scope was created with, if there is one, and the registered reference otherwise. The names
listed are those of the lookups that succeeded, in order of first success, with their answers. A
question that finds nothing leaves everything as it is, and a lookup that is not trusted leaves the
entries and the references. -/
theorem lookup_law {scopeName : String} {seed : List (String × Hint)} {owner? : Option Label}
    {start : Naming} (hcreate : Scope.create scopeName seed owner? = .ok start.scope)
    (qs : List Query) :
    (∀ name, (start.run qs).scope.has name = true ↔ Scope.Holds seed qs name) ∧
      (∀ name trust?, (∃ h, (lookup name trust? (start.run qs)).1 = .ok h) ↔
        Scope.Holds seed qs name ∨ Text.isDottedIdentifier name = true ∧ isTrusted trust? = true) ∧
      (∀ e ∈ start.found qs, ∀ f ∈ start.found qs, e.1 = f.1 → e.2 = f.2) ∧
      (∀ e ∈ start.found qs, Scope.given? seed e.1 = some e.2 ∨
        Scope.given? seed e.1 = none ∧ ∃ r, e.2 = .forwardRef r ∧ (start.run qs).refs.refs.get?
          (Registry.refKey .subscriptable e.1 start.scope.name) = some r) ∧
      (start.run qs).scope.minify = (Dict.ofList (start.found qs)).entries ∧
      (∀ q : Query, q.found? (start.run qs) = none → q.after (start.run qs) = start.run qs) ∧
      ∀ name trust?, isTrusted trust? = false →
        (lookup name trust? (start.run qs)).2.scope.entries = (start.run qs).scope.entries ∧
          (lookup name trust? (start.run qs)).2.refs = (start.run qs).refs := by
  obtain ⟨hdotted, hrecorded, hgiven⟩ := Scope.create_spec hcreate
  have ha : Asked start qs (start.found qs) (start.run qs) :=
    (Asked.nothing hrecorded).run hdotted qs
  have hn : Text.isDottedIdentifier (start.run qs).scope.name = true := by rw [ha.name, hdotted]
  have hholds (name : String) : ((start.run qs).scope.entries.get? name).isSome = true ↔
      Scope.Holds seed qs name := by
    rw [ha.isSome_iff, hgiven]
    rfl
  refine ⟨hholds, fun name trust? ↦ ?_, ha.answer_eq, fun e he ↦ ?_, ha.minify_eq,
    fun q ↦ after_of_found?_eq_none hn, fun name trust? ↦ lookup_of_not_trusted hn name⟩
  · rw [← hholds]
    exact lookup_isOk_iff hn name trust?
  · rw [← hgiven]
    exact ha.answer_cases he

namespace Accounts

/-- The names of `app`, one of which is builtin. -/
def seed : List (String × Hint) := [("string", .primitive .number)]

/-- The scope of `app` before anything is looked up. -/
def naming : Naming where
  scope := ⟨"app", Dict.ofList (Builtin.scope ++ seed), [], none⟩
  refs := .empty
  store := { Store.initial with next := 50 }

/-- `User` is deferred by the second caller that asks for it. -/
def queries : List Query :=
  [.lookup "User" none, .lookup "string" none, .lookup "User" (some .engine), .has "Role",
    .lookup "User" (some .foreign), .lookup "a b" (some .evaluator)]

end Accounts

/-- The scope lists its own `string` and the reference that was made for `User`. -/
theorem lookup_law_of_deferred :
    Scope.create "app" Accounts.seed none = .ok Accounts.naming.scope ∧
      (Accounts.naming.run Accounts.queries).scope.minify =
        (Dict.ofList (Accounts.naming.found Accounts.queries)).entries ∧
      Accounts.naming.found Accounts.queries =
        [("string", .primitive .number),
          ("User", .forwardRef ⟨50, "User", "app", .subscriptable, none⟩),
          ("User", .forwardRef ⟨50, "User", "app", .subscriptable, none⟩)] := by
  have hcreate : Scope.create "app" Accounts.seed none = .ok Accounts.naming.scope := by
    rw [Scope.create, validDotted, if_pos (by decide +kernel)]
    rfl
  exact ⟨hcreate, (lookup_law hcreate Accounts.queries).2.2.2.2.1, by decide +kernel⟩

end TypeHints
