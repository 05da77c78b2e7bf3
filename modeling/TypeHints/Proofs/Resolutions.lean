import TypeHints.Engine
import TypeHints.Proofs.Places

/-!
# Resolutions that are kept

A host makes forward references, asks what they stand for, and loads modules and drops them, in any
order. A class that was found is kept with the module it was found in, and goes when this module is
loaded anew or dropped. `Session.Reached` are the states that such a host comes to.

In all of them a kept class has been found in its module as the module is now (`Session.Found`): the
module is loaded, and with the exports that it has the search came to the class, in an earlier state
of the session (`Session.Past`). Nothing but the store has changed since, so only the cells of
references that lie on the path can have changed what is found. Two results come of it.

* `no_dangling_resolution`: a candidate of the reference leads to the class that it holds, from the
  exports that the module has now, unless the path passes the cell of a reference that does not hold
  any more what it held then. There is no way around the exception:
  `dangling_resolution_through_cell` is a reference that was found through the cell of another one
  and goes on to hold the class when the other one has lost it.
* `resolve_coherent_iff`: a reference that holds a class is answered like an uncached one of its name
  and scope just if the search comes to this class now. If no cell lies on the way in the module
  that the class was found in, then this fails in one way only: the search stops in another module,
  at something else. A module that is loaded for the first time drops nothing, though an earlier
  candidate may lead into it (`resolve_incoherent_of_other_class`).

What holds in every session is `Session.Sound`. Each request keeps it (`Sound.making`,
`Sound.resolving`, `Sound.invalidating`, `Sound.changing`), hence every run of requests does
(`Reached.sound`).
-/

namespace TypeHints

open Attempt

/-! ### Sessions -/

/-- What a host may ask of an engine. -/
inductive Request where
  | reload (moduleName : String) (exports : List (String × Value))
  | unload (moduleName : String)
  | make (kind : RefKind) (name scope : String) (owner? : Option Label)
  | member (r : ForwardRef) (name : String)
  /-- Apply a reference to arguments, which makes its sealed twin. -/
  | apply (r : ForwardRef)
  | resolve (r : ForwardRef)
  | isSatisfiedBy (r : ForwardRef) (v : Value)
  | invalidate (moduleName? : Option String)
  | clear

/-- An engine and the store beside it, with the references that the engine has given out. -/
structure Session where
  engine : Engine
  store : Store
  made : List ForwardRef

namespace Session

/-- A session after a reference has been asked for. -/
def making (s : Session) (a : Label → Attempt Registry Cause ForwardRef) : Session :=
  match a s.store.next s.engine.refs with
  | (outcome, refs) =>
    { engine := { s.engine with refs := refs }
      store := { s.store with next := s.store.next + 1 }
      made := s.made ++ outcome.toOption.toList }

/-- A session after a request. -/
def after (w : World) (s : Session) : Request → Session
  | .reload name exports =>
    match s.engine.reload name exports s.store with
    | (_, e, st) => { s with engine := e, store := st }
  | .unload name =>
    match s.engine.unload name s.store with
    | (_, e, st) => { s with engine := e, store := st }
  | .make kind name scope owner? => s.making fun l ↦ Registry.make l kind name scope owner?
  | .member r name => s.making fun l ↦ Registry.member l r name
  | .apply r => s.making fun l ↦ Registry.sealedTwin l r
  | .resolve r => { s with store := (r.resolve w s.engine.modules s.store).2 }
  | .isSatisfiedBy r v => { s with store := (r.isSatisfiedBy w s.engine.modules v s.store).2 }
  | .invalidate name? => { s with store := (s.engine.refs.invalidate name? s.store).2 }
  | .clear => { s with engine := { s.engine with refs := .empty } }

/-- A reference that a host can hold: one that the engine has given out, or one of another
engine. -/
def Holds (s : Session) (r : ForwardRef) : Prop :=
  r ∈ s.made ∨ r.id < s.store.next ∧ ∀ q ∈ s.made, q.id ≠ r.id

/-- A request that a host can make: the references that it is about are ones that the host holds.
Modules may export anything, other references included. -/
def Admits (s : Session) : Request → Prop
  | .member r _ | .apply r | .resolve r | .isSatisfiedBy r _ => s.Holds r
  | .reload _ _ | .unload _ | .make _ _ _ _ | .invalidate _ | .clear => True

/-- The sessions that requests lead to from a fresh engine, with the requests made so far. Before
the engine, nothing but what had been given a label was resolved. -/
inductive Reached (w : World) : List Request → Session → Prop
  | start (store : Store) (labelled : ∀ l k, store.resolutions.get? l = some k → l < store.next) :
      Reached w [] ⟨.fresh, store, []⟩
  | step {requests : List Request} {s : Session} (request : Request)
      (reached : Reached w requests s) (admitted : s.Admits request) :
      Reached w (requests ++ [request]) (s.after w request)

end Session

/-! ### Making references -/

/-- Values come in the order of their keys, so that of a new key comes last. -/
theorem Dict.values_insert_of_get?_eq_none {κ ν : Type} [DecidableEq κ] {d : Dict κ ν} {k : κ}
    (h : d.get? k = none) (v : ν) : (d.insert k v).values = d.values ++ [v] := by
  have hput : ∀ es : List (κ × ν), find k es = none →
      (put k v es).map Prod.snd = es.map Prod.snd ++ [v] := by
    intro es
    induction es with
    | nil => exact fun _ ↦ rfl
    | cons e es ih =>
      obtain ⟨k', v'⟩ := e
      intro hfind
      simp only [find] at hfind
      split at hfind
      · cases hfind
      · rename_i hk
        rw [put, if_neg hk, List.map_cons, ih hfind, List.map_cons, List.cons_append]
  exact hput d.entries h

namespace Registry

/-- An action gives a reference that is kept, or keeps a new one under the label, or fails. -/
def Makes (a : Label → Attempt Registry Cause ForwardRef) : Prop :=
  ∀ (l : Label) (g : Registry), (∃ r ∈ g.entries, a l g = (.ok r, g)) ∨
    (∃ r g', r.id = l ∧ g'.entries = g.entries ++ [r] ∧ a l g = (.ok r, g')) ∨
    ∃ c, a l g = (.error c, g)

theorem makes_make (kind : RefKind) (name scope : String) (owner? : Option Label) :
    Makes fun l ↦ make l kind name scope owner? := by
  intro l g
  rcases make_cases l kind name scope owner? g with
    ⟨r, hr, he⟩ | ⟨hnone, -, he⟩ | ⟨-, -, c, he, -⟩
  · have hmem : r ∈ g.entries := List.mem_map_of_mem (f := Prod.snd) (Dict.mem_of_get? hr)
    exact .inl ⟨r, hmem, he⟩
  · have hentries := Dict.values_insert_of_get?_eq_none hnone ⟨l, name, scope, kind, owner?⟩
    exact .inr (.inl ⟨_, _, rfl, hentries, he⟩)
  · exact .inr (.inr ⟨c, he⟩)

theorem makes_member (r : ForwardRef) (name : String) : Makes fun l ↦ member l r name :=
  makes_make r.kind _ _ _

theorem makes_sealedTwin (r : ForwardRef) : Makes fun l ↦ sealedTwin l r := by
  unfold sealedTwin
  cases r.kind with
  | subscriptable => exact makes_make .sealed _ _ _
  | sealed => exact fun _ _ ↦ .inr (.inr ⟨_, rfl⟩)

/-! ### Dropping resolutions -/

/-- An invalidation takes the classes from the references that it drops, and from no others. -/
theorem get?_invalidate (g : Registry) (name? : Option String) (s : Store) (l : Label) :
    (g.invalidate name? s).2.resolutions.get? l =
      if l ∈ (g.resolved name? s).map ForwardRef.id then none else s.resolutions.get? l := by
  have hfold : ∀ (rs : List ForwardRef) (d : Dict Label Resolution),
      (rs.foldl (fun d r ↦ d.erase r.id) d).get? l =
        if l ∈ rs.map ForwardRef.id then none else d.get? l := by
    intro rs
    induction rs with
    | nil => exact fun d ↦ (if_neg List.not_mem_nil).symm
    | cons r rs ih =>
      intro d
      rw [List.foldl_cons, ih, Dict.get?_erase, List.map_cons]
      by_cases hl : l ∈ rs.map ForwardRef.id
      · rw [if_pos hl, if_pos (List.mem_cons_of_mem _ hl)]
      · simp only [List.mem_cons, hl, if_false, or_false, eq_comm]
  exact hfold _ _

/-- A resolution that is left after an invalidation was there before, and none of the references it
belongs to was dropped. -/
theorem get?_of_invalidate {g : Registry} {name? : Option String} {s : Store} {l : Label}
    {k : Resolution} (h : (g.invalidate name? s).2.resolutions.get? l = some k) :
    s.resolutions.get? l = some k ∧ ∀ r ∈ g.resolved name? s, r.id ≠ l := by
  rw [get?_invalidate] at h
  split at h
  · cases h
  · rename_i hl
    exact ⟨h, fun r hr heq ↦ hl (List.mem_map.mpr ⟨r, hr, heq⟩)⟩

/-- The invalidation of a module drops the references that hold a class from it. -/
theorem mem_resolved_iff {g : Registry} {name : String} {s : Store} {r : ForwardRef} :
    r ∈ g.resolved (some name) s ↔
      r ∈ g.entries ∧ ∃ k, s.resolutions.get? r.id = some k ∧ k.moduleName = name := by
  rw [resolved, List.mem_filter]
  cases s.resolutions.get? r.id <;> simp

/-- What is left after a module was invalidated was found elsewhere. -/
theorem moduleName_ne_of_invalidate {g : Registry} {name : String} {s : Store} {r : ForwardRef}
    {k : Resolution} (hr : r ∈ g.entries)
    (h : (g.invalidate (some name) s).2.resolutions.get? r.id = some k) : k.moduleName ≠ name := by
  obtain ⟨hget, hkept⟩ := get?_of_invalidate h
  intro heq
  exact hkept r (mem_resolved_iff.mpr ⟨hr, k, hget, heq⟩) rfl

end Registry

/-! ### What every session has -/

namespace Session

variable {w : World} {s : Session}

variable {past past' : Session → Prop}

/-- A kept class is what a reference was found as in an earlier state of the session, in the module
that the class was found in, with the exports that this module has now. -/
def Found (w : World) (past : Session → Prop) (s : Session) (r : ForwardRef) (k : Resolution) :
    Prop :=
  ∃ before exports p v, past before ∧ before.store.SameDecls s.store ∧
    s.engine.modules.get? k.moduleName = some exports ∧
    r.search w before.store (.only k.moduleName exports) = some (p, v) ∧
    v.hintClass? = some k.target

/-- What holds in every session: labels tell the references apart that were given out, and what is
kept for those that the engine still has was found in modules that are still loaded. The predicate
`past` holds of the states that the session has been in. -/
structure Sound (w : World) (past : Session → Prop) (s : Session) : Prop where
  /-- The labels of references come from the store. -/
  labels : ∀ r ∈ s.made, r.id < s.store.next
  /-- No class is kept for a label that is still to be given out. -/
  labelled : ∀ l k, s.store.resolutions.get? l = some k → l < s.store.next
  /-- No two references that were given out share a label. -/
  apart : ∀ r ∈ s.made, ∀ q ∈ s.made, r.id = q.id → r = q
  /-- The engine has no references but those that it has given out. -/
  made : ∀ r ∈ s.engine.refs.entries, r ∈ s.made
  /-- The classes of references that the engine has are where they were found. -/
  found : ∀ r ∈ s.engine.refs.entries, ∀ k, s.store.resolutions.get? r.id = some k →
    s.Found w past r k

/-- A kept class stays found while its module stays loaded with the same exports. -/
theorem Found.mono {t : Session} {r : ForwardRef} {k : Resolution} (h : s.Found w past r k)
    (hstore : s.store.SameDecls t.store)
    (hmodules : t.engine.modules.get? k.moduleName = s.engine.modules.get? k.moduleName) :
    t.Found w past r k := by
  obtain ⟨before, exports, p, v, hpast, hbefore, hget, hsearch, hv⟩ := h
  exact ⟨before, exports, p, v, hpast, trans_of Store.SameDecls hbefore hstore,
    hmodules.trans hget, hsearch, hv⟩

/-- A longer past has the states of a shorter one. -/
theorem Sound.mono (hs : s.Sound w past) (hpast : ∀ t, past t → past' t) : s.Sound w past' where
  labels := hs.labels
  labelled := hs.labelled
  apart := hs.apart
  made := hs.made
  found r hr k hk := by
    obtain ⟨before, exports, p, v, hbefore, hfound⟩ := hs.found r hr k hk
    exact ⟨before, exports, p, v, hpast before hbefore, hfound⟩

/-- A reference that the host holds shares its label with no other one that was given out. -/
theorem Holds.unique {r : ForwardRef} (h : s.Holds r) (hs : s.Sound w past) :
    r.id < s.store.next ∧ ∀ q ∈ s.made, q.id = r.id → q = r := by
  rcases h with hr | ⟨hlt, hne⟩
  · exact ⟨hs.labels r hr, fun q hq ↦ hs.apart q hq r hr⟩
  · exact ⟨hlt, fun q hq heq ↦ absurd heq (hne q hq)⟩

/-- Checking a value against a reference does no more to the store than resolving the reference. -/
theorem isSatisfiedBy_store (ms : Modules) (r : ForwardRef) (v : Value) (st : Store) :
    (r.isSatisfiedBy w ms v st).2 = (r.resolve w ms st).2 := by
  rcases h : r.resolve w ms st with ⟨c | id, st'⟩
  · rw [ForwardRef.isSatisfiedBy, bind_apply_error h]
  · rw [ForwardRef.isSatisfiedBy, bind_apply_ok h]
    rfl

/-- What a reference is resolved to is found in the module that it is found in. -/
theorem found_of_find (hnow : past s) {r : ForwardRef} {k : Resolution}
    (h : r.find w s.store s.engine.modules = .ok k) : s.Found w past r k := by
  rw [ForwardRef.find_eq] at h
  rcases hsearch : r.search w s.store s.engine.modules with - | ⟨p, v⟩ <;> rw [hsearch] at h
  · cases h
  · rcases hclass : v.hintClass? with - | id <;> simp only [hclass] at h <;> cases h
    obtain ⟨-, hv⟩ := ForwardRef.exists_place_of_search hsearch
    obtain ⟨exports, hget, -⟩ := Option.bind_eq_some_iff.mp hv
    exact ⟨s, exports, p, v, hnow, refl_of Store.SameDecls _, hget,
      ForwardRef.search_only_of_search hget hsearch, hclass⟩

namespace Sound

variable (hs : s.Sound w past)

include hs

/-- Making references keeps what is kept: a new reference has a label that nothing is kept under. -/
theorem making {a : Label → Attempt Registry Cause ForwardRef} (ha : Registry.Makes a) :
    (s.making a).Sound w past := by
  have hfound : ∀ {refs made} {r : ForwardRef} {k}, s.Found w past r k → Found w past
      ⟨{ s.engine with refs := refs }, { s.store with next := s.store.next + 1 }, made⟩ r k :=
    fun h ↦ h.mono ⟨rfl, rfl⟩ rfl
  have hlabels : ∀ r ∈ s.made, r.id < s.store.next + 1 :=
    fun r hr ↦ Nat.lt_succ_of_lt (hs.labels r hr)
  have hlabelled : ∀ l k, s.store.resolutions.get? l = some k → l < s.store.next + 1 :=
    fun l k h ↦ Nat.lt_succ_of_lt (hs.labelled l k h)
  unfold Session.making
  rcases ha s.store.next s.engine.refs with
    ⟨r, hr, he⟩ | ⟨r, g, hid, hentries, he⟩ | ⟨c, he⟩ <;> rw [he]
  · -- the reference was there before
    have hmem : ∀ q ∈ s.made ++ [r], q ∈ s.made := fun q hq ↦
      (List.mem_append.mp hq).elim id fun hq ↦ List.mem_singleton.mp hq ▸ hs.made r hr
    exact ⟨fun q hq ↦ hlabels q (hmem q hq), hlabelled,
      fun p hp q hq ↦ hs.apart p (hmem p hp) q (hmem q hq),
      fun q hq ↦ List.mem_append_left _ (hs.made q hq),
      fun q hq k hk ↦ hfound (hs.found q hq k hk)⟩
  · have hnew : ∀ q ∈ s.made, q.id ≠ r.id := fun q hq heq ↦
      absurd (hs.labels q hq) (by rw [heq, hid]; exact Nat.lt_irrefl _)
    refine ⟨fun q hq ↦ ?_, hlabelled, fun p hp q hq heq ↦ ?_, fun q hq ↦ ?_, fun q hq k hk ↦ ?_⟩
    · rcases List.mem_append.mp hq with hq | hq
      · exact hlabels q hq
      · rw [List.mem_singleton.mp hq, hid]
        exact Nat.lt_succ_self _
    · rcases List.mem_append.mp hp with hp | hp <;> rcases List.mem_append.mp hq with hq | hq
      · exact hs.apart p hp q hq heq
      · exact absurd (List.mem_singleton.mp hq ▸ heq) (hnew p hp)
      · exact absurd (List.mem_singleton.mp hp ▸ heq.symm) (hnew q hq)
      · rw [List.mem_singleton.mp hp, List.mem_singleton.mp hq]
    · rw [hentries] at hq
      rcases List.mem_append.mp hq with hq | hq
      · exact List.mem_append_left _ (hs.made q hq)
      · exact List.mem_append_right _ hq
    · rw [hentries] at hq
      rcases List.mem_append.mp hq with hq | hq
      · exact hfound (hs.found q hq k hk)
      · rw [List.mem_singleton.mp hq, hid] at hk
        exact absurd (hs.labelled _ k hk) (Nat.lt_irrefl _)
  · show Sound w past ⟨s.engine, _, s.made ++ []⟩
    rw [List.append_nil]
    exact ⟨hlabels, hlabelled, hs.apart, hs.made, fun q hq k hk ↦ hfound (hs.found q hq k hk)⟩

/-- Only the label of a reference without a class comes to have one, which is found just then. -/
theorem resolving (hnow : past s) {r : ForwardRef} (hr : s.Holds r) :
    Sound w past { s with store := (r.resolve w s.engine.modules s.store).2 } := by
  obtain ⟨hlt, hunique⟩ := hr.unique hs
  unfold ForwardRef.resolve
  cases hkept : s.store.resolutions.get? r.id with
  | some kept => exact hs
  | none =>
    cases hfind : r.find w s.store s.engine.modules with
    | error c => exact hs
    | ok found =>
      have hinsert : ∀ {l k}, (s.store.resolutions.insert r.id found).get? l = some k →
          r.id = l ∧ found = k ∨ s.store.resolutions.get? l = some k := by
        intro l k hk
        rw [Dict.get?_insert] at hk
        split at hk
        · rename_i heq
          exact .inl ⟨heq, Option.some.inj hk⟩
        · exact .inr hk
      have hsame : s.store.SameDecls
          { s.store with resolutions := s.store.resolutions.insert r.id found } := ⟨rfl, rfl⟩
      refine ⟨hs.labels, fun l k hk ↦ ?_, hs.apart, hs.made, fun q hq k hk ↦ ?_⟩
      · rcases hinsert hk with ⟨rfl, -⟩ | hk
        · exact hlt
        · exact hs.labelled l k hk
      · rcases hinsert hk with ⟨heq, rfl⟩ | hk
        · obtain rfl : q = r := hunique q (hs.made q hq) heq.symm
          exact (found_of_find hnow hfind).mono hsame rfl
        · exact (hs.found q hq k hk).mono hsame rfl

/-- Dropping resolutions leaves those that are left where they were found. -/
theorem invalidating (name? : Option String) :
    Sound w past { s with store := (s.engine.refs.invalidate name? s.store).2 } := by
  have hleft : ∀ {l k}, (s.engine.refs.invalidate name? s.store).2.resolutions.get? l = some k →
      s.store.resolutions.get? l = some k := fun hk ↦ (Registry.get?_of_invalidate hk).1
  exact ⟨hs.labels, fun l k hk ↦ hs.labelled l k (hleft hk), hs.apart, hs.made,
    fun r hr k hk ↦ (hs.found r hr k (hleft hk)).mono ⟨rfl, rfl⟩ rfl⟩

/-- Changing one module after the classes found in it were dropped. -/
theorem changing {name : String} {ms : Modules}
    (hms : ∀ m, m ≠ name → ms.get? m = s.engine.modules.get? m) :
    Sound w past { s with
      engine := { s.engine with modules := ms }
      store := (s.engine.refs.invalidate (some name) s.store).2 } := by
  have hinvalidated := hs.invalidating (some name)
  refine ⟨hs.labels, hinvalidated.labelled, hs.apart, hs.made, fun r hr k hk ↦ ?_⟩
  have hne : k.moduleName ≠ name := Registry.moduleName_ne_of_invalidate hr hk
  exact (hinvalidated.found r hr k hk).mono (refl_of Store.SameDecls _) (hms _ hne)

/-- A request keeps a session sound. -/
theorem after (hnow : past s) {request : Request} (ha : s.Admits request) :
    (s.after w request).Sound w past := by
  cases request with
  | reload name exports =>
    exact hs.changing fun m hm ↦ by rw [Dict.get?_insert, if_neg (Ne.symm hm)]
  | unload name =>
    show Sound w past { s with
      engine := (s.engine.unload name s.store).2.1, store := (s.engine.unload name s.store).2.2 }
    unfold Engine.unload
    split
    · exact hs.changing fun m hm ↦ by rw [Dict.get?_erase, if_neg (Ne.symm hm)]
    · exact hs
  | make kind name scope owner? => exact hs.making (Registry.makes_make kind name scope owner?)
  | member r name => exact hs.making (Registry.makes_member r name)
  | apply r => exact hs.making (Registry.makes_sealedTwin r)
  | resolve r => exact hs.resolving hnow ha
  | isSatisfiedBy r v =>
    show Sound w past { s with store := (r.isSatisfiedBy w s.engine.modules v s.store).2 }
    rw [isSatisfiedBy_store]
    exact hs.resolving hnow ha
  | invalidate name? => exact hs.invalidating name?
  | clear =>
    have hnone : ∀ r, r ∉ Registry.empty.entries := fun _ ↦ List.not_mem_nil
    exact ⟨hs.labels, hs.labelled, hs.apart, fun r hr ↦ absurd hr (hnone r),
      fun r hr ↦ absurd hr (hnone r)⟩

end Sound

/-- A session has been in a state that the first ones of its requests lead to, and the other ones
lead on from there. -/
def Past (w : World) (requests : List Request) (s before : Session) : Prop :=
  ∃ early late, requests = early ++ late ∧ Reached w early before ∧
    late.foldl (·.after w) before = s

/-- One more request leaves the past as it is. -/
theorem Past.step {requests : List Request} {before : Session} (h : Past w requests s before)
    (request : Request) : Past w (requests ++ [request]) (s.after w request) before := by
  obtain ⟨early, late, rfl, hearly, rfl⟩ := h
  refine ⟨early, late ++ [request], List.append_assoc _ _ _, hearly, ?_⟩
  rw [List.foldl_append]
  rfl

/-- The state before a request is in the past of the one after it. -/
theorem Reached.past_after {requests : List Request} (h : Reached w requests s) (request : Request) :
    Past w (requests ++ [request]) (s.after w request) s :=
  ⟨requests, [request], rfl, h, rfl⟩

/-- Requests lead to sound sessions only. -/
theorem Reached.sound {requests : List Request} (h : Reached w requests s) :
    s.Sound w (Past w requests s) := by
  induction h with
  | start store labelled =>
    have hnone : ∀ r, r ∉ Registry.empty.entries := fun _ ↦ List.not_mem_nil
    exact ⟨fun _ hr ↦ (List.not_mem_nil hr).elim, labelled, fun _ hr ↦ (List.not_mem_nil hr).elim,
      fun r hr ↦ absurd hr (hnone r), fun r hr ↦ absurd hr (hnone r)⟩
  | step request reached admitted ih =>
    exact (ih.mono fun _ h ↦ h.step request).after (reached.past_after request) admitted

theorem mem_entries_making {a : Label → Attempt Registry Cause ForwardRef} (ha : Registry.Makes a)
    (hs : ∀ r ∈ s.made, r ∈ s.engine.refs.entries) :
    ∀ r ∈ (s.making a).made, r ∈ (s.making a).engine.refs.entries := by
  intro r hr
  unfold making at hr ⊢
  rcases ha s.store.next s.engine.refs with
    ⟨q, hq, he⟩ | ⟨q, g, -, hentries, he⟩ | ⟨c, he⟩ <;> rw [he] at hr ⊢
  · rcases List.mem_append.mp hr with hr | hr
    · exact hs r hr
    · exact List.mem_singleton.mp hr ▸ hq
  · show r ∈ g.entries
    rw [hentries]
    exact (List.mem_append.mp hr).elim (fun hr ↦ List.mem_append_left _ (hs r hr))
      (List.mem_append_right _)
  · have hr : r ∈ s.made ++ [] := hr
    rw [List.append_nil] at hr
    exact hs r hr

/-- Unless the registry is cleared, the engine has all references that it has given out. -/
theorem Reached.mem_entries {requests : List Request} (h : Reached w requests s)
    (hclear : .clear ∉ requests) : ∀ r ∈ s.made, r ∈ s.engine.refs.entries := by
  induction h with
  | start store labelled => exact fun _ hr ↦ (List.not_mem_nil hr).elim
  | @step requests s request _ _ ih =>
    rw [List.mem_append, List.mem_singleton, not_or] at hclear
    have hs := ih hclear.1
    cases request with
    | make kind name scope owner? => exact mem_entries_making (Registry.makes_make _ _ _ _) hs
    | member r name => exact mem_entries_making (Registry.makes_member r name) hs
    | apply r => exact mem_entries_making (Registry.makes_sealedTwin r) hs
    | unload name =>
      have hrefs : (s.engine.unload name s.store).2.1.refs = s.engine.refs := by
        unfold Engine.unload
        split <;> rfl
      show ∀ r ∈ s.made, r ∈ (s.engine.unload name s.store).2.1.refs.entries
      rw [hrefs]
      exact hs
    | clear => exact absurd rfl hclear.2
    | reload _ _ | resolve _ | isSatisfiedBy _ _ | invalidate _ => exact hs

end Session

open Session

/-! ### A module loaded later

The class `User` is found in the module `app`, as a member of its member `models`. Then a module
`app.models` is loaded for the first time. It exports a `User` of its own, and would have come
first.
-/

namespace Shadowed

/-- The classes `User` and `Admin` beside the standard ones. -/
def world : World where
  classes := ⟨Builtin.classes.entries ++
    [(50, .ofParent "User" (some 1) []), (51, .ofParent "Admin" (some 1) [])]⟩
  params := ∅
  aliases := ∅

/-- What the module `app` exports. -/
def outer : List (String × Value) := [("models", .object [("User", .ofClass 50)])]

/-- What the module `app.models` exports: a class under the name `User`. -/
def inner (id : Label) : List (String × Value) := [("User", .ofClass id)]

/-- The reference to `User` from `app.models`. -/
def ref : ForwardRef := ⟨52, "User", "app.models", .subscriptable, none⟩

/-- The sealed reference of the same name and scope, which holds no class. -/
def twin : ForwardRef := { ref with id := 53, kind := .sealed }

/-- A session in which nothing has been asked for. -/
def start : Session := ⟨.fresh, { Store.initial with next := 52 }, []⟩

/-- The requests up to the answer of the reference. -/
def early : List Request :=
  [.reload "app" outer, .make .subscriptable "User" "app.models" none, .resolve ref]

/-- The session when the reference has been answered. -/
def resolved : Session := early.foldl (·.after world) start

/-- The session after the inner module was loaded. -/
def session (id : Label) : Session := resolved.after world (.reload "app.models" (inner id))

/-- The reference can be answered. -/
theorem reached_resolved : Reached world early resolved := by
  have hstart : Reached world [] start := .start _ fun _ _ h ↦ by cases h
  have hloaded := hstart.step (.reload "app" outer) trivial
  have hmade := hloaded.step (.make .subscriptable "User" "app.models" none) trivial
  exact hmade.step (.resolve ref) (.inl (by decide +kernel))

/-- The session with any class in the inner module can be reached. -/
theorem reached_session (id : Label) :
    Reached world (early ++ [.reload "app.models" (inner id)]) (session id) :=
  reached_resolved.step _ trivial

end Shadowed

/-! ### A class found through a cell

The module `app` exports the class `User`, and a reference to `User` holds it. The module `lib`
exports this reference under the name `p`, so that `p.cell.target` leads to the class.
-/

namespace Mirrored

/-- The class `User` beside the standard ones. -/
def world : World where
  classes := ⟨Builtin.classes.entries ++ [(50, .ofParent "User" (some 1) [])]⟩
  params := ∅
  aliases := ∅

/-- The reference to `User` from `app`. -/
def direct : ForwardRef := ⟨51, "User", "app", .subscriptable, none⟩

/-- The reference from `lib` to what the other one holds. -/
def through : ForwardRef := ⟨52, "p.cell.target", "lib", .subscriptable, none⟩

/-- What the module `lib` exports. -/
def lib : List (String × Value) := [("p", .hint (.forwardRef direct))]

/-- The requests up to the answers of both references. -/
def requests : List Request :=
  [.reload "app" [("User", .ofClass 50)], .make .subscriptable "User" "app" none, .resolve direct,
    .reload "lib" lib, .make .subscriptable "p.cell.target" "lib" none, .resolve through]

/-- The session after the answers. -/
def session : Session :=
  requests.foldl (·.after world) ⟨.fresh, { Store.initial with next := 51 }, []⟩

/-- The session after a module was dropped. -/
def without (name : String) : Session := session.after world (.unload name)

/-- Any module can be dropped after the answers. -/
theorem reached_without (name : String) :
    Reached world (requests ++ [.unload name]) (without name) := by
  have hstart : Reached world [] ⟨.fresh, { Store.initial with next := 51 }, []⟩ :=
    .start _ fun _ _ h ↦ by cases h
  have happ := hstart.step (.reload "app" [("User", .ofClass 50)]) trivial
  have hdirect := happ.step (.make .subscriptable "User" "app" none) trivial
  have hresolved := hdirect.step (.resolve direct) (.inl (by decide +kernel))
  have hlib := hresolved.step (.reload "lib" lib) trivial
  have hthrough := hlib.step (.make .subscriptable "p.cell.target" "lib" none) trivial
  exact (hthrough.step (.resolve through) (.inl (by decide +kernel))).step (.unload name) trivial

/-- Without `app`, no cut of a candidate of the second reference at `lib` leads anywhere. -/
theorem isNone_walk_of_cut : ∀ c ∈ through.candidates, ∀ n ≤ (Text.segments c).length,
    Text.dotted ((Text.segments c).take n) = "lib" →
      (Modules.walk world (without "app").store (.object lib)
        ((Text.segments c).drop n)).isNone = true := by
  decide +kernel

end Mirrored

/-! ### Kept classes are where they were found -/

theorem Value.eq_ofClass_of_hintClass? {v : Value} {id : Label} (h : v.hintClass? = some id) :
    v = .ofClass id := by
  cases v with
  | ofClass id' =>
    simp only [hintClass?] at h
    split at h
    · cases h
    · rw [Option.some.inj h]
  | _ => cases h

/-- A reference that the engine has and that holds a class names a loaded module, and a cut of one
of its candidates gives this module and a path of members from its exports. The path led to the class
in an earlier state of the session, and it leads to the class now, unless it passes the cell of a
reference that does not hold any more what it held then. A reference that holds no class names no
module. -/
theorem no_dangling_resolution {w : World} {requests : List Request} {s : Session}
    (h : Reached w requests s) {r : ForwardRef} (hr : r ∈ s.engine.refs.entries) :
    (∀ t, (Value.cell r).member? w s.store "target" = some (.ofClass t) →
      ∃ m exports c front path,
        (Value.cell r).member? w s.store "targetModule" = some (.string m) ∧
        s.engine.modules.get? m = some exports ∧ c ∈ r.candidates ∧
        Text.segments c = front ++ path ∧ front ≠ [] ∧ path ≠ [] ∧ Text.dotted front = m ∧
        ∃ before, Past w requests s before ∧
          Modules.walk w before.store (.object exports) path = some (.ofClass t) ∧
          (Modules.walk w s.store (.object exports) path = some (.ofClass t) ∨
            ∃ q, Modules.PassesCell w s.store (.object exports) path q ∧
              s.store.resolutions.get? q.id ≠ before.store.resolutions.get? q.id)) ∧
      ((∀ t, (Value.cell r).member? w s.store "target" ≠ some (.ofClass t)) →
        ((Value.cell r).member? w s.store "targetModule").getD .undefined = .undefined) := by
  cases hk : s.store.resolutions.get? r.id with
  | some k =>
    have htarget : (Value.cell r).member? w s.store "target" = some (.ofClass k.target) := by
      simp [Value.member?, Value.cellMembers, hk, List.lookup_cons]
    have hmodule : (Value.cell r).member? w s.store "targetModule" =
        some (.string k.moduleName) := by
      simp [Value.member?, Value.cellMembers, hk, List.lookup_cons]
    rw [htarget, hmodule]
    refine ⟨fun t ht ↦ ?_, fun hnone ↦ absurd rfl (hnone k.target)⟩
    cases ht
    -- what is kept was found by a search in an earlier state, at a place of one candidate
    obtain ⟨before, exports, p, v, hpast, hdecls, hget, hsearch, hclass⟩ := h.sound.found r hr k hk
    obtain ⟨hp, hv⟩ := ForwardRef.exists_place_of_search hsearch
    obtain ⟨hc, front, hcut, hfront, hpath, hdotted⟩ := ForwardRef.exists_cut_of_mem_places hp
    obtain ⟨hm, hwalk⟩ := Place.walk_of_value?_only hv
    obtain rfl : v = .ofClass k.target := Value.eq_ofClass_of_hintClass? hclass
    refine ⟨k.moduleName, exports, p.candidate, front, p.path, rfl, hget, hc, hcut, hfront, hpath,
      hdotted.trans hm, before, hpast, hwalk, ?_⟩
    by_cases hcells : ∀ q, Modules.PassesCell w s.store (.object exports) p.path q →
        before.store.resolutions.get? q.id = s.store.resolutions.get? q.id
    · -- the cells on the way are as they were, so the walk leads to the class as it did
      exact .inl ((Modules.walk_congr hdecls.symm hcells).symm.trans hwalk)
    · simp only [Classical.not_forall, exists_prop] at hcells
      obtain ⟨q, hq, hne⟩ := hcells
      exact .inr ⟨q, hq, Ne.symm hne⟩
  | none =>
    have hmembers : ∀ name ∈ ["target", "targetModule"],
        ((Value.cell r).member? w s.store name).getD .undefined = .undefined := by
      intro name hname
      simp only [List.mem_cons, List.not_mem_nil, or_false] at hname
      rcases hname with rfl | rfl <;> by_cases hreleased : r.id ∈ s.store.released <;>
        simp [Value.member?, Value.cellMembers, hk, hreleased, List.lookup_cons]
    refine ⟨fun t ht ↦ ?_, fun _ ↦ hmembers _ (by simp)⟩
    have htarget := hmembers "target" (by simp)
    rw [ht] at htarget
    cases htarget

/-- The reference goes on to hold the class that it found in `app`, and that is still there. -/
theorem no_dangling_resolution_of_shadowed :
    Reached Shadowed.world (Shadowed.early ++ [.reload "app.models" (Shadowed.inner 51)])
        (Shadowed.session 51) ∧
      Shadowed.ref ∈ (Shadowed.session 51).engine.refs.entries ∧
      (Value.cell Shadowed.ref).member? Shadowed.world (Shadowed.session 51).store "target" =
        some (.ofClass 50) ∧
      ∃ m exports c front path,
        (Value.cell Shadowed.ref).member? Shadowed.world (Shadowed.session 51).store
          "targetModule" = some (.string m) ∧
        (Shadowed.session 51).engine.modules.get? m = some exports ∧ c ∈ Shadowed.ref.candidates ∧
        Text.segments c = front ++ path ∧ front ≠ [] ∧ path ≠ [] ∧ Text.dotted front = m ∧
        ∃ before, Past Shadowed.world (Shadowed.early ++ [.reload "app.models" (Shadowed.inner 51)])
            (Shadowed.session 51) before ∧
          Modules.walk Shadowed.world before.store (.object exports) path = some (.ofClass 50) ∧
          (Modules.walk Shadowed.world (Shadowed.session 51).store (.object exports) path =
              some (.ofClass 50) ∨
            ∃ q, Modules.PassesCell Shadowed.world (Shadowed.session 51).store (.object exports)
                path q ∧
              (Shadowed.session 51).store.resolutions.get? q.id ≠
                before.store.resolutions.get? q.id) := by
  have hreached := Shadowed.reached_session 51
  have hentry : Shadowed.ref ∈ (Shadowed.session 51).engine.refs.entries := by decide +kernel
  have htarget : (Value.cell Shadowed.ref).member? Shadowed.world (Shadowed.session 51).store
      "target" = some (.ofClass 50) := by rfl
  exact ⟨hreached, hentry, htarget, (no_dangling_resolution hreached hentry).1 50 htarget⟩

/-- Without `app`, the second reference goes on to hold the class from `lib`, and no candidate of it
leads there any more: the cell on the way is that of the first reference, which holds no class. -/
theorem dangling_resolution_through_cell :
    Reached Mirrored.world (Mirrored.requests ++ [.unload "app"]) (Mirrored.without "app") ∧
      Mirrored.through ∈ (Mirrored.without "app").engine.refs.entries ∧
      (Value.cell Mirrored.through).member? Mirrored.world (Mirrored.without "app").store "target" =
        some (.ofClass 50) ∧
      ¬ ∃ m exports c front path,
        (Value.cell Mirrored.through).member? Mirrored.world (Mirrored.without "app").store
          "targetModule" = some (.string m) ∧
        (Mirrored.without "app").engine.modules.get? m = some exports ∧
        c ∈ Mirrored.through.candidates ∧ Text.segments c = front ++ path ∧ front ≠ [] ∧
        path ≠ [] ∧ Text.dotted front = m ∧
        Modules.walk Mirrored.world (Mirrored.without "app").store (.object exports) path =
          some (.ofClass 50) := by
  refine ⟨Mirrored.reached_without "app", by decide +kernel, by rfl, ?_⟩
  rintro ⟨m, exports, c, front, path, hmodule, hget, hc, hcut, -, -, hdotted, hwalk⟩
  have hlib : (Value.cell Mirrored.through).member? Mirrored.world (Mirrored.without "app").store
      "targetModule" = some (.string "lib") := by rfl
  cases hlib.symm.trans hmodule
  obtain rfl : Mirrored.lib = exports := Option.some.inj
    ((show (Mirrored.without "app").engine.modules.get? "lib" = some Mirrored.lib by rfl).symm.trans
      hget)
  have hlength : front.length ≤ (Text.segments c).length := by
    rw [hcut, List.length_append]
    exact Nat.le_add_right _ _
  have hnone := Mirrored.isNone_walk_of_cut c hc front.length hlength
    (by rw [hcut, List.take_left]; exact hdotted)
  rw [hcut, List.drop_left, hwalk] at hnone
  cases hnone

/-! ### Kept classes and classes found anew -/

section Coherence

variable {w : World} {s : Session} {r q : ForwardRef}

theorem resolve_of_kept {ms : Modules} {st : Store} {k : Resolution}
    (hk : st.resolutions.get? r.id = some k) : (r.resolve w ms st).1 = .ok k.target := by
  rw [ForwardRef.resolve, hk]

theorem resolve_of_unresolved {ms : Modules} {st : Store}
    (hr : st.resolutions.get? r.id = none) :
    (r.resolve w ms st).1 = (r.find w st ms).map Resolution.target := by
  rw [ForwardRef.resolve, hr]
  cases r.find w st ms <;> rfl

/-- A class is found anew just if the search comes to it. -/
theorem find_target_iff {ms : Modules} {st : Store} {id : Label} :
    (r.find w st ms).map Resolution.target = .ok id ↔
      ∃ p v, r.search w st ms = some (p, v) ∧ v.hintClass? = some id := by
  rw [ForwardRef.find_eq]
  rcases r.search w st ms with - | ⟨p, v⟩
  · simp [Except.map]
  · constructor
    · intro h
      refine ⟨p, v, rfl, ?_⟩
      cases hv : v.hintClass? <;> simp only [hv, Except.map] at h <;> cases h
      rfl
    · rintro ⟨p', v', heq, hv⟩
      cases heq
      simp only [hv, Except.map]

/-- If no cell lies on the way in its module, a kept class is found anew exactly if the search stops
in this module or at the class itself. -/
theorem search_target_iff {past : Session → Prop} {k : Resolution} (hfound : s.Found w past r k)
    (hcells : ¬ r.PassesCellIn w s.store s.engine.modules k.moduleName) :
    (∃ p v, r.search w s.store s.engine.modules = some (p, v) ∧ v.hintClass? = some k.target) ↔
      ∀ p v, r.search w s.store s.engine.modules = some (p, v) →
        p.moduleName = k.moduleName ∨ v.hintClass? = some k.target := by
  obtain ⟨before, exports, p₀, v₀, -, hdecls, hget, honly, hclass⟩ := hfound
  rw [ForwardRef.search_only_congr hdecls hget hcells] at honly
  -- the module is still loaded, so that the search does not come to nothing
  obtain ⟨⟨p, v⟩, hsearch⟩ := ForwardRef.exists_search_of_only hget honly
  have hmodule : p.moduleName = k.moduleName → v.hintClass? = some k.target := by
    intro hm
    rw [← hm] at hget honly
    have hboth := (ForwardRef.search_only_of_search hget hsearch).symm.trans honly
    cases hboth
    exact hclass
  constructor
  · rintro ⟨p', v', hsearch', hv⟩ p'' v'' hsearch''
    cases hsearch'.symm.trans hsearch''
    exact .inr hv
  · exact fun h ↦ ⟨p, v, hsearch, (h p v hsearch).elim hmodule id⟩

/-- In a session without clearing, a reference is answered like one of its name and scope that holds
no class, unless it holds a class itself and the search among the modules that are loaded now does
not come to it. If no cell lies on the way in the module that its class was found in, the answers
differ only where the search stops in another module, and at something else. -/
theorem resolve_coherent_iff {requests : List Request} (h : Reached w requests s)
    (hclear : .clear ∉ requests) (hr : r ∈ s.made) (hname : q.name = r.name)
    (hscope : q.scope = r.scope) (hq : s.store.resolutions.get? q.id = none) :
    ((r.resolve w s.engine.modules s.store).1 = (q.resolve w s.engine.modules s.store).1 ↔
      ∀ k, s.store.resolutions.get? r.id = some k →
        ∃ p v, r.search w s.store s.engine.modules = some (p, v) ∧
          v.hintClass? = some k.target) ∧
      ∀ k, s.store.resolutions.get? r.id = some k →
        ¬ r.PassesCellIn w s.store s.engine.modules k.moduleName →
        ((r.resolve w s.engine.modules s.store).1 = (q.resolve w s.engine.modules s.store).1 ↔
          ∀ p v, r.search w s.store s.engine.modules = some (p, v) →
            p.moduleName = k.moduleName ∨ v.hintClass? = some k.target) := by
  have hkept : ∀ k, s.store.resolutions.get? r.id = some k →
      ((r.resolve w s.engine.modules s.store).1 = (q.resolve w s.engine.modules s.store).1 ↔
        ∃ p v, r.search w s.store s.engine.modules = some (p, v) ∧
          v.hintClass? = some k.target) := by
    intro k hk
    rw [resolve_of_kept hk, resolve_of_unresolved hq, ForwardRef.find_congr hname hscope, eq_comm,
      find_target_iff]
  refine ⟨?_, fun k hk hcells ↦ (hkept k hk).trans ?_⟩
  · cases hk : s.store.resolutions.get? r.id with
    | none =>
      simp [resolve_of_unresolved hk, resolve_of_unresolved hq, ForwardRef.find_congr hname hscope]
    | some k => simpa using hkept k hk
  · exact search_target_iff (h.sound.found r (h.mem_entries hclear r hr) k hk) hcells

end Coherence

/-- If the inner module exports the class that the reference holds, an uncached reference finds the
same class, though in another module. -/
theorem resolve_coherent_of_same_class :
    Reached Shadowed.world (Shadowed.early ++ [.reload "app.models" (Shadowed.inner 50)])
        (Shadowed.session 50) ∧
      .clear ∉ Shadowed.early ++ [.reload "app.models" (Shadowed.inner 50)] ∧
      Shadowed.ref ∈ (Shadowed.session 50).made ∧
      (Shadowed.session 50).store.resolutions.get? Shadowed.twin.id = none ∧
      (Shadowed.ref.resolve Shadowed.world (Shadowed.session 50).engine.modules
          (Shadowed.session 50).store).1 =
        (Shadowed.twin.resolve Shadowed.world (Shadowed.session 50).engine.modules
          (Shadowed.session 50).store).1 := by
  have hreached := Shadowed.reached_session 50
  have hclear : .clear ∉ Shadowed.early ++ [.reload "app.models" (Shadowed.inner 50)] := by
    simp [Shadowed.early]
  have hmade : Shadowed.ref ∈ (Shadowed.session 50).made := by decide +kernel
  have htwin : (Shadowed.session 50).store.resolutions.get? Shadowed.twin.id = none := by
    decide +kernel
  have hkept : (Shadowed.session 50).store.resolutions.get? Shadowed.ref.id = some ⟨50, "app"⟩ := by
    decide +kernel
  have hsearch : Shadowed.ref.search Shadowed.world (Shadowed.session 50).store
      (Shadowed.session 50).engine.modules =
        some (⟨"app.models.User", "app.models", ["User"]⟩, .ofClass 50) := by rfl
  have hiff := (resolve_coherent_iff (q := Shadowed.twin) hreached hclear hmade rfl rfl htwin).1
  refine ⟨hreached, hclear, hmade, htwin, hiff.mpr fun k hk ↦ ⟨_, _, hsearch, ?_⟩⟩
  cases hkept.symm.trans hk
  rfl

/-- If it exports another class, the reference is still answered by the class that it holds, while
an uncached reference of the same name and scope finds the other one. -/
theorem resolve_incoherent_of_other_class :
    Reached Shadowed.world (Shadowed.early ++ [.reload "app.models" (Shadowed.inner 51)])
        (Shadowed.session 51) ∧
      .clear ∉ Shadowed.early ++ [.reload "app.models" (Shadowed.inner 51)] ∧
      Shadowed.ref ∈ (Shadowed.session 51).made ∧
      (Shadowed.session 51).store.resolutions.get? Shadowed.twin.id = none ∧
      (Shadowed.ref.resolve Shadowed.world (Shadowed.session 51).engine.modules
          (Shadowed.session 51).store).1 = .ok 50 ∧
      (Shadowed.twin.resolve Shadowed.world (Shadowed.session 51).engine.modules
          (Shadowed.session 51).store).1 = .ok 51 := by
  refine ⟨Shadowed.reached_session 51, by simp [Shadowed.early], by decide +kernel,
    by decide +kernel, ?_, ?_⟩
  · rfl
  · rfl

end TypeHints
