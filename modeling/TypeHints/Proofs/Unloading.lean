import TypeHints.Proofs.Resolutions

/-!
# Dropping a module

Dropping a module takes the classes that were found in it from the references that hold them. What
the other references hold was found elsewhere, and is meant to be what they would find anew: that is
what `Engine.Coherent` says of an engine.

A search finds less when a module is gone, and nothing new (`Place.value?_of_unload`). So what it
found first stays first if it stays at all (`ForwardRef.search_of_le`). Values in other modules do
stay, with one exception: exports may have references among them, and a path of members may lead
through the cell of such a reference to the class in it. When the cell is emptied, nothing is left
at the end of the path. `unload_coherent` says so: references stay coherent unless they were found
through an emptied cell (`ForwardRef.GoesThrough`, `Registry.HoldsIn`).
`unload_incoherent_through_cell` has one that was.

What is dropped is told exactly (`Engine.Drops`). The module goes, cells that held a class from it
are emptied and keep their owners, and all else stays; the number that is reported is that of the
references which held a class and hold it no more. To drop a module that is not loaded does nothing,
not even to references that hold a class from a module of this name.
-/

namespace TypeHints

/-! ### Emptied cells -/

namespace Registry

/-- The cell of a reference is that of one in the registry, and it holds a class that was found in
the module. -/
def HoldsIn (g : Registry) (s : Store) (name : String) (q : ForwardRef) : Prop :=
  (∃ r ∈ g.entries, r.id = q.id) ∧ ∃ k, s.resolutions.get? q.id = some k ∧ k.moduleName = name

variable {g : Registry} {s : Store} {name : String} {q : ForwardRef}

/-- The cells that hold a class from the module are those of the references that will be dropped. -/
theorem holdsIn_iff :
    g.HoldsIn s name q ↔ q.id ∈ (g.resolved (some name) s).map ForwardRef.id := by
  rw [List.mem_map]
  constructor
  · rintro ⟨⟨r, hr, hid⟩, k, hk, hmodule⟩
    exact ⟨r, mem_resolved_iff.mpr ⟨hr, k, hid ▸ hk, hmodule⟩, hid⟩
  · rintro ⟨r, hr, hid⟩
    obtain ⟨hr, k, hk, hmodule⟩ := mem_resolved_iff.mp hr
    exact ⟨⟨r, hr, hid⟩, k, hid ▸ hk, hmodule⟩

/-- The store after the classes from a module were dropped. -/
def storeWithout (g : Registry) (name : String) (s : Store) : Store :=
  (g.invalidate (some name) s).2

/-- Dropping the classes from a module declares nothing. -/
theorem sameDecls_storeWithout (g : Registry) (name : String) (s : Store) :
    s.SameDecls (g.storeWithout name s) :=
  ⟨rfl, rfl⟩

/-- Such a cell holds nothing afterwards. -/
theorem get?_storeWithout_of_holdsIn (h : g.HoldsIn s name q) :
    (g.storeWithout name s).resolutions.get? q.id = none := by
  rw [storeWithout, get?_invalidate, if_pos (holdsIn_iff.mp h)]

/-- Any other cell holds what it held. -/
theorem get?_storeWithout (h : ¬ g.HoldsIn s name q) :
    (g.storeWithout name s).resolutions.get? q.id = s.resolutions.get? q.id := by
  rw [storeWithout, get?_invalidate, if_neg (mt holdsIn_iff.mpr h)]

/-- The references that were dropped are released, next to those that were released before. -/
theorem mem_released_storeWithout {l : Label} :
    l ∈ (g.storeWithout name s).released ↔
      l ∈ s.released ∨ l ∈ (g.resolved (some name) s).map ForwardRef.id :=
  List.mem_append

/-- An emptied cell keeps its owner, and has nothing in place of its class and its module. -/
theorem cellMembers_storeWithout_of_holdsIn (h : g.HoldsIn s name q) :
    Value.cellMembers (g.storeWithout name s) q =
      [("owner", (q.owner?.map fun _ ↦ .object []).getD .undefined), ("target", .undefined),
        ("targetModule", .undefined)] := by
  have hreleased := mem_released_storeWithout.mpr (.inr (holdsIn_iff.mp h))
  rw [Value.cellMembers, get?_storeWithout_of_holdsIn h]
  simp only [if_pos hreleased]

/-- All other cells are as they were. -/
theorem cellMembers_storeWithout (h : ¬ g.HoldsIn s name q) :
    Value.cellMembers (g.storeWithout name s) q = Value.cellMembers s q := by
  have hreleased : q.id ∈ (g.storeWithout name s).released ↔ q.id ∈ s.released :=
    mem_released_storeWithout.trans (or_iff_left (mt holdsIn_iff.mpr h))
  simp only [Value.cellMembers, get?_storeWithout h, hreleased]

/-- As many classes are dropped as there are references that hold one no more. -/
theorem invalidate_count (g : Registry) (name : String) (s : Store) :
    (g.invalidate (some name) s).1 =
      g.entries.countP fun r ↦ (s.resolutions.get? r.id).isSome &&
        ((g.storeWithout name s).resolutions.get? r.id).isNone := by
  rw [List.countP_eq_length_filter]
  refine congrArg List.length (List.filter_congr fun r hr ↦ ?_)
  by_cases h : g.HoldsIn s name r
  · obtain ⟨-, k, hk, hmodule⟩ := id h
    rw [get?_storeWithout_of_holdsIn h, hk]
    exact decide_eq_true hmodule
  · rw [get?_storeWithout h]
    cases hk : s.resolutions.get? r.id with
    | none => rfl
    | some k =>
      have hmodule : k.moduleName ≠ name := fun heq ↦ h ⟨⟨r, hr, rfl⟩, k, hk, heq⟩
      exact decide_eq_false hmodule

end Registry

/-! ### What is found afterwards -/

section Searches

variable {w : World} {g : Registry} {s : Store} {ms : Modules} {name : String} {v u : Value}

/-- No member comes to hold anything new. -/
theorem Value.member?_of_storeWithout {m : String}
    (h : v.member? w (g.storeWithout name s) m = some u) :
    v.member? w s m = some u ∨ u = .undefined := by
  by_cases hv : ∀ q, v = .cell q → ¬ g.HoldsIn s name q
  · refine .inl ((member?_congr (g.sameDecls_storeWithout name s) (fun q hq ↦ ?_) m).symm.trans h)
    exact g.cellMembers_storeWithout (hv q hq)
  · obtain ⟨q, rfl, hq⟩ : ∃ q, v = .cell q ∧ g.HoldsIn s name q := by
      simpa only [Classical.not_forall, Classical.not_not, exists_prop] using hv
    rw [member?, g.cellMembers_storeWithout_of_holdsIn hq] at h
    by_cases hm : m = "owner"
    · -- the owner comes first before and after
      subst hm
      exact .inl h
    · simp only [List.lookup_cons, beq_eq_false_iff_ne.mpr hm] at h
      split at h
      · exact .inr (Option.some.inj h).symm
      · split at h
        · exact .inr (Option.some.inj h).symm
        · cases h

/-- A walk that finds something afterwards found it before. -/
theorem Modules.walk_of_storeWithout {path : List String}
    (h : walk w (g.storeWithout name s) v path = some u) : walk w s v path = some u := by
  induction path generalizing v with
  | nil => exact h
  | cons m path ih =>
    rw [walk, Option.bind_eq_some_iff] at h ⊢
    obtain ⟨x, hx, hrest⟩ := h
    rcases Value.member?_of_storeWithout hx with hbefore | rfl
    · exact ⟨x, hbefore, ih hrest⟩
    · rw [walk_undefined] at hrest
      cases hrest

/-- There is no value at a place afterwards that was not there before. -/
theorem Place.value?_of_unload {p : Place}
    (h : p.value? w (g.storeWithout name s) (ms.erase name) = some u) :
    p.value? w s ms = some u := by
  obtain ⟨exports, hget, hwalk⟩ := Option.bind_eq_some_iff.mp h
  rw [Dict.get?_erase] at hget
  split at hget
  · cases hget
  · exact Option.bind_eq_some_iff.mpr ⟨exports, hget, Modules.walk_of_storeWithout hwalk⟩

/-- A reference is found through the cell of another one: before its end, the path of members to
what is found leads to this cell. -/
def ForwardRef.GoesThrough (w : World) (s : Store) (ms : Modules) (r q : ForwardRef) : Prop :=
  ∃ p v exports, r.search w s ms = some (p, v) ∧ ms.get? p.moduleName = some exports ∧
    Modules.PassesCell w s (.object exports) p.path q

/-- What a reference is found as in another module stays there, unless it is found through an
emptied cell. -/
theorem ForwardRef.value?_unload {r : ForwardRef} {p : Place}
    (hsearch : r.search w s ms = some (p, u)) (hmodule : p.moduleName ≠ name)
    (hthrough : ∀ q, r.GoesThrough w s ms q → ¬ g.HoldsIn s name q) :
    p.value? w (g.storeWithout name s) (ms.erase name) = some u := by
  obtain ⟨-, hvalue⟩ := exists_place_of_search hsearch
  obtain ⟨exports, hget, hwalk⟩ := Option.bind_eq_some_iff.mp hvalue
  refine Option.bind_eq_some_iff.mpr ⟨exports, ?_, ?_⟩
  · rw [Dict.get?_erase, if_neg (Ne.symm hmodule), hget]
  · refine (Modules.walk_congr (g.sameDecls_storeWithout name s) fun q hq ↦ ?_).trans hwalk
    exact g.get?_storeWithout (hthrough q ⟨p, u, exports, hsearch, hget, hq⟩)

end Searches

/-! ### Coherence -/

namespace Engine

/-- If a reference holds a class, it would find this class anew, and in the same module. -/
def CoherentAt (w : World) (e : Engine) (s : Store) (r : ForwardRef) : Prop :=
  ∀ k, s.resolutions.get? r.id = some k → r.find w s e.modules = .ok k

/-- The references of an engine hold what they would find. -/
def Coherent (w : World) (e : Engine) (s : Store) : Prop :=
  ∀ r ∈ e.refs.entries, e.CoherentAt w s r

/-- What dropping a module does that is loaded: the module goes, and with it the classes that were
found in it. -/
structure Drops (e : Engine) (s : Store) (name : String) (n : Nat) (e' : Engine) (s' : Store) :
    Prop where
  /-- The other modules stay. -/
  modules : ∀ m, e'.modules.get? m = if m = name then none else e.modules.get? m
  /-- Nothing else of the engine changes. -/
  engine : e' = { e with modules := e'.modules }
  /-- A cell that held a class from the module is emptied. -/
  emptied : ∀ q, e.refs.HoldsIn s name q → s'.resolutions.get? q.id = none ∧
    (Value.cellMembers s' q).lookup "target" = some .undefined ∧
    (Value.cellMembers s' q).lookup "targetModule" = some .undefined
  /-- All other cells stay. -/
  cells : ∀ q, ¬ e.refs.HoldsIn s name q →
    s'.resolutions.get? q.id = s.resolutions.get? q.id ∧
      Value.cellMembers s' q = Value.cellMembers s q
  /-- All owners stay. -/
  owners : ∀ q, (Value.cellMembers s' q).lookup "owner" = (Value.cellMembers s q).lookup "owner"
  /-- Nothing else of the store changes. -/
  store : s' = { s with resolutions := s'.resolutions, released := s'.released }
  /-- It is told how many references held a class that they hold no more. -/
  count : n = e.refs.entries.countP fun r ↦
    (s.resolutions.get? r.id).isSome && (s'.resolutions.get? r.id).isNone

variable {w : World} {e : Engine} {s : Store} {name : String} {r : ForwardRef}

/-- To drop a loaded module is to erase it and to take back what was found in it. -/
theorem unload_of_contains (h : e.modules.contains name = true) :
    e.unload name s = ((e.refs.invalidate (some name) s).1,
      { e with modules := e.modules.erase name }, e.refs.storeWithout name s) :=
  if_pos h

theorem unload_of_not_contains (h : e.modules.contains name = false) :
    e.unload name s = (0, e, s) :=
  if_neg (by rw [h]; exact Bool.false_ne_true)

/-- To drop a loaded module does what is said of it. -/
theorem drops_unload (e : Engine) (s : Store) (name : String) :
    e.Drops s name (e.refs.invalidate (some name) s).1 { e with modules := e.modules.erase name }
      (e.refs.storeWithout name s) where
  modules m := by simp only [Dict.get?_erase, eq_comm]
  engine := rfl
  emptied q hq := by
    refine ⟨e.refs.get?_storeWithout_of_holdsIn hq, ?_⟩
    rw [e.refs.cellMembers_storeWithout_of_holdsIn hq]
    exact ⟨rfl, rfl⟩
  cells q hq := ⟨e.refs.get?_storeWithout hq, e.refs.cellMembers_storeWithout hq⟩
  owners _ := rfl
  store := rfl
  count := e.refs.invalidate_count name s

/-- A reference stays coherent if what it is found as in another module stays there. -/
theorem CoherentAt.unload (h : e.CoherentAt w s r) (hr : r ∈ e.refs.entries)
    (hstays : ∀ p v, r.search w s e.modules = some (p, v) → p.moduleName ≠ name →
      p.value? w (e.refs.storeWithout name s) (e.modules.erase name) = some v) :
    CoherentAt w { e with modules := e.modules.erase name } (e.refs.storeWithout name s) r := by
  intro k hk
  have helsewhere : k.moduleName ≠ name := Registry.moduleName_ne_of_invalidate hr hk
  have hfind := h k (Registry.get?_of_invalidate hk).1
  rw [ForwardRef.find_eq] at hfind ⊢
  rcases hsearch : r.search w s e.modules with - | ⟨p, v⟩ <;> rw [hsearch] at hfind
  · cases hfind
  · rcases hclass : v.hintClass? with - | id <;> simp only [hclass] at hfind <;> cases hfind
    have hsame := ForwardRef.search_of_le (fun _ _ ↦ Place.value?_of_unload) hsearch
      (hstays p v hsearch helsewhere)
    simp only [hsame, hclass]

end Engine

open Engine

/-- Dropping a module of a coherent engine: what it drops, and what it leaves alone. A module that
is not loaded changes nothing. Afterwards all references are coherent again, apart from those that
were found through the cell of a reference which held a class from the module. -/
theorem unload_coherent {w : World} {e : Engine} {s : Store} (h : e.Coherent w s) (name : String) :
    ∃ n e' s', e.unload name s = (n, e', s') ∧
      (e.modules.contains name = true → e.Drops s name n e' s') ∧
      (e.modules.contains name = false → n = 0 ∧ e' = e ∧ s' = s) ∧
      ∀ r ∈ e'.refs.entries, e'.CoherentAt w s' r ∨
        ∃ q, r.GoesThrough w s e.modules q ∧ e.refs.HoldsIn s name q := by
  cases hloaded : e.modules.contains name with
  | false =>
    exact ⟨0, e, s, unload_of_not_contains hloaded, (fun hno ↦ by cases hno),
      fun _ ↦ ⟨rfl, rfl, rfl⟩, fun r hr ↦ .inl (h r hr)⟩
  | true =>
    refine ⟨_, _, _, unload_of_contains hloaded, fun _ ↦ e.drops_unload s name,
      (fun hno ↦ by cases hno), fun r hr ↦ ?_⟩
    by_cases hthrough : ∃ q, r.GoesThrough w s e.modules q ∧ e.refs.HoldsIn s name q
    · exact .inr hthrough
    · refine .inl ((h r hr).unload hr fun p v hsearch hmodule ↦ ?_)
      exact ForwardRef.value?_unload hsearch hmodule fun q hq hholds ↦ hthrough ⟨q, hq, hholds⟩

/-! ### A class found through a cell

The session of `Mirrored` in which a reference is found through the cell of another one: it is
coherent until the module is dropped that the other one was found in.
-/

namespace Mirrored

/-- The engine has both references. -/
theorem entries_eq : session.engine.refs.entries = [direct, through] := by decide +kernel

/-- The first reference holds the class from `app`. -/
theorem get?_direct : session.store.resolutions.get? direct.id = some ⟨50, "app"⟩ := by
  decide +kernel

/-- The second one holds it from `lib`. -/
theorem get?_through : session.store.resolutions.get? through.id = some ⟨50, "lib"⟩ := by
  decide +kernel

theorem find_direct : direct.find world session.store session.engine.modules = .ok ⟨50, "app"⟩ := by
  rfl

theorem find_through :
    through.find world session.store session.engine.modules = .ok ⟨50, "lib"⟩ := by
  rfl

/-- Both references hold what they would find. -/
theorem coherent : session.engine.Coherent world session.store := by
  intro r hr k hk
  rw [entries_eq] at hr
  simp only [List.mem_cons, List.not_mem_nil, or_false] at hr
  rcases hr with rfl | rfl
  · cases get?_direct.symm.trans hk
    exact find_direct
  · cases get?_through.symm.trans hk
    exact find_through

theorem search_direct : direct.search world session.store session.engine.modules =
    some (⟨"app.User", "app", ["User"]⟩, .ofClass 50) := by
  rfl

/-- The second reference is found behind the cell of the first one. -/
theorem search_through : through.search world session.store session.engine.modules =
    some (⟨"lib.p.cell.target", "lib", ["p", "cell", "target"]⟩, .ofClass 50) := by
  rfl

/-- The only cell that is gone through is that of the first reference. -/
theorem eq_direct_of_goesThrough {r q : ForwardRef} (hr : r ∈ session.engine.refs.entries)
    (h : r.GoesThrough world session.store session.engine.modules q) : q = direct := by
  obtain ⟨p, v, exports, hsearch, hget, front, m, rest, hpath, hwalk⟩ := h
  rw [entries_eq] at hr
  simp only [List.mem_cons, List.not_mem_nil, or_false] at hr
  rcases hr with rfl | rfl
  · cases search_direct.symm.trans hsearch
    obtain rfl : front = [] := by
      rcases front with - | ⟨a, front⟩
      · rfl
      · simp at hpath
    cases hwalk
  · cases search_through.symm.trans hsearch
    obtain rfl : lib = exports := Option.some.inj ((show session.engine.modules.get? "lib" = some lib
      by rfl).symm.trans hget)
    -- the path leads over the reference and its cell to the class
    rcases front with - | ⟨a, - | ⟨b, - | ⟨c, front⟩⟩⟩
    · cases hwalk
    · cases hpath
      cases hwalk
    · cases hpath
      cases hwalk
      rfl
    · simp at hpath

end Mirrored

/-- Without `app`, the second reference goes on to hold the class, and no uncached reference of its
name finds it: the class was kept as one from `lib`, while the cell on the way to it is empty. -/
theorem unload_incoherent_through_cell :
    Mirrored.session.engine.Coherent Mirrored.world Mirrored.session.store ∧
      ¬ (Mirrored.without "app").engine.Coherent Mirrored.world (Mirrored.without "app").store := by
  refine ⟨Mirrored.coherent, fun h ↦ ?_⟩
  have hentry : Mirrored.through ∈ (Mirrored.without "app").engine.refs.entries := by decide +kernel
  have hkept : (Mirrored.without "app").store.resolutions.get? Mirrored.through.id =
      some ⟨50, "lib"⟩ := by
    decide +kernel
  have hfind : Mirrored.through.find Mirrored.world (Mirrored.without "app").store
      (Mirrored.without "app").engine.modules =
        .error (.unresolvable "p.cell.target" "lib") := by
    rfl
  cases hfind.symm.trans (h _ hentry _ hkept)

/-- Without `lib`, only the second reference loses its class, and the first one stays coherent. -/
theorem unload_coherent_through_cell :
    Mirrored.session.engine.Coherent Mirrored.world Mirrored.session.store ∧
      ∃ n e' s', Mirrored.session.engine.unload "lib" Mirrored.session.store = (n, e', s') ∧
        Mirrored.session.engine.Drops Mirrored.session.store "lib" n e' s' ∧
        e'.Coherent Mirrored.world s' := by
  obtain ⟨n, e', s', hunload, hdrops, -, hcoherent⟩ := unload_coherent Mirrored.coherent "lib"
  have hdrops := hdrops (by decide +kernel)
  have hrefs : e'.refs = Mirrored.session.engine.refs := by rw [hdrops.engine]
  refine ⟨Mirrored.coherent, n, e', s', hunload, hdrops, fun r hr ↦ ?_⟩
  refine (hcoherent r hr).resolve_right ?_
  rintro ⟨q, hthrough, -, k, hk, hmodule⟩
  -- the cell on the way holds a class from the other module
  obtain rfl := Mirrored.eq_direct_of_goesThrough (hrefs ▸ hr) hthrough
  cases Mirrored.get?_direct.symm.trans hk
  exact absurd hmodule (by decide)

end TypeHints
