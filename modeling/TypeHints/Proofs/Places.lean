import TypeHints.Forward.Resolution
import TypeHints.Proofs.Calm

/-!
# Where references are found

A reference is looked for at one place after another. A place is a candidate name with a cut, which
gives the name of a module and a path of members from its exports. `ForwardRef.search` is the first
place at which anything is found, and `ForwardRef.find` reads the class off it (`find_eq`).

Which place comes first depends on all modules that are loaded. What is found in one module does
not: a place found among all modules in `m` is the first one of those in `m`
(`search_only_of_search`), and what is found in `m` alone is found in some module among all
(`exists_search_of_only`).

The value at a place is fixed by the exports of the module, up to the cells of references. Exports
may hold references, and the cell of a reference has what the reference is resolved to among its
members, so that a path can lead through the cell to a class (`Modules.PassesCell`). Such a class
comes with the resolution and goes with it. Nothing else about a store matters: a walk finds the
same in two stores that have the same declarations, if the references whose cells it passes hold the
same classes in both (`Modules.walk_congr`).
-/

namespace TypeHints

/-- The first result over lists that are put together is the first one of the first list that has
any. -/
theorem findSome?_flatMap {α β γ : Type} (l : List α) (f : α → List β) (g : β → Option γ) :
    (l.flatMap f).findSome? g = l.findSome? fun a ↦ (f a).findSome? g := by
  induction l with
  | nil => rfl
  | cons a l ih =>
    rw [List.flatMap_cons, List.findSome?_append, ih, List.findSome?_cons]
    cases (f a).findSome? g <;> rfl

/-- Functions that agree on a list have the same first result. -/
theorem findSome?_congr {α β : Type} {l : List α} {f g : α → Option β} (h : ∀ a ∈ l, f a = g a) :
    l.findSome? f = l.findSome? g := by
  induction l with
  | nil => rfl
  | cons a l ih =>
    rw [List.findSome?_cons, List.findSome?_cons, h a List.mem_cons_self,
      ih fun b hb ↦ h b (List.mem_cons_of_mem a hb)]

/-! ### Cuts -/

namespace Modules

/-- A cut divides a list into two parts that are not empty. -/
theorem append_of_mem_cuts {front rest : List String} {parts : List String}
    (h : (front, rest) ∈ cuts parts) : parts = front ++ rest ∧ front ≠ [] ∧ rest ≠ [] := by
  induction parts generalizing front with
  | nil => cases h
  | cons s parts ih =>
    cases parts with
    | nil => cases h
    | cons t parts =>
      rcases List.mem_append.mp h with h | h
      · obtain ⟨⟨front', rest'⟩, hmem, heq⟩ := List.mem_map.mp h
        cases heq
        obtain ⟨happend, -, hrest⟩ := ih hmem
        exact ⟨by rw [happend, List.cons_append], List.cons_ne_nil _ _, hrest⟩
      · cases List.mem_singleton.mp h
        exact ⟨rfl, List.cons_ne_nil _ _, List.cons_ne_nil _ _⟩

/-- Nothing but one module. -/
def only (moduleName : String) (exports : List (String × Value)) : Modules :=
  ⟨[(moduleName, exports)]⟩

theorem get?_only (m n : String) (exports : List (String × Value)) :
    (only m exports).get? n = if m = n then some exports else none := rfl

end Modules

/-! ### Places -/

/-- A place where a reference is looked for: a candidate name and its cut into a module and a path
of members. -/
structure Place where
  candidate : String
  moduleName : String
  path : List String
deriving DecidableEq

/-- The value at a place. -/
def Place.value? (w : World) (s : Store) (ms : Modules) (p : Place) : Option Value :=
  (ms.get? p.moduleName).bind fun exports ↦ Modules.walk w s (.object exports) p.path

namespace ForwardRef

/-- The places where a reference is looked for, in order. -/
def places (r : ForwardRef) : List Place :=
  r.candidates.flatMap fun c ↦ (Modules.cuts (Text.segments c)).map fun cut ↦
    ⟨c, Text.dotted cut.1, cut.2⟩

/-- A place of a reference cuts one of its candidates. -/
theorem exists_cut_of_mem_places {r : ForwardRef} {p : Place} (h : p ∈ r.places) :
    p.candidate ∈ r.candidates ∧ ∃ front, Text.segments p.candidate = front ++ p.path ∧
      front ≠ [] ∧ p.path ≠ [] ∧ Text.dotted front = p.moduleName := by
  obtain ⟨c, hc, h⟩ := List.mem_flatMap.mp h
  obtain ⟨⟨front, rest⟩, hcut, rfl⟩ := List.mem_map.mp h
  obtain ⟨happend, hfront, hrest⟩ := Modules.append_of_mem_cuts hcut
  exact ⟨hc, front, happend, hfront, hrest, rfl⟩

/-- The first place where there is a value. -/
def search (w : World) (s : Store) (ms : Modules) (r : ForwardRef) : Option (Place × Value) :=
  r.places.findSome? fun p ↦ (p.value? w s ms).map fun v ↦ (p, v)

variable {w : World} {s s' : Store} {ms : Modules} {r q : ForwardRef}

/-- Only the name and the scope of a reference matter to where it is looked for. -/
theorem places_congr (hname : q.name = r.name) (hscope : q.scope = r.scope) :
    q.places = r.places := by
  simp only [places, candidates, hname, hscope]

theorem search_congr (hname : q.name = r.name) (hscope : q.scope = r.scope) :
    q.search w s ms = r.search w s ms := by
  rw [search, places_congr hname hscope, search]

/-- The class that a reference stands for is the value that is found first, if that is a class. -/
theorem find_eq : r.find w s ms =
    match r.search w s ms with
    | none => .error (.unresolvable r.name r.scope)
    | some (p, v) =>
      match v.hintClass? with
      | some id => .ok ⟨id, p.moduleName⟩
      | none => .error (.notAClass r.name p.candidate v) := by
  have hlookup : (r.candidates.findSome? fun c ↦ (ms.lookupQualified w s c).map fun f ↦ (c, f)) =
      (r.search w s ms).map fun e ↦ (e.1.candidate, e.1.moduleName, e.2) := by
    rw [search, places, findSome?_flatMap, List.map_findSome?]
    congr 1
    funext c
    simp only [Modules.lookupQualified, Function.comp_apply, List.map_findSome?, List.findSome?_map]
    congr 1
    funext cut
    simp only [Function.comp_apply, Place.value?, Option.map_bind, Option.map_map,
      Function.comp_def]
  rw [find, hlookup]
  rcases r.search w s ms with - | ⟨p, v⟩ <;> rfl

theorem find_congr (hname : q.name = r.name) (hscope : q.scope = r.scope) :
    q.find w s ms = r.find w s ms := by
  rw [find_eq, find_eq, search_congr hname hscope, hname, hscope]

theorem exists_place_of_search {p : Place} {v : Value} (h : r.search w s ms = some (p, v)) :
    p ∈ r.places ∧ p.value? w s ms = some v := by
  obtain ⟨p', hp', hv⟩ := List.exists_of_findSome?_eq_some h
  obtain ⟨v', hv', heq⟩ := Option.map_eq_some_iff.mp hv
  cases heq
  exact ⟨hp', hv'⟩

end ForwardRef

/-! ### Cells on the way -/

section Cells

variable {w : World} {s s' : Store} {v u : Value} {path : List String} {q : ForwardRef}

/-- The members of a value are the same in both stores, also those of a cell if the store says the
same about it. -/
theorem Value.member?_congr (hs : s.SameDecls s')
    (hv : ∀ q, v = .cell q → cellMembers s' q = cellMembers s q) (name : String) :
    v.member? w s' name = v.member? w s name := by
  cases v with
  | cell q => rw [member?, member?, hv q rfl]
  | hint h => rw [member?, member?, hs.under]
  | boxed v => cases v <;> rfl
  | _ => rfl

namespace Modules

/-- Nothing is found from an undefined value. -/
theorem walk_undefined (path : List String) : walk w s .undefined path = none := by
  cases path <;> rfl

/-- A path leads through the cell of a reference: the walk along it comes to the cell before its
end. -/
def PassesCell (w : World) (s : Store) (v : Value) (path : List String) (q : ForwardRef) : Prop :=
  ∃ front name rest, path = front ++ name :: rest ∧ walk w s v front = some (.cell q)

theorem passesCell_here (w : World) (s : Store) (q : ForwardRef) (name : String)
    (path : List String) : PassesCell w s (.cell q) (name :: path) q :=
  ⟨[], name, path, rfl, rfl⟩

/-- A cell that is passed from a member on is passed from the whole value. -/
theorem PassesCell.cons {name : String} (hmember : v.member? w s name = some u)
    (h : PassesCell w s u path q) : PassesCell w s v (name :: path) q := by
  obtain ⟨front, name', rest, rfl, hwalk⟩ := h
  refine ⟨name :: front, name', rest, rfl, ?_⟩
  rw [walk, hmember]
  exact hwalk

/-- Beyond the cell of a reference that holds no class nothing is found but its owner. -/
theorem walk_of_unresolved {name : String} (hq : s.resolutions.get? q.id = none)
    (hname : name ≠ "owner") : walk w s (.cell q) (name :: path) = none := by
  have hfirst : (name == "owner") = false := beq_eq_false_iff_ne.mpr hname
  rw [walk, Value.member?, Value.cellMembers, hq, List.lookup_cons, hfirst]
  by_cases hreleased : q.id ∈ s.released
  · simp only [if_pos hreleased, List.lookup_cons]
    split
    · exact walk_undefined path
    · split
      · exact walk_undefined path
      · rfl
  · simp only [if_neg hreleased]
    rfl

/-- A walk finds the same in both stores if the references whose cells it passes hold the same
classes in both. -/
theorem walk_congr (hs : s.SameDecls s')
    (hcells : ∀ q, PassesCell w s v path q →
      s'.resolutions.get? q.id = s.resolutions.get? q.id) :
    walk w s' v path = walk w s v path := by
  induction path generalizing v with
  | nil => rfl
  | cons name path ih =>
    -- the walks take the same step, and then the induction hypothesis applies
    have hstep (hmember : v.member? w s' name = v.member? w s name) :
        walk w s' v (name :: path) = walk w s v (name :: path) := by
      rw [walk, walk, hmember]
      cases hu : v.member? w s name with
      | none => rfl
      | some u => exact ih fun q hq ↦ hcells q (hq.cons hu)
    by_cases hv : ∃ q, v = .cell q
    · obtain ⟨q, rfl⟩ := hv
      have hq := hcells q (passesCell_here w s q name path)
      by_cases hname : name = "owner"
      · subst hname
        exact hstep rfl
      · cases hk : s.resolutions.get? q.id with
        | none => rw [walk_of_unresolved hk hname, walk_of_unresolved (hq.trans hk) hname]
        | some k =>
          refine hstep ?_
          simp only [Value.member?, Value.cellMembers, hq, hk]
    · exact hstep (Value.member?_congr hs (fun q hq ↦ absurd ⟨q, hq⟩ hv) name)

end Modules

end Cells

/-! ### Modules alone and among others -/

section Modules

variable {w : World} {s s' : Store} {ms : Modules} {r : ForwardRef} {m : String}
  {exports : List (String × Value)}

/-- One of the modules has the values at the places in it, and no others. -/
theorem Place.value?_only (hget : ms.get? m = some exports) (p : Place) :
    p.value? w s (.only m exports) = if p.moduleName = m then p.value? w s ms else none := by
  unfold Place.value?
  rw [Modules.get?_only]
  by_cases hm : p.moduleName = m
  · rw [if_pos hm, if_pos hm.symm, hm, hget]
  · rw [if_neg hm, if_neg (Ne.symm hm)]
    rfl

/-- A value at a place in a single module is found along a path from its exports. -/
theorem Place.walk_of_value?_only {p : Place} {v : Value}
    (h : p.value? w s (.only m exports) = some v) :
    p.moduleName = m ∧ Modules.walk w s (.object exports) p.path = some v := by
  obtain ⟨exports', hget, hwalk⟩ := Option.bind_eq_some_iff.mp h
  rw [Modules.get?_only] at hget
  split at hget
  · rename_i hm
    cases hget
    exact ⟨hm.symm, hwalk⟩
  · cases hget

/-- Where values only go away, the first place stays the first one as long as its value stays. -/
theorem ForwardRef.search_of_le {ms' : Modules} {p : Place} {v : Value}
    (hle : ∀ (q : Place) u, q.value? w s' ms' = some u → q.value? w s ms = some u)
    (h : r.search w s ms = some (p, v)) (hp : p.value? w s' ms' = some v) :
    r.search w s' ms' = some (p, v) := by
  obtain ⟨before, q, after, hplaces, hq, hbefore⟩ := List.findSome?_eq_some_iff.mp h
  obtain ⟨v', -, heq⟩ := Option.map_eq_some_iff.mp hq
  cases heq
  refine List.findSome?_eq_some_iff.mpr ⟨before, p, after, hplaces, by rw [hp]; rfl, fun x hx ↦ ?_⟩
  have hnone : x.value? w s ms = none := Option.map_eq_none_iff.mp (hbefore x hx)
  cases hx' : x.value? w s' ms' with
  | none => rfl
  | some u => cases hnone.symm.trans (hle x u hx')

/-- What is found in a module among others is what is found in this module alone. -/
theorem ForwardRef.search_only_of_search {p : Place} {v : Value}
    (hget : ms.get? p.moduleName = some exports) (h : r.search w s ms = some (p, v)) :
    r.search w s (.only p.moduleName exports) = some (p, v) := by
  refine search_of_le (fun q u hq ↦ ?_) h ?_
  · rw [Place.value?_only hget] at hq
    split at hq
    · exact hq
    · cases hq
  · rw [Place.value?_only hget, if_pos rfl]
    exact (exists_place_of_search h).2

/-- A reference that is found in one of the modules is found among all of them. -/
theorem ForwardRef.exists_search_of_only {e : Place × Value} (hget : ms.get? m = some exports)
    (h : r.search w s (.only m exports) = some e) : ∃ e', r.search w s ms = some e' := by
  obtain ⟨hp, hv⟩ := exists_place_of_search (p := e.1) (v := e.2) h
  rw [Place.value?_only hget] at hv
  split at hv
  · refine Option.ne_none_iff_exists'.mp fun hnone ↦ ?_
    have hmiss := List.findSome?_eq_none_iff.mp hnone e.1 hp
    rw [hv] at hmiss
    cases hmiss
  · cases hv

/-- A place of a reference in a module lies beyond the cell of a reference. -/
def ForwardRef.PassesCellIn (w : World) (s : Store) (ms : Modules) (r : ForwardRef) (m : String) :
    Prop :=
  ∃ exports p q, ms.get? m = some exports ∧ p ∈ r.places ∧ p.moduleName = m ∧
    Modules.PassesCell w s (.object exports) p.path q

/-- If no place in a module lies beyond a cell, then what is found in this module does not depend on
what has been resolved so far. -/
theorem ForwardRef.search_only_congr (hs : s.SameDecls s') (hget : ms.get? m = some exports)
    (hcells : ¬ r.PassesCellIn w s' ms m) :
    r.search w s (.only m exports) = r.search w s' (.only m exports) := by
  refine findSome?_congr fun p hp ↦ ?_
  have hvalue : p.value? w s (.only m exports) = p.value? w s' (.only m exports) := by
    unfold Place.value?
    rw [Modules.get?_only]
    by_cases hm : m = p.moduleName
    · rw [if_pos hm]
      exact Modules.walk_congr hs.symm
        fun q hq ↦ absurd ⟨exports, p, q, hget, hp, hm.symm, hq⟩ hcells
    · rw [if_neg hm]
      rfl
  rw [hvalue]

end Modules

end TypeHints
