import TypeHints.Forward.Modules

/-!
# What a qualified name reaches

A qualified name is looked up by trying one cut after another, and each cut by walking member by
member. Put together this is a search for the longest front that names a loaded module from which
the other parts of the name lead to something (`lookupQualified_longest`). The two halves are told
apart:

* cuts are made behind each part but the last one (`Modules.mem_cuts_iff`), and those with longer
  fronts come first (`Modules.pairwise_cuts`), so that the first result is the one of the longest
  front (`findSome?_eq_some_iff_of_pairwise`);
* behind a cut, the walk finds just what own members lead to (`Modules.walk_eq_some_iff`).

`Value.Reaches` is the walk as a relation, in which nothing happens but that own members are
followed. So it ends at values without members, and at instances, which have members only by
inheritance (`Value.not_reaches_of_isMemberless`). It does not matter either which class descends
from which: as long as the classes have the same members of their own, everything is found as before
(`Modules.lookupQualified_reparent`).

An undefined value counts as nothing, wherever it is met. A name without a dot has no cut, and all
of a name is never a front, so that a module is not found by its own name.
-/

namespace TypeHints

/-! ### Longest first -/

/-- In a list in which sizes decrease, the first result is that of the largest member that has
one. -/
theorem findSome?_eq_some_iff_of_pairwise {α β : Type} {size : α → Nat} {l : List α}
    (hl : l.Pairwise fun a b ↦ size b < size a) {f : α → Option β} {b : β} :
    l.findSome? f = some b ↔
      ∃ a ∈ l, f a = some b ∧ ∀ c ∈ l, size a < size c → f c = none := by
  constructor
  · intro h
    obtain ⟨before, a, after, rfl, ha, hbefore⟩ := List.findSome?_eq_some_iff.mp h
    refine ⟨a, by simp, ha, fun c hc hlt ↦ ?_⟩
    rcases List.mem_append.mp hc with hc | hc
    · exact hbefore c hc
    · -- what comes later is no larger
      have hle : size c ≤ size a := by
        rcases List.mem_cons.mp hc with rfl | hc
        · exact Nat.le_refl _
        · have hafter := (List.pairwise_append.mp hl).2.1
          exact Nat.le_of_lt ((List.pairwise_cons.mp hafter).1 c hc)
      exact absurd hlt (Nat.not_lt.mpr hle)
  · rintro ⟨a, ha, hb, hlarger⟩
    obtain ⟨before, after, rfl⟩ := List.append_of_mem ha
    refine List.findSome?_eq_some_iff.mpr ⟨before, a, after, rfl, hb, fun c hc ↦ ?_⟩
    have hlt := (List.pairwise_append.mp hl).2.2 c hc a List.mem_cons_self
    exact hlarger c (List.mem_append_left _ hc) hlt

namespace Modules

/-- The cuts of a list are made behind each of its members but the last one. -/
theorem mem_cuts_iff {parts : List String} {cut : List String × List String} :
    cut ∈ cuts parts ↔
      ∃ k, 0 < k ∧ k < parts.length ∧ cut = (parts.take k, parts.drop k) := by
  induction parts generalizing cut with
  | nil => simp [cuts]
  | cons s parts ih =>
    cases parts with
    | nil =>
      refine iff_of_false List.not_mem_nil ?_
      rintro ⟨k, hpos, hlt, -⟩
      exact absurd (Nat.lt_of_le_of_lt hpos hlt) (Nat.lt_irrefl 1)
    | cons t parts =>
      rw [cuts, List.mem_append, List.mem_map, List.mem_singleton]
      constructor
      · rintro (⟨inner, hmem, rfl⟩ | rfl)
        · obtain ⟨k, hpos, hlt, rfl⟩ := ih.mp hmem
          exact ⟨k + 1, Nat.succ_pos k, Nat.succ_lt_succ hlt, rfl⟩
        · exact ⟨1, Nat.one_pos, by simp, rfl⟩
      · rintro ⟨k, hpos, hlt, rfl⟩
        obtain ⟨k, rfl⟩ := Nat.exists_eq_add_of_lt hpos
        rw [Nat.zero_add] at hlt ⊢
        cases k with
        | zero => exact .inr rfl
        | succ k =>
          have hinner := ih.mpr ⟨k + 1, Nat.succ_pos k, Nat.lt_of_succ_lt_succ hlt, rfl⟩
          exact .inl ⟨_, hinner, rfl⟩

/-- Longer fronts come first. -/
theorem pairwise_cuts (parts : List String) :
    (cuts parts).Pairwise fun c d ↦ d.1.length < c.1.length := by
  induction parts with
  | nil => exact .nil
  | cons s parts ih =>
    cases parts with
    | nil => exact .nil
    | cons t parts =>
      rw [cuts]
      refine List.pairwise_append.mpr ⟨?_, List.pairwise_singleton _ _, fun c hc d hd ↦ ?_⟩
      · exact List.pairwise_map.mpr (ih.imp Nat.succ_lt_succ)
      · obtain ⟨inner, hmem, rfl⟩ := List.mem_map.mp hc
        obtain ⟨k, hpos, hlt, rfl⟩ := mem_cuts_iff.mp hmem
        rw [List.mem_singleton.mp hd, List.length_singleton, List.length_cons, List.length_take,
          Nat.min_eq_left (Nat.le_of_lt hlt)]
        exact Nat.succ_lt_succ hpos

end Modules

/-! ### Walks -/

section Walks

variable {w : World} {s : Store} {v x : Value} {path : List String}

/-- Own members lead along a path from a value to another one. -/
inductive Value.Reaches (w : World) (s : Store) : Value → List String → Value → Prop
  | here (v : Value) : Reaches w s v [] v
  | member {v u x : Value} {name : String} {path : List String}
    (own : v.member? w s name = some u) (rest : Reaches w s u path x) :
    Reaches w s v (name :: path) x

/-- A walk finds what it reaches, unless that is undefined. -/
theorem Modules.walk_eq_some_iff :
    walk w s v path = some x ↔ v.Reaches w s path x ∧ x ≠ .undefined := by
  induction path generalizing v with
  | nil =>
    constructor
    · intro h
      cases v <;> cases h <;> exact ⟨.here _, Value.noConfusion⟩
    · rintro ⟨hreach, hx⟩
      cases hreach
      cases x with
      | undefined => exact absurd rfl hx
      | _ => rfl
  | cons name path ih =>
    rw [walk, Option.bind_eq_some_iff]
    constructor
    · rintro ⟨u, hu, hrest⟩
      obtain ⟨hreach, hx⟩ := ih.mp hrest
      exact ⟨.member hu hreach, hx⟩
    · rintro ⟨hreach, hx⟩
      cases hreach with
      | member own rest => exact ⟨_, own, ih.mpr ⟨rest, hx⟩⟩

/-- A value without members of its own: a primitive one, or an instance, which only inherits
members. -/
def Value.IsMemberless : Value → Prop
  | .undefined | .null | .bool _ | .number _ | .bigint _ | .string _ | .symbol _ | .instance _ => True
  | _ => False

/-- Nothing lies beyond a value without members. -/
theorem Value.not_reaches_of_isMemberless (hv : v.IsMemberless) (name : String) :
    ¬ v.Reaches w s (name :: path) x := by
  intro h
  cases h with
  | member own rest => cases v <;> first | exact hv | cases own

end Walks

/-! ### Parents -/

/-- What a class has by itself: its name, its members, and the shared object that it has been given
in place of its own. -/
def ClassDecl.own (d : ClassDecl) :
    String × List (String × Value) × List (String × Value) × Option Label :=
  (d.name, d.statics, d.shared, d.borrowed?)

namespace Classes

/-- The classes of one table have the same members in another one. They may descend from others. -/
def SameMembers (cs cs' : Classes) : Prop :=
  ∀ id, (cs.get? id).map ClassDecl.own = (cs'.get? id).map ClassDecl.own

namespace SameMembers

variable {cs cs' : Classes} (h : cs.SameMembers cs') (id : Label)

include h

/-- Nothing that is read off what classes have by themselves changes. -/
theorem map_eq {α : Type}
    (f : String × List (String × Value) × List (String × Value) × Option Label → α) :
    (cs.get? id).map (fun d ↦ f d.own) = (cs'.get? id).map fun d ↦ f d.own := by
  have hmap := congrArg (Option.map f) (h id)
  rwa [Option.map_map, Option.map_map] at hmap

/-- The static members of a class are its own. -/
theorem statics_eq : cs.statics id = cs'.statics id :=
  congrArg (·.getD []) (h.map_eq id fun o ↦ o.2.1)

theorem name_eq : cs.name id = cs'.name id := by
  have hname : (cs.get? id).map ClassDecl.name = (cs'.get? id).map ClassDecl.name :=
    h.map_eq id Prod.fst
  rw [name, name, h.statics_eq id, hname]

/-- So is the shared object that it has. -/
theorem sharedOf_eq : cs.sharedOf id = cs'.sharedOf id := by
  have hborrowed : (cs.get? id).map ClassDecl.borrowed? = (cs'.get? id).map ClassDecl.borrowed? :=
    h.map_eq id fun o ↦ o.2.2.2
  have hbind := congrArg (fun d : Option (Option Label) ↦ d.bind fun l ↦ l) hborrowed
  simp only [Option.bind_map, Function.comp_def] at hbind
  exact congrArg (·.getD id) hbind

/-- A member of a class is found among what the class has by itself. -/
theorem member?_eq (name : String) : cs.member? id name = cs'.member? id name := by
  unfold member?
  rw [h.statics_eq id, h.name_eq id, h.sharedOf_eq id]

/-- So is a member of its shared object. -/
theorem sharedMember?_eq (name : String) : cs.sharedMember? id name = cs'.sharedMember? id name := by
  have hshared : (cs.get? id).map ClassDecl.shared = (cs'.get? id).map ClassDecl.shared :=
    h.map_eq id fun o ↦ o.2.2.1
  rw [sharedMember?, sharedMember?, hshared]

end SameMembers

end Classes

section Parents

variable {w : World} {cs : Classes} (h : w.classes.SameMembers cs) (s : Store)

include h

/-- The own members of values do not depend on what classes descend from. -/
theorem Value.member?_reparent (v : Value) (name : String) :
    v.member? { w with classes := cs } s name = v.member? w s name := by
  cases v with
  | ofClass id => exact (h.member?_eq id name).symm
  | prototype id => exact (h.sharedMember?_eq id name).symm
  | hint k => cases k <;> rfl
  | boxed v => cases v <;> rfl
  | _ => rfl

/-- Walks do not depend on what classes descend from. -/
theorem Modules.walk_reparent (path : List String) : ∀ v : Value,
    walk { w with classes := cs } s v path = walk w s v path := by
  induction path with
  | nil => exact fun _ ↦ rfl
  | cons name path ih =>
    intro v
    rw [walk, walk, Value.member?_reparent h]
    simp only [ih]

/-- Nor does what a qualified name reaches. -/
theorem Modules.lookupQualified_reparent (ms : Modules) (q : String) :
    ms.lookupQualified { w with classes := cs } s q = ms.lookupQualified w s q := by
  simp only [lookupQualified, walk_reparent h]

end Parents

/-! ### Qualified names -/

namespace Modules

variable {w : World} {s : Store} {ms : Modules} {q m : String} {k : Nat} {v : Value}

/-- The first `k` parts of a qualified name, and not all of them, name a loaded module from whose
exports the other parts lead to a value. -/
structure ReachesAt (ms : Modules) (w : World) (s : Store) (q : String) (k : Nat) (v : Value) :
    Prop where
  pos : 0 < k
  proper : k < (Text.segments q).length
  reaches : ∃ exports, ms.get? (Text.dotted ((Text.segments q).take k)) = some exports ∧
    (Value.object exports).Reaches w s ((Text.segments q).drop k) v
  defined : v ≠ .undefined

/-- What is found behind a cut of a name. -/
def atCut (w : World) (s : Store) (ms : Modules) (cut : List String × List String) :
    Option (String × Value) :=
  (ms.get? (Text.dotted cut.1)).bind fun exports ↦
    (walk w s (.object exports) cut.2).map fun v ↦ (Text.dotted cut.1, v)

/-- A qualified name is looked up cut by cut. -/
theorem lookupQualified_eq (q : String) :
    ms.lookupQualified w s q = (cuts (Text.segments q)).findSome? (atCut w s ms) := rfl

/-- Behind a cut, the value is found that its path reaches. -/
theorem atCut_eq_some_iff (hpos : 0 < k) (hlt : k < (Text.segments q).length) :
    atCut w s ms ((Text.segments q).take k, (Text.segments q).drop k) = some (m, v) ↔
      m = Text.dotted ((Text.segments q).take k) ∧ ms.ReachesAt w s q k v := by
  rw [atCut, Option.bind_eq_some_iff]
  constructor
  · rintro ⟨exports, hget, hwalk⟩
    obtain ⟨u, hu, heq⟩ := Option.map_eq_some_iff.mp hwalk
    cases heq
    obtain ⟨hreach, hdefined⟩ := walk_eq_some_iff.mp hu
    exact ⟨rfl, hpos, hlt, ⟨exports, hget, hreach⟩, hdefined⟩
  · rintro ⟨rfl, -, -, ⟨exports, hget, hreach⟩, hdefined⟩
    refine ⟨exports, hget, ?_⟩
    rw [walk_eq_some_iff.mpr ⟨hreach, hdefined⟩]
    rfl

/-- Behind a cut nothing is found if its path reaches nothing. -/
theorem atCut_eq_none_iff (hpos : 0 < k) (hlt : k < (Text.segments q).length) :
    atCut w s ms ((Text.segments q).take k, (Text.segments q).drop k) = none ↔
      ∀ v, ¬ ms.ReachesAt w s q k v := by
  rw [Option.eq_none_iff_forall_ne_some]
  constructor
  · exact fun h v hv ↦ h _ ((atCut_eq_some_iff hpos hlt).mpr ⟨rfl, hv⟩)
  · exact fun h e he ↦ h e.2 ((atCut_eq_some_iff hpos hlt).mp he).2

/-- The longest front wins. -/
theorem lookupQualified_eq_some_iff : ms.lookupQualified w s q = some (m, v) ↔
    ∃ k, m = Text.dotted ((Text.segments q).take k) ∧ ms.ReachesAt w s q k v ∧
      ∀ j u, k < j → ¬ ms.ReachesAt w s q j u := by
  have hsize {k : Nat} (hlt : k < (Text.segments q).length) :
      ((Text.segments q).take k).length = k := List.length_take_of_le (Nat.le_of_lt hlt)
  rw [lookupQualified_eq, findSome?_eq_some_iff_of_pairwise (pairwise_cuts _)]
  constructor
  · rintro ⟨cut, hcut, hfound, hlonger⟩
    obtain ⟨k, hpos, hlt, rfl⟩ := mem_cuts_iff.mp hcut
    obtain ⟨hm, hreach⟩ := (atCut_eq_some_iff hpos hlt).mp hfound
    refine ⟨k, hm, hreach, fun j u hj hu ↦ ?_⟩
    have hnone := hlonger _ (mem_cuts_iff.mpr ⟨j, hu.pos, hu.proper, rfl⟩)
    rw [hsize hlt, hsize hu.proper] at hnone
    exact (atCut_eq_none_iff hu.pos hu.proper).mp (hnone hj) u hu
  · rintro ⟨k, hm, hreach, hlonger⟩
    refine ⟨_, mem_cuts_iff.mpr ⟨k, hreach.pos, hreach.proper, rfl⟩,
      (atCut_eq_some_iff hreach.pos hreach.proper).mpr ⟨hm, hreach⟩, fun cut hcut hgt ↦ ?_⟩
    obtain ⟨j, hpos, hlt, rfl⟩ := mem_cuts_iff.mp hcut
    rw [hsize hreach.proper, hsize hlt] at hgt
    exact (atCut_eq_none_iff hpos hlt).mpr fun u ↦ hlonger j u hgt

/-- Nothing is found if no front reaches anything. -/
theorem lookupQualified_eq_none_iff : ms.lookupQualified w s q = none ↔
    ∀ k v, ¬ ms.ReachesAt w s q k v := by
  rw [lookupQualified_eq, List.findSome?_eq_none_iff]
  constructor
  · exact fun h k v hv ↦
      (atCut_eq_none_iff hv.pos hv.proper).mp (h _ (mem_cuts_iff.mpr ⟨k, hv.pos, hv.proper, rfl⟩)) v hv
  · intro h cut hcut
    obtain ⟨k, hpos, hlt, rfl⟩ := mem_cuts_iff.mp hcut
    exact (atCut_eq_none_iff hpos hlt).mpr (h k)

/-- A proper front of a name is another name. -/
theorem dotted_take_ne (hpos : 0 < k) (hlt : k < (Text.segments q).length) :
    Text.dotted ((Text.segments q).take k) ≠ q := by
  intro heq
  have hfront : (Text.segments q).take k ≠ [] := fun hnil ↦ by
    rcases List.take_eq_nil_iff.mp hnil with hk | hnil
    · exact absurd hpos (hk ▸ Nat.lt_irrefl 0)
    · exact Text.segments_ne_nil q hnil
  have hrest : (Text.segments q).drop k ≠ [] := fun hnil ↦
    absurd hlt (Nat.not_lt.mpr (List.drop_eq_nil_iff.mp hnil))
  have hjoined := Text.dotted_append hfront hrest
  rw [List.take_append_drop, Text.dotted_segments, heq] at hjoined
  have hlength := congrArg String.length hjoined
  have hdot : ".".length = 1 := rfl
  rw [String.length_append, String.length_append] at hlength
  omega

end Modules

/-- A qualified name names the module of its longest proper front that is loaded and from whose
exports own members lead along the other parts to a value, together with this value; it names nothing
just if there is no such front. Whatever classes inherit is beside the point, and nothing lies beyond
a primitive value or among the members that an instance inherits. The name of a module never names
that module, and a name without a dot names nothing. -/
theorem lookupQualified_longest (w : World) (s : Store) (ms : Modules) (q : String) :
    (∀ m v, ms.lookupQualified w s q = some (m, v) ↔
      ∃ k, m = Text.dotted ((Text.segments q).take k) ∧ ms.ReachesAt w s q k v ∧
        ∀ j u, k < j → ¬ ms.ReachesAt w s q j u) ∧
    (ms.lookupQualified w s q = none ↔ ∀ k v, ¬ ms.ReachesAt w s q k v) ∧
    (∀ cs, w.classes.SameMembers cs →
      ms.lookupQualified { w with classes := cs } s q = ms.lookupQualified w s q) ∧
    (∀ (u v : Value) name path, u.IsMemberless → ¬ u.Reaches w s (name :: path) v) ∧
    (∀ m v, ms.lookupQualified w s q = some (m, v) → m ≠ q) ∧
    ('.' ∉ q.toList → ms.lookupQualified w s q = none) := by
  refine ⟨fun m v ↦ Modules.lookupQualified_eq_some_iff, Modules.lookupQualified_eq_none_iff,
    fun cs hcs ↦ Modules.lookupQualified_reparent hcs s ms q,
    fun u v name path hu ↦ Value.not_reaches_of_isMemberless hu name, fun m v hfound ↦ ?_,
    fun hdot ↦ ?_⟩
  · obtain ⟨k, rfl, hreach, -⟩ := Modules.lookupQualified_eq_some_iff.mp hfound
    exact Modules.dotted_take_ne hreach.pos hreach.proper
  · have hsingle : (Text.segments q).length = 1 := by
      rw [Text.segments, Text.splitAt, Text.splitChars_of_notMem hdot]
      rfl
    refine Modules.lookupQualified_eq_none_iff.mpr fun k v hreach ↦ ?_
    have hpos := hreach.pos
    have hproper := hreach.proper
    omega

namespace Layered

/-- A module `app` with a namespace `models`, and a module `app.models`. -/
def modules : Modules :=
  ⟨[("app", [("models", .object [("User", .ofClass 50), ("Admin", .ofClass 51)])]),
    ("app.models", [("Admin", .ofClass 52)])]⟩

end Layered

/-- `User` is found in the namespace, since the module of the longer name lacks it. -/
theorem lookupQualified_longest_layered :
    Layered.modules.lookupQualified .builtin .initial "app.models.User" =
        some ("app", .ofClass 50) ∧
      ∃ k, "app" = Text.dotted ((Text.segments "app.models.User").take k) ∧
        Layered.modules.ReachesAt .builtin .initial "app.models.User" k (.ofClass 50) ∧
        ∀ j u, k < j → ¬ Layered.modules.ReachesAt .builtin .initial "app.models.User" j u := by
  have hfound : Layered.modules.lookupQualified .builtin .initial "app.models.User" =
      some ("app", .ofClass 50) := by rfl
  exact ⟨hfound, ((lookupQualified_longest _ _ _ _).1 _ _).mp hfound⟩

end TypeHints
