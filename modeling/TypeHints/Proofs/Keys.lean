import TypeHints.Proofs.Likeness

/-!
# What keys tell apart

The key of a hint stands for how the hint is built. Keys are plain joins, so hints that are not
alike can share one: `["a,lit:b"]` and `["a", "b"]` do, and so do `[[string], number]` and
`[[string, number]]`. `Hint.Faithful` says of some hints that their keys tell apart just those that
are not alike. It is a hypothesis of what follows and not a theorem, since it fails for some hints;
which hints it holds for is another matter.

Flat unions rest on keys. A union is flattened in two steps, and each of them is followed here:

* its leaves are taken in order (`leavesAll`). Alike unions have alike leaves, in the same order or
  at least each one has a leaf that is like it (`Alike.leaves`, `Alike.exists_leaf`);
* of the leaves with one key the first one stays (`distinct`), which leaves one for each key
  (`pairwise_distinct`, `exists_mem_distinct`).

Where keys are faithful, unions that are alike have alike flat members (`Hint.SameMembers.flat`),
though other ones may stay: the first leaf with a key need not be the first one in the other order.
With members in order the leaves are dropped side by side (`AlikeAll.distinct`). With members in
another order both lists have one member for each class of hints that are alike, so they have the
same members up to order (`sameMembers_of_classes`).
-/

namespace TypeHints.Hint

variable {ρ : ForwardRef → ForwardRef → Prop} {mixed : Bool}

/-- Among the hints with `M`, a key is shared by just those that are alike. -/
def Faithful (ρ : ForwardRef → ForwardRef → Prop) (mixed : Bool) (M : Hint → Prop) : Prop :=
  ∀ h k, M h → M k → (h.stableKey = k.stableKey ↔ Alike ρ mixed h k)

/-- Likeness is an equivalence if the comparison of references is one. -/
theorem alike_equivalence (hρ : Equivalence ρ) : Equivalence (Alike ρ mixed) := by
  have htrans : ∀ r s t, ρ r s → ρ s t → ρ r t := fun _ _ _ ↦ hρ.trans
  exact ⟨Alike.refl hρ.refl, Alike.symm fun _ _ ↦ hρ.symm, Alike.trans htrans⟩

/-! ### Kinds of alike hints -/

/-- Whether a hint is a union. -/
def isUnion : Hint → Bool
  | .union _ _ => true
  | _ => false

section Kinds

variable {h k : Hint}

/-- A union is like unions only. -/
theorem Alike.isUnion_eq (hk : Alike ρ mixed h k) : h.isUnion = k.isUnion := by
  cases hk <;> rfl

/-- Hints that are alike are interned together or not at all. -/
theorem Alike.isInternable_eq (hk : Alike ρ mixed h k) :
    Interner.isInternable h = Interner.isInternable k := by
  cases hk <;> rfl

/-- Only a parameter itself is like it. -/
theorem alike_parameter_iff {p : TypeParameter} : Alike ρ mixed h (.parameter p) ↔
    h = .parameter p := by
  refine ⟨fun hk ↦ by cases hk; rfl, ?_⟩
  rintro rfl
  exact .parameter p

theorem parameter_alike_iff {p : TypeParameter} : Alike ρ mixed (.parameter p) k ↔
    k = .parameter p := by
  refine ⟨fun hk ↦ by cases hk; rfl, ?_⟩
  rintro rfl
  exact .parameter p

/-- Hints that are alike are a given parameter together. -/
theorem Alike.eq_parameter_iff (hk : Alike ρ mixed h k) (p : TypeParameter) :
    h = .parameter p ↔ k = .parameter p := by
  constructor
  · rintro rfl
    exact parameter_alike_iff.mp hk
  · rintro rfl
    exact alike_parameter_iff.mp hk

/-- Plain hints that are alike lie below the same plain hints. -/
theorem Alike.plain (cs : Classes) (b : PlainHint) (hk : Alike ρ mixed h k) :
    h.plain?.map (isPlainSubtype cs · b) = k.plain?.map (isPlainSubtype cs · b) := by
  cases hk with
  | @primitive p q hname =>
    have hwrapper : Builtin.wrapper? p = Builtin.wrapper? q := by
      simp only [Builtin.wrapper?, hname]
    cases b <;> simp only [plain?, isPlainSubtype, Option.map_some]
    · rw [hname]
    · rw [hwrapper]
  | _ => rfl

end Kinds

/-! ### Leaves -/

/-- The leaves of some hints are the leaves of each of them. -/
theorem mem_leavesAll {k : Hint} {hs : List Hint} : k ∈ leavesAll hs ↔ ∃ h ∈ hs, k ∈ h.leaves := by
  induction hs with
  | nil => simp [leavesAll]
  | cons h hs ih => simp [leavesAll, ih]

mutual

/-- No leaf is a union. -/
theorem isUnion_of_mem_leaves {k : Hint} : ∀ h : Hint, k ∈ h.leaves → k.isUnion = false
  | .union _ hs, hk => isUnion_of_mem_leavesAll hs hk
  | .any, hk | .primitive _, hk | .ofClass _, hk | .literal _ _, hk | .tuple _ _, hk
  | .parameter _, hk | .template _, hk | .alias _, hk | .subscripted _ _ _, hk | .forwardRef _, hk
  | .deferred _ _, hk => by
    rw [List.mem_singleton.mp hk]
    rfl

theorem isUnion_of_mem_leavesAll {k : Hint} : ∀ hs : List Hint, k ∈ leavesAll hs → k.isUnion = false
  | [], hk => by cases hk
  | h :: hs, hk => (List.mem_append.mp hk).elim (isUnion_of_mem_leaves h)
      (isUnion_of_mem_leavesAll hs)

end

/-- A hint that is no union is its own leaf. -/
theorem leaves_of_not_isUnion {h : Hint} (hh : h.isUnion = false) : h.leaves = [h] := by
  cases h <;> first
    | rfl
    | cases hh

/-- Hints that are no unions are their own leaves. -/
theorem leavesAll_of_not_isUnion {hs : List Hint} (hhs : ∀ h ∈ hs, h.isUnion = false) :
    leavesAll hs = hs := by
  induction hs with
  | nil => rfl
  | cons h hs ih =>
    obtain ⟨hh, hhs⟩ := List.forall_mem_cons.mp hhs
    rw [leavesAll, leaves_of_not_isUnion hh, ih hhs, List.singleton_append]

section Leaves

variable {h k : Hint}

theorem Alike.leaves_of_not_isUnion (hk : Alike ρ mixed h k) (hh : h.isUnion = false) :
    h.leaves = [h] ∧ k.leaves = [k] :=
  ⟨Hint.leaves_of_not_isUnion hh, Hint.leaves_of_not_isUnion (hk.isUnion_eq ▸ hh)⟩

end Leaves

mutual

/-- With the members of unions in order, alike hints have alike leaves in order. -/
theorem Alike.leaves : ∀ {h k : Hint}, Alike ρ false h k → AlikeAll ρ false h.leaves k.leaves
  | .union _ _, _, hk => by
    cases hk with
    | union _ _ members _ order =>
      obtain rfl := order rfl
      exact members.leavesAll
  | .any, _, hk | .primitive _, _, hk | .ofClass _, _, hk | .literal _ _, _, hk | .tuple _ _, _, hk
  | .parameter _, _, hk | .template _, _, hk | .alias _, _, hk | .subscripted _ _ _, _, hk
  | .forwardRef _, _, hk | .deferred _ _, _, hk => by
    obtain ⟨hh, hk'⟩ := hk.leaves_of_not_isUnion rfl
    rw [hh, hk']
    exact .cons hk .nil

theorem AlikeAll.leavesAll : ∀ {hs ks : List Hint}, AlikeAll ρ false hs ks →
    AlikeAll ρ false (leavesAll hs) (leavesAll ks)
  | [], _, h => by
    cases h
    exact .nil
  | _ :: _, _, h => by
    cases h with
    | cons head tail =>
      exact alikeAll_iff_forall₂.mpr (List.rel_append (alikeAll_iff_forall₂.mp head.leaves)
        (alikeAll_iff_forall₂.mp tail.leavesAll))

end

mutual

/-- Every leaf of a hint has one that is alike in an alike hint. -/
theorem Alike.exists_leaf : ∀ {h k : Hint}, Alike ρ mixed h k →
    ∀ l ∈ h.leaves, ∃ m ∈ k.leaves, Alike ρ mixed l m
  | .union _ _, _, hk, l, hl => by
    cases hk with
    | union _ _ members perm _ =>
      obtain ⟨m, hm, hlm⟩ := members.exists_leaf l hl
      obtain ⟨k, hk, hm⟩ := mem_leavesAll.mp hm
      exact ⟨m, mem_leavesAll.mpr ⟨k, perm.subset hk, hm⟩, hlm⟩
  | .any, _, hk, _, hl | .primitive _, _, hk, _, hl | .ofClass _, _, hk, _, hl
  | .literal _ _, _, hk, _, hl | .tuple _ _, _, hk, _, hl | .parameter _, _, hk, _, hl
  | .template _, _, hk, _, hl | .alias _, _, hk, _, hl | .subscripted _ _ _, _, hk, _, hl
  | .forwardRef _, _, hk, _, hl | .deferred _ _, _, hk, _, hl => by
    rw [(hk.leaves_of_not_isUnion rfl).2]
    exact ⟨_, List.mem_singleton_self _, List.mem_singleton.mp hl ▸ hk⟩

theorem AlikeAll.exists_leaf : ∀ {hs ks : List Hint}, AlikeAll ρ mixed hs ks →
    ∀ l ∈ Hint.leavesAll hs, ∃ m ∈ Hint.leavesAll ks, Alike ρ mixed l m
  | [], _, _, _, hl => by cases hl
  | _ :: _, _, h, l, hl => by
    cases h with
    | cons head tail =>
      rcases List.mem_append.mp hl with hl | hl
      · obtain ⟨m, hm, hlm⟩ := head.exists_leaf l hl
        exact ⟨m, List.mem_append_left _ hm, hlm⟩
      · obtain ⟨m, hm, hlm⟩ := tail.exists_leaf l hl
        exact ⟨m, List.mem_append_right _ hm, hlm⟩

end

/-! ### Lists of members -/

/-- Two lists hold alike hints: in the same order, unless the members of unions may be mixed. -/
def SameMembers (ρ : ForwardRef → ForwardRef → Prop) (mixed : Bool) (hs ks : List Hint) : Prop :=
  ∃ ms, AlikeAll ρ mixed hs ms ∧ ms.Perm ks ∧ (mixed = false → ms = ks)

namespace SameMembers

variable {hs ks : List Hint}

/-- Unions that are alike have the same members. -/
theorem of_alike {l m : Label} (h : Alike ρ mixed (.union l hs) (.union m ks)) :
    SameMembers ρ mixed hs ks := by
  cases h with
  | union _ _ members perm order => exact ⟨_, members, perm, order⟩

/-- Unions of the same members are alike. -/
theorem union (h : SameMembers ρ mixed hs ks) (l m : Label) :
    Alike ρ mixed (.union l hs) (.union m ks) := by
  obtain ⟨_, members, perm, order⟩ := h
  exact .union l m members perm order

/-- To have the same members goes both ways. -/
theorem symm (hρ : ∀ r s, ρ r s → ρ s r) (h : SameMembers ρ mixed hs ks) :
    SameMembers ρ mixed ks hs :=
  .of_alike ((h.union 0 0).symm hρ)

/-- Each hint of one list has one that is like it in the other. -/
theorem exists_alike (h : SameMembers ρ mixed hs ks) : ∀ x ∈ hs, ∃ y ∈ ks, Alike ρ mixed x y := by
  obtain ⟨ms, members, perm, -⟩ := h
  intro x hx
  obtain ⟨i, hi, rfl⟩ := List.mem_iff_getElem.mp hx
  have hall := alikeAll_iff_forall₂.mp members
  exact ⟨_, perm.subset (List.getElem_mem (hall.length_eq ▸ hi)), hall.get hi (hall.length_eq ▸ hi)⟩

theorem length_eq (h : SameMembers ρ mixed hs ks) : hs.length = ks.length := by
  obtain ⟨ms, members, perm, -⟩ := h
  exact (alikeAll_iff_forall₂.mp members).length_eq.trans perm.length_eq

theorem singleton {x y : Hint} (h : SameMembers ρ mixed [x] [y]) : Alike ρ mixed x y := by
  obtain ⟨z, hz, hxz⟩ := h.exists_alike x (List.mem_singleton_self x)
  rwa [List.mem_singleton.mp hz] at hxz

/-- Both lists hold the hint for anything, or neither does. -/
theorem any_mem_iff (hρ : ∀ r s, ρ r s → ρ s r) (h : SameMembers ρ mixed hs ks) :
    .any ∈ hs ↔ .any ∈ ks := by
  have hforth {hs ks : List Hint} (h : SameMembers ρ mixed hs ks) (hany : .any ∈ hs) : .any ∈ ks := by
    obtain ⟨y, hy, halike⟩ := h.exists_alike .any hany
    cases halike
    exact hy
  exact ⟨hforth h, hforth (h.symm hρ)⟩

end SameMembers

/-! ### Distinct hints -/

/-- Distinct hints are some of the hints. -/
theorem mem_of_mem_distinct {h : Hint} {hs : List Hint} :
    ∀ {seen : List String}, h ∈ distinct seen hs → h ∈ hs := by
  induction hs with
  | nil => exact fun hh ↦ by cases hh
  | cons k hs ih =>
    intro seen hh
    simp only [distinct] at hh
    split at hh
    · exact List.mem_cons_of_mem _ (ih hh)
    · rcases List.mem_cons.mp hh with rfl | hh
      · exact List.mem_cons_self
      · exact List.mem_cons_of_mem _ (ih hh)

/-- No distinct hint has a key that was seen before. -/
theorem notMem_seen_of_mem_distinct {h : Hint} {hs : List Hint} :
    ∀ {seen : List String}, h ∈ distinct seen hs → h.stableKey ∉ seen := by
  induction hs with
  | nil => exact fun hh ↦ by cases hh
  | cons k hs ih =>
    intro seen hh
    simp only [distinct] at hh
    split at hh
    · exact ih hh
    · rename_i hk
      rcases List.mem_cons.mp hh with rfl | hh
      · exact hk
      · exact fun hmem ↦ ih hh (List.mem_cons_of_mem _ hmem)

/-- No two distinct hints share a key. -/
theorem pairwise_distinct (hs : List Hint) : ∀ seen : List String,
    (distinct seen hs).Pairwise (·.stableKey ≠ ·.stableKey) := by
  induction hs with
  | nil => exact fun _ ↦ .nil
  | cons k hs ih =>
    intro seen
    simp only [distinct]
    split
    · exact ih seen
    · refine .cons (fun h hh heq ↦ notMem_seen_of_mem_distinct hh ?_) (ih _)
      rw [heq]
      exact List.mem_cons_self

/-- Hints of which no two share a key are distinct already. -/
theorem distinct_of_pairwise {hs : List Hint} (h : hs.Pairwise (·.stableKey ≠ ·.stableKey)) :
    ∀ {seen : List String}, (∀ k ∈ hs, k.stableKey ∉ seen) → distinct seen hs = hs := by
  induction h with
  | nil => exact fun _ ↦ rfl
  | @cons k hs hk _ ih =>
    intro seen hseen
    obtain ⟨hnew, hrest⟩ := List.forall_mem_cons.mp hseen
    rw [distinct, if_neg hnew, ih fun m hm hmem ↦ ?_]
    rcases List.mem_cons.mp hmem with heq | hmem
    · exact hk m hm heq.symm
    · exact hrest m hm hmem

/-- Every hint has its key among those seen, or among the distinct hints. -/
theorem exists_mem_distinct {h : Hint} {hs : List Hint} (hh : h ∈ hs) : ∀ seen : List String,
    h.stableKey ∈ seen ∨ ∃ k ∈ distinct seen hs, k.stableKey = h.stableKey := by
  induction hs with
  | nil => cases hh
  | cons k hs ih =>
    intro seen
    by_cases hk : k.stableKey ∈ seen
    · rw [distinct, if_pos hk]
      rcases List.mem_cons.mp hh with rfl | hh
      · exact .inl hk
      · exact ih hh seen
    · rw [distinct, if_neg hk]
      rcases List.mem_cons.mp hh with rfl | hh
      · exact .inr ⟨h, List.mem_cons_self, rfl⟩
      · rcases ih hh (k.stableKey :: seen) with hmem | ⟨m, hm, heq⟩
        · rcases List.mem_cons.mp hmem with heq | hmem
          · exact .inr ⟨k, List.mem_cons_self, heq.symm⟩
          · exact .inl hmem
        · exact .inr ⟨m, List.mem_cons_of_mem _ hm, heq⟩

/-! ### Flat unions -/

section Flat

variable {M M' : Hint → Prop} (hρ : Equivalence ρ)

include hρ

/-- Where keys are faithful, hints share a key just when those that are alike to them do. -/
theorem Faithful.key_eq_iff (hM : Faithful ρ mixed M) (hM' : Faithful ρ mixed M') {a a' b b' : Hint}
    (ha : M a) (ha' : M a') (hb : M' b) (hb' : M' b') (hab : Alike ρ mixed a b)
    (hab' : Alike ρ mixed a' b') : a.stableKey = a'.stableKey ↔ b.stableKey = b'.stableKey := by
  have he : Equivalence (Alike ρ mixed) := alike_equivalence hρ
  rw [hM _ _ ha ha', hM' _ _ hb hb']
  exact ⟨fun h ↦ he.trans (he.trans (he.symm hab) h) hab',
    fun h ↦ he.trans (he.trans hab h) (he.symm hab')⟩

/-- Lists that are alike in order have distinct hints that are alike in order, if the keys seen
before correspond. -/
theorem AlikeAll.distinct (hM : Faithful ρ mixed M) (hM' : Faithful ρ mixed M') {hs : List Hint} :
    ∀ {ks : List Hint} {seen seen' : List String}, AlikeAll ρ mixed hs ks → (∀ h ∈ hs, M h) →
      (∀ k ∈ ks, M' k) →
      (∀ h k, M h → M' k → Alike ρ mixed h k → (h.stableKey ∈ seen ↔ k.stableKey ∈ seen')) →
      AlikeAll ρ mixed (Hint.distinct seen hs) (Hint.distinct seen' ks) := by
  induction hs with
  | nil =>
    intro ks seen seen' h _ _ _
    cases h
    exact .nil
  | cons h hs ih =>
    intro ks seen seen' hall hm hm' hseen
    cases hall with
    | @cons _ k _ ks head tail =>
      obtain ⟨hh, hhs⟩ := List.forall_mem_cons.mp hm
      obtain ⟨hk, hks⟩ := List.forall_mem_cons.mp hm'
      simp only [Hint.distinct, hseen h k hh hk head]
      split
      · exact ih tail hhs hks hseen
      · refine .cons head (ih tail hhs hks fun a b ha hb hab ↦ ?_)
        rw [List.mem_cons, List.mem_cons, hseen a b ha hb hab,
          hM.key_eq_iff hρ hM' ha hh hb hk hab head]

omit hρ in
/-- Lists without alike members that hold alike hints do so up to order. -/
theorem sameMembers_of_classes (hρ : Equivalence ρ) {xs : List Hint} :
    ∀ {ys : List Hint}, xs.Pairwise (¬ Alike ρ true · ·) → ys.Pairwise (¬ Alike ρ true · ·) →
      (∀ x ∈ xs, ∃ y ∈ ys, Alike ρ true x y) → (∀ y ∈ ys, ∃ x ∈ xs, Alike ρ true x y) →
      SameMembers ρ true xs ys := by
  induction xs with
  | nil =>
    intro ys _ _ _ hback
    cases ys with
    | nil => exact ⟨[], .nil, .refl _, Bool.noConfusion⟩
    | cons y ys =>
      obtain ⟨_, hx, -⟩ := hback y List.mem_cons_self
      cases hx
  | cons x xs ih =>
    intro ys hx hy hforth hback
    have he : Equivalence (Alike ρ true) := alike_equivalence hρ
    obtain ⟨y, hymem, hxy⟩ := hforth x List.mem_cons_self
    have hperm : ys.Perm (y :: ys.erase y) := List.perm_cons_erase hymem
    have hy' : (y :: ys.erase y).Pairwise (¬ Alike ρ true · ·) :=
      hperm.pairwise hy fun {_ _} h h' ↦ h (he.symm h')
    obtain ⟨hxs, hpairs⟩ := List.pairwise_cons.mp hx
    obtain ⟨hys, hpairs'⟩ := List.pairwise_cons.mp hy'
    -- no other member is alike to `y`, since it would be alike to `x`
    have hforth' : ∀ a ∈ xs, ∃ b ∈ ys.erase y, Alike ρ true a b := by
      intro a ha
      obtain ⟨b, hb, hab⟩ := hforth a (List.mem_cons_of_mem _ ha)
      rcases List.mem_cons.mp (hperm.subset hb) with rfl | hb
      · exact absurd (he.trans hxy (he.symm hab)) (hxs a ha)
      · exact ⟨b, hb, hab⟩
    have hback' : ∀ b ∈ ys.erase y, ∃ a ∈ xs, Alike ρ true a b := by
      intro b hb
      obtain ⟨a, ha, hab⟩ := hback b (hperm.symm.subset (List.mem_cons_of_mem _ hb))
      rcases List.mem_cons.mp ha with rfl | ha
      · exact absurd (he.trans (he.symm hxy) hab) (hys b hb)
      · exact ⟨a, ha, hab⟩
    obtain ⟨ms, hall, hms, -⟩ := ih hpairs hpairs' hforth' hback'
    exact ⟨y :: ms, .cons hxy hall, (hms.cons y).trans hperm.symm, Bool.noConfusion⟩

/-- Unions with alike members have alike flat members. -/
theorem SameMembers.flat (hM : Faithful ρ mixed M) (hM' : Faithful ρ mixed M') {hs ks : List Hint}
    (h : SameMembers ρ mixed hs ks) (hm : ∀ l ∈ leavesAll hs, M l) (hm' : ∀ l ∈ leavesAll ks, M' l) :
    SameMembers ρ mixed (flatMembers hs) (flatMembers ks) := by
  cases mixed with
  | false =>
    obtain ⟨ms, members, -, order⟩ := h
    obtain rfl := order rfl
    exact ⟨_, members.leavesAll.distinct hρ hM hM' hm hm' fun _ _ _ _ _ ↦ by simp, .refl _, fun _ ↦ rfl⟩
  | true =>
    have he : Equivalence (Alike ρ true) := alike_equivalence hρ
    -- of each class of alike leaves just one stays on either side
    have hpairs {N : Hint → Prop} (hN : Faithful ρ true N) {hs : List Hint}
        (hn : ∀ l ∈ leavesAll hs, N l) : (flatMembers hs).Pairwise (¬ Alike ρ true · ·) :=
      (pairwise_distinct (leavesAll hs) []).imp_of_mem fun ha hb hne halike ↦
        hne ((hN _ _ (hn _ (mem_of_mem_distinct ha)) (hn _ (mem_of_mem_distinct hb))).mpr halike)
    have hforth {N : Hint → Prop} (hN : Faithful ρ true N) {hs ks : List Hint}
        (h : SameMembers ρ true hs ks) (hn : ∀ l ∈ leavesAll ks, N l) :
        ∀ x ∈ flatMembers hs, ∃ y ∈ flatMembers ks, Alike ρ true x y := by
      intro x hx
      obtain ⟨y, hy, hxy⟩ := (h.union 0 0).exists_leaf x (mem_of_mem_distinct hx)
      rcases exists_mem_distinct hy [] with hnil | ⟨z, hz, heq⟩
      · cases hnil
      · have hyz := (hN _ _ (hn _ (mem_of_mem_distinct hz)) (hn y hy)).mp heq
        exact ⟨z, hz, he.trans hxy (he.symm hyz)⟩
    refine sameMembers_of_classes hρ (hpairs hM hm) (hpairs hM' hm')
      (hforth hM' h hm') fun y hy ↦ ?_
    obtain ⟨x, hx, hyx⟩ := hforth hM (h.symm fun _ _ ↦ hρ.symm) hm y hy
    exact ⟨x, hx, he.symm hyx⟩

omit hρ in
/-- A list is flat already just if it holds no union and no key twice. -/
theorem flatMembers_eq_self_iff {hs : List Hint} : flatMembers hs = hs ↔
    (∀ h ∈ hs, h.isUnion = false) ∧ hs.Pairwise (·.stableKey ≠ ·.stableKey) := by
  constructor
  · intro h
    rw [← h]
    exact ⟨fun k hk ↦ isUnion_of_mem_leavesAll hs (mem_of_mem_distinct hk), pairwise_distinct _ _⟩
  · rintro ⟨hunion, hpairs⟩
    rw [flatMembers, leavesAll_of_not_isUnion hunion]
    exact distinct_of_pairwise hpairs fun _ _ ↦ List.not_mem_nil

/-- Unions with alike members are flat together. -/
theorem SameMembers.flat_eq_self (hM : Faithful ρ mixed M) (hM' : Faithful ρ mixed M')
    {hs ks : List Hint} (h : SameMembers ρ mixed hs ks) (hm : ∀ l ∈ leavesAll hs, M l)
    (hm' : ∀ l ∈ leavesAll ks, M' l) (hflat : flatMembers hs = hs) : flatMembers ks = ks := by
  have he : Equivalence (Alike ρ mixed) := alike_equivalence hρ
  obtain ⟨hunion, hpairs⟩ := flatMembers_eq_self_iff.mp hflat
  have hunion' : ∀ k ∈ ks, k.isUnion = false := by
    intro k hk
    obtain ⟨x, hx, hxk⟩ := (h.symm fun _ _ ↦ hρ.symm).exists_alike k hk
    rw [hxk.isUnion_eq, hunion x hx]
  rw [leavesAll_of_not_isUnion hunion] at hm
  rw [leavesAll_of_not_isUnion hunion'] at hm'
  obtain ⟨ms, members, perm, -⟩ := h
  refine flatMembers_eq_self_iff.mpr ⟨hunion', perm.pairwise ?_ fun h ↦ h.symm⟩
  have hall := alikeAll_iff_forall₂.mp members
  have hlen := hall.length_eq
  rw [List.pairwise_iff_getElem] at hpairs ⊢
  intro i j hi hj hij heq
  refine hpairs i j (hlen ▸ hi) (hlen ▸ hj) hij ?_
  refine (hM.key_eq_iff hρ hM' (hm _ (List.getElem_mem _)) (hm _ (List.getElem_mem _))
    (hm' _ (perm.subset (List.getElem_mem hi))) (hm' _ (perm.subset (List.getElem_mem hj)))
    (hall.get _ hi) (hall.get _ hj)).mpr heq

end Flat

end TypeHints.Hint
