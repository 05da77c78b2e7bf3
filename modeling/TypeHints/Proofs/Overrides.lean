import TypeHints.Config
import TypeHints.Proofs.KeyOrder
import TypeHints.Proofs.References

/-!
# Overrides on the way to the configuration

The overrides of a file are checked member by member and assigned to a fresh object; its entries and
those of the options are then put into one dictionary. `Config.Merges` is what this is to achieve:

* the names of the file come in their order, and then those that only the options have;
* the expression of the options is taken before that of the file.

An assignment to a fresh object makes a member, with one exception. The name of the ancestor
(`Members.ancestorName`) is not a member that could be assigned: the assignment is taken for a
change of the ancestor, and a text is no object, so that nothing happens at all. So the law holds
for what is left of the file when this name is taken away, and `resolve_merges_iff` says when it
holds for the file itself. That comes down to lists without repeats: to leave a member out of the
first of two lists that are merged changes nothing just if it is last there and the second list has
it in its place (`filter_ne_append_eq_iff`).

The other way in which an object could reorder its members does not occur. Members with the name of
an array index come first in an object, whenever they were assigned; but the names that a file may
override are dotted identifiers, and none of these is an index
(`Members.index?_of_isDottedIdentifier`).
-/

namespace TypeHints

open Members (ancestorName)

/-! ### Names that are no indexes -/

/-- The first character of a dotted identifier begins an identifier. -/
theorem Text.exists_isIdStart_of_isDottedIdentifier {s : String} (h : isDottedIdentifier s = true) :
    ∃ c cs, s.toList = c :: cs ∧ isIdStart c = true := by
  rw [isDottedIdentifier, segments, splitAt, List.all_map, List.all_eq_true] at h
  cases hs : s.toList with
  | nil =>
    rw [hs] at h
    exact absurd (h [] List.mem_cons_self) (by decide)
  | cons c cs =>
    rw [hs, splitChars] at h
    split at h
    · exact absurd (h [] List.mem_cons_self) (by decide)
    · split at h
      all_goals
        have hfirst := h _ List.mem_cons_self
        simp only [Function.comp_apply, isIdentifier, String.toList_ofList, isIdentifierChars,
          Bool.and_eq_true] at hfirst
        exact ⟨c, cs, rfl, hfirst.1⟩

/-- No identifier begins with a decimal digit. -/
theorem Text.digitValue?_of_isIdStart {c : Char} (h : isIdStart c = true) :
    digitValue? 10 c = none := by
  have hdigit : ¬('0' ≤ c ∧ c ≤ '9') := by
    rintro ⟨hlow, hhigh⟩
    have hdigits : ∀ n < 58, 48 ≤ n → isIdStart (Char.ofNat n) = false := by decide
    have hc := hdigits c.toNat (Nat.lt_succ_of_le hhigh) hlow
    rw [Char.ofNat_toNat, h] at hc
    cases hc
  have hlarge : ¬(if 'a' ≤ c ∧ c ≤ 'f' then c.toNat - 'a'.toNat + 10
      else if 'A' ≤ c ∧ c ≤ 'F' then c.toNat - 'A'.toNat + 10 else 10) < 10 := by
    split
    · omega
    · split <;> omega
  simp only [digitValue?, if_neg hdigit, if_neg hlarge]

/-- No dotted identifier is an array index. -/
theorem Members.index?_of_isDottedIdentifier {name : String}
    (h : Text.isDottedIdentifier name = true) : index? name = none := by
  obtain ⟨c, cs, hname, hc⟩ := Text.exists_isIdStart_of_isDottedIdentifier h
  rw [index?, hname]
  simp [Text.digitValue?_of_isIdStart hc]

/-- If no member is an index, there are none to come first. -/
theorem Members.indexed_of_index? {α : Type} {ms : List (String × α)}
    (h : ∀ m ∈ ms, index? m.1 = none) : indexed ms = [] := by
  induction ms with
  | nil => rfl
  | cons m ms ih =>
    obtain ⟨hm, hms⟩ := List.forall_mem_cons.mp h
    rw [indexed, List.foldr_cons, hm]
    exact ih hms

/-- Members of which none is an index come in the order of their names. -/
theorem Members.ordered_of_index? {α : Type} {pairs : List (String × α)}
    (h : ∀ m ∈ pairs, index? m.1 = none) : ordered pairs = (Dict.ofList pairs).entries := by
  have hentries : ∀ m ∈ (Dict.ofList pairs).entries, index? m.1 = none := fun m hm ↦
    h m (Dict.mem_ofList hm)
  rw [ordered, indexed_of_index? hentries]
  exact List.filter_eq_self.mpr fun m hm ↦ Option.isNone_iff_eq_none.mpr (hentries m hm)

/-! ### Overrides that a file gives -/

/-- The text of a JSON value that is one. -/
def Json.text? : Json → Option String
  | .str text => some text
  | _ => none

/-- The own members of the overrides in a JSON value. -/
def Json.overrides (v : Json) : Dict String Json :=
  match v.member? "overrides" with
  | some (.obj ms) => Dict.ofList ms
  | _ => Dict.empty

/-- The replacements that options have. -/
def Options.replacements (o : Options) : Dict String String := Dict.ofList (o.overrides?.getD [])

/-- A member that gives an override is a text under a dotted identifier. -/
theorem ConfigFile.of_override {m : String × Json} {e : String × String} (h : override m = .ok e) :
    m = (e.1, .str e.2) ∧ Text.isDottedIdentifier e.1 = true := by
  obtain ⟨name, value⟩ := m
  rw [override] at h
  split at h
  · cases h
  · rename_i hname
    cases value with
    | str text =>
      dsimp only at h
      split at h
      · cases h
      · cases h
        exact ⟨rfl, by simpa using hname⟩
    | _ => cases h

/-- Members that all give overrides are texts under dotted identifiers. -/
theorem ConfigFile.of_mapM_override {ms : List (String × Json)} {es : List (String × String)}
    (h : ms.mapM override = .ok es) :
    ms = es.map (fun e ↦ (e.1, .str e.2)) ∧ ∀ e ∈ es, Text.isDottedIdentifier e.1 = true := by
  induction ms generalizing es with
  | nil =>
    cases h
    exact ⟨rfl, fun _ he ↦ absurd he List.not_mem_nil⟩
  | cons m ms ih =>
    rw [List.mapM_cons] at h
    cases hm : override m with
    | error e =>
      rw [hm] at h
      cases h
    | ok e =>
      cases hms : ms.mapM override with
      | error e' =>
        rw [hm, hms] at h
        cases h
      | ok es' =>
        rw [hm, hms] at h
        cases h
        obtain ⟨rfl, hname⟩ := of_override hm
        obtain ⟨hrest, hnames⟩ := ih hms
        exact ⟨congrArg ((e.1, Json.str e.2) :: ·) hrest, List.forall_mem_cons.mpr ⟨hname, hnames⟩⟩

/-- A file that is accepted has the overrides of the JSON value, or neither has any. -/
theorem ConfigFile.of_ofJson? {v : Json} {file : ConfigFile} (h : ofJson? v = .ok file) :
    (v.member? "overrides" = none ∧ file.options.overrides? = none) ∨
    ∃ o pairs, v.member? "overrides" = some o ∧ overrides o = .ok pairs ∧
      file.options.overrides? = some pairs := by
  cases v with
  | obj ms =>
    simp only [ofJson?, pure_bind] at h
    -- what the other members are decides whether the file is accepted, and nothing else
    cases ho : ms.lookup "overrides" with
    | none =>
      refine .inl ⟨ho, ?_⟩
      simp only [ho] at h
      repeat' split at h
      all_goals cases h <;> rfl
    | some o =>
      cases hpairs : overrides o with
      | error e =>
        simp only [ho, hpairs, Except.map] at h
        repeat' split at h
        all_goals cases h
      | ok pairs =>
        refine .inr ⟨o, pairs, ho, hpairs, ?_⟩
        simp only [ho, hpairs, Except.map] at h
        repeat' split at h
        all_goals cases h <;> rfl
  | _ => cases h

/-- The replacements that come out of a file are those that go in, less the one of the ancestor. -/
theorem ConfigFile.replacements_of_ofJson? {v : Json} {file : ConfigFile}
    (h : ofJson? v = .ok file) : ∃ es : List (String × String),
      v.overrides = Dict.ofList (es.map fun e ↦ (e.1, .str e.2)) ∧
      file.options.replacements = (Dict.ofList es).erase ancestorName := by
  rcases of_ofJson? h with ⟨hv, hfile⟩ | ⟨o, pairs, hv, ho, hfile⟩
  · refine ⟨[], ?_, ?_⟩
    · rw [Json.overrides, hv]
      rfl
    · rw [Options.replacements, hfile]
      rfl
  · cases o with
    | obj ms =>
      rw [overrides] at ho
      cases hms : ms.mapM override with
      | error e =>
        rw [hms] at ho
        cases ho
      | ok es =>
        rw [hms] at ho
        cases ho
        obtain ⟨hmembers, hnames⟩ := of_mapM_override hms
        have hindex : ∀ m ∈ es.filter (fun m ↦ m.1 ≠ ancestorName), Members.index? m.1 = none :=
          fun m hm ↦ Members.index?_of_isDottedIdentifier (hnames m (List.mem_filter.mp hm).1)
        refine ⟨es, ?_, ?_⟩
        · rw [Json.overrides, hv, hmembers]
        · rw [Options.replacements, hfile, Option.getD_some, Members.assigned,
            Members.ordered_of_index? hindex, Dict.ofList_entries (Dict.nodup_keys_ofList _),
            Dict.ofList_filter_ne]
    | _ => cases ho

/-! ### Merging key by key -/

/-- What becomes of overrides: the names of the file in their order, then those that only the options
have, each with the expression of the options or else that of the file. -/
structure Config.Merges (file : Dict String Json) (options merged : Dict String String) : Prop where
  keys : merged.keys = file.keys ++ options.keys.filter fun k ↦ k ∉ file.keys
  get? : ∀ name, merged.get? name = (options.get? name).or ((file.get? name).bind Json.text?)

/-- To leave out what is not there changes nothing. -/
theorem filter_ne_eq_self_of_notMem {κ : Type} [DecidableEq κ] {k : κ} {ks : List κ} (h : k ∉ ks) :
    ks.filter (· ≠ k) = ks :=
  List.filter_eq_self.mpr fun _ hl ↦ decide_eq_true fun heq ↦ h (heq ▸ hl)

/-- A list without repeats begins with what the rest is left without. -/
theorem eq_cons_filter_ne_iff {κ : Type} [DecidableEq κ] {k : κ} {ls : List κ} (h : ls.Nodup) :
    ls = k :: ls.filter (· ≠ k) ↔ ls.head? = some k := by
  cases ls with
  | nil => simp
  | cons l ls =>
    rw [List.head?_cons, Option.some.injEq]
    constructor
    · intro heq
      exact (List.cons.inj heq).1
    · rintro rfl
      rw [List.filter_cons_of_neg (by simp),
        filter_ne_eq_self_of_notMem (List.nodup_cons.mp h).1]

/-- Leaving a member out of the first list changes nothing just if it comes last there and the second
list has it in its place. -/
theorem filter_ne_append_eq_iff {κ : Type} [DecidableEq κ] {k : κ} {ks ls : List κ} (hks : ks.Nodup)
    (hls : ls.Nodup) :
    (ks.filter (· ≠ k) ++ ls.filter fun l ↦ l ∉ ks.filter (· ≠ k)) =
        ks ++ (ls.filter fun l ↦ l ∉ ks) ↔
      k ∉ ks ∨ ks.getLast? = some k ∧
        (ls.filter fun l ↦ l ∉ ks.filter (· ≠ k)).head? = some k := by
  by_cases hk : k ∈ ks
  · obtain ⟨front, back, rfl⟩ := List.append_of_mem hk
    rw [List.nodup_append, List.nodup_cons] at hks
    have hfront : k ∉ front := fun hmem ↦ hks.2.2 k hmem k List.mem_cons_self rfl
    have hrest : (front ++ k :: back).filter (· ≠ k) = front ++ back := by
      rw [List.filter_append, List.filter_cons_of_neg (by simp), filter_ne_eq_self_of_notMem hfront,
        filter_ne_eq_self_of_notMem hks.2.1.1]
    rw [hrest, or_iff_right (not_not_intro hk)]
    cases back with
    | nil =>
      have hnew : (ls.filter fun l ↦ l ∉ front ++ [k]) =
          (ls.filter fun l ↦ l ∉ front).filter (· ≠ k) := by
        rw [List.filter_filter]
        refine List.filter_congr fun l _ ↦ ?_
        simp [and_comm]
      rw [hnew, List.append_nil, List.append_assoc, List.append_cancel_left_eq,
        List.singleton_append, eq_cons_filter_ne_iff (hls.filter _), List.getLast?_concat]
      exact (and_iff_right rfl).symm
    | cons b back =>
      -- the member that came behind it has moved up
      refine iff_of_false (fun heq ↦ ?_) fun ⟨hlast, _⟩ ↦ ?_
      · rw [List.append_assoc, List.append_assoc, List.append_cancel_left_eq] at heq
        exact hks.2.1.1 ((List.cons.inj heq).1 ▸ List.mem_cons_self)
      · rw [List.getLast?_append_cons, List.getLast?_cons_cons] at hlast
        exact hks.2.1.1 (List.mem_of_getLast? hlast)
  · rw [filter_ne_eq_self_of_notMem hk]
    exact iff_of_true rfl (.inl hk)

/-- Resolving puts the replacements of the options into those of the file. -/
theorem Config.overrides_resolve (file options : Options) :
    (Config.resolve file options).overrides =
      file.replacements.insertAll (options.overrides?.getD []) :=
  List.foldl_append

/-- **Overrides are merged key by key** once the name of the ancestor is taken out of the file. With
that name the law is kept only if the file does not have it, or has it last and the options have it
too, in front of all other names that the rest of the file lacks. -/
theorem resolve_merges_iff {v : Json} {file : ConfigFile} (h : ConfigFile.ofJson? v = .ok file)
    (options : Options) :
    Config.Merges (v.overrides.erase ancestorName) options.replacements
        (Config.resolve file.options options).overrides ∧
      (Config.Merges v.overrides options.replacements
          (Config.resolve file.options options).overrides ↔
        ancestorName ∉ v.overrides.keys ∨
        v.overrides.keys.getLast? = some ancestorName ∧
          (options.replacements.keys.filter fun k ↦
            k ∉ (v.overrides.erase ancestorName).keys).head? = some ancestorName) := by
  obtain ⟨es, hv, hfile⟩ := ConfigFile.replacements_of_ofJson? h
  have hkeys : v.overrides.keys = (Dict.ofList es).keys := by
    rw [hv, Dict.keys_ofList, Dict.keys_ofList, List.map_map]
    rfl
  have htext (name : String) :
      (v.overrides.get? name).bind Json.text? = (Dict.ofList es).get? name := by
    rw [hv, Dict.get?_ofList_map, Option.bind_map]
    exact Option.bind_fun_some _
  have hleft : Config.Merges (v.overrides.erase ancestorName) options.replacements
      (Config.resolve file.options options).overrides := by
    constructor
    · rw [Config.overrides_resolve, Dict.keys_insertAll, hfile, Dict.keys_erase, Dict.keys_erase, hkeys]
      rfl
    · intro name
      rw [Config.overrides_resolve, Dict.get?_insertAll_eq_or, hfile, Dict.get?_erase, Dict.get?_erase,
        ← htext]
      split <;> rfl
  -- whether the names come out in their order does not depend on the expressions
  have hlaw := filter_ne_append_eq_iff (k := ancestorName) (hkeys ▸ Dict.nodup_keys_ofList es)
    (Dict.nodup_keys_ofList (options.overrides?.getD []))
  rw [← Dict.keys_erase] at hlaw
  refine ⟨hleft, fun hmerges ↦ hlaw.mp (hleft.keys.symm.trans hmerges.keys), fun hcond ↦
    ⟨hleft.keys.trans (hlaw.mpr hcond), fun name ↦ ?_⟩⟩
  rw [hleft.get?, Dict.get?_erase]
  split
  · rename_i hname
    subst hname
    rcases hcond with hnone | ⟨-, hhead⟩
    · have hfind : v.overrides.get? ancestorName = none := Dict.find_eq_none hnone
      rw [hfind]
    · -- the options have the name themselves
      obtain ⟨text, htext⟩ := Dict.exists_get?_of_mem_keys (Dict.nodup_keys_ofList _)
        (List.mem_filter.mp (List.mem_of_head? hhead)).1
      rw [Options.replacements, htext]
      rfl
  · rfl

/-- The name of the ancestor last in the file and first in the options: nothing is missed. -/
theorem resolve_merges_ancestor_of_both :
    ConfigFile.ofJson?
        (.obj [("overrides", .obj [("Date", .str "string"), ("__proto__", .str "boolean")])]) =
      .ok ⟨none, none, some [("Date", "string")], none⟩ ∧
    Config.Merges
      (Json.obj [("overrides", .obj [("Date", .str "string"), ("__proto__", .str "boolean")])]).overrides
      (Options.replacements ⟨none, some [("__proto__", "number"), ("Map", "object")], none⟩)
      (Config.resolve ⟨none, some [("Date", "string")], none⟩
        ⟨none, some [("__proto__", "number"), ("Map", "object")], none⟩).overrides :=
  have hfile : ConfigFile.ofJson?
      (.obj [("overrides", .obj [("Date", .str "string"), ("__proto__", .str "boolean")])]) =
        .ok ⟨none, none, some [("Date", "string")], none⟩ := rfl
  ⟨hfile, (resolve_merges_iff hfile _).2.mpr (by decide)⟩

/-- A file whose only override is for the name of the ancestor is accepted, and the override is
lost. -/
theorem ancestor_override_lost :
    ConfigFile.ofJson? (.obj [("overrides", .obj [("__proto__", .str "string")])]) =
      .ok ⟨none, none, some [], none⟩ ∧
    ¬Config.Merges (Json.obj [("overrides", .obj [("__proto__", .str "string")])]).overrides
      Options.none.replacements (Config.resolve ⟨none, some [], none⟩ .none).overrides :=
  ⟨rfl, fun h ↦ absurd h.keys (by decide)⟩

end TypeHints
