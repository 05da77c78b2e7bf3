import TypeHints.Forward.Scope
import TypeHints.Proofs.Actions

/-!
# Keys of forward references

A registry keeps a reference for each scope, name and kind, under a text that joins the three. No
dotted identifier holds the character that stands between them, so the key of a reference with valid
names tells its three parts apart (`Registry.refKey_inj`). Only one of two keys has to be valid for
that. The kind comes last, as one of two words, and needs no separator behind it.

Making a reference has three outcomes (`Registry.make_cases`): the one that is kept under the key is
found, a new one with valid names is kept, or a name is not valid and nothing is kept. The registry
looks under the key before it looks at the names, so that names are valid only where nothing was
found. It depends on the names alone which failure it is, not on the registry.

Two properties of registries come of this:

* in a registry that only `make` has filled, every reference stands under its own key and has valid
  names (`Registry.Sound`);
* whatever is asked for, references stay, and new ones stand under their own keys
  (`Registry.Grows`). This is a preorder, so that it holds along any sequence of requests, and it
  keeps a registry sound (`Registry.Grows.sound`).
-/

namespace TypeHints

open Attempt

namespace Text

/-- Every character of a text but the separator stands in one of its parts. -/
theorem exists_mem_splitChars {sep c : Char} (hc : c ≠ sep) {cs : List Char} (h : c ∈ cs) :
    ∃ w ∈ splitChars sep cs, c ∈ w := by
  induction cs with
  | nil => cases h
  | cons d cs ih =>
    rw [splitChars]
    split
    · rename_i hd
      obtain ⟨w, hw, hcw⟩ := ih ((List.mem_cons.mp h).resolve_left fun heq ↦ hc (heq.trans hd))
      exact ⟨w, List.mem_cons_of_mem _ hw, hcw⟩
    · split
      · rename_i hnil
        exact absurd hnil (splitChars_ne_nil sep cs)
      · rename_i w ws hsplit
        rcases List.mem_cons.mp h with rfl | h
        · exact ⟨c :: w, List.mem_cons_self, List.mem_cons_self⟩
        · obtain ⟨v, hv, hcv⟩ := ih h
          rw [hsplit] at hv
          rcases List.mem_cons.mp hv with rfl | hv
          · exact ⟨d :: v, List.mem_cons_self, List.mem_cons_of_mem _ hcv⟩
          · exact ⟨v, List.mem_cons_of_mem _ hv, hcv⟩

/-- An identifier is made of the characters that identifiers are made of. -/
theorem notMem_of_isIdentifierChars {c : Char} (hstart : isIdStart c = false)
    (hcontinue : isIdContinue c = false) {cs : List Char} (h : isIdentifierChars cs = true) :
    c ∉ cs := by
  cases cs with
  | nil => cases h
  | cons d cs =>
    simp only [isIdentifierChars, Bool.and_eq_true, List.all_eq_true] at h
    intro hmem
    rcases List.mem_cons.mp hmem with rfl | hmem
    · rw [hstart] at h
      cases h.1
    · have := h.2 _ hmem
      rw [hcontinue] at this
      cases this

/-- No dot stands in an identifier. -/
theorem dot_notMem_of_isIdentifier {s : String} (h : isIdentifier s = true) : '.' ∉ s.toList :=
  notMem_of_isIdentifierChars (by decide) (by decide) h

/-- Identifiers with dots between them are a dotted name. -/
theorem isDottedIdentifier_dotted {ss : List String} (hne : ss ≠ [])
    (hss : ∀ s ∈ ss, isIdentifier s = true) : isDottedIdentifier (dotted ss) = true := by
  have hcut : segments (dotted ss) = ss :=
    splitAt_joinWith hne fun s hs ↦ dot_notMem_of_isIdentifier (hss s hs)
  rw [isDottedIdentifier, hcut]
  exact List.all_eq_true.mpr hss

/-- An identifier is a dotted identifier with one part. -/
theorem isDottedIdentifier_of_isIdentifier {s : String} (h : isIdentifier s = true) :
    isDottedIdentifier s = true := by
  have hdotted := isDottedIdentifier_dotted (List.cons_ne_nil s []) (by simpa using h)
  rwa [dotted, joinWith_singleton] at hdotted

/-- The separator of keys is part of no dotted identifier. -/
theorem nul_notMem_of_isDottedIdentifier {s : String} (h : isDottedIdentifier s = true) :
    '\x00' ∉ s.toList := by
  intro hmem
  obtain ⟨w, hw, hnul⟩ := exists_mem_splitChars (by decide : '\x00' ≠ '.') hmem
  simp only [isDottedIdentifier, segments, splitAt, List.all_map, List.all_eq_true] at h
  have hid := h w hw
  simp only [Function.comp_apply, isIdentifier, String.toList_ofList] at hid
  exact notMem_of_isIdentifierChars (by decide) (by decide) hid hnul

end Text

/-- A name that passes the check is a dotted identifier. -/
theorem isDottedIdentifier_of_validDotted {label text t : String}
    (h : validDotted label text = .ok t) : Text.isDottedIdentifier text = true := by
  unfold validDotted at h
  split at h
  · assumption
  · cases h

/-- A name that does not pass the check is none. -/
theorem not_isDottedIdentifier_of_validDotted {label text : String} {c : Cause}
    (h : validDotted label text = .error c) : Text.isDottedIdentifier text = false := by
  unfold validDotted at h
  split at h
  · cases h
  · rename_i hn
    simpa using hn

/-- Both names of a reference are dotted identifiers. -/
structure ForwardRef.Valid (r : ForwardRef) : Prop where
  name : Text.isDottedIdentifier r.name = true
  scope : Text.isDottedIdentifier r.scope = true

namespace Registry

theorem nul_notMem_kindName (kind : RefKind) : '\x00' ∉ kind.name.toList := by
  cases kind <;> decide

/-- A key is its three parts with the separator between them. -/
theorem toList_refKey (kind : RefKind) (name scope : String) :
    (refKey kind name scope).toList =
      scope.toList ++ '\x00' :: (name.toList ++ '\x00' :: kind.name.toList) := by
  simp [refKey]

theorem kind_of_name_eq {k k' : RefKind} (h : k.name = k'.name) : k = k' := by
  cases k <;> cases k' <;> first
    | rfl
    | exact absurd h (by decide)

/-- Lists agree in front of the first occurrence of a separator and behind it. -/
theorem append_cons_inj {c : Char} {xs ys zs us : List Char} (hx : c ∉ xs) (hy : c ∉ ys)
    (h : xs ++ c :: zs = ys ++ c :: us) : xs = ys ∧ zs = us := by
  have hne {l : List Char} (hl : c ∉ l) : ∀ a ∈ l, (a != c) = true := by
    intro a ha
    simpa using fun heq : a = c ↦ hl (heq ▸ ha)
  have hfront := congrArg (List.takeWhile (· != c)) h
  have hback := congrArg (List.dropWhile (· != c)) h
  rw [List.takeWhile_append_of_pos (hne hx), List.takeWhile_append_of_pos (hne hy)] at hfront
  rw [List.dropWhile_append_of_pos (hne hx), List.dropWhile_append_of_pos (hne hy)] at hback
  refine ⟨by simpa using hfront, by simpa using hback⟩

/-- A key with valid names is the key of nothing else. -/
theorem refKey_inj {kind kind' : RefKind} {name name' scope scope' : String}
    (hname : Text.isDottedIdentifier name = true) (hscope : Text.isDottedIdentifier scope = true)
    (h : refKey kind name scope = refKey kind' name' scope') :
    kind = kind' ∧ name = name' ∧ scope = scope' := by
  have hl := congrArg String.toList h
  rw [toList_refKey, toList_refKey] at hl
  have hn := Text.nul_notMem_of_isDottedIdentifier hname
  have hs := Text.nul_notMem_of_isDottedIdentifier hscope
  have hcount := congrArg (List.count '\x00') hl
  simp only [List.count_append, List.count_cons_self, List.count_eq_zero_of_not_mem hn,
    List.count_eq_zero_of_not_mem hs, List.count_eq_zero_of_not_mem (nul_notMem_kindName _)]
    at hcount
  have hs' : '\x00' ∉ scope'.toList := List.count_eq_zero.mp (by omega)
  have hn' : '\x00' ∉ name'.toList := List.count_eq_zero.mp (by omega)
  obtain ⟨he, hl⟩ := append_cons_inj hs hs' hl
  obtain ⟨he', hk⟩ := append_cons_inj hn hn' hl
  exact ⟨kind_of_name_eq (String.toList_inj.mp hk), String.toList_inj.mp he',
    String.toList_inj.mp he⟩

/-- Every reference stands under its own key and has valid names. -/
def Sound (g : Registry) : Prop :=
  ∀ k r, g.refs.get? k = some r → k = refKey r.kind r.name r.scope ∧ r.Valid

theorem sound_empty : Sound empty := fun _ _ h ↦ by cases h

/-- The references of a registry stay. New ones stand under their own keys and have valid names. -/
structure Grows (g g' : Registry) : Prop where
  refs : g.refs.Within g'.refs
  added : ∀ k r, g'.refs.get? k = some r →
    g.refs.get? k = some r ∨ k = refKey r.kind r.name r.scope ∧ r.Valid

instance : IsPreorder Registry Grows where
  refl _ := ⟨Dict.within_refl _, fun _ _ h ↦ .inl h⟩
  trans _ _ _ h h' :=
    ⟨h.refs.trans h'.refs, fun k r hk ↦ (h'.added k r hk).elim (h.added k r) .inr⟩

/-- A sound registry that has grown is sound. -/
theorem Grows.sound {g g' : Registry} (h : g.Grows g') (hs : g.Sound) : g'.Sound :=
  fun k r hk ↦ (h.added k r hk).elim (hs k r) id

/-- Making a reference finds the one kept, makes a new one with valid names, or fails for a name
that is not valid. -/
theorem make_cases (label : Label) (kind : RefKind) (name scope : String) (owner? : Option Label)
    (g : Registry) :
    (∃ r, g.refs.get? (refKey kind name scope) = some r ∧
      make label kind name scope owner? g = (.ok r, g)) ∨
    (g.refs.get? (refKey kind name scope) = none ∧
      ForwardRef.Valid ⟨label, name, scope, kind, owner?⟩ ∧
      make label kind name scope owner? g = (.ok ⟨label, name, scope, kind, owner?⟩,
        ⟨g.refs.insert (refKey kind name scope) ⟨label, name, scope, kind, owner?⟩⟩)) ∨
    (g.refs.get? (refKey kind name scope) = none ∧
      (Text.isDottedIdentifier name && Text.isDottedIdentifier scope) = false ∧
      ∃ c, make label kind name scope owner? g = (.error c, g) ∧
        ∀ l o g', g'.refs.get? (refKey kind name scope) = none →
          make l kind name scope o g' = (.error c, g')) := by
  unfold make
  cases hr : g.refs.get? (refKey kind name scope) with
  | some r => exact .inl ⟨r, rfl, rfl⟩
  | none =>
    refine .inr ?_
    cases hn : validDotted "Forward reference" name with
    | error c =>
      refine .inr ⟨rfl, ?_, c, rfl, fun l o g' hg' ↦ by rw [hg']⟩
      rw [not_isDottedIdentifier_of_validDotted hn, Bool.false_and]
    | ok _ =>
      cases hs : validDotted ("Forward reference " ++ Text.quote name ++ " scope name") scope with
      | error c =>
        refine .inr ⟨rfl, ?_, c, rfl, fun l o g' hg' ↦ by rw [hg']⟩
        rw [not_isDottedIdentifier_of_validDotted hs, Bool.and_false]
      | ok _ =>
        exact .inl ⟨rfl, ⟨isDottedIdentifier_of_validDotted hn,
          isDottedIdentifier_of_validDotted hs⟩, rfl⟩

/-- To make a reference only adds to the registry. -/
theorem grows_make (label : Label) (kind : RefKind) (name scope : String) (owner? : Option Label) :
    Follows Grows (make label kind name scope owner?) := by
  intro g
  rcases make_cases label kind name scope owner? g with
    ⟨r, -, he⟩ | ⟨hnone, hvalid, he⟩ | ⟨-, -, c, he, -⟩ <;> rw [he]
  · exact refl_of Grows g
  · refine ⟨Dict.within_insert _ hnone, fun k r hk ↦ ?_⟩
    rw [Dict.get?_insert] at hk
    split at hk
    · rename_i heq
      cases hk
      exact .inr ⟨heq.symm, hvalid⟩
    · exact .inl hk
  · exact refl_of Grows g

/-- A reference that was made stands under its key. -/
theorem get?_of_make {label : Label} {kind : RefKind} {name scope : String} {owner? : Option Label}
    {g g' : Registry} {r : ForwardRef} (h : make label kind name scope owner? g = (.ok r, g')) :
    g'.refs.get? (refKey kind name scope) = some r := by
  rcases make_cases label kind name scope owner? g with
    ⟨r, hr, he⟩ | ⟨-, -, he⟩ | ⟨-, -, c, he, -⟩ <;> rw [he] at h <;> cases h
  · exact hr
  · exact Dict.get?_insert_self _ _ _

/-- To seal a reference only adds to the registry. -/
theorem grows_sealedTwin (label : Label) (r : ForwardRef) :
    Follows Grows (sealedTwin label r) := by
  unfold sealedTwin
  split
  · exact .fail _
  · exact grows_make _ _ _ _ _

end Registry

end TypeHints
