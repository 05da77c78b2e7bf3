import TypeHints.Proofs.Keys
import TypeHints.Proofs.Agreement
import TypeHints.Proofs.Steps

/-!
# Bindings of alike applications

An application binds parameters in a table, and the table is merged into that of the parent. Three
facts say all that later modules need about what is bound afterwards:

* `Table.get?_merge`: after a merge, what the child binds wins over what the parent does;
* `Guard.parameter_mem_withoutRebound`: a guard keeps a parameter through an application just if
  that does not bind it afresh;
* `Substitution.compute_agree`: applications that are alike bind alike or fail alike. The checks are
  made in the same order, and none of them looks at anything but how hints are built.

The underlying facts are about dictionaries. Entries are inserted one after another, and the last
value of a key wins; where no key comes twice, the list itself can be searched (`Dict.find_of_mem`).
No key has two entries in a dictionary that was built by inserting (`Dict.nodup_keys_ofList`), which
holds of the tables of applications in particular.

Bindings that are alike (`AlikeBindings`) have the same parameters in the same order, so that two
tables can be followed entry by entry.
-/

namespace TypeHints

open Attempt Hint

/-! ### Dictionaries -/

namespace Dict

variable {κ ν : Type} [DecidableEq κ]

/-- A key without an entry is not found. -/
theorem find_eq_none {k : κ} {es : List (κ × ν)} (h : k ∉ es.map Prod.fst) : find k es = none := by
  induction es with
  | nil => rfl
  | cons e es ih =>
    rw [List.map_cons, List.mem_cons, not_or] at h
    rw [find, if_neg (Ne.symm h.1), ih h.2]

/-- An entry is found if its key has no other. -/
theorem find_of_mem {es : List (κ × ν)} {k : κ} {v : ν}
    (hes : (es.map Prod.fst).Nodup) (h : (k, v) ∈ es) : find k es = some v := by
  induction es with
  | nil => cases h
  | cons e es ih =>
    rw [List.map_cons, List.nodup_cons] at hes
    rcases List.mem_cons.mp h with rfl | h
    · rw [find, if_pos rfl]
    · have hne : e.1 ≠ k := fun heq ↦ hes.1 (heq ▸ List.mem_map_of_mem (f := Prod.fst) h)
      rw [find, if_neg hne, ih hes.2 h]

/-- Inserting entries of different keys: their values win. -/
theorem get?_insertAll {es : List (κ × ν)} (hes : (es.map Prod.fst).Nodup) :
    ∀ (d : Dict κ ν) (k : κ), (d.insertAll es).get? k = (find k es).or (d.get? k) := by
  induction es with
  | nil => exact fun _ _ ↦ rfl
  | cons e es ih =>
    intro d k
    rw [List.map_cons, List.nodup_cons] at hes
    show ((d.insert e.1 e.2).insertAll es).get? k = _
    rw [ih hes.2, get?_insert, find]
    by_cases hk : e.1 = k
    · rw [if_pos hk, if_pos hk, find_eq_none (hk ▸ hes.1)]
      rfl
    · rw [if_neg hk, if_neg hk]

/-- What entries insert wins over what was there. -/
theorem get?_insertAll_eq_or (es : List (κ × ν)) : ∀ (d : Dict κ ν) (k : κ),
    (d.insertAll es).get? k = ((ofList es).get? k).or (d.get? k) := by
  induction es with
  | nil => exact fun _ _ ↦ rfl
  | cons e es ih =>
    intro d k
    have hd : (d.insertAll (e :: es)).get? k =
        ((ofList es).get? k).or ((d.insert e.1 e.2).get? k) := ih _ k
    have hnone : (ofList (e :: es)).get? k =
        ((ofList es).get? k).or ((empty.insert e.1 e.2).get? k) := ih _ k
    rw [hd, hnone, Option.or_assoc, get?_insert, get?_insert]
    split <;> rfl

/-- Inserting gives no key a second entry. -/
theorem nodup_keys_insert {d : Dict κ ν} (h : d.keys.Nodup) (k : κ) (v : ν) :
    (d.insert k v).keys.Nodup := by
  rw [keys_insert]
  split
  · exact h
  · rename_i hk
    refine List.nodup_append.mpr ⟨h, List.pairwise_singleton _ k, fun a ha b hb heq ↦ hk ?_⟩
    rwa [← List.mem_singleton.mp hb, ← heq]

/-- Nor does inserting many entries. -/
theorem nodup_keys_insertAll (es : List (κ × ν)) : ∀ {d : Dict κ ν}, d.keys.Nodup →
    (d.insertAll es).keys.Nodup := by
  induction es with
  | nil => exact fun h ↦ h
  | cons e es ih => exact fun h ↦ ih (nodup_keys_insert h e.1 e.2)

/-- A dictionary that a list builds has each key once. -/
theorem nodup_keys_ofList (es : List (κ × ν)) : (ofList es).keys.Nodup :=
  nodup_keys_insertAll es .nil

end Dict

/-! ### Tables and guards -/

namespace Table

/-- What the table of an application, if it makes one, binds a parameter to. -/
def lookup? (table? : Option Table) (p : TypeParameter) : Option Hint := table?.bind (·.get? p)

/-- No parameter has two entries. -/
def Proper (table? : Option Table) : Prop := ∀ t, table? = some t → t.entries.keys.Nodup

/-- The bindings of a child win over those of the parent. -/
theorem get?_merge {child? : Option Table} (hchild : Proper child?) (l : Label) (parent : Table)
    (p : TypeParameter) :
    (merge l parent child?).get? p = (lookup? child? p).or (parent.get? p) := by
  rcases merge_cases l parent child? with ⟨hm, hnil⟩ | ⟨child, rfl, hm, hnil⟩ | ⟨child, rfl, hm⟩ <;>
    rw [hm]
  · cases child? with
    | none => rfl
    | some child =>
      simp only [lookup?, Option.bind_some, get?, Dict.get?, hnil child rfl, Dict.find,
        Option.none_or]
  · simp only [lookup?, Option.bind_some, get?, Dict.get?, hnil, Dict.find, Option.or_none]
  · have hkeys : (child.entries.entries.map Prod.fst).Nodup := hchild child rfl
    exact Dict.get?_insertAll hkeys parent.entries p

end Table

/-- A guard keeps a parameter through an application just if that does not bind it afresh. -/
theorem Guard.parameter_mem_withoutRebound {l : Label} {g : Guard} {table? : Option Table}
    {p : TypeParameter} : Hint.parameter p ∈ (g.withoutRebound l table?).hints ↔
      Hint.parameter p ∈ g.hints ∧ Table.lookup? table? p = none := by
  cases table? with
  | none => simp [withoutRebound, Table.lookup?]
  | some t =>
    have hrebound : isRebound t (.parameter p) = false ↔ Table.lookup? (some t) p = none := by
      simp [isRebound, Dict.contains, Table.lookup?, Table.get?]
    unfold withoutRebound
    dsimp only
    split
    · rw [List.mem_filter, Bool.not_eq_true', hrebound]
    · rename_i hany
      refine ⟨fun h ↦ ⟨h, hrebound.mp ?_⟩, And.left⟩
      rw [Bool.not_eq_true, List.any_eq_false] at hany
      simpa using hany _ h

/-! ### Applications that are alike -/

/-- Two lists bind the same parameters to alike hints. -/
abbrev AlikeBindings (ρ : ForwardRef → ForwardRef → Prop) (mixed : Bool)
    (es es' : List (TypeParameter × Hint)) : Prop :=
  List.Forall₂ (fun e e' ↦ e.1 = e'.1 ∧ Hint.Alike ρ mixed e.2 e'.2) es es'

namespace AlikeBindings

variable {ρ : ForwardRef → ForwardRef → Prop} {mixed : Bool}
  {es es' : List (TypeParameter × Hint)}

/-- To put hints that are alike under one parameter keeps bindings alike. -/
theorem put (h : AlikeBindings ρ mixed es es') {p : TypeParameter} {v v' : Hint}
    (hv : Hint.Alike ρ mixed v v') : AlikeBindings ρ mixed (Dict.put p v es) (Dict.put p v' es') := by
  induction h with
  | nil => exact .cons ⟨rfl, hv⟩ .nil
  | @cons e e' es es' he _ ih =>
    obtain ⟨q, k⟩ := e
    obtain ⟨q', k'⟩ := e'
    obtain ⟨rfl, hk⟩ := he
    simp only [Dict.put]
    split
    · exact .cons ⟨rfl, hv⟩ ‹_›
    · exact .cons ⟨rfl, hk⟩ ih

/-- Inserting bindings that are alike into others keeps them alike. -/
theorem insertAll (h : AlikeBindings ρ mixed es es') : ∀ {d d' : Dict TypeParameter Hint},
    AlikeBindings ρ mixed d.entries d'.entries →
      AlikeBindings ρ mixed (d.insertAll es).entries (d'.insertAll es').entries := by
  induction h with
  | nil => exact fun hd ↦ hd
  | @cons e e' es es' he _ ih =>
    intro d d' hd
    obtain ⟨q, k⟩ := e
    obtain ⟨q', k'⟩ := e'
    obtain ⟨rfl, hk⟩ := he
    exact ih (hd.put hk)

/-- Bindings that are alike bind a parameter to hints that are alike, or both leave it unbound. -/
theorem find (h : AlikeBindings ρ mixed es es') (p : TypeParameter) :
    Option.Rel (Hint.Alike ρ mixed) (Dict.find p es) (Dict.find p es') := by
  induction h with
  | nil => exact .none
  | @cons e e' es es' he _ ih =>
    obtain ⟨q, k⟩ := e
    obtain ⟨q', k'⟩ := e'
    obtain ⟨rfl, hk⟩ := he
    simp only [Dict.find]
    split
    · exact .some hk
    · exact ih

end AlikeBindings

namespace Substitution

/-- Different parameters with arguments are different entries. -/
theorem nodup_zip {params : List TypeParameter} (h : params.Nodup) (args : List Hint) :
    ((params.zip args).map Prod.fst).Nodup := by
  induction params generalizing args with
  | nil => exact .nil
  | cons p params ih =>
    cases args with
    | nil => exact .nil
    | cons a args =>
      obtain ⟨hp, hparams⟩ := List.nodup_cons.mp h
      refine List.nodup_cons.mpr ⟨fun hmem ↦ hp ?_, ih hparams args⟩
      obtain ⟨e, he, rfl⟩ := List.mem_map.mp hmem
      exact (List.of_mem_zip he).1

variable {ρ : ForwardRef → ForwardRef → Prop} {mixed : Bool} {args args' : List Hint}

/-- Arguments that are alike are kept alike. -/
theorem kept_agree (h : AlikeAll ρ mixed args args') : ∀ params : List TypeParameter,
    AlikeBindings ρ mixed (kept params args) (kept params args') := by
  induction args generalizing args' with
  | nil =>
    cases h
    exact fun params ↦ by simp [kept]
  | cons a args ih =>
    cases h with
    | @cons _ b _ args' head tail =>
      rintro (- | ⟨p, params⟩)
      · exact .nil
      · have hrest := ih tail params
        unfold kept at hrest ⊢
        simp only [List.zip_cons_cons, List.filter_cons, ne_eq, head.eq_parameter_iff p]
        split
        · exact .cons ⟨rfl, head⟩ hrest
        · exact hrest

/-- Applications stand for themselves together. -/
theorem sameList_agree (h : AlikeAll ρ mixed args args') : ∀ params : List TypeParameter,
    Hint.sameList args (params.map .parameter) = Hint.sameList args' (params.map .parameter) := by
  intro params
  unfold Hint.sameList
  rw [decide_eq_decide]
  induction args generalizing args' params with
  | nil =>
    cases h
    exact Iff.rfl
  | cons a args ih =>
    cases h with
    | @cons _ b _ args' head tail =>
      cases params with
      | nil => simp
      | cons p params =>
        rw [List.map_cons, List.cons.injEq, List.cons.injEq, ih tail params,
          head.eq_parameter_iff p]

/-- Arguments that are alike violate a bound together. -/
theorem violation_agree (hρ : ∀ r, ρ r r) (w : World) {hint hint' : Hint}
    (hh : Hint.Alike ρ mixed hint hint') (p : TypeParameter) {a a' : Hint}
    (ha : Hint.Alike ρ mixed a a') :
    Option.Rel (Cause.Alike ρ mixed) (violation? w hint (p, a)) (violation? w hint' (p, a')) := by
  unfold violation?
  split
  · exact .none
  · cases hb : w.bound? p with
    | none => exact .none
    | some bound =>
      dsimp only
      have hplain (b : PlainHint) := ha.plain w.classes b
      cases hbound : bound.plain? with
      | none => exact .none
      | some b =>
        have hplain := hplain b
        cases hp : a.plain? with
        | none =>
          cases hp' : a'.plain? with
          | none => exact .none
          | some c =>
            rw [hp, hp'] at hplain
            cases hplain
        | some c =>
          cases hp' : a'.plain? with
          | none =>
            rw [hp, hp'] at hplain
            cases hplain
          | some c' =>
            rw [hp, hp'] at hplain
            have hsub : isPlainSubtype w.classes c b = isPlainSubtype w.classes c' b :=
              Option.some.inj hplain
            dsimp only
            rw [hsub]
            split
            · exact .none
            · exact .some (.boundViolated hh p ha (.refl hρ bound))

/-- The first binding that violates its bound is the same in both. -/
theorem findSome_agree (hρ : ∀ r, ρ r r) (w : World) {hint hint' : Hint}
    (hh : Hint.Alike ρ mixed hint hint') {es es' : List (TypeParameter × Hint)}
    (hes : AlikeBindings ρ mixed es es') :
    Option.Rel (Cause.Alike ρ mixed) (es.findSome? (violation? w hint))
      (es'.findSome? (violation? w hint')) := by
  induction hes with
  | nil => exact .none
  | @cons e e' es es' he _ ih =>
    obtain ⟨p, a⟩ := e
    obtain ⟨p', a'⟩ := e'
    obtain ⟨rfl, ha⟩ := he
    have hviolation := violation_agree hρ w hh p ha
    simp only [List.findSome?_cons]
    generalize violation? w hint (p, a) = x, violation? w hint' (p, a') = y at hviolation
    cases hviolation with
    | none => exact ih
    | some hc => exact .some hc

/-- Applications that are alike bind alike, or fail alike. -/
theorem compute_agree (hρ : ∀ r, ρ r r) (w : World) {hint hint' : Hint}
    (hh : Hint.Alike ρ mixed hint hint') (params : List TypeParameter)
    (hargs : AlikeAll ρ mixed args args') :
    Outcomes (Cause.Alike ρ mixed)
      (Option.Rel fun d d' : Dict TypeParameter Hint ↦ AlikeBindings ρ mixed d.entries d'.entries)
      (compute w hint params args) (compute w hint' params args') := by
  have hlen : args.length = args'.length := (alikeAll_iff_forall₂.mp hargs).length_eq
  have hempty : args.isEmpty = args'.isEmpty := by
    cases hargs <;> rfl
  have hbindings : AlikeBindings ρ mixed (Dict.ofList (kept params args)).entries
      (Dict.ofList (kept params args')).entries := (kept_agree hargs params).insertAll .nil
  have hfind := findSome_agree hρ w hh hbindings
  unfold compute
  -- the checks are made in one order on both sides: bare parameters, no arguments, too many
  rw [sameList_agree hargs params, hempty, hlen]
  split
  · exact .ok .none
  split
  · exact .error (.noArguments hh)
  split
  · exact .error (.tooManyArguments hh _ _)
  dsimp only
  generalize List.findSome? _ (Dict.ofList (kept params args)).entries = x,
    List.findSome? _ (Dict.ofList (kept params args')).entries = y at hfind
  cases hfind with
  | none => exact .ok (.some hbindings)
  | some hc => exact .error hc

/-- No parameter has two entries in what an application binds. -/
theorem nodup_of_compute {w : World} {hint : Hint} {params : List TypeParameter} {args : List Hint}
    {d : Dict TypeParameter Hint} (h : compute w hint params args = .ok (some d)) :
    d.keys.Nodup := by
  unfold compute at h
  split at h
  · cases h
  split at h
  · cases h
  split at h
  · cases h
  dsimp only at h
  split at h <;> cases h
  exact Dict.nodup_keys_ofList _

end Substitution

end TypeHints
