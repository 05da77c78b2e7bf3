import Mathlib.Data.List.Induction
import TypeHints.Proofs.Bindings

/-!
# What an application comes to

Parameters and arguments are paired by position, and a pair in which a parameter stands for itself
is left out. A parameter may be declared at several positions: then the last of its pairs that are
kept says what it is bound to, and the first one says when it is checked. The two come apart since
bindings are filed in a dictionary, where a later entry of a key takes the place of an earlier one.

`Substitution.Settles` says of an outcome that it is the right one, in terms of positions alone, and
`compute_settles` that computing the bindings of an application gives it:

* no table if there is nothing to bind, since there are no parameters or each stands for itself;
* else a malformed application, if there are no arguments or more than there are parameters;
* else a violated bound, reported of the parameter that is kept first among those bound to an
  argument that violates it;
* else a table of the parameters that are kept, each bound to its last argument.

The way from positions to dictionaries is by general facts on a list of entries of which some are
kept. `Dict.EntryAt` says what stands where, `Dict.get?_ofList_filter_iff` that the last kept entry
of a key decides its value, and `Dict.pairwise_before_keys` that keys stand in the order of their
first ones. Both go by induction on the list from its end, as the dictionary is filled.

A variadic parameter is given one argument like any other, and no bound of it is checked.
-/

namespace TypeHints

/-! ### Dictionaries that are filled entry by entry -/

namespace Dict

variable {κ ν : Type} {zs : List (κ × ν)} {keep : κ × ν → Bool} {k l : κ} {v w : ν} {i : Nat}

/-- The entry of `k` and `v` stands at place `i` of a list and is kept. -/
def EntryAt (zs : List (κ × ν)) (keep : κ × ν → Bool) (i : Nat) (k : κ) (v : ν) : Prop :=
  zs[i]? = some (k, v) ∧ keep (k, v) = true

theorem EntryAt.lt (h : EntryAt zs keep i k v) : i < zs.length :=
  (List.getElem?_eq_some_iff.mp h.1).1

/-- One place holds one entry. -/
theorem EntryAt.value_eq (h : EntryAt zs keep i k v) (h' : EntryAt zs keep i l w) :
    k = l ∧ v = w :=
  Prod.mk.inj (Option.some.inj (h.1.symm.trans h'.1))

theorem entryAt_nil : ¬ EntryAt [] keep i k v := fun h ↦ Nat.not_lt_zero i h.lt

/-- An entry of a longer list is an earlier one, or the last one. -/
theorem entryAt_concat {e : κ × ν} : EntryAt (zs ++ [e]) keep i k v ↔
    EntryAt zs keep i k v ∨ i = zs.length ∧ e = (k, v) ∧ keep e = true := by
  unfold EntryAt
  rcases Nat.lt_trichotomy i zs.length with hi | rfl | hi
  · rw [List.getElem?_append_left hi]
    exact ⟨.inl, fun h ↦ h.elim id fun h ↦ absurd h.1 (Nat.ne_of_lt hi)⟩
  · rw [List.getElem?_concat_length, List.getElem?_eq_none (Nat.le_refl _)]
    constructor
    · rintro ⟨he, hkeep⟩
      obtain rfl := Option.some.inj he
      exact .inr ⟨rfl, rfl, hkeep⟩
    · rintro (⟨h, -⟩ | ⟨-, rfl, hkeep⟩)
      · cases h
      · exact ⟨rfl, hkeep⟩
  · rw [List.getElem?_eq_none (by simp; omega), List.getElem?_eq_none (Nat.le_of_lt hi)]
    exact ⟨fun h ↦ (by cases h.1), fun h ↦ h.elim (fun h ↦ by cases h.1) fun h ↦ absurd h.1 (by omega)⟩

variable [DecidableEq κ]

theorem ofList_concat (es : List (κ × ν)) (e : κ × ν) :
    ofList (es ++ [e]) = (ofList es).insert e.1 e.2 :=
  List.foldl_append

/-- Filling a dictionary from the entries that are kept, one entry more. -/
theorem ofList_filter_concat (zs : List (κ × ν)) (e : κ × ν) :
    ofList ((zs ++ [e]).filter keep) =
      if keep e then (ofList (zs.filter keep)).insert e.1 e.2 else ofList (zs.filter keep) := by
  rw [List.filter_append, List.filter_singleton]
  cases keep e with
  | true => exact ofList_concat _ e
  | false => exact congrArg ofList (List.append_nil _)

/-- A key is present if an entry of it is kept. -/
theorem mem_keys_ofList_filter : k ∈ (ofList (zs.filter keep)).keys ↔ ∃ i v, EntryAt zs keep i k v := by
  induction zs using List.reverseRecOn with
  | nil => exact iff_of_false List.not_mem_nil fun ⟨_, _, h⟩ ↦ entryAt_nil h
  | append_singleton zs e ih =>
    simp only [entryAt_concat, exists_or, ← ih]
    rw [ofList_filter_concat]
    by_cases hkeep : keep e = true
    · rw [if_pos hkeep, keys_insert]
      have hlast : (∃ i v, i = zs.length ∧ e = (k, v) ∧ keep e = true) ↔ e.1 = k :=
        ⟨fun ⟨_, _, _, he, _⟩ ↦ by rw [he], fun he ↦ ⟨_, e.2, rfl, by rw [← he], hkeep⟩⟩
      rw [hlast]
      split
      · rename_i hmem
        exact ⟨.inl, fun h ↦ h.elim id fun he ↦ he ▸ hmem⟩
      · rw [List.mem_append, List.mem_singleton, eq_comm]
    · rw [if_neg hkeep]
      exact ⟨.inl, fun h ↦ h.elim id fun ⟨_, _, _, _, he⟩ ↦ absurd he hkeep⟩

/-- The last entry of a key that is kept decides its value. -/
theorem get?_ofList_filter_iff : (ofList (zs.filter keep)).get? k = some v ↔
    ∃ i, EntryAt zs keep i k v ∧ ∀ j w, EntryAt zs keep j k w → j ≤ i := by
  induction zs using List.reverseRecOn with
  | nil => exact iff_of_false nofun fun ⟨_, h, _⟩ ↦ entryAt_nil h
  | append_singleton zs e ih =>
    rw [ofList_filter_concat]
    by_cases hlast : keep e = true ∧ e.1 = k
    · -- the new entry stands behind all others of its key
      obtain ⟨hkeep, rfl⟩ := hlast
      rw [if_pos hkeep, get?_insert_self]
      have hnew : EntryAt (zs ++ [e]) keep zs.length e.1 e.2 := entryAt_concat.mpr (.inr ⟨rfl, rfl, hkeep⟩)
      constructor
      · rintro heq
        cases heq
        exact ⟨_, hnew, fun j w hj ↦ by have := hj.lt; simp at this; omega⟩
      · rintro ⟨i, hi, hmax⟩
        obtain rfl : i = zs.length := Nat.le_antisymm
          (by have := hi.lt; simp at this; omega) (hmax _ _ hnew)
        rw [(hi.value_eq hnew).2]
    · have hsame : ∀ j w, EntryAt (zs ++ [e]) keep j k w ↔ EntryAt zs keep j k w := by
        intro j w
        refine entryAt_concat.trans (or_iff_left ?_)
        rintro ⟨-, rfl, hkeep⟩
        exact hlast ⟨hkeep, rfl⟩
      simp only [hsame, ← ih]
      split
      · rename_i hkeep
        rw [get?_insert, if_neg fun he ↦ hlast ⟨hkeep, he⟩]
      · exact Iff.rfl

/-- An entry of `k` is kept before any of `l` is. -/
def Before (zs : List (κ × ν)) (keep : κ × ν → Bool) (k l : κ) : Prop :=
  ∃ i v, EntryAt zs keep i k v ∧ ∀ j w, EntryAt zs keep j l w → i < j

omit [DecidableEq κ] in
theorem Before.concat (h : Before zs keep k l) (e : κ × ν) : Before (zs ++ [e]) keep k l := by
  obtain ⟨i, v, hi, hlt⟩ := h
  refine ⟨i, v, entryAt_concat.mpr (.inl hi), fun j w hj ↦ ?_⟩
  rcases entryAt_concat.mp hj with hj | ⟨rfl, -, -⟩
  · exact hlt j w hj
  · exact hi.lt

/-- Keys stand in the order in which their first entries are kept. -/
theorem pairwise_before_keys : (ofList (zs.filter keep)).keys.Pairwise (Before zs keep) := by
  induction zs using List.reverseRecOn with
  | nil => exact .nil
  | append_singleton zs e ih =>
    have hold := ih.imp fun h ↦ Before.concat h e
    rw [ofList_filter_concat]
    split
    · rw [keys_insert]
      split
      · exact hold
      · rename_i hnew
        refine List.pairwise_append.mpr ⟨hold, List.pairwise_singleton _ _, fun k hk l hl ↦ ?_⟩
        obtain rfl := List.mem_singleton.mp hl
        obtain ⟨i, v, hi⟩ := mem_keys_ofList_filter.mp hk
        refine ⟨i, v, entryAt_concat.mpr (.inl hi), fun j w hj ↦ ?_⟩
        rcases entryAt_concat.mp hj with hj | ⟨rfl, -, -⟩
        · exact absurd (mem_keys_ofList_filter.mpr ⟨j, w, hj⟩) hnew
        · exact hi.lt
    · exact hold

end Dict

/-! ### Pairs of parameters and arguments -/

namespace Substitution

variable {w : World} {hint : Hint} {params : List TypeParameter} {args : List Hint}
  {p : TypeParameter} {a : Hint} {i : Nat}

/-- The parameter and the argument at a position are kept: the argument is another one than the
parameter itself. -/
def KeptAt (params : List TypeParameter) (args : List Hint) (i : Nat) (p : TypeParameter)
    (a : Hint) : Prop :=
  params[i]? = some p ∧ args[i]? = some a ∧ a ≠ .parameter p

/-- The argument at the last position of a parameter that is kept. -/
def LastKept (params : List TypeParameter) (args : List Hint) (p : TypeParameter) (a : Hint) : Prop :=
  ∃ i, KeptAt params args i p a ∧ ∀ j b, KeptAt params args j p b → j ≤ i

/-- The first position of `p` that is kept comes before any position of `q` that is. -/
def KeptBefore (params : List TypeParameter) (args : List Hint) (p q : TypeParameter) : Prop :=
  ∃ i a, KeptAt params args i p a ∧ ∀ j b, KeptAt params args j q b → i < j

/-- There is nothing to bind: no parameters, or every one stands for itself. -/
def Idle (params : List TypeParameter) (args : List Hint) : Prop :=
  params = [] ∨ args = params.map .parameter

/-- There is an argument, and a parameter for every one. -/
def Fits (params : List TypeParameter) (args : List Hint) : Prop :=
  args ≠ [] ∧ args.length ≤ params.length

/-- A plain argument of a singular parameter with a plain bound is no subtype of the bound. -/
def Violates (w : World) (p : TypeParameter) (a : Hint) : Prop :=
  p.variadic = false ∧ ∃ bound b x, w.bound? p = some bound ∧ bound.plain? = some b ∧
    a.plain? = some x ∧ isPlainSubtype w.classes x b = false

/-- A parameter is bound to an argument that violates its bound. -/
def Offends (w : World) (params : List TypeParameter) (args : List Hint) (p : TypeParameter)
    (a : Hint) : Prop :=
  LastKept params args p a ∧ Violates w p a

/-- What an application of `params` to `args` comes to. -/
structure Settles (w : World) (params : List TypeParameter) (args : List Hint)
    (x : Except Cause (Option (Dict TypeParameter Hint))) : Prop where
  /-- There is no table exactly if there is nothing to bind. -/
  idle : x = .ok none ↔ Idle params args
  /-- Otherwise it is malformed exactly if the arguments do not fit. -/
  arity : (∃ c, x = .error c ∧ c.diagnostic.code = .arity) ↔
    ¬ Idle params args ∧ ¬ Fits params args
  /-- Otherwise it violates a bound exactly if a parameter is bound to an argument that does. -/
  bound : (∃ c, x = .error c ∧ c.diagnostic.code = .bound) ↔
    ¬ Idle params args ∧ Fits params args ∧ ∃ p a, Offends w params args p a
  /-- It is reported of the parameter that is kept first among these, with the argument. -/
  culprit : ∀ c, x = .error c → c.diagnostic.code = .bound → ∃ p a, Offends w params args p a ∧
    c.diagnostic.culprits? = some [.hint a] ∧
      ∀ q b, Offends w params args q b → q = p ∨ KeptBefore params args p q
  /-- Otherwise there is a table. -/
  table : (∃ d, x = .ok (some d)) ↔
    ¬ Idle params args ∧ Fits params args ∧ ¬ ∃ p a, Offends w params args p a
  /-- A table binds just the parameters that are kept. -/
  keys : ∀ d, x = .ok (some d) → ∀ p, p ∈ d.keys ↔ ∃ i a, KeptAt params args i p a
  /-- Each one is bound to its last argument. -/
  value : ∀ d, x = .ok (some d) → ∀ p a, d.get? p = some a ↔ LastKept params args p a
  /-- None is bound to itself. -/
  proper : ∀ d, x = .ok (some d) → ∀ p, d.get? p ≠ some (.parameter p)
  /-- A parameter behind the last argument is bound only if it stands before, too. -/
  unbound : ∀ d, x = .ok (some d) → ∀ i p, args.length ≤ i → params[i]? = some p → p ∈ d.keys →
    ∃ j < args.length, params[j]? = some p

/-! ### Pairs that are kept as entries -/

/-- The pairs that are kept are the entries that are. -/
theorem keptAt_iff : KeptAt params args i p a ↔
    Dict.EntryAt (params.zip args) (fun e ↦ e.2 ≠ .parameter e.1) i p a := by
  unfold KeptAt Dict.EntryAt
  rw [List.getElem?_zip_eq_some, decide_eq_true_iff, and_assoc]

/-- A table binds the parameters of which a pair is kept. -/
theorem mem_keys_kept_iff :
    p ∈ (Dict.ofList (kept params args)).keys ↔ ∃ i a, KeptAt params args i p a := by
  simp only [keptAt_iff]
  exact Dict.mem_keys_ofList_filter

/-- It binds each to the argument that is kept last. -/
theorem get?_kept_iff :
    (Dict.ofList (kept params args)).get? p = some a ↔ LastKept params args p a := by
  unfold LastKept
  simp only [keptAt_iff]
  exact Dict.get?_ofList_filter_iff

/-- Its parameters stand in the order in which they are first kept. -/
theorem pairwise_keptBefore :
    (Dict.ofList (kept params args)).keys.Pairwise (KeptBefore params args) := by
  unfold KeptBefore
  simp only [keptAt_iff]
  exact Dict.pairwise_before_keys

/-! ### Violations -/

/-- A binding is no violation unless it violates the bound of its parameter. -/
theorem violation?_eq_none_iff : violation? w hint (p, a) = none ↔ ¬ Violates w p a := by
  unfold violation? Violates
  dsimp only
  cases p.variadic with
  | true => simp
  | false =>
    cases w.bound? p with
    | none => simp
    | some bound =>
      cases hb : bound.plain? with
      | none => simp [hb]
      | some b =>
        cases hx : a.plain? with
        | none => simp
        | some x => simp [hb]

/-- A violation is reported with the application, the parameter, the argument and the bound. -/
theorem of_violation? {c : Cause} (h : violation? w hint (p, a) = some c) :
    Violates w p a ∧ ∃ bound, c = .boundViolated hint p a bound := by
  have hviolates : Violates w p a := by
    by_contra hnot
    rw [violation?_eq_none_iff.mpr hnot] at h
    cases h
  refine ⟨hviolates, ?_⟩
  obtain ⟨hvariadic, bound, b, x, hbound, hb, hx, hsub⟩ := hviolates
  unfold violation? at h
  simp only [hvariadic, hbound, hb, hx, hsub, Bool.false_eq_true, if_false] at h
  exact ⟨bound, (Option.some.inj h).symm⟩

/-- The entries of a table are the bindings that positions say. -/
theorem mem_entries_kept_iff :
    (p, a) ∈ (Dict.ofList (kept params args)).entries ↔ LastKept params args p a := by
  rw [← get?_kept_iff]
  exact ⟨Dict.find_of_mem (Dict.nodup_keys_ofList _), Dict.mem_of_get?⟩

/-- No entry of a table violates a bound exactly if no parameter is bound to an argument that
does. -/
theorem findSome?_violation?_eq_none_iff :
    (Dict.ofList (kept params args)).entries.findSome? (violation? w hint) = none ↔
      ¬ ∃ p a, Offends w params args p a := by
  rw [List.findSome?_eq_none_iff]
  constructor
  · rintro hnone ⟨p, a, hlast, hviolates⟩
    exact violation?_eq_none_iff.mp (hnone (p, a) (mem_entries_kept_iff.mpr hlast)) hviolates
  · rintro hnone ⟨p, a⟩ he
    exact violation?_eq_none_iff.mpr fun hviolates ↦
      hnone ⟨p, a, mem_entries_kept_iff.mp he, hviolates⟩

/-- The first entry that violates a bound is the one of the parameter that is kept first. -/
theorem first_of_findSome?_violation? {c : Cause}
    (h : (Dict.ofList (kept params args)).entries.findSome? (violation? w hint) = some c) :
    ∃ p a, Offends w params args p a ∧ (∃ bound, c = .boundViolated hint p a bound) ∧
      ∀ q b, Offends w params args q b → q = p ∨ KeptBefore params args p q := by
  obtain ⟨before, ⟨p, a⟩, behind, hsplit, hc, hbefore⟩ := List.findSome?_eq_some_iff.mp h
  obtain ⟨hviolates, hcause⟩ := of_violation? hc
  have hentry : (p, a) ∈ (Dict.ofList (kept params args)).entries := by
    rw [hsplit]
    exact List.mem_append_right _ List.mem_cons_self
  refine ⟨p, a, ⟨mem_entries_kept_iff.mp hentry, hviolates⟩, hcause, fun q b hq ↦ ?_⟩
  have hother : (q, b) ∈ before ++ (p, a) :: behind := hsplit ▸ mem_entries_kept_iff.mpr hq.1
  rcases List.mem_append.mp hother with hq' | hq'
  · -- an entry before the first violation violates nothing
    exact absurd hq.2 (violation?_eq_none_iff.mp (hbefore _ hq'))
  · rcases List.mem_cons.mp hq' with heq | hq'
    · exact .inl (Prod.mk.inj heq).1
    · have hkeys : (Dict.ofList (kept params args)).keys =
          before.map Prod.fst ++ p :: behind.map Prod.fst := by
        show (Dict.ofList (kept params args)).entries.map Prod.fst = _
        rw [hsplit, List.map_append, List.map_cons]
      have hpairs : (before.map Prod.fst ++ p :: behind.map Prod.fst).Pairwise
          (KeptBefore params args) := hkeys ▸ pairwise_keptBefore
      have hp := List.pairwise_cons.mp (List.pairwise_append.mp hpairs).2.1
      exact .inr (hp.1 q (List.mem_map_of_mem (f := Prod.fst) hq'))

/-! ### Outcomes -/

/-- Whether there is anything to bind can be told from the lists. -/
theorem idle_iff : Idle params args ↔
    (params.isEmpty || Hint.sameList args (params.map .parameter)) = true := by
  rw [Bool.or_eq_true, List.isEmpty_iff]
  exact or_congr_right decide_eq_true_iff.symm

theorem compute_of_idle (h : Idle params args) : compute w hint params args = .ok none := by
  unfold compute
  rw [if_pos (idle_iff.mp h)]

theorem compute_of_not_fits (hidle : ¬ Idle params args) (hfits : ¬ Fits params args) :
    ∃ c, compute w hint params args = .error c ∧ c.diagnostic.code = .arity := by
  unfold compute
  rw [if_neg (mt idle_iff.mpr hidle)]
  split
  · exact ⟨_, rfl, rfl⟩
  · rename_i hargs
    have hlong : params.length < args.length := by
      refine Nat.lt_of_not_le fun hle ↦ hfits ⟨?_, hle⟩
      rwa [List.isEmpty_iff] at hargs
    rw [if_pos hlong]
    exact ⟨_, rfl, rfl⟩

/-- Where arguments fit, the first violation among the entries decides. -/
theorem compute_of_fits (hidle : ¬ Idle params args) (hfits : Fits params args) :
    compute w hint params args =
      match (Dict.ofList (kept params args)).entries.findSome? (violation? w hint) with
      | some c => .error c
      | none => .ok (some (Dict.ofList (kept params args))) := by
  unfold compute
  refine (if_neg (mt idle_iff.mpr hidle)).trans ?_
  refine (if_neg (mt List.isEmpty_iff.mp hfits.1)).trans ?_
  exact if_neg (Nat.not_lt.mpr hfits.2)

/-- A table is made just of the pairs that are kept. -/
theorem eq_of_compute {d : Dict TypeParameter Hint}
    (h : compute w hint params args = .ok (some d)) : d = Dict.ofList (kept params args) := by
  have hidle : ¬ Idle params args := fun hidle ↦ by
    rw [compute_of_idle hidle] at h
    cases h
  have hfits : Fits params args := by
    by_contra hfits
    obtain ⟨c, hc, -⟩ : ∃ c, compute w hint params args = .error c ∧ c.diagnostic.code = .arity :=
      compute_of_not_fits hidle hfits
    rw [hc] at h
    cases h
  rw [compute_of_fits hidle hfits] at h
  split at h
  · cases h
  · exact (Option.some.inj (Except.ok.inj h)).symm

theorem LastKept.ne_self (h : LastKept params args p a) : a ≠ .parameter p :=
  have ⟨_, hi, _⟩ := h
  hi.2.2

theorem KeptAt.lt (h : KeptAt params args i p a) : i < args.length :=
  (List.getElem?_eq_some_iff.mp h.2.1).1

/-- The four ways in which an application can end. -/
theorem compute_outcome (w : World) (hint : Hint) (params : List TypeParameter) (args : List Hint) :
    (Idle params args ∧ compute w hint params args = .ok none) ∨
    (¬ Idle params args ∧ ¬ Fits params args ∧
      ∃ c, compute w hint params args = .error c ∧ c.diagnostic.code = .arity) ∨
    (¬ Idle params args ∧ Fits params args ∧ ∃ p a bound,
      compute w hint params args = .error (.boundViolated hint p a bound) ∧
      Offends w params args p a ∧
      ∀ q b, Offends w params args q b → q = p ∨ KeptBefore params args p q) ∨
    (¬ Idle params args ∧ Fits params args ∧ (¬ ∃ p a, Offends w params args p a) ∧
      compute w hint params args = .ok (some (Dict.ofList (kept params args)))) := by
  by_cases hidle : Idle params args
  · exact .inl ⟨hidle, compute_of_idle hidle⟩
  by_cases hfits : Fits params args
  · rw [compute_of_fits hidle hfits]
    cases hfind : (Dict.ofList (kept params args)).entries.findSome? (violation? w hint) with
    | some c =>
      obtain ⟨p, a, hoffends, ⟨bound, rfl⟩, hfirst⟩ := first_of_findSome?_violation? hfind
      exact .inr (.inr (.inl ⟨hidle, hfits, p, a, bound, rfl, hoffends, hfirst⟩))
    | none =>
      have hnone := findSome?_violation?_eq_none_iff.mp hfind
      exact .inr (.inr (.inr ⟨hidle, hfits, hnone, rfl⟩))
  · exact .inr (.inl ⟨hidle, hfits, compute_of_not_fits hidle hfits⟩)

/-- What an application comes to is what its positions say, whatever parameters it repeats. -/
theorem compute_settles (w : World) (hint : Hint) (params : List TypeParameter) (args : List Hint) :
    Settles w params args (compute w hint params args) := by
  have hkeys : ∀ d, compute w hint params args = .ok (some d) →
      ∀ p, p ∈ d.keys ↔ ∃ i a, KeptAt params args i p a := by
    rintro d hd
    obtain rfl := eq_of_compute hd
    exact fun p ↦ mem_keys_kept_iff
  have hvalue : ∀ d, compute w hint params args = .ok (some d) →
      ∀ p a, d.get? p = some a ↔ LastKept params args p a := by
    rintro d hd
    obtain rfl := eq_of_compute hd
    exact fun p a ↦ get?_kept_iff
  have hproper : ∀ d, compute w hint params args = .ok (some d) →
      ∀ p, d.get? p ≠ some (.parameter p) :=
    fun d hd p hp ↦ ((hvalue d hd p _).mp hp).ne_self rfl
  have hunbound : ∀ d, compute w hint params args = .ok (some d) → ∀ i p, args.length ≤ i →
      params[i]? = some p → p ∈ d.keys → ∃ j < args.length, params[j]? = some p := by
    intro d hd i p _ _ hmem
    obtain ⟨j, a, hj⟩ := (hkeys d hd p).mp hmem
    exact ⟨j, hj.lt, hj.1⟩
  rcases compute_outcome w hint params args with
    ⟨hidle, hx⟩ | ⟨hidle, hfits, c, hx, hc⟩ | ⟨hidle, hfits, p, a, bound, hx, hoffends, hfirst⟩ |
      ⟨hidle, hfits, hnone, hx⟩
  · refine ⟨?_, ?_, ?_, ?_, ?_, hkeys, hvalue, hproper, hunbound⟩ <;> simp [hx, hidle]
  · refine ⟨?_, ?_, ?_, ?_, ?_, hkeys, hvalue, hproper, hunbound⟩ <;>
      simp [hx, hidle, hfits, hc]
  · have hcode : (Cause.boundViolated hint p a bound).diagnostic.code = .bound := rfl
    refine ⟨?_, ?_, ?_, ?_, ?_, hkeys, hvalue, hproper, hunbound⟩
    · simp [hx, hidle]
    · simp [hx, hidle, hfits, hcode]
    · simpa [hx, hidle, hfits, hcode] using ⟨p, a, hoffends⟩
    · rw [hx]
      rintro c hc -
      obtain rfl := Except.error.inj hc
      exact ⟨p, a, hoffends, rfl, hfirst⟩
    · simpa [hx, hidle, hfits] using ⟨p, a, hoffends⟩
  · refine ⟨?_, ?_, ?_, ?_, ?_, hkeys, hvalue, hproper, hunbound⟩ <;>
      simp [hx, hidle, hfits, hnone]

end Substitution

end TypeHints
