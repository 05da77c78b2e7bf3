import Mathlib.Data.List.Induction
import TypeHints.Proofs.Leads
import TypeHints.Proofs.NormalForm

/-!
# Unions grouped in other ways

A union may hold unions, which may hold unions again, and a member may be repeated at any depth.
None of this matters to reduction: all that counts is which hints stand at the leaves and which of
them is the first one of its key (`reduce_regrouped`).

`Hint.Unfolds` and `Hint.Firsts` say what these two mean without a record of what has been seen;
`Hint.flatMembers_eq_iff` says that flattening computes just that. `Firsts` is built from the end of
the list, as it asks of a hint what stands before it, while flattening goes from the front; that is
why its induction takes a last hint away.

What a union is reduced to is said for each number of first leaves:

* with a leaf that admits everything, whatever the others are, nothing is to be checked;
* with no leaf the union is refused;
* with one leaf it is reduced as this leaf;
* with more it comes to the given union if that is flat already, else to a representative of the
  flat one. Both ways end in unions of one key, and what is handed on is the same.

A hint that admits everything can be told by its key, so it is among the first leaves if it is among
the leaves (`Firsts.any_mem_iff`). Flattening a flat list changes nothing
(`flatMembers_flatMembers`).
-/

namespace TypeHints

open Attempt

/-! ### Leaves and first hints -/

namespace Hint

/-- Members have these leaves, from left to right: a union stands for its own members. -/
inductive Unfolds : List Hint → List Hint → Prop
  | nil : Unfolds [] []
  | leaf {h : Hint} {hs ms : List Hint} (single : h.isUnion = false) (rest : Unfolds hs ms) :
    Unfolds (h :: hs) (h :: ms)
  | union (label : Label) {ks hs xs ms : List Hint} (inner : Unfolds ks xs) (rest : Unfolds hs ms) :
    Unfolds (.union label ks :: hs) (xs ++ ms)

/-- The hints whose key no earlier hint has, in order. -/
inductive Firsts : List Hint → List Hint → Prop
  | nil : Firsts [] []
  | keep {h : Hint} {hs ms : List Hint} (front : Firsts hs ms)
    (new : ∀ k ∈ hs, k.stableKey ≠ h.stableKey) : Firsts (hs ++ [h]) (ms ++ [h])
  | drop {h : Hint} {hs ms : List Hint} (front : Firsts hs ms)
    (old : ∃ k ∈ hs, k.stableKey = h.stableKey) : Firsts (hs ++ [h]) ms

variable {hs ks xs ms : List Hint}

/-- Members have one list of leaves. -/
theorem Unfolds.leavesAll_eq (h : Unfolds hs xs) : leavesAll hs = xs := by
  induction h with
  | nil => rfl
  | leaf single _ ih => rw [leavesAll, leaves_of_not_isUnion single, ih, List.singleton_append]
  | union _ _ _ ihk ih => rw [leavesAll, leaves, ihk, ih]

/-- A last hint with a key of its own is kept. -/
theorem distinct_concat_of_new {h : Hint} (new : ∀ k ∈ hs, k.stableKey ≠ h.stableKey) :
    ∀ {seen : List String}, h.stableKey ∉ seen →
      distinct seen (hs ++ [h]) = distinct seen hs ++ [h] := by
  induction hs with
  | nil =>
    intro seen hseen
    exact if_neg hseen
  | cons k hs ih =>
    intro seen hseen
    obtain ⟨hk, hrest⟩ := List.forall_mem_cons.mp new
    rw [List.cons_append, distinct, distinct]
    split
    · exact ih hrest hseen
    · rw [ih hrest fun hmem ↦ (List.mem_cons.mp hmem).elim (hk ·.symm) hseen, List.cons_append]

/-- A last hint is dropped if its key has been seen before the list, or in it. -/
theorem distinct_concat_of_old {h : Hint} : ∀ {seen : List String},
    (h.stableKey ∈ seen ∨ ∃ k ∈ hs, k.stableKey = h.stableKey) →
      distinct seen (hs ++ [h]) = distinct seen hs := by
  induction hs with
  | nil =>
    rintro seen (hseen | ⟨k, hk, -⟩)
    · exact if_pos hseen
    · cases hk
  | cons k hs ih =>
    intro seen old
    rw [List.cons_append, distinct, distinct]
    rcases old with hseen | ⟨x, hx, heq⟩
    · rw [ih (.inl hseen), ih (.inl (List.mem_cons_of_mem _ hseen))]
    · rcases List.mem_cons.mp hx with rfl | hx
      · have hbehind : h.stableKey ∈ x.stableKey :: seen := heq ▸ List.mem_cons_self
        rw [ih (.inl hbehind)]
        split
        · rename_i hseen
          exact ih (.inl (heq ▸ hseen))
        · rfl
      · rw [ih (.inr ⟨x, hx, heq⟩), ih (.inr ⟨x, hx, heq⟩)]

/-- A list has one list of first hints. -/
theorem Firsts.distinct_eq (h : Firsts hs ms) : distinct [] hs = ms := by
  induction h with
  | nil => rfl
  | keep _ new ih => rw [distinct_concat_of_new new List.not_mem_nil, ih]
  | drop _ old ih => rw [distinct_concat_of_old (.inr old), ih]

/-- Every list has first hints of its keys. -/
theorem exists_firsts (hs : List Hint) : ∃ ms, Firsts hs ms := by
  induction hs using List.reverseRecOn with
  | nil => exact ⟨[], .nil⟩
  | append_singleton hs h ih =>
    obtain ⟨ms, hms⟩ := ih
    by_cases old : ∃ k ∈ hs, k.stableKey = h.stableKey
    · exact ⟨ms, hms.drop old⟩
    · exact ⟨ms ++ [h], hms.keep fun k hk heq ↦ old ⟨k, hk, heq⟩⟩

theorem firsts_distinct (hs : List Hint) : Firsts hs (distinct [] hs) := by
  obtain ⟨ms, hms⟩ := exists_firsts hs
  rwa [hms.distinct_eq]

mutual

theorem unfolds_cons {hs xs : List Hint} (h : Unfolds hs xs) : ∀ k : Hint,
    Unfolds (k :: hs) (leaves k ++ xs)
  | .union l ks => .union l (unfolds_leavesAll ks) h
  | .any | .primitive _ | .ofClass _ | .literal _ _ | .tuple _ _ | .parameter _ | .template _
  | .alias _ | .subscripted _ _ _ | .forwardRef _ | .deferred _ _ => .leaf rfl h

/-- All members have leaves. -/
theorem unfolds_leavesAll : ∀ hs : List Hint, Unfolds hs (leavesAll hs)
  | [] => .nil
  | h :: hs => unfolds_cons (unfolds_leavesAll hs) h

end

/-- Flattening gives the first leaf of each key. -/
theorem flatMembers_eq_iff : flatMembers hs = ms ↔ ∃ xs, Unfolds hs xs ∧ Firsts xs ms := by
  constructor
  · rintro rfl
    exact ⟨_, unfolds_leavesAll hs, firsts_distinct _⟩
  · rintro ⟨xs, hxs, hms⟩
    rw [flatMembers, hxs.leavesAll_eq, hms.distinct_eq]

theorem eq_any_of_stableKey {h : Hint} (hk : h.stableKey = any.stableKey) : h = .any := by
  have hchars := congrArg String.toList hk
  cases h with
  | any => rfl
  | _ => simp [stableKey, key, nominalKey, originKey] at hchars

/-- No other hint has the key of the one that admits everything. -/
theorem Firsts.any_mem_iff (h : Firsts hs ms) : .any ∈ ms ↔ .any ∈ hs := by
  rw [← h.distinct_eq]
  refine ⟨mem_of_mem_distinct, fun hany ↦ ?_⟩
  rcases exists_mem_distinct hany [] with hseen | ⟨k, hk, heq⟩
  · cases hseen
  · rwa [eq_any_of_stableKey heq] at hk

/-- First hints that are no unions are flat already. -/
theorem flatMembers_flatMembers (hs : List Hint) : flatMembers (flatMembers hs) = flatMembers hs :=
  flatMembers_eq_self_iff.mpr
    ⟨fun _ hh ↦ isUnion_of_mem_leavesAll hs (mem_of_mem_distinct hh), pairwise_distinct _ _⟩

end Hint

/-! ### Reducing a union -/

section Unions

variable {w : World} {site : Site} {depth : Nat} {l : Label} {hs ms : List Hint} {p? : Option Sane}
  {r : Run}

/-- A union with a leaf that admits everything need not be checked. -/
theorem reduce_of_any_mem (hany : .any ∈ Hint.flatMembers hs) :
    reduce w site (depth + 1) (.union l hs) p? r = (.ok .ignorable, r) := by
  refine reduce_succ_done ?_
  show reduceUnion l hs p? r = _
  rw [reduceUnion, if_pos hany]
  rfl

/-- A union without leaves is refused. -/
theorem reduce_of_flat_nil (hflat : Hint.flatMembers hs = []) :
    reduce w site (depth + 1) (.union l hs) p? r = (.error (.cause .emptyUnion), r) := by
  refine reduce_succ_error ?_
  show reduceUnion l hs p? r = _
  rw [reduceUnion, hflat, if_neg List.not_mem_nil]
  rfl

/-- The union that members come to has the key of a flat one, and is the given one if this is flat
already. -/
theorem canonicalUnion_apply (hi : r.engine.interner.Sound) (l : Label) (hs ms : List Hint) :
    ∃ h r', canonicalUnion l hs ms r = (.ok h, r') ∧ h.stableKey = (Hint.union l ms).stableKey ∧
      h.isUnion = true ∧ (ms = hs → h = .union l hs) := by
  unfold canonicalUnion
  split
  · rename_i heq
    exact ⟨_, _, rfl, by rw [heq], rfl, fun _ ↦ rfl⟩
  · rename_i hne
    have hkey := hi.stableKey_intern (.union r.store.next ms)
    have hkind := hi.isInternable_intern (.union r.store.next ms)
    exact ⟨_, _, rfl, hkey, Hint.isUnion_of_key_eq hkind hkey, fun heq ↦ absurd heq hne⟩

/-- A union of several members is reduced to a union that has the key of its flat members and hands
on what the parent does. -/
theorem reduce_of_flat_many (w : World) (site : Site) (depth : Nat) (l : Label)
    (p? : Option Sane) (hi : r.engine.interner.Sound) (hany : .any ∉ Hint.flatMembers hs)
    (htwo : 2 ≤ (Hint.flatMembers hs).length) :
    ∃ s r', reduce w site (depth + 1) (.union l hs) p? r = (.ok s, r') ∧ s.HandsOn p? ∧
      s.hint.isUnion = true ∧
      s.hint.stableKey = (Hint.union l (Hint.flatMembers hs)).stableKey ∧
      (Hint.flatMembers hs = hs → s.hint = .union l hs) := by
  obtain ⟨h, r₁, hu, hkey, hunion, hself⟩ := canonicalUnion_apply hi l hs (Hint.flatMembers hs)
  have hsettle : Run.settle h p? none r₁ =
      (.ok (.done (.create r₁.store.next h p? none)), (Run.settle h p? none r₁).2) := rfl
  have hstep : reduceUnion l hs p? r =
      (.ok (.done (.create r₁.store.next h p? none)), (Run.settle h p? none r₁).2) := by
    unfold reduceUnion
    rw [if_neg hany]
    rcases hm : Hint.flatMembers hs with - | ⟨k, - | ⟨k', ks⟩⟩
    · rw [hm] at htwo
      cases htwo
    · rw [hm] at htwo
      exact absurd htwo (by simp)
    · rw [hm] at hu
      exact (bind_apply_ok (f := fun u ↦ Run.settle u p? none) hu).trans hsettle
  exact ⟨_, _, reduce_succ_done hstep, ⟨rfl, rfl, rfl⟩, hunion, hkey, hself⟩

end Unions

/-- Two unions with the same first leaves are reduced alike from one state below one parent: both
are ignorable if a leaf admits everything; both are refused if there is no leaf; if one leaf is left,
both are reduced as this leaf is; otherwise both come to unions with one key that hand on the same
things. A union that is flat already is left as it is. -/
theorem reduce_regrouped {w : World} {site : Site} {depth : Nat} {p? : Option Sane} {r : Run}
    {hs ks xs ys ms : List Hint} {l m : Label} (hi : r.engine.interner.Reachable)
    (hxs : Hint.Unfolds hs xs) (hms : Hint.Firsts xs ms) (hys : Hint.Unfolds ks ys)
    (hms' : Hint.Firsts ys ms) :
    (.any ∈ xs → reduce w site (depth + 1) (.union l hs) p? r = (.ok .ignorable, r) ∧
      reduce w site (depth + 1) (.union m ks) p? r = (.ok .ignorable, r)) ∧
    (ms = [] → ∃ c : Cause, c.diagnostic.code = .rawHint ∧
      reduce w site (depth + 1) (.union l hs) p? r = (.error (.cause c), r) ∧
      reduce w site (depth + 1) (.union m ks) p? r = (.error (.cause c), r)) ∧
    (∀ h, ms = [h] → .any ∉ xs →
      reduce w site (depth + 1) (.union l hs) p? r = reduce w site depth h p? r ∧
      reduce w site (depth + 1) (.union m ks) p? r = reduce w site depth h p? r) ∧
    (2 ≤ ms.length → .any ∉ xs → ∃ s t,
      (reduce w site (depth + 1) (.union l hs) p? r).1 = .ok s ∧
      (reduce w site (depth + 1) (.union m ks) p? r).1 = .ok t ∧
      s.hint.isUnion = true ∧ t.hint.isUnion = true ∧ s.hint.stableKey = t.hint.stableKey ∧
      s.table = t.table ∧ s.guard = t.guard ∧ s.overridden = t.overridden ∧
      (hs = ms → s.hint = .union l hs)) ∧
    Hint.flatMembers ms = ms := by
  have hflat : Hint.flatMembers hs = ms := Hint.flatMembers_eq_iff.mpr ⟨xs, hxs, hms⟩
  have hflat' : Hint.flatMembers ks = ms := Hint.flatMembers_eq_iff.mpr ⟨ys, hys, hms'⟩
  -- both unions are flattened to the first leaves, and the cases are those of their number
  refine ⟨fun hany ↦ ?_, ?_, ?_, ?_, ?_⟩
  · have hmem : .any ∈ ms := hms.any_mem_iff.mpr hany
    exact ⟨reduce_of_any_mem (hflat ▸ hmem), reduce_of_any_mem (hflat' ▸ hmem)⟩
  · rintro rfl
    exact ⟨_, rfl, reduce_of_flat_nil hflat, reduce_of_flat_nil hflat'⟩
  · rintro h rfl hany
    have hne : h ≠ .any := by
      rintro rfl
      exact hany (hms.any_mem_iff.mp (List.mem_singleton_self _))
    exact ⟨reduce_of_flat_singleton hflat hne depth, reduce_of_flat_singleton hflat' hne depth⟩
  · intro htwo hany
    have hany' : .any ∉ ms := fun hmem ↦ hany (hms.any_mem_iff.mp hmem)
    obtain ⟨s, r₁, hs₁, hon, hunion, hkey, hself⟩ :=
      reduce_of_flat_many w site depth l p? hi.sound (hflat ▸ hany') (hflat ▸ htwo)
    obtain ⟨t, r₂, ht₂, hon', hunion', hkey', -⟩ :=
      reduce_of_flat_many w site depth m p? hi.sound (hflat' ▸ hany') (hflat' ▸ htwo)
    have hsame : s.hint.stableKey = t.hint.stableKey := by
      rw [hkey, hkey', hflat, hflat']
      rfl
    refine ⟨s, t, by rw [hs₁], by rw [ht₂], hunion, hunion', hsame, ?_, ?_, ?_, ?_⟩
    · rw [hon.table, hon'.table]
    · rw [hon.guard, hon'.guard]
    · rw [hon.overridden, hon'.overridden]
    · exact fun heq ↦ hself (hflat.trans heq.symm)
  · rw [← hflat, Hint.flatMembers_flatMembers]

namespace Grouped

/-- The members of `string | (number | string)`. -/
def right : List Hint :=
  [.primitive .string, .union 50 [.primitive .number, .primitive .string]]

/-- The members of `((string | never) | number) | number`, with no member in `never`. -/
def left : List Hint :=
  [.union 51 [.union 52 [.primitive .string, .union 53 []], .primitive .number],
    .primitive .number]

/-- The leaves that both have in common. -/
def leaves : List Hint := [.primitive .string, .primitive .number]

/-- A run in which nothing has been interned. -/
def start : Run := ⟨{ Store.initial with next := 56 }, .fresh, none, []⟩

theorem unfolds_right : Hint.Unfolds right (leaves ++ [.primitive .string]) :=
  Hint.unfolds_leavesAll right

theorem unfolds_left : Hint.Unfolds left (leaves ++ [.primitive .number]) :=
  Hint.unfolds_leavesAll left

theorem firsts_right : Hint.Firsts (leaves ++ [.primitive .string]) leaves := by
  have hdistinct : Hint.distinct [] (leaves ++ [.primitive .string]) = leaves := by decide +kernel
  exact hdistinct ▸ Hint.firsts_distinct _

theorem firsts_left : Hint.Firsts (leaves ++ [.primitive .number]) leaves := by
  have hdistinct : Hint.distinct [] (leaves ++ [.primitive .number]) = leaves := by decide +kernel
  exact hdistinct ▸ Hint.firsts_distinct _

end Grouped

open Grouped in
/-- Both come to unions with one key. -/
theorem reduce_regrouped_pair : start.engine.interner.Reachable ∧
    Hint.Unfolds right (leaves ++ [.primitive .string]) ∧
    Hint.Firsts (leaves ++ [.primitive .string]) leaves ∧
    Hint.Unfolds left (leaves ++ [.primitive .number]) ∧
    Hint.Firsts (leaves ++ [.primitive .number]) leaves ∧
    ∃ s t, (reduce .builtin SharedKey.site 1 (.union 54 right) none start).1 = .ok s ∧
      (reduce .builtin SharedKey.site 1 (.union 55 left) none start).1 = .ok t ∧
      s.hint.stableKey = t.hint.stableKey := by
  have hreduced := @reduce_regrouped .builtin SharedKey.site 0 none start _ _ _ _ _ 54 55 .empty
    unfolds_right firsts_right unfolds_left firsts_left
  have hany : .any ∉ leaves ++ [.primitive .string] := by decide
  obtain ⟨s, t, hs, ht, -, -, hkey, -⟩ := hreduced.2.2.2.1 (Nat.le_refl 2) hany
  exact ⟨.empty, unfolds_right, firsts_right, unfolds_left, firsts_left, s, t, hs, ht, hkey⟩

end TypeHints
