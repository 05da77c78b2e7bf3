import Mathlib.Data.List.Dedup
import TypeHints.Proofs.Bindings

/-!
# Memo tables

A memo table answers a question with the value that was made for it, and makes one only for a
question that is new. It files values under texts, its keys. `Memo` says how the answers so far and
the table go together: every answer is filed under the key of its question, the table holds nothing
else, and values made apart carry different labels.

A value is `Made` for its question in the way that the owner of the table says. There are two
owners: the registry of forward references, whose questions are names with scopes, and the cache of
substitutions, whose questions are applications. What they have in common is stated here once.

The two ways to answer keep all this (`Memo.hit`, `Memo.miss`). A hit rests on the one fact that a
table cannot see for itself: no other question asked so far has the key of the one that is asked.
The owner knows why this is so, from how it makes keys. From the invariant it follows that

* there is one value for each question (`Memo.value_eq`);
* there is one question for each value (`Memo.label_eq_iff`);
* a table has as many values as there are different questions (`Memo.size_eq`), as nothing is ever
  filed but under the key of a question that was asked.
-/

namespace TypeHints

/-- The answers so far and the table that they were looked up in. -/
structure Memo {α ν : Type} (key : α → String) (label : ν → Nat) (Made : α → ν → Prop) (next : Nat)
    (answers : List (α × ν)) (table : Dict String ν) : Prop where
  /-- No key has two values. -/
  nodup : table.keys.Nodup
  /-- Answers are filed under the keys of their questions. -/
  filed : ∀ e ∈ answers, table.get? (key e.1) = some e.2
  /-- Every key in the table is the key of a question that was asked. -/
  asked : ∀ k v, table.get? k = some v → ∃ e ∈ answers, key e.1 = k
  /-- Every answer was made for its question. -/
  made : ∀ e ∈ answers, Made e.1 e.2
  /-- Labels from `next` on are free. -/
  below : ∀ e ∈ answers, label e.2 < next
  /-- A value answers one question. -/
  apart : ∀ e ∈ answers, ∀ f ∈ answers, label e.2 = label f.2 → e.1 = f.1

namespace Memo

variable {α ν : Type} {key : α → String} {label : ν → Nat} {Made : α → ν → Prop} {next : Nat}
  {answers : List (α × ν)} {table : Dict String ν} {a : α} {v : ν}

/-- An empty table has answered nothing. -/
theorem empty : Memo key label Made next [] (∅ : Dict String ν) where
  nodup := .nil
  filed := nofun
  asked := nofun
  made := nofun
  below := nofun
  apart := nofun

/-- More labels may be given out in between. -/
theorem mono {next' : Nat} (h : Memo key label Made next answers table) (hle : next ≤ next') :
    Memo key label Made next' answers table :=
  { h with below := fun e he ↦ Nat.lt_of_lt_of_le (h.below e he) hle }

/-- A value that is found was made for the question that is asked. -/
theorem mem_of_get? (h : Memo key label Made next answers table) (hv : table.get? (key a) = some v)
    (hkey : ∀ e ∈ answers, key e.1 = key a → e.1 = a) : (a, v) ∈ answers := by
  obtain ⟨e, he, hk⟩ := h.asked _ _ hv
  have hfst : e.1 = a := hkey e he hk
  have hsnd : e.2 = v := by
    have hfiled := h.filed e he
    rw [hk, hv] at hfiled
    exact (Option.some.inj hfiled).symm
  rwa [← hfst, ← hsnd]

/-- A question whose key is in the table is answered from it. -/
theorem hit (h : Memo key label Made next answers table) (hv : table.get? (key a) = some v)
    (hkey : ∀ e ∈ answers, key e.1 = key a → e.1 = a) :
    Memo key label Made next (answers ++ [(a, v)]) table := by
  have hmem : (a, v) ∈ answers := h.mem_of_get? hv hkey
  -- the answer repeats an earlier one, so that nothing new has to be shown
  have hold : ∀ e ∈ answers ++ [(a, v)], e ∈ answers := by
    intro e he
    rw [List.mem_append, List.mem_singleton] at he
    exact he.elim id fun heq ↦ heq ▸ hmem
  constructor
  · exact h.nodup
  · exact fun e he ↦ h.filed e (hold e he)
  · intro k v hk
    obtain ⟨e, he, hkey⟩ := h.asked k v hk
    exact ⟨e, List.mem_append_left _ he, hkey⟩
  · exact fun e he ↦ h.made e (hold e he)
  · exact fun e he ↦ h.below e (hold e he)
  · exact fun e he f hf ↦ h.apart e (hold e he) f (hold f hf)

/-- A question whose key is not in the table gets a value of its own. -/
theorem miss (h : Memo key label Made next answers table) (hnone : table.get? (key a) = none)
    (hmade : Made a v) (hv : label v = next) :
    Memo key label Made (next + 1) (answers ++ [(a, v)]) (table.insert (key a) v) := by
  have hcases : ∀ e ∈ answers ++ [(a, v)], e ∈ answers ∨ e = (a, v) := by
    intro e he
    rwa [List.mem_append, List.mem_singleton] at he
  constructor
  · exact Dict.nodup_keys_insert h.nodup _ _
  · intro e he
    rcases hcases e he with he | rfl
    · exact Dict.within_insert v hnone _ _ (h.filed e he)
    · exact Dict.get?_insert_self _ _ _
  · intro k u hk
    rw [Dict.get?_insert] at hk
    split at hk
    · exact ⟨(a, v), by simp, ‹_›⟩
    · obtain ⟨e, he, hkey⟩ := h.asked k u hk
      exact ⟨e, List.mem_append_left _ he, hkey⟩
  · intro e he
    rcases hcases e he with he | rfl
    · exact h.made e he
    · exact hmade
  · intro e he
    rcases hcases e he with he | rfl
    · exact Nat.lt_succ_of_lt (h.below e he)
    · show label v < next + 1
      omega
  · intro e he f hf heq
    rcases hcases e he with he | rfl <;> rcases hcases f hf with hf | rfl
    · exact h.apart e he f hf heq
    · have hlt := h.below e he
      have hlabel : label e.2 = label v := heq
      omega
    · have hlt := h.below f hf
      have hlabel : label v = label f.2 := heq
      omega
    · rfl

section Answers

variable {e f : α × ν}

/-- Equal questions have equal answers. -/
theorem value_eq (h : Memo key label Made next answers table) (he : e ∈ answers) (hf : f ∈ answers)
    (heq : e.1 = f.1) : e.2 = f.2 := by
  have hfiled := h.filed e he
  rw [heq, h.filed f hf] at hfiled
  exact (Option.some.inj hfiled).symm

/-- Two answers are one value just if the questions are equal. -/
theorem label_eq_iff (h : Memo key label Made next answers table) (he : e ∈ answers)
    (hf : f ∈ answers) : label e.2 = label f.2 ↔ e.1 = f.1 :=
  ⟨h.apart e he f hf, fun heq ↦ congrArg label (h.value_eq he hf heq)⟩

/-- A table has as many values as there are different questions that were asked. -/
theorem size_eq [DecidableEq α] (h : Memo key label Made next answers table) :
    table.size = (answers.map Prod.fst).dedup.length := by
  have hinj : ∀ x ∈ (answers.map Prod.fst).dedup, ∀ y ∈ (answers.map Prod.fst).dedup,
      key x = key y → x = y := by
    intro x hx y hy hkey
    obtain ⟨e, he, rfl⟩ := List.mem_map.mp (List.mem_dedup.mp hx)
    obtain ⟨f, hf, rfl⟩ := List.mem_map.mp (List.mem_dedup.mp hy)
    have hvalue : some e.2 = some f.2 := by rw [← h.filed e he, hkey, h.filed f hf]
    exact h.apart e he f hf (congrArg label (Option.some.inj hvalue))
  have hnodup : ((answers.map Prod.fst).dedup.map key).Nodup :=
    (List.nodup_dedup _).map_on hinj
  have hperm : table.keys.Perm ((answers.map Prod.fst).dedup.map key) := by
    refine (List.perm_ext_iff_of_nodup h.nodup hnodup).mpr fun k ↦ ?_
    rw [List.mem_map]
    constructor
    · intro hk
      obtain ⟨⟨k', v⟩, hv, rfl⟩ := List.mem_map.mp hk
      obtain ⟨e, he, hkey⟩ := h.asked k' v (Dict.find_of_mem h.nodup hv)
      exact ⟨e.1, List.mem_dedup.mpr (List.mem_map_of_mem he), hkey⟩
    · rintro ⟨x, hx, rfl⟩
      obtain ⟨e, he, rfl⟩ := List.mem_map.mp (List.mem_dedup.mp hx)
      exact List.mem_map_of_mem (f := Prod.fst) (Dict.mem_of_get? (h.filed e he))
  calc table.size = table.keys.length := (List.length_map _).symm
    _ = ((answers.map Prod.fst).dedup.map key).length := hperm.length_eq
    _ = (answers.map Prod.fst).dedup.length := List.length_map _

end Answers

end Memo

end TypeHints
