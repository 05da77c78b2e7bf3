import TypeHints.Proofs.Applications

/-!
# Keys in the order in which they came

A dictionary lists its entries in the order in which their keys first came. A later value for a key
that is there already takes the place of the earlier one, and moves nothing. Most of the time only
lookups matter and the order does not; here are the few facts about the order itself, which shows in
what a scope lists and in what a configuration writes out again:

* `Dict.keys_ofList`: a dictionary that is built from a list has the keys of the list, repeats
  dropped;
* `Dict.keys_insertAll`: inserting the entries of a list after others adds the keys that are new, in
  their order among themselves;
* `Dict.ofList_entries`: a dictionary is built from its own entries;
* `Dict.ofList_filter_ne`: leaving a key out of a list leaves it out of the dictionary, and the
  other keys keep their places.

Repeats are dropped by `List.eraseDups`, which is defined from the left. Dictionaries are built from
the left, too, but one entry at a time at the end, so that the proofs go from the right: one more
entry is one more key, unless the key is there (`eraseDups_concat`).
-/

namespace TypeHints

/-- A member that comes last counts if it is new. -/
theorem eraseDups_concat {κ : Type} [DecidableEq κ] (ks : List κ) (k : κ) :
    (ks ++ [k]).eraseDups =
      if k ∈ ks.eraseDups then ks.eraseDups else ks.eraseDups ++ [k] := by
  rw [List.eraseDups_append]
  by_cases hold : k ∈ ks
  · rw [if_pos (List.mem_eraseDups.mpr hold)]
    simp [List.removeAll, hold]
  · rw [if_neg (mt List.mem_eraseDups.mp hold)]
    simp [List.removeAll, hold, List.eraseDups_cons]

namespace Dict

variable {κ ν : Type} [DecidableEq κ]

/-- The keys of a dictionary that a list builds are those of the list, repeats dropped. -/
theorem keys_ofList (es : List (κ × ν)) : (ofList es).keys = (es.map Prod.fst).eraseDups := by
  induction es using List.reverseRecOn with
  | nil => rfl
  | append_singleton es e ih =>
    rw [ofList_concat, keys_insert, ih, List.map_append, List.map_singleton, eraseDups_concat]

/-- The keys that come first stay first, and those of the list that are new come after them. -/
theorem keys_insertAll (d : Dict κ ν) (es : List (κ × ν)) :
    (d.insertAll es).keys = d.keys ++ (ofList es).keys.filter fun k ↦ k ∉ d.keys := by
  induction es using List.reverseRecOn with
  | nil => exact (List.append_nil _).symm
  | append_singleton es e ih =>
    have hlast : d.insertAll (es ++ [e]) = (d.insertAll es).insert e.1 e.2 := List.foldl_append
    rw [hlast, ofList_concat, keys_insert, keys_insert, ih]
    -- the last key is old, or new but repeated in the list, or new
    by_cases hd : e.1 ∈ d.keys
    · rw [if_pos (List.mem_append_left _ hd)]
      split
      · rfl
      · rw [List.filter_append, List.filter_singleton, decide_eq_false (not_not_intro hd), cond_false,
          List.append_nil]
    · by_cases hes : e.1 ∈ (ofList es).keys
      · rw [if_pos hes, if_pos (List.mem_append_right _ (List.mem_filter.mpr ⟨hes, by simpa using hd⟩))]
      · rw [if_neg hes, if_neg (by simp [hd, hes]), List.filter_append, List.filter_singleton,
          decide_eq_true hd, cond_true, List.append_assoc]

/-- A key that a dictionary lists is found. -/
theorem exists_get?_of_mem_keys {d : Dict κ ν} {k : κ} (hd : d.keys.Nodup) (h : k ∈ d.keys) :
    ∃ v, d.get? k = some v := by
  obtain ⟨⟨_, v⟩, hmem, rfl⟩ := List.mem_map.mp h
  exact ⟨v, find_of_mem hd hmem⟩

/-! ### Entries under new keys -/

/-- An entry under a new key comes last. -/
theorem put_of_notMem {k : κ} {es : List (κ × ν)} (h : k ∉ es.map Prod.fst) (v : ν) :
    put k v es = es ++ [(k, v)] := by
  induction es with
  | nil => rfl
  | cons e es ih =>
    rw [List.map_cons, List.mem_cons, not_or] at h
    rw [put, if_neg (Ne.symm h.1), ih h.2, List.cons_append]

/-- Entries under different keys are all kept, and stay where they are. -/
theorem entries_ofList_of_nodup {es : List (κ × ν)} (h : (es.map Prod.fst).Nodup) :
    (ofList es).entries = es := by
  induction es using List.reverseRecOn with
  | nil => rfl
  | append_singleton es e ih =>
    rw [List.map_append, List.nodup_append] at h
    have hnew : e.1 ∉ es.map Prod.fst := fun hmem ↦
      h.2.2 _ hmem _ (List.mem_singleton_self _) rfl
    rw [ofList_concat, insert, ih h.1, put_of_notMem hnew]

/-- A dictionary with each key once is built from its entries. -/
theorem ofList_entries {d : Dict κ ν} (h : d.keys.Nodup) : ofList d.entries = d :=
  congrArg Dict.mk (entries_ofList_of_nodup h)

/-! ### A key left out -/

/-- What is put under a key does not show once the key is left out. -/
theorem filter_put_self (k : κ) (v : ν) (es : List (κ × ν)) :
    (put k v es).filter (fun e ↦ e.1 ≠ k) = es.filter fun e ↦ e.1 ≠ k := by
  induction es with
  | nil => simp [put]
  | cons e es ih =>
    by_cases he : e.1 = k
    · simp [put, he]
    · simp only [put, he, if_false, List.filter_cons, ih]

/-- Leaving out one key does not disturb what is put under another. -/
theorem filter_put_of_ne {k k' : κ} (hk : k' ≠ k) (v : ν) (es : List (κ × ν)) :
    (put k' v es).filter (fun e ↦ e.1 ≠ k) = put k' v (es.filter fun e ↦ e.1 ≠ k) := by
  induction es with
  | nil => simp [put, hk]
  | cons e es ih =>
    by_cases he : e.1 = k'
    · simp [put, he, hk]
    · rw [put, if_neg he]
      by_cases hek : e.1 = k
      · rw [List.filter_cons_of_neg (by simpa using hek), List.filter_cons_of_neg (by simpa using hek),
          ih]
      · rw [List.filter_cons_of_pos (by simpa using hek), List.filter_cons_of_pos (by simpa using hek),
          ih, put, if_neg he]

/-- Leaving the entries of a key out of a list leaves the key out of the dictionary. -/
theorem ofList_filter_ne (k : κ) (es : List (κ × ν)) :
    ofList (es.filter fun e ↦ e.1 ≠ k) = (ofList es).erase k := by
  induction es using List.reverseRecOn with
  | nil => rfl
  | append_singleton es e ih =>
    rw [ofList_filter_concat, ih, ofList_concat]
    by_cases he : e.1 = k
    · rw [if_neg (by simp [he]), he]
      exact congrArg Dict.mk (filter_put_self k e.2 _).symm
    · rw [if_pos (by simpa using he)]
      exact congrArg Dict.mk (filter_put_of_ne he e.2 _).symm

/-- A map of the values is a map of what each key finds. -/
theorem get?_ofList_map {μ : Type} (f : ν → μ) (es : List (κ × ν)) (k : κ) :
    (ofList (es.map fun e ↦ (e.1, f e.2))).get? k = ((ofList es).get? k).map f := by
  induction es using List.reverseRecOn with
  | nil => rfl
  | append_singleton es e ih =>
    rw [List.map_append, List.map_singleton, ofList_concat, ofList_concat, get?_insert, get?_insert,
      ih]
    split <;> rfl

end Dict

end TypeHints
