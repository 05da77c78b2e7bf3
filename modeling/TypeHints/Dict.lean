/-!
# Dictionaries in order of first insertion

A dictionary lists its entries in the order in which their keys were first inserted. Inserting under
a key that is present replaces the value and leaves the key where it is; that order is what every
listing of a dictionary in this library shows.

The lemmas say of each operation what is found under which key afterwards. `Dict.Within` says that
everything that is found in one dictionary is found in another, which is how growth of a state is
stated throughout.
-/

namespace TypeHints

/-- A finite map that lists its entries in the order in which their keys first came. -/
structure Dict (κ ν : Type) where
  /-- The entries, earliest key first. -/
  entries : List (κ × ν)
deriving Repr, DecidableEq

namespace Dict

variable {κ ν : Type}

/-- No entries. -/
def empty : Dict κ ν := ⟨[]⟩

instance : EmptyCollection (Dict κ ν) := ⟨empty⟩
instance : Inhabited (Dict κ ν) := ⟨empty⟩

/-- The keys, in order. -/
def keys (d : Dict κ ν) : List κ := d.entries.map Prod.fst

/-- The values, in the order of their keys. -/
def values (d : Dict κ ν) : List ν := d.entries.map Prod.snd

/-- How many entries there are. -/
def size (d : Dict κ ν) : Nat := d.entries.length

/-- Whether there are no entries. -/
def isEmpty (d : Dict κ ν) : Bool := d.entries.isEmpty

section Lookup

variable [DecidableEq κ]

/-- The value at a key in a list of entries. -/
def find (k : κ) : List (κ × ν) → Option ν
  | [] => none
  | (k', v) :: rest => if k' = k then some v else find k rest

/-- A list of entries with the value at `k` replaced, or with a last entry added. -/
def put (k : κ) (v : ν) : List (κ × ν) → List (κ × ν)
  | [] => [(k, v)]
  | (k', v') :: rest => if k' = k then (k', v) :: rest else (k', v') :: put k v rest

/-- The value at a key. -/
def get? (d : Dict κ ν) (k : κ) : Option ν := find k d.entries

/-- Whether a key is present. -/
def contains (d : Dict κ ν) (k : κ) : Bool := (d.get? k).isSome

/-- Set the value at a key; a new key comes last. -/
def insert (d : Dict κ ν) (k : κ) (v : ν) : Dict κ ν := ⟨put k v d.entries⟩

/-- Drop a key. -/
def erase (d : Dict κ ν) (k : κ) : Dict κ ν := ⟨d.entries.filter fun e => e.1 ≠ k⟩

/-- Insert a list of entries, first to last. -/
def insertAll (d : Dict κ ν) (es : List (κ × ν)) : Dict κ ν :=
  es.foldl (fun d e => d.insert e.1 e.2) d

/-- The dictionary that a list of entries builds: a later entry of a key replaces its value. -/
def ofList (es : List (κ × ν)) : Dict κ ν := empty.insertAll es

theorem find_put (k k' : κ) (v : ν) (es : List (κ × ν)) :
    find k' (put k v es) = if k = k' then some v else find k' es := by
  induction es with
  | nil => simp [put, find]
  | cons e es ih =>
    obtain ⟨a, b⟩ := e
    by_cases ha : a = k
    · subst ha; by_cases hk : a = k' <;> simp [put, find, hk]
    · by_cases hk : a = k'
      · subst hk; simp [put, find, ha, Ne.symm ha]
      · simp [put, find, ha, hk, ih]

theorem get?_insert (d : Dict κ ν) (k k' : κ) (v : ν) :
    (d.insert k v).get? k' = if k = k' then some v else d.get? k' :=
  find_put k k' v d.entries

@[simp] theorem get?_insert_self (d : Dict κ ν) (k : κ) (v : ν) :
    (d.insert k v).get? k = some v := by
  simp [get?_insert]

theorem map_fst_put (k : κ) (v : ν) (es : List (κ × ν)) :
    (put k v es).map Prod.fst =
      if k ∈ es.map Prod.fst then es.map Prod.fst else es.map Prod.fst ++ [k] := by
  induction es with
  | nil => simp [put]
  | cons e es ih =>
    obtain ⟨a, b⟩ := e
    by_cases ha : a = k
    · subst ha; simp [put]
    · simp only [put, ha, if_false, List.map_cons, ih, List.mem_cons, Ne.symm ha, false_or]
      split <;> simp

/-- An insertion leaves the keys alone, or adds its key last. -/
theorem keys_insert (d : Dict κ ν) (k : κ) (v : ν) :
    (d.insert k v).keys = if k ∈ d.keys then d.keys else d.keys ++ [k] :=
  map_fst_put k v d.entries

theorem find_filter_ne (k k' : κ) (es : List (κ × ν)) :
    find k' (es.filter fun e => e.1 ≠ k) = if k = k' then none else find k' es := by
  induction es with
  | nil => simp [find]
  | cons e es ih =>
    obtain ⟨a, b⟩ := e
    by_cases ha : a = k
    · subst ha
      rw [List.filter_cons_of_neg (by simp), ih]
      by_cases hk : a = k' <;> simp [find, hk]
    · rw [List.filter_cons_of_pos (by simp [ha])]
      by_cases hk : k = k'
      · subst hk
        simp only [find, ha, if_false, ih]
      · by_cases hak : a = k'
        · simp [find, hak, hk]
        · simp only [find, hak, if_false, ih, hk]

theorem get?_erase (d : Dict κ ν) (k k' : κ) :
    (d.erase k).get? k' = if k = k' then none else d.get? k' :=
  find_filter_ne k k' d.entries

theorem keys_erase (d : Dict κ ν) (k : κ) : (d.erase k).keys = d.keys.filter (· ≠ k) := by
  simp [keys, erase, List.filter_map, Function.comp_def]

/-! ### Entries -/

theorem mem_of_get? {d : Dict κ ν} {k : κ} {v : ν} (h : d.get? k = some v) :
    (k, v) ∈ d.entries := by
  obtain ⟨es⟩ := d
  induction es with
  | nil => cases h
  | cons e es ih =>
    obtain ⟨k', v'⟩ := e
    simp only [get?, find] at h
    split at h
    · rename_i hk
      cases h
      rw [hk]
      exact List.mem_cons_self
    · exact List.mem_cons_of_mem _ (ih h)

/-- A key that is present stays where it is when its value is replaced. -/
theorem keys_insert_of_get? {d : Dict κ ν} {k : κ} {v : ν} (h : d.get? k = some v) (v' : ν) :
    (d.insert k v').keys = d.keys := by
  rw [keys_insert]
  exact if_pos (List.mem_map.mpr ⟨(k, v), mem_of_get? h, rfl⟩)

theorem mem_put {k : κ} {v : ν} {es : List (κ × ν)} {e : κ × ν} (h : e ∈ put k v es) :
    e ∈ es ∨ e = (k, v) := by
  induction es with
  | nil => exact .inr (List.mem_singleton.mp h)
  | cons e' es ih =>
    simp only [put] at h
    split at h
    · rename_i hk
      rcases List.mem_cons.mp h with rfl | h
      · exact .inr (by rw [hk])
      · exact .inl (List.mem_cons_of_mem _ h)
    · rcases List.mem_cons.mp h with rfl | h
      · exact .inl List.mem_cons_self
      · exact (ih h).imp_left (List.mem_cons_of_mem _)

theorem mem_insertAll {d : Dict κ ν} {es : List (κ × ν)} {e : κ × ν}
    (h : e ∈ (d.insertAll es).entries) : e ∈ d.entries ∨ e ∈ es := by
  induction es generalizing d with
  | nil => exact .inl h
  | cons e' es ih =>
    rcases ih h with h | h
    · rcases mem_put h with h | rfl
      · exact .inl h
      · exact .inr List.mem_cons_self
    · exact .inr (List.mem_cons_of_mem _ h)

theorem mem_ofList {es : List (κ × ν)} {e : κ × ν} (h : e ∈ (ofList es).entries) : e ∈ es := by
  rcases mem_insertAll h with h | h
  · cases h
  · exact h

/-! ### Dictionaries that grow -/

/-- Every entry of a dictionary is one of another. -/
def Within (d d' : Dict κ ν) : Prop := ∀ k v, d.get? k = some v → d'.get? k = some v

theorem within_refl (d : Dict κ ν) : d.Within d := fun _ _ h => h

theorem Within.trans {d d' d'' : Dict κ ν} (h : d.Within d') (h' : d'.Within d'') :
    d.Within d'' :=
  fun k v hk => h' k v (h k v hk)

/-- A new key leaves the other entries alone. -/
theorem within_insert {d : Dict κ ν} {k : κ} (v : ν) (h : d.get? k = none) :
    d.Within (d.insert k v) := by
  intro k' v' hk'
  rw [get?_insert]
  split
  · rename_i heq
    rw [heq, hk'] at h
    cases h
  · exact hk'

end Lookup

end Dict

end TypeHints
