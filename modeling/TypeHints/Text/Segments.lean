/-!
# Texts cut at a separator and put together again

`splitAt` cuts a text at every occurrence of a character and `joinWith` puts pieces together with a
separator between them. The dotted names of modules, scopes and references are read by `segments`,
and `dotted_segments` says that nothing is lost. The other way round, a joined text gives its pieces
back if the separator occurs in none of them (`splitAt_joinWith`, `joinWith_inj`).
-/

namespace TypeHints.Text

/-- The pieces in order, with `sep` between neighbours. -/
def joinWith (sep : String) : List String → String
  | [] => ""
  | [s] => s
  | s :: t :: rest => s ++ sep ++ joinWith sep (t :: rest)

@[simp] theorem joinWith_nil (sep : String) : joinWith sep [] = "" := rfl

@[simp] theorem joinWith_singleton (sep s : String) : joinWith sep [s] = s := rfl

@[simp] theorem joinWith_cons_cons (sep s t : String) (rest : List String) :
    joinWith sep (s :: t :: rest) = s ++ sep ++ joinWith sep (t :: rest) := rfl

theorem joinWith_cons {sep s : String} {ss : List String} (h : ss ≠ []) :
    joinWith sep (s :: ss) = s ++ sep ++ joinWith sep ss := by
  cases ss with
  | nil => exact absurd rfl h
  | cons t rest => rfl

/-- The pieces of a text between the occurrences of `sep`; there is always at least one. -/
def splitChars (sep : Char) : List Char → List (List Char)
  | [] => [[]]
  | c :: cs =>
    if c = sep then [] :: splitChars sep cs
    else
      match splitChars sep cs with
      | [] => [[c]]
      | w :: ws => (c :: w) :: ws

/-- The pieces of a text between the occurrences of a character. -/
def splitAt (sep : Char) (s : String) : List String :=
  (splitChars sep s.toList).map String.ofList

/-- The parts of a dotted name. -/
def segments (s : String) : List String := splitAt '.' s

/-- A dotted name from its parts. -/
def dotted (parts : List String) : String := joinWith "." parts

theorem splitChars_ne_nil (sep : Char) (cs : List Char) : splitChars sep cs ≠ [] := by
  cases cs with
  | nil => simp [splitChars]
  | cons c cs =>
    simp only [splitChars]
    split
    · simp
    · split <;> simp

theorem segments_ne_nil (s : String) : segments s ≠ [] := by
  simpa [segments, splitAt] using splitChars_ne_nil '.' s.toList

theorem joinWith_splitChars (sep : Char) (cs : List Char) :
    joinWith (String.ofList [sep]) ((splitChars sep cs).map String.ofList) = String.ofList cs := by
  induction cs with
  | nil => rfl
  | cons c cs ih =>
    rw [splitChars]
    split
    · next h =>
      subst h
      have hne : (splitChars c cs).map String.ofList ≠ [] := by simp [splitChars_ne_nil]
      rw [List.map_cons, joinWith_cons hne, ih, ← String.ofList_append, ← String.ofList_append]
      rfl
    · split
      · next h => exact absurd h (splitChars_ne_nil sep cs)
      · next w ws h =>
        rw [h] at ih
        cases ws with
        | nil =>
          simp only [List.map_cons, List.map_nil, joinWith_singleton] at ih ⊢
          have hw : w = cs := by simpa using congrArg String.toList ih
          rw [hw]
        | cons x xs =>
          simp only [List.map_cons, joinWith_cons_cons] at ih ⊢
          rw [show String.ofList (c :: cs) = String.ofList [c] ++ String.ofList cs by
            rw [← String.ofList_append]; rfl, ← ih]
          rw [show String.ofList (c :: w) = String.ofList [c] ++ String.ofList w by
            rw [← String.ofList_append]; rfl]
          simp only [String.append_assoc]

/-- Putting the parts of a dotted name together again gives the name. -/
theorem dotted_segments (s : String) : dotted (segments s) = s := by
  have h := joinWith_splitChars '.' s.toList
  rw [String.ofList_toList] at h
  exact h

theorem joinWith_append {sep : String} {front rest : List String} (hfront : front ≠ [])
    (hrest : rest ≠ []) :
    joinWith sep (front ++ rest) = joinWith sep front ++ sep ++ joinWith sep rest := by
  induction front with
  | nil => exact absurd rfl hfront
  | cons s front ih =>
    cases front with
    | nil => exact joinWith_cons hrest
    | cons t front =>
      have htail := ih (List.cons_ne_nil _ _)
      simp only [List.cons_append, joinWith_cons_cons] at htail ⊢
      rw [htail]
      simp only [String.append_assoc]

theorem dotted_append {front rest : List String} (hfront : front ≠ []) (hrest : rest ≠ []) :
    dotted (front ++ rest) = dotted front ++ "." ++ dotted rest :=
  joinWith_append hfront hrest

/-- No piece of a text has the separator. -/
theorem notMem_of_mem_splitChars {sep : Char} {cs w : List Char} (hw : w ∈ splitChars sep cs) :
    sep ∉ w := by
  induction cs generalizing w with
  | nil =>
    rw [List.mem_singleton.mp hw]
    exact List.not_mem_nil
  | cons c cs ih =>
    rw [splitChars] at hw
    split at hw
    · rcases List.mem_cons.mp hw with rfl | hw
      · exact List.not_mem_nil
      · exact ih hw
    · next hc =>
      split at hw
      · next h => exact absurd h (splitChars_ne_nil sep cs)
      · next v vs h =>
        rw [h] at ih
        rcases List.mem_cons.mp hw with rfl | hw
        · intro hmem
          rcases List.mem_cons.mp hmem with heq | hmem
          · exact hc heq.symm
          · exact ih List.mem_cons_self hmem
        · exact ih (List.mem_cons_of_mem _ hw)

theorem notMem_of_mem_splitAt {sep : Char} {s w : String} (hw : w ∈ splitAt sep s) :
    sep ∉ w.toList := by
  obtain ⟨cs, hcs, rfl⟩ := List.mem_map.mp hw
  rw [String.toList_ofList]
  exact notMem_of_mem_splitChars hcs

theorem splitChars_of_notMem {sep : Char} {w : List Char} (hw : sep ∉ w) :
    splitChars sep w = [w] := by
  induction w with
  | nil => rfl
  | cons c w ih =>
    have ⟨hc, hw⟩ := not_or.mp (mt List.mem_cons.mpr hw)
    rw [splitChars, if_neg (Ne.symm hc), ih hw]

/-- A text is cut at a separator into what is in front of it and what is behind it, each cut
further. -/
theorem splitChars_append_sep (sep : Char) (cs ds : List Char) :
    splitChars sep (cs ++ sep :: ds) = splitChars sep cs ++ splitChars sep ds := by
  induction cs with
  | nil => simp [splitChars]
  | cons c cs ih =>
    rw [List.cons_append, splitChars, splitChars, ih]
    split
    · rfl
    · cases hcs : splitChars sep cs with
      | nil => exact absurd hcs (splitChars_ne_nil sep cs)
      | cons w ws => rfl

theorem splitAt_append_sep (sep : Char) (s t : String) :
    splitAt sep (s ++ String.ofList [sep] ++ t) = splitAt sep s ++ splitAt sep t := by
  rw [splitAt, String.toList_append, String.toList_append, String.toList_ofList, List.append_assoc,
    List.singleton_append, splitChars_append_sep, List.map_append, splitAt, splitAt]

theorem splitAt_of_notMem {sep : Char} {s : String} (hs : sep ∉ s.toList) : splitAt sep s = [s] := by
  rw [splitAt, splitChars_of_notMem hs, List.map_singleton, String.ofList_toList]

/-- A character of a joined text comes from the separator or from a piece. -/
theorem notMem_joinWith {c : Char} {sep : String} {ss : List String} (hsep : c ∉ sep.toList)
    (hss : ∀ s ∈ ss, c ∉ s.toList) : c ∉ (joinWith sep ss).toList := by
  induction ss with
  | nil => simp
  | cons s rest ih =>
    obtain ⟨hs, hrest⟩ := List.forall_mem_cons.mp hss
    cases rest with
    | nil => exact hs
    | cons t rest =>
      rw [joinWith_cons_cons, String.toList_append, String.toList_append, List.append_assoc]
      have htail := ih hrest
      simp [hs, hsep, htail]

/-- Cutting a joined text gives its pieces again, if there are any and the separator occurs in
none of them. -/
theorem splitAt_joinWith {sep : Char} {ss : List String} (hne : ss ≠ [])
    (hss : ∀ s ∈ ss, sep ∉ s.toList) : splitAt sep (joinWith (String.ofList [sep]) ss) = ss := by
  induction ss with
  | nil => exact absurd rfl hne
  | cons s rest ih =>
    obtain ⟨hs, hrest⟩ := List.forall_mem_cons.mp hss
    cases rest with
    | nil => rw [joinWith_singleton, splitAt_of_notMem hs]
    | cons t rest =>
      rw [joinWith_cons_cons, splitAt_append_sep, splitAt_of_notMem hs,
        ih (List.cons_ne_nil t rest) hrest, List.singleton_append]

/-- Lists of pieces that are joined to one text are one list. No piece may be empty, since the text
of no pieces and that of an empty one are the same. -/
theorem joinWith_inj {sep : Char} {ss ts : List String}
    (hss : ∀ s ∈ ss, s ≠ "" ∧ sep ∉ s.toList) (hts : ∀ t ∈ ts, t ≠ "" ∧ sep ∉ t.toList)
    (h : joinWith (String.ofList [sep]) ss = joinWith (String.ofList [sep]) ts) : ss = ts := by
  -- the text of some pieces is not empty, as its first piece is not
  have hnil {us : List String} (hus : ∀ u ∈ us, u ≠ "" ∧ sep ∉ u.toList)
      (hu : joinWith (String.ofList [sep]) us = "") : us = [] := by
    refine Decidable.byContradiction fun hne ↦ ?_
    have hcut := splitAt_joinWith hne fun u hu ↦ (hus u hu).2
    rw [hu] at hcut
    exact (hus "" (hcut ▸ List.mem_singleton_self _)).1 rfl
  by_cases hs : ss = []
  · subst hs
    exact (hnil hts h.symm).symm
  · by_cases ht : ts = []
    · subst ht
      exact hnil hss h
    · rw [← splitAt_joinWith hs fun s hs ↦ (hss s hs).2, h,
        splitAt_joinWith ht fun t ht ↦ (hts t ht).2]

/-- Whether a text starts with another; the rest if it does. -/
def dropLead? : List Char → List Char → Option (List Char)
  | [], s => some s
  | p :: ps, c :: cs => if p = c then dropLead? ps cs else none
  | _ :: _, [] => none

/-- Replace every occurrence of `old`, first to last and without overlap. An empty `old` occurs
nowhere. The number bounds the steps. -/
def replaceChars (old new : List Char) : Nat → List Char → List Char
  | 0, s => s
  | _ + 1, [] => []
  | n + 1, c :: cs =>
    match old, dropLead? old (c :: cs) with
    | _ :: _, some rest => new ++ replaceChars old new n rest
    | _, _ => c :: replaceChars old new n cs

/-- Replace every occurrence of `old` by `new`, first to last and without overlap. -/
def replaceAll (old new s : String) : String :=
  String.ofList (replaceChars old.toList new.toList s.toList.length s.toList)

end TypeHints.Text
