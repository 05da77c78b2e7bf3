import TypeHints.Text.Segments

/-!
# Words and joined texts that can be read back

A text that is put in front of another can be told from it if it is known where it ends. The keys of
hints are put together from pieces of three sorts, and there is a different reason for each why it
can be read back:

* a word, such as the name of a type or a decimal number, has none of the signs that keys are put
  together with, and so it ends at the first of them (`Text.append_inj_of_isWord`);
* a mark, which says what kind of hint the key belongs to, ends behind its last letter
  (`Text.Marked.inj`);
* a run of pieces with a separator between them can be cut into its pieces again if each piece can
  be told from whatever the separator or the end of the run opens (`Text.joinWith_append_inj`).

No piece of a run has to be free of the separator. A piece may be a key itself, with separators of
its own inside, and then it cannot be found by cutting. What is needed instead is that every piece
can be told from any text behind it, which is known of a key by induction on the hint. The end of a
run has to be seen, too: the text behind the run begins neither with the separator nor with a
letter, whereas every piece opens with a letter.
-/

namespace TypeHints.Text

/-! ### Words -/

/-- The signs that keys are put together with. -/
def keySigns : List Char := [',', '|', '<', '>']

/-- A text without the signs that keys are put together with. -/
def isWord (s : String) : Bool := s.toList.all (· ∉ keySigns)

/-- A text that is empty or opens with such a sign. -/
def Stops (r : List Char) : Prop := ∀ c ∈ r.head?, c ∈ keySigns

variable {r r' : List Char}

/-- Of two texts that agree, the fronts do if they end where a property first fails. -/
theorem append_inj_of_takeWhile {p : Char → Bool} {as bs : List Char} (has : ∀ c ∈ as, p c = true)
    (hbs : ∀ c ∈ bs, p c = true) (hr : ∀ c ∈ r.head?, p c = false)
    (hr' : ∀ c ∈ r'.head?, p c = false) (h : as ++ r = bs ++ r') : as = bs ∧ r = r' := by
  have hfront {cs s : List Char} (hcs : ∀ c ∈ cs, p c = true) (hs : ∀ c ∈ s.head?, p c = false) :
      (cs ++ s).takeWhile p = cs := by
    rw [List.takeWhile_append_of_pos hcs]
    cases s with
    | nil => exact List.append_nil cs
    | cons c s =>
      have hc : p c = false := hs c rfl
      rw [List.takeWhile_cons_of_neg (by simp [hc]), List.append_nil]
  obtain rfl : as = bs := by rw [← hfront has hr, h, hfront hbs hr']
  exact ⟨rfl, List.append_cancel_left h⟩

/-- Words in front of the same text are the same if a sign or nothing stands behind each. -/
theorem append_inj_of_isWord {s t : String} (hs : isWord s = true) (ht : isWord t = true)
    (hr : Stops r) (hr' : Stops r') (h : s.toList ++ r = t.toList ++ r') : s = t ∧ r = r' := by
  have hword {s : String} (hs : isWord s = true) : ∀ c ∈ s.toList, (c ∉ keySigns : Bool) = true :=
    List.all_eq_true.mp hs
  have hstop {r : List Char} (hr : Stops r) : ∀ c ∈ r.head?, (c ∉ keySigns : Bool) = false :=
    fun c hc ↦ decide_eq_false fun hn ↦ hn (hr c hc)
  obtain ⟨hst, hrr⟩ := append_inj_of_takeWhile (hword hs) (hword ht) (hstop hr) (hstop hr') h
  exact ⟨String.toList_inj.mp hst, hrr⟩

/-- Two texts that are put together are a word if both of them are. -/
theorem isWord_append {s t : String} : isWord (s ++ t) = (isWord s && isWord t) := by
  rw [isWord, String.toList_append, List.all_append]
  rfl

/-! ### Marks -/

/-- A text of letters. -/
def isMark (s : String) : Bool := s.toList.all Char.isAlpha

/-- A text that opens with a mark and ends there or goes on with a colon. -/
def Marked (mark s : String) : Prop :=
  isMark mark = true ∧
    ∃ rest, s.toList = mark.toList ++ rest ∧ ∀ c ∈ rest.head?, c = ':'

/-- A mark alone is marked with itself. -/
theorem marked_self {mark : String} (hmark : isMark mark = true) : Marked mark mark :=
  ⟨hmark, [], (List.append_nil _).symm, by simp⟩

/-- A mark with a colon and any text behind it is marked with it. -/
theorem marked_append {mark : String} (hmark : isMark mark = true) (s : String) :
    Marked mark (mark ++ ":" ++ s) := by
  refine ⟨hmark, ':' :: s.toList, ?_, by simp⟩
  rw [String.toList_append, String.toList_append, List.append_assoc]
  rfl

/-- Texts that agree open with one mark, if no letter stands behind either. -/
theorem Marked.inj {mark mark' s t : String} (hs : Marked mark s) (ht : Marked mark' t)
    (hr : ∀ c ∈ r.head?, c.isAlpha = false) (hr' : ∀ c ∈ r'.head?, c.isAlpha = false)
    (h : s.toList ++ r = t.toList ++ r') : mark = mark' := by
  have hstop {rest r : List Char} (hrest : ∀ c ∈ rest.head?, c = ':')
      (hr : ∀ c ∈ r.head?, c.isAlpha = false) : ∀ c ∈ (rest ++ r).head?, c.isAlpha = false := by
    cases rest with
    | nil => exact hr
    | cons c rest =>
      obtain rfl : c = ':' := hrest c rfl
      rintro d ⟨⟩
      rfl
  obtain ⟨hmark, rest, hs, hrest⟩ := hs
  obtain ⟨hmark', rest', ht, hrest'⟩ := ht
  rw [hs, ht, List.append_assoc, List.append_assoc] at h
  have hmarks := append_inj_of_takeWhile (List.all_eq_true.mp hmark)
    (List.all_eq_true.mp hmark') (hstop hrest hr) (hstop hrest' hr') h
  exact String.toList_inj.mp hmarks.1

/-! ### Pieces with a separator between them -/

/-- A text that opens with a letter. -/
def Opens (s : String) : Prop := ∃ c cs, s.toList = c :: cs ∧ c.isAlpha = true

/-- A text that cannot be taken for another piece behind a separator, or for a first piece. -/
def Ends (sep : Char) (r : List Char) : Prop := ∀ c ∈ r.head?, c ≠ sep ∧ c.isAlpha = false

variable {sep : Char} {F : List Char → Prop}

/-- Joined pieces can be told apart from one another and from the text behind them if every piece can
be told from any text with `F` behind it. -/
theorem joinWith_append_inj (hsep : ∀ cs, F (sep :: cs)) {ss : List String} :
    ∀ {ts : List String},
      (∀ s ∈ ss, ∀ t ∈ ts, ∀ r r', F r → F r' → s.toList ++ r = t.toList ++ r' → r = r') →
      (∀ s ∈ ss, Opens s) → (∀ t ∈ ts, Opens t) → F r → F r' → Ends sep r → Ends sep r' →
      (joinWith (String.ofList [sep]) ss).toList ++ r =
        (joinWith (String.ofList [sep]) ts).toList ++ r' → ss = ts ∧ r = r' := by
  -- what stands behind the first piece
  have hsplit (s : String) (ss : List String) (r : List Char) :
      (joinWith (String.ofList [sep]) (s :: ss)).toList ++ r = s.toList ++
        if ss = [] then r else sep :: ((joinWith (String.ofList [sep]) ss).toList ++ r) := by
    split
    · rename_i hnil
      rw [hnil, joinWith_singleton]
    · rename_i hne
      simp [joinWith_cons hne]
  have hbehind {r : List Char} (hr : F r) (ss : List String) :
      F (if ss = [] then r else sep :: ((joinWith (String.ofList [sep]) ss).toList ++ r)) := by
    split
    · exact hr
    · exact hsep _
  have hopen {r : List Char} (hr : Ends sep r) {t : String} (ht : Opens t) (cs : List Char) :
      r ≠ t.toList ++ cs := by
    rintro rfl
    obtain ⟨c, ds, heq, hc⟩ := ht
    rw [heq] at hr
    exact Bool.false_ne_true ((hr c rfl).2.symm.trans hc)
  induction ss with
  | nil =>
    rintro (- | ⟨t, ts⟩) - - hts hr hr' hend hend' h
    · exact ⟨rfl, h⟩
    · rw [hsplit] at h
      exact absurd h (hopen hend (hts t List.mem_cons_self) _)
  | cons s ss ih =>
    rintro (- | ⟨t, ts⟩) hpieces hss hts hr hr' hend hend' h
    · rw [hsplit] at h
      exact absurd h.symm (hopen hend' (hss s List.mem_cons_self) _)
    · rw [hsplit, hsplit] at h
      -- the first pieces are told apart with everything behind them, so that the rest is the same
      -- text
      have hrest := hpieces s List.mem_cons_self t List.mem_cons_self _ _ (hbehind hr ss)
        (hbehind hr' ts) h
      have hst : s = t := by
        rw [hrest] at h
        exact String.toList_inj.mp (List.append_cancel_right h)
      have hlast {r : List Char} (hr : Ends sep r) (cs : List Char) : r ≠ sep :: cs := by
        rintro rfl
        exact (hr sep rfl).1 rfl
      by_cases hnil : ss = [] <;> by_cases hnil' : ts = []
      · rw [if_pos hnil, if_pos hnil'] at hrest
        exact ⟨by rw [hst, hnil, hnil'], hrest⟩
      · rw [if_pos hnil, if_neg hnil'] at hrest
        exact absurd hrest (hlast hend _)
      · rw [if_neg hnil, if_pos hnil'] at hrest
        exact absurd hrest.symm (hlast hend' _)
      · rw [if_neg hnil, if_neg hnil'] at hrest
        obtain ⟨hss', hrr⟩ := ih
          (fun u hu v hv ↦ hpieces u (List.mem_cons_of_mem _ hu) v (List.mem_cons_of_mem _ hv))
          (fun u hu ↦ hss u (List.mem_cons_of_mem _ hu))
          (fun v hv ↦ hts v (List.mem_cons_of_mem _ hv)) hr hr' hend hend' (List.cons.inj hrest).2
        exact ⟨by rw [hst, hss'], hrr⟩

end TypeHints.Text
