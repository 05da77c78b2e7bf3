import TypeHints.Expression.Cursor

/-!
# Tokens in front of a text

What the lexer cuts from the front of a text when it is known how the text goes on.
`Heads cs l rest` says that a text begins with a token, perhaps behind a space, and what stands
behind it; it does not matter how much of a larger text stands in front. Statements about readers
are put in terms of `Heads`, so that nothing beyond this module looks at characters.

Tokens are as long as possible, which is why a token in front depends on what follows it:

* `heads_comma` and the like: a sign that no longer sign begins with is a token whatever follows;
* `heads_single`: a sign that longer signs begin with is a token if no such sign is spelled;
* `heads_word`: a word is a token if no part of a word follows.

Gaps between tokens come from several lists of characters: those of line ends, of separators and of
the slash, which may begin a comment. A character outside of them is solid (`isSolid`), and the
token of a text that begins with a solid character begins right there (`token_solid`). Words and
digits are solid. This is checked for ASCII one character at a time, and beyond ASCII by comparing
tables of ranges (`areApart`), since the letters of all scripts are too many to be tried.

A cursor in a text is given by what the text still holds from there on and by the size of the whole
(`Cursor.on`). What the cursor sees there and where the next one is, is read off `Heads`
(`Cursor.on_lexeme`, `Cursor.on_next`). At a letter that the grammar does not know it sees no token
at all (`Cursor.on_unknown`).
-/

namespace TypeHints.Expression

open TypeHints.Text Lexing

/-! ### Gaps -/

/-- A character that neither belongs to a gap nor begins a comment. -/
def isSolid (c : Char) : Bool := !(isLineEnd c || isGap c || c = '/')

/-- A gap ends in front of a solid character. -/
theorem gapFrom_solid {c : Char} (hc : isSolid c = true) (cs : List Char) (g : Gap) :
    gapFrom false .blank g (c :: cs) = { g with rest := c :: cs } := by
  simp only [isSolid, Bool.not_eq_true', Bool.or_eq_false_iff, decide_eq_false_iff_not] at hc
  obtain ⟨⟨hline, hgap⟩, hslash⟩ := hc
  -- no comment begins without a slash, so that the clause for any other character applies
  rw [gapFrom.eq_8 false .blank g c cs (fun _ _ h _ ↦ hslash h) (fun _ _ h _ ↦ hslash h) nofun nofun
    nofun]
  simp [hline, hgap]

/-- A gap goes on behind a space, no longer at the beginning of a line. -/
theorem gapFrom_space (cs : List Char) (g : Gap) :
    gapFrom false .blank g (' ' :: cs) =
      gapFrom false .blank { g with size := g.size + 1, atLineStart := false } cs := by
  rw [gapFrom.eq_8 false .blank g ' ' cs nofun nofun nofun nofun nofun]
  rfl

/-- The characters that are not solid, as ranges of code points. -/
def gapRanges : List (Nat × Nat) :=
  [(9, 13), (32, 32), (47, 47), (0x85, 0x85), (0xa0, 0xa0), (0x1680, 0x1680), (0x2000, 0x200b),
    (0x2028, 0x2029), (0x202f, 0x202f), (0x205f, 0x205f), (0x3000, 0x3000), (0xfeff, 0xfeff)]

/-- The table of ranges has all characters that are not solid. -/
theorem isSolid_of_notInGaps {c : Char} (h : inRanges gapRanges c.toNat = false) :
    isSolid c = true := by
  have hne {d : Char} (hd : inRanges gapRanges d.toNat = true) : c ≠ d := by
    rintro rfl
    rw [h] at hd
    cases hd
  -- the one range among the separators; all others are single characters
  have hspace : ¬ ('\u2000' ≤ c ∧ c ≤ '\u200a') := by
    rintro ⟨hlow, hhigh⟩
    have hlow : 0x2000 ≤ c.toNat := hlow
    have hhigh : c.toNat ≤ 0x200a := hhigh
    simp only [inRanges, List.any_eq_false] at h
    have := h (0x2000, 0x200b) (by decide)
    simp only [Bool.and_eq_true, decide_eq_true_eq] at this
    omega
  simp only [isSolid, isLineEnd, isGap, isSpaceSeparator, Bool.not_eq_true', Bool.or_eq_false_iff,
    decide_eq_false_iff_not, Bool.and_eq_false_iff, ← Decidable.not_and_iff_not_or_not]
  and_intros <;> first | exact hspace | exact hne (by decide)

/-- Whether no range of the one table meets a range of the other. -/
def areApart (rs qs : List (Nat × Nat)) : Bool :=
  rs.all fun r ↦ qs.all fun q ↦ r.2 < q.1 || q.2 < r.1

/-- A number in one of two tables that lie apart is not in the other one. -/
theorem notInRanges_of_areApart {rs qs : List (Nat × Nat)} (h : areApart rs qs = true) {n : Nat}
    (hn : inRanges rs n = true) : inRanges qs n = false := by
  obtain ⟨r, hr, hrn⟩ := List.any_eq_true.mp hn
  rw [inRanges, List.any_eq_false]
  intro q hq
  have hapart := List.all_eq_true.mp (List.all_eq_true.mp h r hr) q hq
  simp only [Bool.or_eq_true, Bool.and_eq_true, decide_eq_true_eq] at hapart hrn ⊢
  omega

/-- Identifiers begin with a solid character. -/
theorem isSolid_of_isIdStart {c : Char} (hc : isIdStart c = true) : isSolid c = true := by
  refine isSolid_of_notInGaps ?_
  by_cases hlt : c.toNat < 128
  · have hascii : ∀ n < 128, isIdStart (Char.ofNat n) = true → inRanges gapRanges n = false := by
      decide +kernel
    exact hascii _ hlt (by rwa [Char.ofNat_toNat])
  · rw [isIdStart, if_neg hlt, Bool.or_eq_true] at hc
    rcases hc with hc | hc <;> exact notInRanges_of_areApart (by decide +kernel) hc

/-- Identifiers consist of solid characters. -/
theorem isSolid_of_isIdContinue {c : Char} (hc : isIdContinue c = true) : isSolid c = true := by
  refine isSolid_of_notInGaps ?_
  by_cases hlt : c.toNat < 128
  · have hascii : ∀ n < 128, isIdContinue (Char.ofNat n) = true → inRanges gapRanges n = false := by
      decide +kernel
    exact hascii _ hlt (by rwa [Char.ofNat_toNat])
  · rw [isIdContinue, if_neg hlt, Bool.or_eq_true, Bool.or_eq_true] at hc
    rcases hc with (hc | hc) | hc
    · exact notInRanges_of_areApart (by decide +kernel) hc
    · exact notInRanges_of_areApart (by decide +kernel) hc
    · rcases Bool.or_eq_true_iff.mp hc with hc | hc <;> rw [of_decide_eq_true hc] <;> decide

/-- White space at the ends of a text is not solid. -/
theorem not_isBlank_of_isSolid {c : Char} (hc : isSolid c = true) : isBlank c = false := by
  simp only [isSolid, isGap, Bool.not_eq_true', Bool.or_eq_false_iff] at hc
  simp only [isBlank, hc, Bool.or_false]

/-! ### The token in front -/

/-- The token of a text that begins with a solid character is the lexeme in front, right there. -/
theorem token_solid {c : Char} (hc : isSolid c = true) (place : Nat) (cs : List Char) :
    token false place (c :: cs) =
      (⟨((lexeme? (c :: cs)).getD (.unknown, [])).1, place, place, place, false⟩,
        ((lexeme? (c :: cs)).getD (.unknown, [])).2) := by
  rw [token, gap, gapFrom_solid hc]
  rfl

/-- A space before a token makes no difference to the token. -/
theorem token_space {c : Char} (hc : isSolid c = true) (place : Nat) (cs : List Char) :
    token false place (' ' :: c :: cs) =
      (⟨((lexeme? (c :: cs)).getD (.unknown, [])).1, place, place + 1, place + 1, false⟩,
        ((lexeme? (c :: cs)).getD (.unknown, [])).2) := by
  rw [token, gap, gapFrom_space, gapFrom_solid hc]
  rfl

/-- A text begins with a token on its line, and `rest` stands behind the token. -/
structure Heads (cs : List Char) (l : Lexeme) (rest : List Char) : Prop where
  token : ∀ place, ∃ start, token false place cs = (⟨l, place, start, start, false⟩, rest)
  shorter : rest.length < cs.length

/-- A lexeme in front of a text that begins with a solid character is its first token. -/
theorem heads_solid {c : Char} {cs rest : List Char} {l : Lexeme} (hc : isSolid c = true)
    (hl : lexeme? (c :: cs) = some (l, rest)) (hrest : rest.length ≤ cs.length) :
    Heads (c :: cs) l rest := by
  refine ⟨fun place ↦ ⟨place, ?_⟩, Nat.lt_succ_of_le hrest⟩
  rw [token_solid hc, hl]
  rfl

/-- A token in front of a text is in front of the text behind a space. -/
theorem Heads.space {c : Char} {cs rest : List Char} {l : Lexeme} (hc : isSolid c = true)
    (h : Heads (c :: cs) l rest) : Heads (' ' :: c :: cs) l rest := by
  refine ⟨fun place ↦ ⟨place + 1, ?_⟩, Nat.lt_succ_of_lt h.shorter⟩
  obtain ⟨start, ht⟩ := h.token place
  rw [token_solid hc] at ht
  rw [token_space hc]
  cases ht
  rfl

/-! ### Signs -/

section Signs

variable (cs : List Char)

theorem heads_comma : Heads (',' :: cs) (.sign .comma) cs := heads_solid rfl rfl (Nat.le_refl _)

theorem heads_semicolon : Heads (';' :: cs) (.sign .semicolon) cs :=
  heads_solid rfl rfl (Nat.le_refl _)

theorem heads_openBracket : Heads ('[' :: cs) (.sign .openBracket) cs :=
  heads_solid rfl rfl (Nat.le_refl _)

theorem heads_closeBracket : Heads (']' :: cs) (.sign .closeBracket) cs :=
  heads_solid rfl rfl (Nat.le_refl _)

theorem heads_greater : Heads ('>' :: cs) (.sign .greater) cs := heads_solid rfl rfl (Nat.le_refl _)

/-- The bar between the members of a union stands between spaces, and the second one is left. -/
theorem heads_bar : Heads (' ' :: '|' :: ' ' :: cs) (.sign .bar) (' ' :: cs) :=
  .space rfl (heads_solid rfl rfl (Nat.le_refl _))

/-- A sign that is doubled or followed by an equals sign in longer signs only stands alone. -/
theorem heads_single {a c : Char} {s : Sign} (ha : (a, s) ∈ [('<', Sign.less), ('-', Sign.minus)])
    (hdouble : c ≠ a) (hequals : c ≠ '=') : Heads (a :: c :: cs) (.sign s) (c :: cs) := by
  simp only [List.mem_cons, Prod.mk.injEq, List.not_mem_nil, or_false] at ha
  have hsign : sign? (a :: c :: cs) = some (s, c :: cs) := by
    rcases ha with ⟨rfl, rfl⟩ | ⟨rfl, rfl⟩ <;>
      simp [sign?, signAmong?, signs, dropLead?, hdouble.symm, hequals.symm]
  have hlexeme : lexeme? (a :: c :: cs) = (sign? (a :: c :: cs)).map fun r ↦ (.sign r.1, r.2) := by
    rcases ha with ⟨rfl, rfl⟩ | ⟨rfl, rfl⟩ <;> rfl
  refine heads_solid ?_ ?_ (Nat.le_refl _)
  · rcases ha with ⟨rfl, rfl⟩ | ⟨rfl, rfl⟩ <;> rfl
  · rw [hlexeme, hsign]
    rfl

end Signs

/-! ### Digits -/

theorem ne_of_isDigit {c d : Char} (hc : isDigit c = true) (hd : isDigit d = false) : c ≠ d := by
  rintro rfl
  rw [hc] at hd
  cases hd

/-- Numbers begin with a solid character. -/
theorem isSolid_of_isDigit {c : Char} (hc : isDigit c = true) : isSolid c = true := by
  have hrange := hc
  simp only [isDigit, Bool.and_eq_true, decide_eq_true_eq] at hrange
  have hhigh : c.toNat ≤ 57 := hrange.2
  refine isSolid_of_isIdContinue ?_
  rw [isIdContinue, if_pos (by omega), hc, Bool.or_true]
  rfl

/-! ### Words -/

/-- What begins a word of the grammar begins an identifier. Identifiers may also begin with letters
that later versions of the standard have added. -/
theorem isIdStart_of_isWordStart {c : Char} (h : isWordStart c = true) : isIdStart c = true := by
  by_cases hlt : c.toNat < 128
  · simpa only [isWordStart, hlt, if_true] using h
  · simp only [isWordStart, hlt, if_false] at h
    simp only [isIdStart, hlt, if_false, h, Bool.true_or]

/-- What is part of a word of the grammar is part of an identifier. -/
theorem isIdContinue_of_isWordPart {c : Char} (h : isWordPart c = true) : isIdContinue c = true := by
  by_cases hlt : c.toNat < 128
  · simpa only [isWordPart, hlt, if_true] using h
  · simp only [isWordPart, hlt, if_false] at h
    simp only [isIdContinue, hlt, if_false]
    rcases Bool.or_eq_true_iff.mp h with h | h <;> simp [h]

/-- A letter that begins a word is none of the characters that begin no word. -/
theorem ne_of_isWordStart {c d : Char} (hc : isWordStart c = true) (hd : isWordStart d = false) :
    c ≠ d := by
  rintro rfl
  rw [hc] at hd
  cases hd

/-- Words begin with a solid character. -/
theorem isSolid_of_isWordStart {c : Char} (hc : isWordStart c = true) : isSolid c = true :=
  isSolid_of_isIdStart (isIdStart_of_isWordStart hc)

/-- No word begins with a digit. -/
theorem isDigit_of_isWordStart {c : Char} (hc : isWordStart c = true) : isDigit c = false := by
  rw [Bool.eq_false_iff]
  intro hdigit
  simp only [isDigit, Bool.and_eq_true, decide_eq_true_eq] at hdigit
  have hlow : 48 ≤ c.toNat := hdigit.1
  have hhigh : c.toNat ≤ 57 := hdigit.2
  rw [isWordStart, if_pos (by omega), isIdStart, if_pos (by omega)] at hc
  simp only [isAsciiLetter, Bool.or_eq_true, Bool.and_eq_true, decide_eq_true_eq] at hc
  rcases hc with ((h | h) | rfl) | rfl
  · have : 97 ≤ c.toNat := h.1
    omega
  · have : 65 ≤ c.toNat := h.1
    omega
  · simp at hhigh
  · simp at hlow

/-- Whether a text goes on without another part of a word. -/
def endsWord : List Char → Bool
  | [] => true
  | c :: _ => !isWordPart c && c ≠ '\\'

/-- The characters of a word are read up to the end of the word, with enough steps for all of them.
-/
theorem wordRun_parts {w rest : List Char} (hw : w.all isWordPart = true)
    (hrest : endsWord rest = true) : ∀ n, w.length ≤ n →
      wordRun n false (w ++ rest) = (w, false, rest) := by
  induction w with
  | nil =>
    rintro (- | n) -
    · rfl
    · cases rest with
      | nil => rfl
      | cons c cs =>
        simp only [endsWord, Bool.and_eq_true, Bool.not_eq_true', decide_eq_true_eq] at hrest
        rw [List.nil_append, wordRun.eq_4 false n c cs fun _ h _ ↦ hrest.2 h]
        simp [hrest.1]
  | cons c w ih =>
    simp only [List.all_cons, Bool.and_eq_true] at hw
    rintro (- | n) hn
    · simp at hn
    · have hc : c ≠ '\\' := by
        rintro rfl
        exact absurd hw.1 (by decide)
      rw [List.cons_append, wordRun.eq_4 false n c _ fun _ h _ ↦ hc h, ih hw.2 n (by simpa using hn)]
      simp [hw.1]

/-- A word is read as a whole if no part of a word follows. -/
theorem word?_append {c : Char} {w rest : List Char} (hc : isWordStart c = true)
    (hw : w.all isWordPart = true) (hrest : endsWord rest = true) :
    word? (c :: (w ++ rest)) = some (.word (String.ofList (c :: w)) false, rest) := by
  have hne : c ≠ '\\' := ne_of_isWordStart hc (by decide)
  have hrun : wordRun (c :: (w ++ rest)).length true (c :: (w ++ rest)) = (c :: w, false, rest) := by
    rw [List.length_cons, wordRun.eq_4 true _ c _ fun _ h _ ↦ hne h,
      wordRun_parts hw hrest _ (by simp)]
    simp [hc]
  rw [word?, hrun]

/-- A word in front of a text is its first lexeme: it is no private name, no number and no sign. -/
theorem lexeme?_word {c : Char} {w rest : List Char} (hc : isWordStart c = true)
    (hw : w.all isWordPart = true) (hrest : endsWord rest = true) :
    lexeme? (c :: (w ++ rest)) = some (.word (String.ofList (c :: w)) false, rest) := by
  have hne {d : Char} (hd : isWordStart d = false) : c ≠ d := ne_of_isWordStart hc hd
  rw [lexeme?, if_neg, if_neg (hne (by decide)), if_neg (by simp [isDigit_of_isWordStart hc]), if_neg,
    if_neg (hne (by decide)), if_pos (.inr hc), word?_append hc hw hrest]
  · exact fun h ↦ hne (by decide) h.1
  · rintro (h | h) <;> exact hne (by decide) h

/-- Whether a text is a word as the lexer reads words. -/
def isWord (w : String) : Bool :=
  match w.toList with
  | [] => false
  | c :: cs => isWordStart c && cs.all isWordPart

/-- A word in front of a text is its first token, if the word ends there. -/
theorem heads_word {w : String} {rest : List Char} (hw : isWord w = true)
    (hrest : endsWord rest = true) : Heads (w.toList ++ rest) (.word w false) rest := by
  unfold isWord at hw
  cases hcs : w.toList with
  | nil => rw [hcs] at hw; cases hw
  | cons c cs =>
    rw [hcs] at hw
    simp only [Bool.and_eq_true] at hw
    have hof : String.ofList (c :: cs) = w := by rw [← hcs, String.ofList_toList]
    have hlexeme := lexeme?_word hw.1 hw.2 hrest
    rw [hof] at hlexeme
    exact heads_solid (isSolid_of_isWordStart hw.1) hlexeme (by simp)

/-! ### Letters of later versions -/

namespace Cursor

/-- The cursor at the first token of the last part of a text of some size, outside of everything. -/
def on (size : Nat) (cs : List Char) : Cursor :=
  seek ⟨⟨.finish, 0, 0, 0, false⟩, 0, [], .plain, false, []⟩ (size - cs.length) cs

/-- The first cursor in a text is the one at the whole of it. -/
theorem ofText_eq (cs : List Char) : ofText cs = on cs.length cs := by
  simp only [ofText, on, seek, Nat.sub_self]

section Heads

variable {size : Nat} {cs rest : List Char} {l : Lexeme} (h : Heads cs l rest)

/-- A cursor in the rest of a text stands outside of everything that is nested. -/
@[simp] theorem on_mode (size : Nat) (cs : List Char) : (on size cs).mode = .plain := rfl

@[simp] theorem on_hollow (size : Nat) (cs : List Char) : (on size cs).hollow = false := rfl

include h

/-- The cursor sees the token in front. -/
theorem on_lexeme : (on size cs).lexeme = l := by
  obtain ⟨start, ht⟩ := h.token (size - cs.length)
  rw [lexeme, on, seek, Mode.plain, ht]

/-- The cursor sees a word if the token in front is one. -/
theorem on_word?_eq_some {w : String} : (on size cs).word? = some w ↔ ∃ e, l = .word w e := by
  rw [word?, on_lexeme h]
  cases l <;> simp

/-- The cursor sees a sign if the token in front is that sign. -/
theorem on_isSign (s : Sign) : (on size cs).isSign s = decide (l = .sign s) := by
  rw [isSign, on_lexeme h]

/-- No line ends in front of the token that the cursor sees. -/
theorem on_afterLineEnd : (on size cs).afterLineEnd = false := by
  obtain ⟨start, ht⟩ := h.token (size - cs.length)
  rw [afterLineEnd, on, seek, Mode.plain, ht]

/-- What has been read so far is what the rest does not hold. -/
theorem on_prior : (on size cs).token.prior = size - cs.length := by
  obtain ⟨start, ht⟩ := h.token (size - cs.length)
  rw [on, seek, Mode.plain, ht]

/-- Behind the token that the cursor sees stands the rest. -/
theorem on_rest : (on size cs).rest = rest := by
  obtain ⟨start, ht⟩ := h.token (size - cs.length)
  rw [on, seek, Mode.plain, ht]

/-- The next cursor is the one in the rest. -/
theorem on_next (hsize : cs.length ≤ size) : (on size cs).next = on size rest := by
  obtain ⟨start, ht⟩ := h.token (size - cs.length)
  have hstop : (on size cs).stop = size - rest.length := by
    have := h.shorter
    simp only [on, seek, Mode.plain, ht]
    omega
  rw [next, on_rest h, hstop]
  rfl

end Heads

end Cursor

end TypeHints.Expression
