import TypeHints.Proofs.Literals

/-!
# Quoted texts are read back

Between the quotes a text is written unit by unit: a character as it is or with an escape, or a pair
of halves as it is (`Text.Written`). What is written for one unit can be read back from whatever
stands behind it (`Text.readUnit?_append`), and the closing quote is no unit, so that a quoted text
in front of another tells where it ends and which text it is (`Text.quote_append_inj`).

Three things could get in the way, and each is ruled out by how the units are written:

* the quote and the backslash stand for themselves only behind a backslash, so that a quote that is
  met at the beginning of a unit closes the text;
* control characters have short escapes or four hexadecimal digits, and the digits give the
  character back (`Text.ofDigits_hexDigits`);
* a half that has lost its other half is written with four digits, too. It is held by a character
  that stands in for it, and the stand-in is known from the number of the half
  (`Text.heldUnit_of_half?`). Two halves that make a pair are never taken for two units.

The reader here is not the lexer. The lexer reads a text that was written by hand and knows more
escapes; this one only undoes what is written for a text, and serves to tell texts apart.
-/

namespace TypeHints.Text

/-- What an escape stands for, read behind its backslash, and the rest. -/
def readEscape? : List Char → Option (List Char × List Char)
  | 'b' :: rest => some (['\x08'], rest)
  | 't' :: rest => some (['\t'], rest)
  | 'n' :: rest => some (['\n'], rest)
  | 'f' :: rest => some (['\x0c'], rest)
  | 'r' :: rest => some (['\r'], rest)
  | 'u' :: a :: b :: c :: d :: rest => some ([heldUnit (ofDigits 16 [a, b, c, d])], rest)
  | c :: rest => some ([c], rest)
  | [] => none

/-- What the first unit between quotes stands for, and the rest; nothing at the closing quote. -/
def readUnit? : List Char → Option (List Char × List Char)
  | [] => none
  | c :: cs =>
    if c = '\\' then readEscape? cs
    else if c = '\x22' then none
    else if (half? c).isSome then
      match cs with
      | d :: rest => some ([c, d], rest)
      | [] => none
    else some ([c], cs)

/-- The characters of one unit and what they are written as between quotes. -/
inductive Written : List Char → List Char → Prop
  | char (c : Char) : Written [c] (escapeChar c)
  | pair {c d : Char} (h : isPair c d = true) : Written [c, d] [c, d]

/-! ### Escapes -/

/-- Four hexadecimal digits spell the unit that they are made from. -/
theorem ofDigits_hexDigits {n : Nat} (hn : n < 65536) :
    ofDigits 16 [hexDigit (n / 4096 % 16), hexDigit (n / 256 % 16), hexDigit (n / 16 % 16),
      hexDigit (n % 16)] = n := by
  have hdigit : ∀ m < 16, digitValue? 16 (hexDigit m) = some m := by decide
  have hmod (m : Nat) : digitValue? 16 (hexDigit (m % 16)) = some (m % 16) :=
    hdigit _ (Nat.mod_lt m (by decide))
  simp only [ofDigits, List.foldl_cons, List.foldl_nil, hmod, Option.getD_some]
  omega

/-- Four digits behind their mark are read as the unit that they spell. -/
theorem readUnit?_hex (a b c d : Char) (rest : List Char) :
    readUnit? ('\\' :: 'u' :: a :: b :: c :: d :: rest) =
      some ([heldUnit (ofDigits 16 [a, b, c, d])], rest) := rfl

/-- A unit that is written with digits is read back as the character that holds it. -/
theorem readUnit?_unitEscape {c : Char} {u : Nat} (hu : u < 65536) (hc : heldUnit u = c)
    (rest : List Char) : readUnit? (unitEscape u ++ rest) = some ([c], rest) := by
  rw [unitEscape]
  simp only [List.cons_append, List.nil_append]
  rw [readUnit?_hex, ofDigits_hexDigits hu, hc]

/-- A stand-in is as far from the first one as its half is from the first half. -/
theorem half?_eq_some {c : Char} {u : Nat} (h : half? c = some u) :
    firstStandIn ≤ c.toNat ∧ u = 0xd800 + (c.toNat - firstStandIn) := by
  rw [half?] at h
  split at h
  · cases h
  · exact ⟨by omega, (Option.some.inj h).symm⟩

/-- A stand-in for a half is the one that holds it. -/
theorem heldUnit_of_half? {c : Char} {u : Nat} (h : half? c = some u) :
    u < 65536 ∧ heldUnit u = c := by
  obtain ⟨hlow, hu⟩ := half?_eq_some h
  have hhigh : c.toNat < 0x110000 := by
    rcases c.valid with hc | hc
    · exact Nat.lt_trans hc (by decide)
    · exact hc.2
  rw [firstStandIn] at hlow hu
  refine ⟨by omega, ?_⟩
  have hhalf : (isHighHalf u || isLowHalf u) = true := by
    simp only [isHighHalf, isLowHalf, Bool.or_eq_true, Bool.and_eq_true, decide_eq_true_eq]
    omega
  have hsame : firstStandIn + (u - 0xd800) = c.toNat := by
    rw [firstStandIn]
    omega
  rw [heldUnit, if_pos hhalf, hsame, Char.ofNat_toNat]

/-- One unit is read back, whatever stands behind it. -/
theorem readUnit?_append {us w : List Char} (h : Written us w) (rest : List Char) :
    readUnit? (w ++ rest) = some (us, rest) := by
  cases h with
  | @pair c d h =>
    simp only [isPair, Bool.and_eq_true] at h
    cases hc : half? c with
    | none => simp [hc] at h
    | some u =>
      have hlow := (half?_eq_some hc).1
      have hne {e : Char} (he : e.toNat < 128) : c ≠ e := by
        rintro rfl
        rw [firstStandIn] at hlow
        omega
      rw [List.cons_append, readUnit?.eq_def]
      dsimp only
      rw [if_neg (hne (by decide)), if_neg (hne (by decide)), hc]
      rfl
  | char c =>
    rw [escapeChar]
    by_cases hquote : c = '\x22'
    · subst hquote
      rfl
    rw [if_neg hquote]
    by_cases hslash : c = '\\'
    · subst hslash
      rfl
    rw [if_neg hslash]
    -- the five controls with an escape of their own
    iterate 5
      split
      · rename_i hcontrol
        subst hcontrol
        rfl
    split
    · rename_i hsmall
      have hheld : heldUnit c.toNat = c := by
        have hno : (isHighHalf c.toNat || isLowHalf c.toNat) = false := by
          simp only [isHighHalf, isLowHalf, Bool.or_eq_false_iff, Bool.and_eq_false_iff,
            decide_eq_false_iff_not]
          omega
        rw [heldUnit, hno, if_neg Bool.false_ne_true, Char.ofNat_toNat]
      exact readUnit?_unitEscape (by omega) hheld rest
    · cases hc : half? c with
      | some u =>
        obtain ⟨hu, hheld⟩ := heldUnit_of_half? hc
        exact readUnit?_unitEscape hu hheld rest
      | none =>
        show readUnit? (c :: rest) = _
        rw [readUnit?.eq_def]
        dsimp only
        rw [if_neg hslash, if_neg hquote, hc]
        rfl

/-! ### Texts between quotes -/

/-- A text between quotes opens with the unit that it begins with. -/
theorem exists_written {cs : List Char} (hcs : cs ≠ []) : ∃ us w rest, Written us w ∧
    cs = us ++ rest ∧ rest.length < cs.length ∧ escaped cs = w ++ escaped rest := by
  match cs with
  | [] => exact absurd rfl hcs
  | [c] => exact ⟨[c], escapeChar c, [], .char c, rfl, Nat.zero_lt_one, (List.append_nil _).symm⟩
  | c :: d :: cs =>
    by_cases h : isPair c d = true
    · refine ⟨[c, d], [c, d], cs, .pair h, rfl, by simp only [List.length_cons]; omega, ?_⟩
      rw [escaped, if_pos h]
      rfl
    · refine ⟨[c], escapeChar c, d :: cs, .char c, rfl, by simp, ?_⟩
      rw [escaped, if_neg h]

/-- Texts between quotes that agree up to a closing quote are the same. -/
theorem escaped_append_inj {r r' : List Char} : ∀ (n : Nat) {cs ds : List Char}, cs.length ≤ n →
    escaped cs ++ '\x22' :: r = escaped ds ++ '\x22' :: r' → cs = ds ∧ r = r' := by
  -- the closing quote is no unit
  have hquote {ds : List Char} (hds : ds ≠ []) (r r' : List Char) :
      '\x22' :: r ≠ escaped ds ++ '\x22' :: r' := by
    obtain ⟨us, w, rest, hw, -, -, hescaped⟩ := exists_written hds
    intro h
    have hread := readUnit?_append hw (escaped rest ++ '\x22' :: r')
    rw [← List.append_assoc, ← hescaped, ← h] at hread
    cases hread
  intro n
  induction n with
  | zero =>
    intro cs ds hn h
    obtain rfl := List.eq_nil_of_length_eq_zero (Nat.le_zero.mp hn)
    by_cases hds : ds = []
    · subst hds
      exact ⟨rfl, (List.cons.inj h).2⟩
    · exact absurd h (hquote hds r r')
  | succ n ih =>
    intro cs ds hn h
    by_cases hcs : cs = []
    · subst hcs
      exact ih (Nat.zero_le n) h
    by_cases hds : ds = []
    · subst hds
      exact absurd h.symm (hquote hcs r' r)
    obtain ⟨us, w, rest, hw, rfl, hlt, hescaped⟩ := exists_written hcs
    obtain ⟨us', w', rest', hw', rfl, -, hescaped'⟩ := exists_written hds
    rw [hescaped, hescaped', List.append_assoc, List.append_assoc] at h
    have hread := readUnit?_append hw (escaped rest ++ '\x22' :: r)
    rw [h, readUnit?_append hw', Option.some.injEq, Prod.mk.injEq] at hread
    obtain ⟨rfl, hrest⟩ := hread
    obtain ⟨rfl, hr⟩ := ih (by omega) hrest.symm
    exact ⟨rfl, hr⟩

/-- Quoted texts in front of the same text are the same. -/
theorem quote_append_inj {s t : String} {r r' : List Char}
    (h : (quote s).toList ++ r = (quote t).toList ++ r') : s = t ∧ r = r' := by
  have hchars (s : String) (r : List Char) :
      (quote s).toList ++ r = '\x22' :: (escaped s.toList ++ '\x22' :: r) := by
    rw [quote, String.toList_ofList, quoteChars, List.cons_append, List.append_assoc,
      List.singleton_append]
  rw [hchars, hchars] at h
  obtain ⟨hst, hr⟩ := escaped_append_inj _ (Nat.le_refl _) (List.cons.inj h).2
  exact ⟨String.toList_inj.mp hst, hr⟩

end TypeHints.Text
