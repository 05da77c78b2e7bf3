import TypeHints.Proofs.AliasValues
import TypeHints.Proofs.Literals
import TypeHints.Proofs.Words

/-!
# Numbers and their texts

The text of a number is a decimal, positional or with an exponent. Read back without rounding it
gives the digits of the number, perhaps with factors of ten that stood in the exponent
(`Binary64.spelled?_placeText`). The digits of a number have no factor of ten left, so two numbers
with one text are one number, but for the two zeros (`Binary64.toText_inj`).

How a number is written depends on how many digits it has and where its point is. There are five
cases: all digits and perhaps zeros behind them, a point between digits, zeros between the point and
the digits, and an exponent behind one digit or behind several with a point. In each of them the
reader finds two runs of digits and an exponent, and three facts cover all cases:

* `spelled?_whole`: a text without a point spells its digits;
* `spelled?_split`: a point between digits lowers the exponent by the number of those behind it;
* `spelled?_zeros`: so do zeros in front of the digits, which count as digits, too.

Factors of ten can stand in the digits or in the exponent, so the reading of a text does not give
the digits alone. But digits without factors of ten can be told from their multiples
(`eq_of_shifted`).

The rest is about keys. Texts of numbers are words, and the key of a literal is a mark with a word
behind it, so that the key tells the literal apart if it is neither a text, which may hold anything,
nor the negative zero, which is written like zero (`Literal.key_inj`).
-/

namespace TypeHints

open Text

namespace Binary64

/-! ### Decimals as they are read -/

/-- The digits behind a point, if a text opens with one, and the rest. -/
def pointed : List Char → List Char × List Char
  | '.' :: r => digitRun r
  | r => ([], r)

/-- The exponent at the end of a number: nothing, or `e`, a sign if any and digits up to the end. -/
def exponent? : List Char → Option Int
  | [] => some 0
  | c :: cs =>
    if c = 'e' ∨ c = 'E' then
      let signed : Bool × List Char := match cs with
        | '-' :: r => (true, r)
        | '+' :: r => (false, r)
        | r => (false, r)
      match digitRun signed.2 with
      | (_ :: _, _ :: _) => none
      | ([], _) => none
      | (ds, []) => some (if signed.1 then -(ofDigits 10 ds : Int) else ofDigits 10 ds)
    else none

/-- The digits and the exponent that an unsigned decimal text spells, before rounding. -/
def spelled? (cs : List Char) : Option (Nat × Int) :=
  let whole := digitRun cs
  let part := pointed whole.2
  (exponent? part.2).map fun e => (ofDigits 10 (whole.1 ++ part.1), e - part.1.length)

/-- A run of digits ends where the next character is no digit. -/
theorem digitRun_append {ds rest : List Char} (hds : ∀ c ∈ ds, isDigit c = true)
    (hrest : ∀ c ∈ rest.head?, isDigit c = false) : digitRun (ds ++ rest) = (ds, rest) := by
  have htail : rest.takeWhile isDigit = [] ∧ rest.dropWhile isDigit = rest := by
    cases rest with
    | nil => exact ⟨rfl, rfl⟩
    | cons c rest =>
      have hc : isDigit c = false := hrest c rfl
      simp [hc]
  show (List.takeWhile isDigit _, List.dropWhile isDigit _) = _
  rw [List.takeWhile_append_of_pos hds, List.dropWhile_append_of_pos hds, htail.1, htail.2,
    List.append_nil]

/-- What an exponent is written as. -/
def exponentMark (e : Int) : List Char :=
  'e' :: (if e < 0 then '-' else '+') :: decimalChars e.natAbs

/-- An exponent is read back from what it is written as. -/
theorem exponent?_exponentMark (e : Int) : exponent? (exponentMark e) = some e := by
  have hrun : digitRun (decimalChars e.natAbs) = (decimalChars e.natAbs, []) := by
    have hstop : ∀ c ∈ ([] : List Char).head?, isDigit c = false := by simp
    have happend := digitRun_append (fun c hc ↦ isDigit_of_mem_decimalChars (n := e.natAbs) hc) hstop
    rwa [List.append_nil] at happend
  have hvalue : ofDigits 10 (decimalChars e.natAbs) = e.natAbs := ofDigits_decimalChars _
  obtain ⟨c, cs, hchars⟩ := List.exists_cons_of_ne_nil (Nat.toDigits_ne_nil (b := 10) (n := e.natAbs))
  replace hchars : decimalChars e.natAbs = c :: cs := hchars
  rw [hchars] at hrun hvalue
  by_cases hneg : e < 0
  · rw [exponentMark, if_pos hneg, hchars, exponent?]
    simp only [true_or, if_true, hrun, hvalue, Option.some.injEq]
    omega
  · rw [exponentMark, if_neg hneg, hchars, exponent?]
    simp only [true_or, if_true, hrun, hvalue, Bool.false_eq_true, if_false, Option.some.injEq]
    omega

/-- What may stand behind the digits of a number: nothing, or an exponent. -/
def Tail (rest : List Char) (e : Int) : Prop := rest = [] ∧ e = 0 ∨ rest = exponentMark e

section Tail

variable {rest ds as bs : List Char} {e : Int}

/-- What stands behind the digits is read as the exponent. -/
theorem Tail.exponent?_eq (h : Tail rest e) : exponent? rest = some e := by
  rcases h with ⟨rfl, rfl⟩ | rfl
  · rfl
  · exact exponent?_exponentMark e

/-- What stands behind the digits begins with no digit. -/
theorem Tail.isDigit_head (h : Tail rest e) : ∀ c ∈ rest.head?, isDigit c = false := by
  rcases h with ⟨rfl, rfl⟩ | rfl
  · simp
  · rintro c ⟨⟩
    rfl

/-- What stands behind the digits begins with no point. -/
theorem Tail.pointed_eq (h : Tail rest e) : pointed rest = ([], rest) := by
  rcases h with ⟨rfl, rfl⟩ | rfl <;> rfl

/-- A text without a point spells its digits. -/
theorem spelled?_whole (hds : ∀ c ∈ ds, isDigit c = true) (h : Tail rest e) :
    spelled? (ds ++ rest) = some (ofDigits 10 ds, e) := by
  rw [spelled?, digitRun_append hds h.isDigit_head]
  simp only [h.pointed_eq, h.exponent?_eq, Option.map_some, List.append_nil, List.length_nil]
  simp

/-- Digits behind a point lower the exponent. -/
theorem spelled?_part (has : ∀ c ∈ as, isDigit c = true) (hbs : ∀ c ∈ bs, isDigit c = true)
    (h : Tail rest e) :
    spelled? (as ++ '.' :: (bs ++ rest)) = some (ofDigits 10 (as ++ bs), e - bs.length) := by
  have hpoint : ∀ c ∈ ('.' :: (bs ++ rest)).head?, isDigit c = false := by
    rintro c ⟨⟩
    rfl
  rw [spelled?, digitRun_append has hpoint]
  simp only [pointed, digitRun_append hbs h.isDigit_head, h.exponent?_eq, Option.map_some]

end Tail

/-! ### Digits at a place -/

/-- Zeros in front of digits do not count. -/
theorem ofDigits_zeros (n : Nat) (ds : List Char) :
    ofDigits 10 (List.replicate n '0' ++ ds) = ofDigits 10 ds := by
  induction n with
  | zero => rfl
  | succ n ih => exact ih

theorem isDigit_of_mem_zeros {n : Nat} : ∀ c ∈ List.replicate n '0', isDigit c = true := by
  intro c hc
  rw [List.eq_of_mem_replicate hc]
  rfl

section Digits

variable {ds : List Char} (hds : ∀ c ∈ ds, isDigit c = true)

include hds

/-- A point between digits lowers the exponent by those behind it. -/
theorem spelled?_split {n : Nat} (hn : n ≤ ds.length) :
    spelled? (ds.take n ++ '.' :: ds.drop n) = some (ofDigits 10 ds, (n : Int) - ds.length) := by
  have htail : Tail [] 0 := .inl ⟨rfl, rfl⟩
  have hread := spelled?_part (fun c hc ↦ hds c (List.mem_of_mem_take (i := n) hc))
    (fun c hc ↦ hds c (List.mem_of_mem_drop (i := n) hc)) htail
  rw [List.append_nil, List.take_append_drop, List.length_drop] at hread
  refine hread.trans ?_
  congr 2
  omega

/-- So do zeros behind a point, and all digits with them. -/
theorem spelled?_zeros (n : Nat) :
    spelled? ('0' :: '.' :: (List.replicate n '0' ++ ds)) =
      some (ofDigits 10 ds, -((n : Int) + ds.length)) := by
  have hbehind : ∀ c ∈ List.replicate n '0' ++ ds, isDigit c = true :=
    fun c hc ↦ (List.mem_append.mp hc).elim (isDigit_of_mem_zeros c) (hds c)
  have htail : Tail [] 0 := .inl ⟨rfl, rfl⟩
  have hread := spelled?_part (isDigit_of_mem_zeros (n := 1)) hbehind htail
  rw [List.append_nil, ofDigits_zeros, ofDigits_zeros, List.length_append,
    List.length_replicate] at hread
  refine hread.trans ?_
  congr 2
  omega

end Digits

/-- The digits of a number at their place are read back, with factors of ten if it is an integer. -/
theorem spelled?_placeText {digits : Nat} (hdigits : 0 < digits) (e : Int) : ∃ j : Nat,
    spelled? (placeText (decimalChars digits) ((decimalChars digits).length + e)) =
      some (digits * 10 ^ j, e - j) := by
  have hds : ∀ c ∈ decimalChars digits, isDigit c = true := fun c hc ↦ isDigit_of_mem_decimalChars hc
  have hvalue := ofDigits_decimalChars digits
  rw [placeText]
  dsimp only
  split
  · -- an integer, with zeros for the exponent
    rename_i hpoint
    obtain ⟨j, rfl⟩ : ∃ j : Nat, e = j := ⟨e.toNat, by omega⟩
    refine ⟨j, ?_⟩
    have hlength : ((decimalChars digits).length + (j : Int) - (decimalChars digits).length).toNat =
      j := by omega
    rw [hlength, ← decimalChars_mul_pow hdigits, ← List.append_nil (decimalChars _),
      spelled?_whole (fun c hc ↦ isDigit_of_mem_decimalChars hc) (.inl ⟨rfl, rfl⟩),
      ofDigits_decimalChars]
    simp
  refine ⟨0, ?_⟩
  simp only [Nat.pow_zero, Nat.mul_one, Int.natCast_zero, Int.sub_zero]
  rename_i hwhole
  generalize decimalChars digits = ds at hds hvalue hwhole ⊢
  split
  · -- the point stands between the digits
    rename_i hpoint
    have hbound : (ds.length + e).toNat ≤ ds.length := by omega
    rw [spelled?_split hds hbound, hvalue]
    congr 2
    omega
  split
  · -- zeros stand between the point and the digits
    rename_i hpoint
    rw [spelled?_zeros hds, hvalue]
    congr 2
    omega
  · -- an exponent behind one digit, or behind a point after the first one
    have hmark : Tail (exponentMark (ds.length + e - 1)) (ds.length + e - 1) := .inr rfl
    rcases ds with - | ⟨d, - | ⟨d', rest⟩⟩
    · have hzero : digits = 0 := hvalue.symm
      omega
    · refine (spelled?_whole hds hmark).trans ?_
      rw [hvalue]
      congr 2
      simp only [List.length_cons, List.length_nil]
      omega
    · obtain ⟨hd, hrest⟩ := List.forall_mem_cons.mp hds
      have hfirst : ∀ c ∈ [d], isDigit c = true := by simpa using hd
      refine (spelled?_part hfirst hrest hmark).trans ?_
      show some (ofDigits 10 (d :: d' :: rest), _) = _
      rw [hvalue]
      congr 2
      simp only [List.length_cons]
      omega

/-! ### Numbers with one text -/

/-- The digits of a finite number have no factor of ten, and zero has the exponent zero. -/
def isReduced : Binary64 → Bool
  | .finite _ digits e => digits % 10 ≠ 0 || (digits = 0 && e = 0)
  | _ => true

/-- The text of a number without its sign. -/
def unsignedText (digits : Nat) (e : Int) : List Char :=
  if digits = 0 then ['0'] else placeText (decimalChars digits) ((decimalChars digits).length + e)

/-- The text of a number is its sign and the text without it, as long as zero has no sign. -/
theorem toText_finite_toList {negative : Bool} {digits : Nat} {e : Int}
    (hzero : negative = true → digits ≠ 0) : (toText (.finite negative digits e)).toList =
      (if negative then ['-'] else []) ++ unsignedText digits e := by
  rw [toText, unsignedText]
  by_cases hdigits : digits = 0
  · cases negative with
    | false => simp [hdigits]
    | true => exact absurd hdigits (hzero rfl)
  · rw [if_neg hdigits, if_neg hdigits]
    cases negative <;> simp

/-- The text of a number without its sign opens with a digit. -/
theorem isDigit_head_unsignedText (digits : Nat) (e : Int) :
    ∃ c cs, unsignedText digits e = c :: cs ∧ isDigit c = true := by
  rw [unsignedText]
  split
  · exact ⟨_, _, rfl, rfl⟩
  obtain ⟨d, ds, hchars⟩ := List.exists_cons_of_ne_nil (Nat.toDigits_ne_nil (b := 10) (n := digits))
  replace hchars : decimalChars digits = d :: ds := hchars
  have hd : isDigit d = true := by
    refine isDigit_of_mem_decimalChars (n := digits) ?_
    rw [hchars]
    exact List.mem_cons_self
  rw [hchars, placeText]
  dsimp only
  split
  · exact ⟨d, _, rfl, hd⟩
  split
  · rename_i hpoint
    obtain ⟨n, hn⟩ : ∃ n, (((d :: ds).length : Int) + e).toNat = n + 1 :=
      ⟨(((d :: ds).length : Int) + e).toNat - 1, by omega⟩
    rw [hn]
    exact ⟨d, _, rfl, hd⟩
  split
  · exact ⟨'0', _, rfl, rfl⟩
  · cases ds <;> exact ⟨d, _, rfl, hd⟩

/-- The text of a number without its sign spells its digits, with factors of ten if it is an
integer. -/
theorem spelled?_unsignedText {digits : Nat} {e : Int} (h : digits = 0 → e = 0) : ∃ j : Nat,
    spelled? (unsignedText digits e) = some (digits * 10 ^ j, e - j) := by
  rw [unsignedText]
  split
  · rename_i hzero
    obtain rfl := h hzero
    exact ⟨0, by rw [hzero]; rfl⟩
  · rename_i hpos
    exact spelled?_placeText (Nat.pos_of_ne_zero hpos) e

/-- Decimals without factors of ten are equal if they are with factors of ten. -/
theorem eq_of_shifted {m n : Nat} {d e : Int} {i j : Nat} (hm : m % 10 ≠ 0) (hn : n % 10 ≠ 0)
    (hdigits : m * 10 ^ i = n * 10 ^ j) (he : d - i = e - j) : m = n ∧ d = e := by
  have hle {m n i j : Nat} (hm : m % 10 ≠ 0) (h : m * 10 ^ i = n * 10 ^ j) : j ≤ i := by
    refine Nat.le_of_not_lt fun hlt ↦ ?_
    obtain ⟨k, rfl⟩ : ∃ k, j = i + (k + 1) := ⟨j - i - 1, by omega⟩
    have hfactor : m = n * 10 ^ k * 10 := by
      have hpos : 0 < 10 ^ i := Nat.pow_pos (by decide)
      refine Nat.eq_of_mul_eq_mul_right hpos ?_
      rw [h, Nat.pow_add, Nat.pow_succ, Nat.mul_comm (10 ^ i), ← Nat.mul_assoc, ← Nat.mul_assoc]
    exact hm (by rw [hfactor, Nat.mul_mod_left])
  obtain rfl : i = j := Nat.le_antisymm (hle hn hdigits.symm) (hle hm hdigits)
  exact ⟨Nat.eq_of_mul_eq_mul_right (Nat.pow_pos (by decide)) hdigits, by omega⟩

/-- Numbers that are written alike but for their signs have the same digits and the same exponent.
-/
theorem unsignedText_inj {m n : Nat} {d e : Int} (hm : isReduced (.finite false m d) = true)
    (hn : isReduced (.finite false n e) = true) (h : unsignedText m d = unsignedText n e) :
    m = n ∧ d = e := by
  simp only [isReduced, Bool.or_eq_true, Bool.and_eq_true, decide_eq_true_eq] at hm hn
  obtain ⟨i, hi⟩ := spelled?_unsignedText (show m = 0 → d = 0 by omega)
  obtain ⟨j, hj⟩ := spelled?_unsignedText (show n = 0 → e = 0 by omega)
  rw [h, hj, Option.some.injEq, Prod.mk.injEq] at hi
  obtain ⟨hdigits, he⟩ := hi
  have hpow (k : Nat) : 0 < 10 ^ k := Nat.pow_pos (by decide)
  rcases hm with hm | ⟨rfl, rfl⟩
  · rcases hn with hn | ⟨rfl, rfl⟩
    · exact eq_of_shifted hm hn hdigits.symm he.symm
    · rw [Nat.zero_mul, eq_comm, Nat.mul_eq_zero] at hdigits
      have := hpow i
      omega
  · rw [Nat.zero_mul, Nat.mul_eq_zero] at hdigits
    have := hpow j
    omega

/-- Whether a text opens with a digit, perhaps behind a sign. -/
def opensWithDigit : List Char → Bool
  | '-' :: c :: _ => isDigit c
  | c :: _ => isDigit c
  | [] => false

/-- The text of a finite number opens with a digit, which tells it from the names of other numbers.
-/
theorem opensWithDigit_toText {negative : Bool} {digits : Nat} {e : Int}
    (hzero : negative = true → digits ≠ 0) :
    opensWithDigit (toText (.finite negative digits e)).toList = true := by
  obtain ⟨c, cs, htext, hc⟩ := isDigit_head_unsignedText digits e
  rw [toText_finite_toList hzero, htext]
  cases negative with
  | true => exact hc
  | false =>
    have hne : c ≠ '-' := by
      rintro rfl
      cases hc
    simpa [opensWithDigit, hne] using hc

/-- A finite number but the negative zero has a sign only in front of digits. -/
theorem digits_ne_zero {negative : Bool} {digits : Nat} {e : Int}
    (h : isReduced (.finite negative digits e) = true)
    (h' : isNegativeZero (.finite negative digits e) = false) : negative = true → digits ≠ 0 := by
  rintro rfl rfl
  simp only [isReduced, Bool.or_eq_true, Bool.and_eq_true, decide_eq_true_eq] at h
  obtain rfl : e = 0 := by simpa using h
  cases h'

/-- Numbers with one text are one number, if neither is the negative zero. -/
theorem toText_inj {x y : Binary64} (hx : x.isReduced = true) (hy : y.isReduced = true)
    (hx' : x.isNegativeZero = false) (hy' : y.isNegativeZero = false) (h : x.toText = y.toText) :
    x = y := by
  have hopens : opensWithDigit x.toText.toList = opensWithDigit y.toText.toList := by rw [h]
  cases x with
  | nan =>
    cases y with
    | nan => rfl
    | infinite negative => cases negative <;> exact absurd h (by decide)
    | finite negative n e =>
      rw [opensWithDigit_toText (digits_ne_zero hy hy')] at hopens
      exact absurd hopens (by decide)
  | infinite negative =>
    cases y with
    | nan => cases negative <;> exact absurd h (by decide)
    | infinite negative' => cases negative <;> cases negative' <;> first | rfl | exact absurd h (by decide)
    | finite negative' n e =>
      rw [opensWithDigit_toText (digits_ne_zero hy hy')] at hopens
      cases negative <;> exact absurd hopens (by decide)
  | finite negative m d =>
    have hm := digits_ne_zero hx hx'
    cases y with
    | nan =>
      rw [opensWithDigit_toText hm] at hopens
      exact absurd hopens (by decide)
    | infinite negative' =>
      rw [opensWithDigit_toText hm] at hopens
      cases negative' <;> exact absurd hopens (by decide)
    | finite negative' n e =>
      have hchars := congrArg String.toList h
      rw [toText_finite_toList hm, toText_finite_toList (digits_ne_zero hy hy')] at hchars
      obtain ⟨c, cs, hc, hcdigit⟩ := isDigit_head_unsignedText m d
      obtain ⟨c', cs', hc', hcdigit'⟩ := isDigit_head_unsignedText n e
      have hsign : negative = negative' := by
        rw [hc, hc'] at hchars
        cases negative <;> cases negative' <;> first | rfl | skip
        · obtain rfl : c = '-' := (List.cons.inj hchars).1
          cases hcdigit
        · obtain rfl : '-' = c' := (List.cons.inj hchars).1
          cases hcdigit'
      subst hsign
      obtain ⟨rfl, rfl⟩ := unsignedText_inj hx hy (List.append_cancel_left hchars)
      rfl

/-! ### Texts of numbers are words -/

/-- The characters that numbers are written with. -/
def isNumeral (c : Char) : Bool := isDigit c || c ∈ ['.', 'e', '+', '-']

/-- Only the characters of numbers stand in the text of digits at a place. -/
theorem isNumeral_of_mem_placeText {ds : List Char} (hds : ∀ c ∈ ds, isDigit c = true) {point : Int} :
    ∀ c ∈ placeText ds point, isNumeral c = true := by
  have hdigit {cs : List Char} (hcs : ∀ c ∈ cs, isDigit c = true) : ∀ c ∈ cs, isNumeral c = true :=
    fun c hc ↦ by rw [isNumeral, hcs c hc, Bool.true_or]
  have hzeros (n : Nat) : ∀ c ∈ List.replicate n '0', isNumeral c = true := by
    intro c hc
    rw [List.eq_of_mem_replicate hc]
    rfl
  have hmark (e : Int) : ∀ c ∈ exponentMark e, isNumeral c = true := by
    rw [exponentMark, List.forall_mem_cons, List.forall_mem_cons]
    refine ⟨rfl, ?_, hdigit fun c hc ↦ isDigit_of_mem_decimalChars hc⟩
    split <;> rfl
  rw [placeText]
  dsimp only
  split
  · exact List.forall_mem_append.mpr ⟨hdigit hds, hzeros _⟩
  split
  · refine List.forall_mem_append.mpr ⟨fun c hc ↦ hdigit hds c (List.mem_of_mem_take hc), ?_⟩
    exact List.forall_mem_cons.mpr ⟨rfl, fun c hc ↦ hdigit hds c (List.mem_of_mem_drop hc)⟩
  split
  · refine List.forall_mem_cons.mpr ⟨rfl, List.forall_mem_cons.mpr ⟨rfl, ?_⟩⟩
    exact List.forall_mem_append.mpr ⟨hzeros _, hdigit hds⟩
  · rcases ds with - | ⟨d, - | ⟨d', rest⟩⟩
    · exact hmark (point - 1)
    · exact List.forall_mem_cons.mpr ⟨hdigit hds d List.mem_cons_self, hmark (point - 1)⟩
    · obtain ⟨hd, hrest⟩ := List.forall_mem_cons.mp (hdigit hds)
      refine List.forall_mem_cons.mpr ⟨hd, List.forall_mem_cons.mpr ⟨rfl, ?_⟩⟩
      exact List.forall_mem_append.mpr ⟨hrest, hmark (point - 1)⟩

/-- A text of such characters has none of the signs that keys are put together with. -/
theorem isWord_of_isNumeral {s : String} (hs : ∀ c ∈ s.toList, isNumeral c = true) :
    isWord s = true := by
  refine List.all_eq_true.mpr fun c hc ↦ decide_eq_true fun hsign ↦ ?_
  have hnumeral := hs c hc
  simp only [keySigns, List.mem_cons, List.not_mem_nil, or_false] at hsign
  rcases hsign with rfl | rfl | rfl | rfl <;> cases hnumeral

/-- Texts of numbers are words, those of the numbers that are not finite among them. -/
theorem isWord_toText (x : Binary64) : isWord x.toText = true := by
  cases x with
  | nan => decide
  | infinite negative => cases negative <;> decide
  | finite negative digits e =>
    have hbody : isWord (String.ofList (placeText (decimalChars digits)
        ((decimalChars digits).length + e))) = true := by
      refine isWord_of_isNumeral ?_
      rw [String.toList_ofList]
      exact isNumeral_of_mem_placeText fun c hc ↦ isDigit_of_mem_decimalChars hc
    rw [toText]
    split
    · decide
    dsimp only
    split
    · rw [isWord_append, hbody]
      decide
    · exact hbody

end Binary64

/-! ### Keys of literals -/

theorem isWord_decimal (n : Nat) : isWord (decimal n) = true := by
  refine Binary64.isWord_of_isNumeral fun c hc ↦ ?_
  rw [decimal, String.toList_ofList] at hc
  rw [Binary64.isNumeral, isDigit_of_mem_decimalChars hc, Bool.true_or]

/-- Integers are told apart by their decimal texts. -/
theorem decimalInt_inj {i j : Int} (h : decimalInt i = decimalInt j) : i = j := by
  -- digits are no sign
  have hsign (m n : Nat) : decimal m ≠ "-" ++ decimal n := by
    intro h
    refine notMem_decimal (show '-'.isDigit = false by decide) m ?_
    simp [h]
  cases i with
  | ofNat m =>
    cases j with
    | ofNat n => rw [decimal_inj h]
    | negSucc n => exact absurd h (hsign m _)
  | negSucc m =>
    cases j with
    | ofNat n => exact absurd h.symm (hsign n _)
    | negSucc n =>
      have htail : decimal (m + 1) = decimal (n + 1) := by
        have hchars := congrArg String.toList h
        simp only [decimalInt, String.toList_append] at hchars
        exact String.toList_inj.mp (List.append_cancel_left hchars)
      rw [Nat.succ.inj (decimal_inj htail)]

namespace Literal

/-- Whether a literal is neither a text nor the negative zero. -/
def isSafe : Literal → Bool
  | .string _ => false
  | .number x => x.isReduced && !x.isNegativeZero
  | _ => true

/-- The key of a literal is marked with the kind of its value. -/
theorem marked_key (v : Literal) : Marked v.kindName v.key := by
  have hletters : ∀ mark ∈ ["string", "number", "boolean", "bigint", "null", "undefined"],
      isMark mark = true := by decide
  cases v with
  | null => exact marked_self (hletters _ (by decide))
  | string _ | number _ | bool _ | bigint _ | undefined =>
    exact marked_append (hletters _ (by simp [kindName])) _

/-- The key of a literal is a word, unless the literal is a text. -/
theorem isWord_key {v : Literal} (hv : v.isSafe = true) : isWord v.key = true := by
  cases v with
  | string t => cases hv
  | number x =>
    show isWord ("number" ++ ":" ++ x.toText) = true
    rw [isWord_append, Binary64.isWord_toText]
    decide
  | bool b => cases b <;> decide
  | bigint i =>
    show isWord ("bigint" ++ ":" ++ decimalInt i) = true
    have hdigits : isWord (decimalInt i) = true := by
      cases i with
      | ofNat n => exact isWord_decimal n
      | negSucc n =>
        show isWord ("-" ++ decimal (n + 1)) = true
        rw [isWord_append, isWord_decimal (n + 1)]
        decide
    rw [isWord_append, hdigits]
    decide
  | null => decide
  | undefined => decide

/-- The key of a literal tells it apart, if it is neither a text nor the negative zero. -/
theorem key_inj {v w : Literal} (hv : v.isSafe = true) (hw : w.isSafe = true) (h : v.key = w.key) :
    v = w := by
  have hend : ∀ c ∈ ([] : List Char).head?, c.isAlpha = false := by simp
  have hkind : v.kindName = w.kindName := v.marked_key.inj w.marked_key hend hend (by rw [h])
  -- behind the same kind the bare texts agree
  have hplain (hv : v.key = v.kindName ++ ":" ++ v.plain) (hw : w.key = w.kindName ++ ":" ++ w.plain) :
      v.plain = w.plain := by
    rw [hv, hw, hkind] at h
    have hchars := congrArg String.toList h
    simp only [String.toList_append] at hchars
    exact String.toList_inj.mp (List.append_cancel_left hchars)
  cases v <;> cases w <;> simp only [kindName, String.reduceEq] at hkind
  case string.string => cases hv
  case number.number x y =>
    simp only [isSafe, Bool.and_eq_true, Bool.not_eq_true'] at hv hw
    rw [Binary64.toText_inj hv.1 hw.1 hv.2 hw.2 (hplain rfl rfl)]
  case bool.bool b c =>
    have := hplain rfl rfl
    cases b <;> cases c <;> first | rfl | exact absurd this (by decide)
  case bigint.bigint i j => rw [decimalInt_inj (hplain rfl rfl)]
  case null.null => rfl
  case undefined.undefined => rfl

end Literal

end TypeHints
