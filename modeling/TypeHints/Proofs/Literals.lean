import Mathlib.Algebra.Group.Nat.Defs
import TypeHints.Literal
import TypeHints.Proofs.Tokens

/-!
# Literals in front of a text

What literals are written as is read as their values, and what is read is written in the same way
again. A literal hint is known by its text alone, so this is what makes the text of a hint stand for
the hint.

* Numerals. The decimal text of a natural number is read as that number (`heads_decimal`), and with
  the suffix of big integers as that big integer (`heads_bigint`), if a delimiter stands behind it.
  Both are cases of `heads_numeral`: the digits in front are read the same (`number?_decimal`), and
  only what stands behind them makes the difference.
* Texts of numbers. The texts of integers below 2⁵³ are their decimal texts
  (`toText_of_safeInteger?`), and these are read as the integers again, without rounding
  (`toText_ofDecimal`, `toText_negate_ofDecimal`). Beyond 2⁵³ two integers can be the same number.
* Quoted texts. A text in quotes is read as the text (`heads_quote`), if its characters are
  printable ASCII characters, of which only the quote and the backslash are escaped.

A number is kept as a sign, digits without zeros at their end and a power of ten. `toText_finite`
says what is written for it while the digits and the power of ten make at most 21 digits, and
`ofDecimal_spec` that reading leaves a number alone that a double can hold: only its factors of ten
are moved into the power (`strip_spec`).
-/

namespace TypeHints

open Text

/-! ### Decimal digits -/

/-- The decimal text of a number consists of digits. -/
theorem isDigit_of_mem_decimalChars {n : Nat} {c : Char} (h : c ∈ decimalChars n) :
    isDigit c = true := by
  have hdigit := Nat.isDigit_of_mem_toDigits (by decide) (by decide) h
  simp only [Char.isDigit, Bool.and_eq_true, decide_eq_true_eq] at hdigit
  exact Bool.and_eq_true_iff.mpr ⟨decide_eq_true hdigit.1, decide_eq_true hdigit.2⟩

/-- The value of a decimal digit is its distance from zero. -/
theorem digitValue?_of_isDigit {c : Char} (h : isDigit c = true) :
    digitValue? 10 c = some (c.toNat - '0'.toNat) := by
  simp only [isDigit, Bool.and_eq_true, decide_eq_true_eq] at h
  have hhigh : c.toNat ≤ 57 := h.2
  have hzero : '0'.toNat = 48 := rfl
  rw [digitValue?, if_pos h]
  exact if_pos (by omega)

/-- The digits of a number spell it. -/
theorem ofDigits_decimalChars (n : Nat) : ofDigits 10 (decimalChars n) = n := by
  have hfold : ∀ (cs : List Char) (m : Nat), (∀ c ∈ cs, isDigit c = true) →
      cs.foldl (fun n c ↦ n * 10 + (digitValue? 10 c).getD 0) m = Nat.ofDigitChars 10 cs m := by
    intro cs
    induction cs with
    | nil => exact fun _ _ ↦ rfl
    | cons c cs ih =>
      intro m hcs
      obtain ⟨hc, hcs⟩ := List.forall_mem_cons.mp hcs
      rw [List.foldl_cons, ih _ hcs, digitValue?_of_isDigit hc, Nat.ofDigitChars_cons, Nat.mul_comm]
      rfl
  rw [ofDigits, hfold _ _ fun c hc ↦ isDigit_of_mem_decimalChars hc]
  exact Nat.ofDigitChars_ten_toDigits

/-- A number but zero has no leading zeros. -/
theorem head?_decimalChars {n : Nat} (hn : 0 < n) : (decimalChars n).head? ≠ some '0' := by
  induction n using Nat.strongRecOn with
  | ind n ih =>
    rw [decimalChars, Nat.toDigits_eq_if (by decide)]
    split
    · rename_i hlt
      have hdigits : ∀ d < 10, 0 < d → [d.digitChar].head? ≠ some '0' := by decide
      exact hdigits n hlt hn
    · rename_i hge
      have hdiv : 0 < n / 10 := by omega
      cases hchars : decimalChars (n / 10) with
      | nil => exact absurd hchars Nat.toDigits_ne_nil
      | cons c cs =>
        have := ih (n / 10) (by omega) hdiv
        rw [hchars] at this
        rw [decimalChars] at hchars
        rwa [hchars]

/-- A factor of ten is a zero behind the digits. -/
theorem decimalChars_mul_pow {n : Nat} (hn : 0 < n) (k : Nat) :
    decimalChars (n * 10 ^ k) = decimalChars n ++ List.replicate k '0' := by
  induction k with
  | zero => simp
  | succ k ih =>
    have hpos : 0 < n * 10 ^ k := Nat.mul_pos hn (Nat.pow_pos (by decide))
    have happend := Nat.toDigits_append_toDigits (b := 10) (n := n * 10 ^ k) (d := 0) (by decide) hpos
      (by decide)
    have hzero : Nat.toDigits 10 0 = ['0'] := rfl
    rw [Nat.pow_succ, ← Nat.mul_assoc, Nat.mul_comm _ 10, List.replicate_succ', ← List.append_assoc,
      ← ih]
    rw [hzero, Nat.add_zero] at happend
    exact happend.symm

/-! ### Texts of integers -/

namespace Binary64

/-- Integers with at most 21 digits are written with all their digits. -/
theorem toText_finite {negative : Bool} {digits e : Nat} (hdigits : 0 < digits)
    (hsize : digits * 10 ^ e < 10 ^ 21) :
    toText (.finite negative digits e) =
      if negative then "-" ++ decimal (digits * 10 ^ e) else decimal (digits * 10 ^ e) := by
  have hlength : (decimalChars (digits * 10 ^ e)).length ≤ 21 :=
    (Nat.length_toDigits_le_iff (by decide) (by decide)).mpr hsize
  rw [decimalChars_mul_pow hdigits, List.length_append, List.length_replicate] at hlength
  have hplace : placeText (decimalChars digits) ((decimalChars digits).length + e) =
      decimalChars (digits * 10 ^ e) := by
    rw [placeText, if_pos (by omega), decimalChars_mul_pow hdigits]
    congr 2
    omega
  rw [toText, if_neg (by omega)]
  dsimp only
  rw [hplace]
  rfl

/-- A safe integer is written as its digits with factors of ten, and zero without a sign. -/
theorem exists_of_safeInteger? {x : Binary64} {i : Int} (h : x.safeInteger? = some i) :
    ∃ (negative : Bool) (digits k : Nat), x = .finite negative digits k ∧
      (negative = true → digits ≠ 0) ∧ digits * 10 ^ k < 2 ^ 53 ∧
      i = if negative then -((digits * 10 ^ k : Nat) : Int) else ((digits * 10 ^ k : Nat) : Int) := by
  cases x with
  | nan => cases h
  | infinite negative => cases h
  | finite negative digits e =>
    rw [safeInteger?] at h
    by_cases hrange : e < 0 ∨ 16 < e ∨ (negative = true ∧ digits = 0)
    · rw [if_pos hrange] at h
      cases h
    rw [if_neg hrange] at h
    by_cases hsize : digits * 10 ^ e.toNat < 2 ^ 53
    case neg => cases (if_neg hsize).symm.trans h
    replace h := (if_pos hsize).symm.trans h
    obtain ⟨k, rfl⟩ : ∃ k : Nat, e = k := ⟨e.toNat, by omega⟩
    rw [Int.toNat_natCast] at hsize h
    refine ⟨negative, digits, k, rfl, fun hnegative hzero ↦ ?_, hsize, (Option.some.inj h).symm⟩
    exact hrange (.inr (.inr ⟨hnegative, hzero⟩))

/-- Safe integers are smaller than 2⁵³. -/
theorem natAbs_lt_of_safeInteger? {x : Binary64} {i : Int} (h : x.safeInteger? = some i) :
    i.natAbs < 2 ^ 53 := by
  obtain ⟨negative, digits, k, -, -, hsize, rfl⟩ := exists_of_safeInteger? h
  cases negative with
  | false => exact hsize
  | true => rwa [if_pos rfl, Int.natAbs_neg, Int.natAbs_natCast]

/-- An integer below 2⁵³ is written with all its digits. -/
theorem toText_of_safeInteger? {x : Binary64} {i : Int} (h : x.safeInteger? = some i) :
    x.toText = decimalInt i := by
  obtain ⟨negative, digits, k, rfl, hzero, hsize, rfl⟩ := exists_of_safeInteger? h
  by_cases hdigits : digits = 0
  · -- only one of the two zeros counts
    obtain rfl : negative = false := by simpa [hdigits] using hzero
    rw [hdigits, Nat.zero_mul]
    rfl
  · have hpos : 0 < digits := Nat.pos_of_ne_zero hdigits
    rw [toText_finite hpos (Nat.lt_trans hsize (by decide))]
    have hvalue : 0 < digits * 10 ^ k := Nat.mul_pos hpos (Nat.pow_pos (by decide))
    generalize digits * 10 ^ k = value at hvalue
    cases negative with
    | false => rfl
    | true =>
      obtain ⟨m, rfl⟩ : ∃ m, value = m + 1 := ⟨value - 1, by omega⟩
      rfl

/-- Moving factors of ten to the exponent keeps the number. -/
theorem strip_spec (n : Nat) {digits : Nat} (hdigits : 0 < digits) (e : Nat) :
    ∃ digits' e' : Nat, strip n digits e = (digits', (e' : Int)) ∧ 0 < digits' ∧
      digits' * 10 ^ e' = digits * 10 ^ e := by
  induction n generalizing digits e with
  | zero => exact ⟨digits, e, rfl, hdigits, rfl⟩
  | succ n ih =>
    rw [strip]
    split
    · rename_i hten
      have hdiv : 0 < digits / 10 := by omega
      obtain ⟨digits', e', hstrip, hpos, hsame⟩ := ih hdiv (e + 1)
      refine ⟨digits', e', hstrip, hpos, ?_⟩
      rw [hsame, Nat.pow_succ, Nat.mul_comm (10 ^ e) 10, ← Nat.mul_assoc,
        Nat.div_mul_cancel (Nat.dvd_of_mod_eq_zero hten.2)]
    · exact ⟨digits, e, rfl, hdigits, rfl⟩

/-- The double nearest to an integer up to 2⁵³ is the integer. -/
theorem ofDecimal_spec (negative : Bool) {n : Nat} (hpos : 0 < n) (hn : n ≤ 2 ^ 53) :
    ∃ digits e : Nat, ofDecimal negative n 0 = .finite negative digits (e : Int) ∧ 0 < digits ∧
      digits * 10 ^ e = n := by
  have hlength : (decimalChars n).length ≤ 310 := by
    refine (Nat.length_toDigits_le_iff (by decide) (by decide)).mpr ?_
    exact Nat.lt_of_le_of_lt hn (by decide +kernel)
  obtain ⟨digits, e, hstrip, hdigits, hsame⟩ := strip_spec (n.log2 + 1) hpos 0
  refine ⟨digits, e, ?_, hdigits, by rw [hsame, Nat.pow_zero, Nat.mul_one]⟩
  -- the number is small enough to be taken over without rounding
  have hexact : (0 : Int) ≤ 0 ∧ n * Nat.pow 10 (0 : Int).toNat ≤ Nat.pow 2 53 := by
    refine ⟨Int.le_refl _, ?_⟩
    simpa using hn
  rw [ofDecimal, if_neg (by omega), if_neg (by omega), if_pos hexact, stripped]
  exact congrArg (fun s : Nat × Int ↦ Binary64.finite negative s.1 s.2) hstrip

/-- A natural number up to 2⁵³ that is read as a number is written with the same digits. -/
theorem toText_ofDecimal {n : Nat} (hn : n ≤ 2 ^ 53) : (ofDecimal false n 0).toText = decimal n := by
  cases Nat.eq_zero_or_pos n with
  | inl hzero =>
    subst hzero
    rfl
  | inr hpos =>
    obtain ⟨digits, e, hvalue, hdigits, hsame⟩ := ofDecimal_spec false hpos hn
    rw [hvalue, toText_finite hdigits (hsame ▸ Nat.lt_of_le_of_lt hn (by decide)), hsame]
    rfl

/-- The same behind a minus sign. Zero is left out, since it is written without a sign. -/
theorem toText_negate_ofDecimal {n : Nat} (hpos : 0 < n) (hn : n ≤ 2 ^ 53) :
    (ofDecimal false n 0).negate.toText = "-" ++ decimal n := by
  obtain ⟨digits, e, hvalue, hdigits, hsame⟩ := ofDecimal_spec false hpos hn
  rw [hvalue, negate, toText_finite hdigits (hsame ▸ Nat.lt_of_le_of_lt hn (by decide)), hsame]
  rfl

end Binary64

/-! ### Numerals in front of a text -/

namespace Expression.Lexing

/-- The characters that may stand behind a type within a text. -/
def delimiters : List Char := [' ', ',', ']', '>', ';']

/-- Whether a text goes on without another digit. -/
def endsDigits : List Char → Bool
  | [] => true
  | c :: _ => c ≠ '_' && (digitValue? 10 c).isNone

/-- Digits are read up to the end of the digits. -/
theorem fragment?_append {ds rest : List Char} (hds : ∀ c ∈ ds, isDigit c = true)
    (hrest : endsDigits rest = true) : ∀ separable,
      fragment? 10 separable (ds ++ rest) = some (ds, rest) := by
  induction ds with
  | nil =>
    intro separable
    cases rest with
    | nil => rfl
    | cons c rest =>
      simp only [endsDigits, Bool.and_eq_true, decide_eq_true_eq, Option.isNone_iff_eq_none] at hrest
      rw [List.nil_append, fragment?.eq_def]
      dsimp only
      rw [if_neg hrest.1, hrest.2, if_neg (by simp)]
  | cons c ds ih =>
    intro separable
    obtain ⟨hc, hds⟩ := List.forall_mem_cons.mp hds
    have hne : c ≠ '_' := by
      rintro rfl
      cases hc
    rw [List.cons_append, fragment?.eq_def]
    dsimp only
    rw [if_neg hne, digitValue?_of_isDigit hc, if_pos Option.isSome_some, ih hds]
    rfl

/-- A decimal numeral is read up to the end of its digits. -/
theorem number?_decimal (n : Nat) {c : Char} (hc : c ∈ 'n' :: delimiters) (rest : List Char) :
    number? (decimalChars n ++ c :: rest) = afterWhole? (decimalChars n) (c :: rest) := by
  have hends : endsDigits (c :: rest) = true := by
    have hall : ('n' :: delimiters).all (fun c ↦ endsDigits [c]) = true := by decide
    exact List.all_eq_true.mp hall c hc
  cases Nat.eq_zero_or_pos n with
  | inl hzero =>
    subst hzero
    have hne {d : Char} (hd : d ∉ 'n' :: delimiters) : c ≠ d := by
      rintro rfl
      exact hd hc
    have hdigit : (isDigit c || c = '_') = false := by
      have hall : ('n' :: delimiters).all (fun c ↦ !(isDigit c || c = '_')) = true := by decide
      simpa only [Bool.not_eq_true'] using List.all_eq_true.mp hall c hc
    have hzero : decimalChars 0 = ['0'] := rfl
    rw [hzero, List.singleton_append, number?.eq_7 c rest (hne (by decide)) (hne (by decide))
      (hne (by decide)) (hne (by decide)) (hne (by decide)) (hne (by decide)), hdigit,
      if_neg Bool.false_ne_true]
  | inr hpos =>
    -- the text begins with no zero, so that no other base is marked in front of it
    have hhead (ds : List Char) : decimalChars n ++ c :: rest ≠ '0' :: ds := by
      intro heq
      refine head?_decimalChars hpos ?_
      cases hchars : decimalChars n with
      | nil => exact absurd hchars Nat.toDigits_ne_nil
      | cons d ds' =>
        rw [hchars] at heq
        cases heq
        rfl
    rw [number?.eq_8 _ (fun _ ↦ hhead _) (fun _ ↦ hhead _) (fun _ ↦ hhead _) (fun _ ↦ hhead _)
      (fun _ ↦ hhead _) (fun _ ↦ hhead _) (fun _ _ ↦ hhead _),
      fragment?_append (fun c hc ↦ isDigit_of_mem_decimalChars hc) hends]
    rfl

/-- A numeral stands in front of a delimiter as a number. -/
theorem afterWhole?_delimiter (n : Nat) {c : Char} {rest : List Char}
    (hc : c ∈ delimiters) :
    afterWhole? (decimalChars n) (c :: rest) =
      some (.number (.ofDecimal false n 0), c :: rest) := by
  have hvalue : ofDigits 10 (decimalChars n ++ []) = n := by
    rw [List.append_nil, ofDigits_decimalChars]
  simp only [delimiters, List.mem_cons, List.not_mem_nil, or_false] at hc
  rcases hc with rfl | rfl | rfl | rfl | rfl
  all_goals
    refine Eq.trans ?_ (congrArg (fun n ↦ some (Lexeme.number (.ofDecimal false n 0), _)) hvalue)
    rfl

/-- A numeral with a suffix stands in front of a delimiter as a big integer. -/
theorem afterWhole?_suffix (n : Nat) {c : Char} {rest : List Char}
    (hc : c ∈ delimiters) :
    afterWhole? (decimalChars n) ('n' :: c :: rest) = some (.bigint n, c :: rest) := by
  have hvalue : ofDigits 10 (decimalChars n) = n := ofDigits_decimalChars n
  simp only [delimiters, List.mem_cons, List.not_mem_nil, or_false] at hc
  rcases hc with rfl | rfl | rfl | rfl | rfl
  all_goals
    refine Eq.trans ?_ (congrArg (fun n ↦ some (Lexeme.bigint n, _)) hvalue)
    rfl

end Expression.Lexing

namespace Expression

open Lexing

/-- A number at the front of a text that begins with a digit. -/
theorem heads_of_number? {cs rest : List Char} {l : Lexeme} {d : Char} (hd : isDigit d = true)
    (h : number? (d :: cs) = some (l, rest)) (hrest : rest.length ≤ cs.length) :
    Heads (d :: cs) l rest := by
  refine heads_solid (isSolid_of_isDigit hd) ?_ hrest
  rw [lexeme?, if_neg, if_neg (ne_of_isDigit hd (by decide)), if_pos hd, h]
  rintro (h | h) <;> exact ne_of_isDigit hd (by decide) h

/-- Decimal digits are a token with what is read behind them. -/
theorem heads_numeral (n : Nat) {c : Char} {cs rest : List Char} {l : Lexeme}
    (hc : c ∈ 'n' :: delimiters) (hafter : afterWhole? (decimalChars n) (c :: cs) = some (l, rest))
    (hrest : rest.length ≤ (c :: cs).length) : Heads (decimalChars n ++ c :: cs) l rest := by
  have hnumber := number?_decimal n hc cs
  rw [hafter] at hnumber
  cases hchars : decimalChars n with
  | nil => exact absurd hchars Nat.toDigits_ne_nil
  | cons d ds =>
    rw [hchars] at hnumber
    have hlength : rest.length ≤ (ds.append (c :: cs)).length :=
      Nat.le_trans hrest (by simp)
    refine heads_of_number? ?_ hnumber hlength
    exact isDigit_of_mem_decimalChars (n := n) (hchars ▸ List.mem_cons_self)

/-- A decimal numeral is a number. -/
theorem heads_decimal (n : Nat) {c : Char} {rest : List Char} (hc : c ∈ delimiters) :
    Heads (decimalChars n ++ c :: rest) (.number (.ofDecimal false n 0)) (c :: rest) :=
  heads_numeral n (List.mem_cons_of_mem _ hc) (afterWhole?_delimiter n hc) (Nat.le_refl _)

/-- A decimal numeral with a suffix is a big integer. -/
theorem heads_bigint (n : Nat) {c : Char} {rest : List Char} (hc : c ∈ delimiters) :
    Heads (decimalChars n ++ 'n' :: c :: rest) (.bigint n) (c :: rest) :=
  heads_numeral n List.mem_cons_self (afterWhole?_suffix n hc) (Nat.le_succ _)

/-! ### Quoted texts -/

/-- A printable character of ASCII. -/
def isPrintable (c : Char) : Bool := ' ' ≤ c && c ≤ '~'

section Quotes

variable {c : Char} {cs : List Char}

/-- The code points of printable characters. -/
theorem toNat_of_isPrintable (hc : isPrintable c = true) : 32 ≤ c.toNat ∧ c.toNat ≤ 126 := by
  simp only [isPrintable, Bool.and_eq_true, decide_eq_true_eq] at hc
  exact hc

/-- Of the printable characters, the quote and the backslash are escaped. -/
theorem escapeChar_of_isPrintable (hc : isPrintable c = true) :
    escapeChar c = if c = '\x22' ∨ c = '\\' then ['\\', c] else [c] := by
  obtain ⟨hlow, hhigh⟩ := toNat_of_isPrintable hc
  have hne {d : Char} (hd : d.toNat < 32) : c ≠ d := by
    rintro rfl
    omega
  by_cases hquote : c = '\x22'
  · subst hquote
    rfl
  by_cases hslash : c = '\\'
  · subst hslash
    rfl
  have hhalf : half? c = none := if_pos (Nat.lt_of_le_of_lt hhigh (by decide))
  rw [escapeChar, if_neg hquote, if_neg hslash, if_neg (hne (by decide)), if_neg (hne (by decide)),
    if_neg (hne (by decide)), if_neg (hne (by decide)), if_neg (hne (by decide)), if_neg (by omega),
    hhalf, if_neg (by simp [hquote, hslash])]

/-- Printable characters are escaped one by one: none of them is half of a pair. -/
theorem escaped_of_isPrintable (hcs : ∀ c ∈ cs, isPrintable c = true) :
    escaped cs = cs.flatMap escapeChar := by
  induction cs with
  | nil => rfl
  | cons c cs ih =>
    obtain ⟨hc, hcs⟩ := List.forall_mem_cons.mp hcs
    cases cs with
    | nil => simp [escaped]
    | cons d cs =>
      have hhalf : half? c = none :=
        if_pos (Nat.lt_of_le_of_lt (toNat_of_isPrintable hc).2 (by decide))
      have hpair : isPair c d = false := by
        rw [isPair, hhalf]
        rfl
      rw [escaped, hpair, if_neg Bool.false_ne_true, ih hcs]
      rfl

/-- The body of a quoted text is read up to its closing quote. -/
theorem stringBody?_escaped (hcs : ∀ c ∈ cs, isPrintable c = true) (rest : List Char) :
    ∀ n, (cs.flatMap escapeChar).length < n →
      stringBody? '\x22' n (cs.flatMap escapeChar ++ '\x22' :: rest) =
        some (cs.map Char.toNat, rest) := by
  induction cs with
  | nil =>
    rintro (- | n) hn
    · cases hn
    · rfl
  | cons c cs ih =>
    obtain ⟨hc, hcs⟩ := List.forall_mem_cons.mp hcs
    obtain ⟨hlow, hhigh⟩ := toNat_of_isPrintable hc
    rintro (- | n) hn
    · cases hn
    have hunits : unitsOfChar c = [c.toNat] := by
      have hsmall : c.toNat < firstStandIn := Nat.lt_of_le_of_lt hhigh (by decide)
      rw [unitsOfChar, if_pos hsmall, unitsOfCodePoint, if_pos (by omega)]
    have hchar := escapeChar_of_isPrintable hc
    by_cases hspecial : c = '\x22' ∨ c = '\\'
    · rw [if_pos hspecial] at hchar
      have hescape (ds : List Char) : escape? (c :: ds) = some ([c.toNat], ds) := by
        rcases hspecial with rfl | rfl <;> rfl
      rw [List.flatMap_cons, hchar] at hn ⊢
      simp only [List.cons_append, List.nil_append, List.length_cons] at hn ⊢
      rw [stringBody?, if_neg (by decide), if_neg (by decide), if_pos rfl, hescape]
      simp only [Option.bind_eq_bind, Option.bind_some]
      rw [ih hcs n (by omega)]
      rfl
    · rw [if_neg hspecial] at hchar
      have hne {d : Char} (hd : d.toNat < 32) : c ≠ d := by
        rintro rfl
        omega
      rw [List.flatMap_cons, hchar] at hn ⊢
      simp only [List.cons_append, List.nil_append, List.length_cons] at hn ⊢
      rw [stringBody?, if_neg fun h ↦ hspecial (.inl h),
        if_neg fun h ↦ h.elim (hne (by decide)) (hne (by decide)),
        if_neg fun h ↦ hspecial (.inr h), ih hcs n (by omega), hunits]
      rfl

/-- The code units of printable characters are read as the characters. -/
theorem ofUnits_map_toNat (hcs : ∀ c ∈ cs, isPrintable c = true) :
    ofUnits (cs.map Char.toNat) = cs := by
  induction cs with
  | nil => rfl
  | cons c cs ih =>
    obtain ⟨hc, hcs⟩ := List.forall_mem_cons.mp hcs
    obtain ⟨hlow, hhigh⟩ := toNat_of_isPrintable hc
    have hhigh' : isHighHalf c.toNat = false := by
      simp only [isHighHalf, Bool.and_eq_false_iff, decide_eq_false_iff_not]
      omega
    have hlow' : isLowHalf c.toNat = false := by
      simp only [isLowHalf, Bool.and_eq_false_iff, decide_eq_false_iff_not]
      omega
    have hheld : heldUnit c.toNat = c := by
      rw [heldUnit, hhigh', hlow', Bool.or_false, if_neg Bool.false_ne_true, Char.ofNat_toNat]
    cases cs with
    | nil => exact congrArg (fun c ↦ [c]) hheld
    | cons d cs =>
      have htail := ih hcs
      rw [List.map_cons] at htail
      rw [List.map_cons, List.map_cons, ofUnits, hhigh', Bool.false_and, if_neg Bool.false_ne_true,
        hheld, htail]

/-- A quoted text of printable characters is the text. -/
theorem heads_quote {t : String} (ht : ∀ c ∈ t.toList, isPrintable c = true) (rest : List Char) :
    Heads ((quote t).toList ++ rest) (.string t) rest := by
  have hchars : (quote t).toList ++ rest =
      '\x22' :: (t.toList.flatMap escapeChar ++ '\x22' :: rest) := by
    rw [quote, quoteChars, String.toList_ofList, escaped_of_isPrintable ht]
    simp
  have hbody := stringBody?_escaped ht rest
    ((t.toList.flatMap escapeChar ++ '\x22' :: rest).length + 1)
    (by rw [List.length_append]; omega)
  rw [hchars]
  refine heads_solid rfl ?_ (by simp; omega)
  rw [lexeme?, if_pos (.inl rfl), string?, hbody, Option.map_some, ofUnits_map_toNat ht,
    String.ofList_toList]

end Quotes

end Expression

end TypeHints
