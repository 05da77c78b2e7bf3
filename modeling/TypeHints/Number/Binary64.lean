import TypeHints.Number.Decimal

/-!
# Double-precision numbers

A double-precision number is named by the shortest decimal that reads back to it, so two names are
equal exactly when the numbers are. `ofDecimal` rounds a decimal to the nearest double, half to
even, in exact integer arithmetic and then looks for that shortest name. `toText` writes a number
with the fewest digits: positionally from 10⁻⁶ up to 10²¹, with an exponent beyond.
-/

namespace TypeHints

/-- A double-precision number. A finite one is `± digits × 10 ^ exponent`, where `digits` is not
divisible by ten; zero has digits and exponent zero. -/
inductive Binary64 where
  | nan
  | infinite (negative : Bool)
  | finite (negative : Bool) (digits : Nat) (exponent : Int)
deriving DecidableEq, Repr, Inhabited

namespace Binary64

/-! ### Rounding a fraction to binary -/

/-- `num / (den * 2 ^ q)` as a fraction. -/
def scale (num den : Nat) : Int → Nat × Nat
  | .ofNat q => (num, den * Nat.pow 2 q)
  | .negSucc q => (num * Nat.pow 2 (q + 1), den)

/-- The integer nearest to `num / den`, the even one of two. -/
def roundHalfEven (num den : Nat) : Nat :=
  let quotient := num / den
  let twice := 2 * (num % den)
  if twice < den then quotient
  else if den < twice then quotient + 1
  else if quotient % 2 = 0 then quotient else quotient + 1

/-- The double nearest to a positive fraction as `(m, q)` for `m * 2 ^ q`; nothing if it is too
large. A positive fraction too small for any other double gives `m = 0`. -/
def nearest? (num den : Nat) : Option (Nat × Int) :=
  let estimate : Int := (num.log2 : Int) - (den.log2 : Int) - 52
  let high := scale num den estimate
  let fitted :=
    if high.1 / high.2 < Nat.pow 2 52 then estimate - 1
    else if Nat.pow 2 53 ≤ high.1 / high.2 then estimate + 1
    else estimate
  let q := max fitted (-1074)
  let scaled := scale num den q
  let m := roundHalfEven scaled.1 scaled.2
  let result := if m = Nat.pow 2 53 then (Nat.pow 2 52, q + 1) else (m, q)
  if 971 < result.2 then none else some result

/-- A decimal as a fraction. -/
def fraction (digits : Nat) : Int → Nat × Nat
  | .ofNat e => (digits * Nat.pow 10 e, 1)
  | .negSucc e => (digits, Nat.pow 10 (e + 1))

/-! ### The shortest decimal -/

/-- Move factors of ten from the digits to the exponent, at most `n` of them. -/
def strip : Nat → Nat → Int → Nat × Int
  | 0, digits, e => (digits, e)
  | n + 1, digits, e =>
    if digits ≠ 0 ∧ digits % 10 = 0 then strip n (digits / 10) (e + 1) else (digits, e)

/-- A decimal without factors of ten in its digits. -/
def stripped (digits : Nat) (e : Int) : Nat × Int := strip (digits.log2 + 1) digits e

/-- The place of the leading decimal digit of a positive fraction, or one less. -/
def leadingPlace (num den : Nat) : Int :=
  if den ≤ num then ((decimalChars (num / den)).length : Int) - 1
  else -((decimalChars (den / num)).length : Int)

/-- Whether a decimal reads back as the double `target`. -/
def readsBack (target : Nat × Int) (digits : Nat) (e : Int) : Bool :=
  let f := fraction digits e
  digits ≠ 0 && nearest? f.1 f.2 = some target

/-- The decimal with digits at the place `e` and above that reads back as `target`, the nearer of
two. `num / den` is the value of `target`. -/
def atPlace? (target : Nat × Int) (num den : Nat) (e : Int) : Option (Nat × Int) :=
  let unit := fraction 1 e
  let n := num * unit.2
  let d := den * unit.1
  let low := n / d
  let twice := 2 * (n % d)
  match readsBack target low e, readsBack target (low + 1) e with
  | true, true =>
    some (if twice < d ∨ (twice = d ∧ low % 2 = 0) then stripped low e else stripped (low + 1) e)
  | true, false => some (stripped low e)
  | false, true => some (stripped (low + 1) e)
  | false, false => none

/-- The first of the places `e`, `e - 1`, … at which a decimal reads back as `target`. -/
def firstPlace (target : Nat × Int) (num den : Nat) : Nat → Int → Nat × Int
  | 0, e => stripped (num / den) e
  | n + 1, e =>
    match atPlace? target num den e with
    | some r => r
    | none => firstPlace target num den n (e - 1)

/-- The shortest decimal that reads back as the positive double `m * 2 ^ q`. -/
def shortest (m : Nat) (q : Int) : Nat × Int :=
  let value := match q with
    | .ofNat k => (m * Nat.pow 2 k, 1)
    | .negSucc k => (m, Nat.pow 2 (k + 1))
  firstPlace (m, q) value.1 value.2 18 (leadingPlace value.1 value.2)

/-! ### Reading and writing -/

/-- The double nearest to `± digits × 10 ^ e`. Integers up to 2⁵³ are their own shortest
decimals. -/
def ofDecimal (negative : Bool) (digits : Nat) (e : Int) : Binary64 :=
  let places : Int := (decimalChars digits).length + e
  if digits = 0 ∨ places < -330 then .finite negative 0 0
  else if 310 < places then .infinite negative
  else if 0 ≤ e ∧ digits * Nat.pow 10 e.toNat ≤ Nat.pow 2 53 then
    let s := stripped digits e
    .finite negative s.1 s.2
  else
    let f := fraction digits e
    match nearest? f.1 f.2 with
    | none => .infinite negative
    | some (0, _) => .finite negative 0 0
    | some (m, q) =>
      let s := shortest m q
      .finite negative s.1 s.2

/-- The double nearest to an integer. -/
def ofInt (i : Int) : Binary64 := ofDecimal (i < 0) i.natAbs 0

/-- The same number with the other sign. -/
def negate : Binary64 → Binary64
  | .nan => .nan
  | .infinite negative => .infinite !negative
  | .finite negative digits e => .finite (!negative) digits e

/-- Whether the number is neither infinite nor undefined. -/
def isFinite : Binary64 → Bool
  | .finite _ _ _ => true
  | _ => false

/-- The text of the digits `ds`, of which the first stands at the place `point - 1`. -/
def placeText (ds : List Char) (point : Int) : List Char :=
  let k : Int := ds.length
  if k ≤ point ∧ point ≤ 21 then ds ++ List.replicate (point - k).toNat '0'
  else if 0 < point ∧ point ≤ 21 then ds.take point.toNat ++ '.' :: ds.drop point.toNat
  else if -6 < point ∧ point ≤ 0 then '0' :: '.' :: (List.replicate (-point).toNat '0' ++ ds)
  else
    let e := point - 1
    let mark := 'e' :: (if e < 0 then '-' else '+') :: decimalChars e.natAbs
    match ds with
    | [] => mark
    | [d] => d :: mark
    | d :: rest => d :: '.' :: (rest ++ mark)

/-- The text of a number. Both zeros are written `0`. -/
def toText : Binary64 → String
  | .nan => "NaN"
  | .infinite negative => if negative then "-Infinity" else "Infinity"
  | .finite negative digits e =>
    if digits = 0 then "0"
    else
      let ds := decimalChars digits
      let body := String.ofList (placeText ds (ds.length + e))
      if negative then "-" ++ body else body

/-- Whether the number is the negative zero. -/
def isNegativeZero (x : Binary64) : Bool := x = .finite true 0 0

/-- The integer that a number is, if it is one of magnitude below 2⁵³ and not the negative zero. -/
def safeInteger? : Binary64 → Option Int
  | .finite negative digits e =>
    if e < 0 ∨ 16 < e ∨ (negative ∧ digits = 0) then none
    else
      let n := digits * Nat.pow 10 e.toNat
      if n < Nat.pow 2 53 then some (if negative then -(n : Int) else n) else none
  | _ => none

/-! ### Texts of numbers -/

/-- The leading decimal digits of a text, and the rest. -/
def digitRun (cs : List Char) : List Char × List Char :=
  (cs.takeWhile fun c => '0' ≤ c && c ≤ '9', cs.dropWhile fun c => '0' ≤ c && c ≤ '9')

end Binary64

end TypeHints
