/-!
# Decimal digits

The digits of a natural number in base ten as characters, and the number that a run of digits
spells.
-/

namespace TypeHints

/-- The decimal digits of a number, without leading zeros. -/
def decimalChars (n : Nat) : List Char := Nat.toDigits 10 n

/-- The decimal text of a number. -/
def decimal (n : Nat) : String := String.ofList (decimalChars n)

/-- The decimal text of an integer. -/
def decimalInt : Int → String
  | .ofNat n => decimal n
  | .negSucc n => "-" ++ decimal (n + 1)

/-- The value of a digit in a base up to sixteen, letters in either case. -/
def digitValue? (base : Nat) (c : Char) : Option Nat :=
  let v :=
    if '0' ≤ c ∧ c ≤ '9' then c.toNat - '0'.toNat
    else if 'a' ≤ c ∧ c ≤ 'f' then c.toNat - 'a'.toNat + 10
    else if 'A' ≤ c ∧ c ≤ 'F' then c.toNat - 'A'.toNat + 10
    else base
  if v < base then some v else none

/-- The number that a run of digits spells in a base; other characters count as zeros. -/
def ofDigits (base : Nat) (cs : List Char) : Nat :=
  cs.foldl (fun n c => n * base + (digitValue? base c).getD 0) 0

end TypeHints
