/-!
# 16-bit units and lone halves

A text is counted, indexed and escaped in 16-bit units, of which a character beyond the first 65536
takes two halves. A text may also hold a half alone, which is no character. Such a half is held by a
stand-in, one of the last 2048 characters; these characters themselves are held as the stand-ins of
their two halves, so that nothing is held in two ways.
-/

namespace TypeHints.Text

/-- The first character that serves as a stand-in. -/
def firstStandIn : Nat := 0x10f800

/-- Whether a unit is the first half of a pair. -/
def isHighHalf (u : Nat) : Bool := 0xd800 ≤ u && u < 0xdc00

/-- Whether a unit is the second half of a pair. -/
def isLowHalf (u : Nat) : Bool := 0xdc00 ≤ u && u < 0xe000

/-- The two halves of a code point beyond the first 65536. -/
def halves (p : Nat) : List Nat := [0xd800 + (p - 0x10000) / 0x400, 0xdc00 + (p - 0x10000) % 0x400]

/-- The units of a code point. -/
def unitsOfCodePoint (p : Nat) : List Nat := if p < 0x10000 then [p] else halves p

/-- The units that a held character stands for. -/
def unitsOfChar (c : Char) : List Nat :=
  if c.toNat < firstStandIn then unitsOfCodePoint c.toNat else [0xd800 + (c.toNat - firstStandIn)]

/-- The units of a held text. -/
def units (cs : List Char) : List Nat := cs.flatMap unitsOfChar

/-- The character that holds a single unit. -/
def heldUnit (u : Nat) : Char :=
  if isHighHalf u || isLowHalf u then Char.ofNat (firstStandIn + (u - 0xd800)) else Char.ofNat u

/-- The characters that hold the pair of two halves. -/
def heldPair (high low : Nat) : List Char :=
  let p := 0x10000 + (high - 0xd800) * 0x400 + (low - 0xdc00)
  if p < firstStandIn then [Char.ofNat p] else [heldUnit high, heldUnit low]

/-- The text that holds a run of units. -/
def ofUnits : List Nat → List Char
  | [] => []
  | [u] => [heldUnit u]
  | u :: v :: us =>
    if isHighHalf u && isLowHalf v then heldPair u v ++ ofUnits us
    else heldUnit u :: ofUnits (v :: us)

/-- A text with its last 2048 characters held by stand-ins. -/
def held (s : String) : String :=
  String.ofList (ofUnits (s.toList.flatMap fun c => unitsOfCodePoint c.toNat))

/-- The characters that hold a run of units in which U+FFFD takes the place of each lone half. -/
def wholeOfUnits : List Nat → List Char
  | [] => []
  | [u] => [wholeUnit u]
  | u :: v :: us =>
    if isHighHalf u && isLowHalf v then heldPair u v ++ wholeOfUnits us
    else wholeUnit u :: wholeOfUnits (v :: us)
where
  /-- The character of a single unit. -/
  wholeUnit (u : Nat) : Char := if isHighHalf u || isLowHalf u then '\ufffd' else Char.ofNat u

/-- A text as a file keeps it: whole characters only. -/
def whole (s : String) : String := String.ofList (wholeOfUnits (units s.toList))

/-- The length of a text in units. -/
def length (s : String) : Nat := (units s.toList).length

/-- The unit at a place of a text, as a text of its own. -/
def unitAt? (s : String) (i : Nat) : Option String :=
  (units s.toList)[i]?.map fun u => String.singleton (heldUnit u)

/-- The half that a character stands for. -/
def half? (c : Char) : Option Nat :=
  if c.toNat < firstStandIn then none else some (0xd800 + (c.toNat - firstStandIn))

end TypeHints.Text
