/-!
# Texts in units of sixteen bits

Offsets into a text count units of sixteen bits: a character beyond the first 65536 is a pair of
surrogates and counts twice. A range may cut such a pair; each half is then read as the replacement
character.

## Main definitions

* `units`: the units of a text.
* `ofUnits`: the text of units, a lone half replaced.
* `slice`: the text of a range of offsets.
-/

namespace Viewsmith.Text

/-- The character that stands for a lone half of a pair. -/
def replacement : Char := Char.ofNat 0xFFFD

/-- The units of a character. -/
def unitsOfChar (c : Char) : List Nat :=
  if c.toNat < 0x10000 then [c.toNat]
  else [0xD800 + (c.toNat - 0x10000) / 0x400, 0xDC00 + (c.toNat - 0x10000) % 0x400]

/-- The units of a text. -/
def units (cs : List Char) : List Nat := cs.flatMap unitsOfChar

/-- Whether the unit is the first half of a pair. -/
def isHigh (u : Nat) : Bool := 0xD800 ≤ u && u < 0xDC00

/-- Whether the unit is the second half of a pair. -/
def isLow (u : Nat) : Bool := 0xDC00 ≤ u && u < 0xE000

/-- The character of a pair. -/
def ofPair (high low : Nat) : Char :=
  Char.ofNat (0x10000 + (high - 0xD800) * 0x400 + (low - 0xDC00))

/-- The character of a unit that is no part of a pair: a half is replaced. -/
def ofSingle (u : Nat) : Char := if isHigh u || isLow u then replacement else Char.ofNat u

/-- The text of units; a lone half is replaced. -/
def ofUnits : List Nat → List Char
  | [] => []
  | [u] => [ofSingle u]
  | u :: v :: us =>
    if isHigh u && isLow v then ofPair u v :: ofUnits us else ofSingle u :: ofUnits (v :: us)

/-- The text of the units from `start` to before `stop`. Offsets past the end act as the end, and a
reversed range is empty. -/
def slice (text : String) (start stop : Nat) : String :=
  String.ofList (ofUnits (((units text.toList).take stop).drop start))

end Viewsmith.Text
