import Viewsmith.Number.Shortest

/-!
# The texts of a number

Three spellings of a double, all with the fewest digits that read back, and one with two places.

## Main definitions

* `Number.plain`: positional, with the sign of zero kept.
* `Number.css`: the same, with every zero written `0`; the spelling of stylesheets.
* `Number.json`: the spelling of JSON text.
* `Number.hundredths`: two places, a half going to the even neighbour; the spelling of angles.
-/

namespace Viewsmith.Number

/-- The sign of a number that is written with one. -/
def sign (negative : Bool) : String := if negative then "-" else ""

/-- Positional text: never an exponent, no point in a whole number, `-0` for negative zero; a tie
goes up. -/
def plain (x : Float) : String :=
  match Reading.of x with
  | .nan => "NaN"
  | .infinite negative => sign negative ++ "inf"
  | .finite negative m q => sign negative ++ (Decimal.shortest .up m q).positional

/-- The spelling of stylesheets: positional text in which zero has no sign. -/
def css (x : Float) : String :=
  if x == 0 then "0" else plain x

/-- Whether JSON text writes the number as an integer: whole and below `10 ^ 15`. -/
def isIntegral (x : Float) : Bool :=
  x.isFinite && x.floor == x && x.abs < 1e15

/-- The digits of JSON text: positional while the first digit stands between `10 ^ -5` and
`10 ^ 15`, with `.0` on whole numbers; else with an exponent. -/
def jsonDigits (d : Decimal) : String :=
  if -5 ≤ d.lead ∧ d.lead ≤ 15 then
    if 0 ≤ d.exponent then d.positional ++ ".0" else d.positional
  else d.scientific

/-- The spelling of JSON text; a tie goes to the even digit. What is no number has none, and is
written `null`. -/
def json (x : Float) : String :=
  match Reading.of x with
  | .nan => "null"
  | .infinite _ => "null"
  | .finite negative m q =>
    if isIntegral x then if x == 0 then "0" else plain x
    else sign negative ++ jsonDigits (Decimal.shortest .even m q)

/-- The natural number nearest to `num / den`; a half goes to the even one. -/
def roundDiv (num den : Nat) : Nat :=
  let floor := num / den
  let twice := 2 * (num % den)
  if twice < den then floor
  else if den < twice then floor + 1
  else floor + floor % 2

/-- Two places: the exact number rounded to hundredths, with its sign even when that gives zero. -/
def hundredths (x : Float) : String :=
  match Reading.of x with
  | .nan => "NaN"
  | .infinite negative => sign negative ++ "inf"
  | .finite negative m q =>
    let cents := roundDiv (m * Decimal.twos q * 100) (Decimal.twos (-q))
    sign negative ++ (Decimal.mk (cents / 100) 0).positional ++ "."
      ++ String.ofList [Nat.digitChar (cents / 10 % 10), Nat.digitChar (cents % 10)]

end Viewsmith.Number
