import Viewsmith.Json.Reader

/-!
# Numbers

Reading a number, and passing over one. A number that is read has to lie within the doubles; one
that is passed over only has to be well formed, and may not end before it is.

## Main definitions

* `Json.number`: read a number after its sign.
* `Json.skipNumber`: pass over a number after its sign.
-/

namespace Viewsmith.Json

/-- The value of a list of decimal digits. -/
def decimalValue (digits : List Char) : Nat :=
  digits.foldl (fun n c => 10 * n + (c.toNat - 48)) 0

/-- The digits at the front, and the rest. -/
def spanDigits (cs : List Char) : List Char × List Char :=
  (cs.takeWhile Char.isDigit, cs.dropWhile Char.isDigit)

/-- The digits of the whole part: a zero alone, or digits that start with none. -/
def wholePart : Reader (List Char)
  | [] => .error .endOfText
  | '0' :: cs =>
    match cs with
    | c :: _ => if c.isDigit then .error .malformed else .ok (['0'], cs)
    | [] => .ok (['0'], cs)
  | c :: cs => if c.isDigit then .ok (spanDigits (c :: cs)) else .error .malformed

/-- At least one digit. -/
def someDigits : Reader (List Char) := fun cs =>
  match spanDigits cs with
  | ([], []) => .error .endOfText
  | ([], _ :: _) => .error .malformed
  | (digits, rest) => .ok (digits, rest)

/-- The fraction, if there is one. -/
def fractionPart : Reader (Option (List Char))
  | '.' :: cs => (some <$> someDigits) cs
  | cs => .ok (none, cs)

/-- The digits of an exponent after its sign. -/
def signedExponent (negative : Bool) : Reader (Option Int) := do
  let n : Int := decimalValue (← someDigits)
  return some (if negative then -n else n)

/-- The exponent, if there is one. -/
def exponentPart : Reader (Option Int)
  | [] => .ok (none, [])
  | c :: cs =>
    if c = 'e' || c = 'E' then
      match cs with
      | '+' :: rest => signedExponent false rest
      | '-' :: rest => signedExponent true rest
      | rest => signedExponent false rest
    else .ok (none, c :: cs)

/-- The parts of a number: its digits before and after the point, and its exponent. -/
structure Numeral where
  whole : List Char
  fraction : Option (List Char)
  exponent : Option Int

/-- Read the parts of a number after its sign. -/
def numeral : Reader Numeral := do
  let whole ← wholePart
  let fraction ← fractionPart
  let exponent ← exponentPart
  return ⟨whole, fraction, exponent⟩

/-- The double nearest to `digits * 10 ^ exponent`. Exponents far outside the doubles are decided
without computing the power. -/
def nearestDouble (digits : Nat) (exponent : Int) : Float :=
  if digits = 0 then 0
  else
    let lead := exponent + (Nat.toDigits 10 digits).length
    if 400 < lead then 1 / 0
    else if lead < -400 then 0
    else Float.ofScientific digits (exponent < 0) exponent.natAbs

/-- A double, if it is finite. -/
def finite? (negative : Bool) (x : Float) : Option Json :=
  if x.isFinite then some (.float (if negative then -x else x)) else none

/-- A number that is written with digits only: an integer if it fits in 64 bits, else a double. Zero
with a sign is a double. -/
def wholeNumber? (negative : Bool) (n : Nat) : Option Json :=
  if negative then
    if 0 < n && n ≤ Nat.pow 2 63 then some (.int (-n)) else finite? true (nearestDouble n 0)
  else if n < Nat.pow 2 64 then some (.int n)
  else finite? false (nearestDouble n 0)

/-- The number of its parts, if it lies within the doubles. -/
def Numeral.value? (negative : Bool) (n : Numeral) : Option Json :=
  match n.fraction, n.exponent with
  | none, none => wholeNumber? negative (decimalValue n.whole)
  | fraction, exponent =>
    let places := fraction.getD []
    finite? negative
      (nearestDouble (decimalValue (n.whole ++ places)) (exponent.getD 0 - places.length))

/-- Read a number after its sign. -/
def number (negative : Bool) : Reader Json := do
  match (← numeral).value? negative with
  | some v => return v
  | none => throw .malformed

/-- Pass over a number after its sign. One that is cut short is malformed. -/
def skipNumber : Reader Unit := fun cs =>
  match numeral cs with
  | .ok (_, rest) => .ok ((), rest)
  | .error _ => .error .malformed

end Viewsmith.Json
