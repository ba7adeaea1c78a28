/-!
# Sine, cosine and rounding

Angles are evaluated by their power series to a fixed tolerance, in a fixed order of operations, so
that the results are the same on every machine.

## Main definitions

* `Geometry.sine`, `Geometry.cosine`, `Geometry.radians`.
* `Geometry.roundTo`: rounding to decimal places, halves away from zero.
-/

namespace Viewsmith.Geometry

/-- A series is summed until a term changes the sum by no more than this. -/
def tolerance : Float := 1e-15

/-- The most terms that are added. -/
def maxTerms : Nat := 200

/-- Sum a series whose next term is the last one times `ratio i`. -/
def sumSeries (ratio : Float → Float) : Nat → (term sum before i : Float) → Float
  | 0, _, sum, _, _ => sum
  | steps + 1, term, sum, before, i =>
    if (sum - before).abs ≤ tolerance then sum
    else
      let next := term * ratio i
      sumSeries ratio steps next (sum + next) sum (i + 1)

/-- The sine of `x` radians. -/
def sine (x : Float) : Float :=
  sumSeries (fun i => -x * x / (2 * i * (2 * i + 1))) maxTerms x x 0 1

/-- The cosine of `x` radians. -/
def cosine (x : Float) : Float :=
  sumSeries (fun i => -x * x / ((2 * i - 1) * (2 * i))) maxTerms 1 1 0 1

/-- The double nearest to the half turn. -/
def pi : Float := 3.141592653589793

/-- Degrees as radians. -/
def radians (degrees : Float) : Float := degrees * pi / 180

/-- `r * a ^ n` by repeated squaring. -/
def squaring (r a : Float) (n : Nat) : Float :=
  let r := if n % 2 = 1 then r * a else r
  if n / 2 = 0 then r else squaring r (a * a) (n / 2)
termination_by n
decreasing_by omega

/-- A power of ten. A negative one is the inverse of the positive one. -/
def powerOfTen (places : Int) : Float :=
  let power := squaring 1 10 places.natAbs
  if places < 0 then 1 / power else power

/-- Round to `places` decimals, halves away from zero. A result of zero has no sign. -/
def roundTo (places : Int) (x : Float) : Float :=
  let scale := powerOfTen places
  let sign : Float := if x ≥ 0 then 1 else -1
  let rounded := sign * (x.abs * scale + 0.5).floor / scale
  if rounded == 0 then 0 else rounded

/-- Round to a whole number, halves away from zero. -/
def round (x : Float) : Float := roundTo 0 x

end Viewsmith.Geometry
