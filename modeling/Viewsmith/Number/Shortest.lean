/-!
# Shortest decimals

A finite double is `m * 2 ^ q` for naturals `m` below `2 ^ 53` and integers `q`. The decimals that
read back to it are those of an interval around it. `shortest` finds, in exact natural arithmetic,
the decimal of that interval with the fewest digits, and of those the nearest. Two decimals may be
equally near; which one is taken is up to the format.

## Main definitions

* `Reading`: what the bits of a double denote.
* `Decimal`: a decimal number `digits * 10 ^ exponent`.
* `Decimal.Tie`: which of two equally near decimals is taken.
* `Decimal.shortest`: the fewest digits that read back.
-/

namespace Viewsmith

/-- What a double denotes: no number, an infinity, or `m * 2 ^ q` with a sign. -/
inductive Reading where
  | nan
  | infinite (negative : Bool)
  | finite (negative : Bool) (m : Nat) (q : Int)
  deriving Repr, DecidableEq

namespace Reading

/-- Read the sign, the eleven bits of exponent and the fifty-two bits of fraction. Exponent zero
marks the numbers without a leading one. -/
def ofBits (bits : Nat) : Reading :=
  let negative := bits / Nat.pow 2 63 % 2 == 1
  let exponent : Nat := bits / Nat.pow 2 52 % Nat.pow 2 11
  let fraction := bits % Nat.pow 2 52
  if exponent = 2047 then
    if fraction = 0 then .infinite negative else .nan
  else if exponent = 0 then .finite negative fraction (-1074)
  else .finite negative (fraction + Nat.pow 2 52) ((exponent : Int) - 1075)

/-- What `x` denotes. -/
def of (x : Float) : Reading :=
  ofBits x.toBits.toNat

end Reading

/-- The decimal number `digits * 10 ^ exponent`. -/
structure Decimal where
  digits : Nat
  exponent : Int
  deriving Repr, DecidableEq, Inhabited

namespace Decimal

/-- The decimals that read back to `m * 2 ^ q`, in units of `2 ^ (q - 2)`: the number itself is
`4 * m`, its upper neighbour is halfway at `4 * m + 2`, and the lower one at `4 * m - 2`, or at
`4 * m - 1` below a power of two, where the doubles stand closer. -/
structure Interval where
  low : Nat
  value : Nat
  high : Nat
  /-- Whether the ends read back as well: a tie goes to the even fraction. -/
  closed : Bool

/-- The interval of `m * 2 ^ q`. -/
def interval (m : Nat) (q : Int) : Interval where
  low := if m = Nat.pow 2 52 ∧ q ≠ -1074 then 4 * m - 1 else 4 * m - 2
  value := 4 * m
  high := 4 * m + 2
  closed := m % 2 = 0

/-- Which of two equally near decimals is taken. -/
inductive Tie where
  /-- The greater one. -/
  | up
  /-- The one with an even last digit. -/
  | even
  deriving Repr, DecidableEq

/-- Whether a tie between `below` and its successor goes to `below`. -/
def Tie.toBelow (below : Nat) : Tie → Bool
  | .up => false
  | .even => below % 2 = 0

/-- `2 ^ e` for a positive exponent, else one. -/
def twos (e : Int) : Nat := Nat.pow 2 e.toNat

/-- `10 ^ e` for a positive exponent, else one. -/
def tens (e : Int) : Nat := Nat.pow 10 e.toNat

/-- The best point of the grid of multiples of `10 ^ p` in the interval, if there is one. It is one
of the two neighbours of the value; of two hits the nearer is taken. -/
def onGrid (tie : Tie) (i : Interval) (q p : Int) : Option Decimal :=
  let scale := twos (q - 2) * tens (-p)
  let unit := twos (2 - q) * tens p
  let inside (d : Nat) : Bool :=
    let point := d * unit
    if i.closed then i.low * scale ≤ point && point ≤ i.high * scale
    else i.low * scale < point && point < i.high * scale
  let value := i.value * scale
  let below := value / unit
  let above := below + 1
  match inside below, inside above with
  | true, true =>
    let down := value - below * unit
    let up := above * unit - value
    if down < up || (down = up && tie.toBelow below) then some ⟨below, p⟩ else some ⟨above, p⟩
  | true, false => some ⟨below, p⟩
  | false, true => some ⟨above, p⟩
  | false, false => none

/-- Try finer and finer grids, from the multiples of `10 ^ p` on. -/
def search (tie : Tie) (i : Interval) (q : Int) : Nat → Int → Option Decimal
  | 0, _ => none
  | steps + 1, p =>
    match onGrid tie i q p with
    | some d => some d
    | none => search tie i q steps (p - 1)

/-- A power of ten above `m * 2 ^ q`, by no more than a factor of a thousand: a thousand and
twenty-four is a little over ten cubed. -/
def magnitude (m : Nat) (q : Int) : Int :=
  let bits := q + m.log2 + 1
  (bits * 30103).fdiv 100000 + 1

/-- The decimal with the fewest digits that reads back to `m * 2 ^ q`. Seventeen digits always
suffice. -/
def shortest (tie : Tie) (m : Nat) (q : Int) : Decimal :=
  if m = 0 then ⟨0, 0⟩
  else (search tie (interval m q) q 24 (magnitude m q)).getD ⟨0, 0⟩

/-- The digits as characters. -/
def digitChars (d : Decimal) : List Char := Nat.toDigits 10 d.digits

/-- The exponent of the first digit: the number is `d.ddd * 10 ^ lead`. -/
def lead (d : Decimal) : Int := d.exponent + d.digitChars.length - 1

/-- The number without an exponent, and without a point when it is whole. -/
def positional (d : Decimal) : String :=
  let cs := d.digitChars
  if 0 ≤ d.exponent then
    String.ofList (cs ++ List.replicate d.exponent.toNat '0')
  else
    let places := (-d.exponent).toNat
    let padded := List.replicate (places + 1 - cs.length) '0' ++ cs
    String.ofList (padded.take (padded.length - places) ++
      '.' :: padded.drop (padded.length - places))

/-- The number with one digit before the point and a signed exponent. -/
def scientific (d : Decimal) : String :=
  let mantissa : List Char := match d.digitChars with
    | [] => ['0']
    | [c] => [c]
    | c :: cs => c :: '.' :: cs
  let sign := if 0 ≤ d.lead then '+' else '-'
  String.ofList (mantissa ++ 'e' :: sign :: Nat.toDigits 10 d.lead.natAbs)

end Decimal

end Viewsmith
