import SafeRerun.Decimal.Binary

/-
  The fewest decimal digits that read back as the same
  binary number, in positional notation.

  Key definitions include:
    * `SafeRerun.Binary.shortest`
    * `SafeRerun.Binary.positional`

  The reals that round to a number form an interval, which
  holds its ends when the mantissa is even.  The digits are
  those of the coarsest decimal grid with a point in it, and
  of two such points those of the nearer one.
-/

------------------------------------------------------------
-- The Interval
------------------------------------------------------------

namespace SafeRerun

/-
  A number with the reals that round to it, over a common
  denominator.
-/
structure RoundingInterval where
  low : Nat
  value : Nat
  high : Nat
  den : Nat
  closed : Bool

namespace Binary

/-
  The interval of a positive number.  Below a power of two
  the neighbour is half as far away as above it, unless the
  exponent is the least one.
-/
def interval
    (b : Binary) :
    RoundingInterval :=
  let scale :=
    if 0 ≤ b.exponent then
      Nat.pow 2 b.exponent.toNat
    else
      1
  let den :=
    if 0 ≤ b.exponent then
      1
    else
      Nat.pow 2 (-b.exponent).toNat
  let tight :=
    b.mantissa == Nat.pow 2 52 &&
      decide (-1074 < b.exponent)
  { low :=
      (4 * b.mantissa - if tight then 1 else 2) * scale
    value := 4 * b.mantissa * scale
    high := (4 * b.mantissa + 2) * scale
    den := 4 * den
    closed := b.mantissa % 2 == 0 }

end Binary

/-
  Whether the grid point n * 10 ^ e lies in the interval.
-/
def RoundingInterval.holds
    (i : RoundingInterval)
    (n : Nat)
    (e : Int) :
    Bool :=
  let point :=
    if 0 ≤ e then
      n * Nat.pow 10 e.toNat * i.den
    else
      n * i.den
  let unit :=
    if 0 ≤ e then 1 else Nat.pow 10 (-e).toNat
  if i.closed then
    decide (i.low * unit ≤ point) &&
      decide (point ≤ i.high * unit)
  else
    decide (i.low * unit < point) &&
      decide (point < i.high * unit)

/- The grid points just below and above the number. -/
def RoundingInterval.neighbours
    (i : RoundingInterval)
    (e : Int) :
    Nat × Nat × Bool :=
  let num :=
    if 0 ≤ e then i.value else i.value * Nat.pow 10 (-e).toNat
  let den :=
    if 0 ≤ e then i.den * Nat.pow 10 e.toNat else i.den
  let below := num / den
  (below, below + 1, decide (2 * (num % den) ≤ den))

/- The point of a grid that stands for the number, if any. -/
def RoundingInterval.pointOn
    (i : RoundingInterval)
    (e : Int) :
    Option Nat :=
  let (below, above, nearBelow) := i.neighbours e
  let holdsBelow := i.holds below e && below != 0
  let holdsAbove := i.holds above e
  if holdsBelow && (nearBelow || !holdsAbove) then
    some below
  else if holdsAbove then
    some above
  else
    none

end SafeRerun

------------------------------------------------------------
-- Digits
------------------------------------------------------------

namespace SafeRerun

/- A point from the coarsest of the grids that has one. -/
def coarsestPoint
    (i : RoundingInterval) :
    Nat → Int → Nat × Int
  | 0, e => (i.value / i.den, e)
  | fuel + 1, e =>
      match i.pointOn e with
      | some n => (n, e)
      | none => coarsestPoint i fuel (e - 1)

/-
  The shortest digits of a positive number and their power
  of ten.  No number of the format has more than 309 digits
  before the point.
-/
def Binary.shortest
    (b : Binary) :
    Nat × Int :=
  coarsestPoint b.interval 640 309

/- Digits at a power of ten in positional notation. -/
def positionalDigits
    (digits : Text)
    (e : Int) :
    Text :=
  if 0 ≤ e then
    digits ++ List.replicate e.toNat '0' ++ ['.', '0']
  else
    let places := (-e).toNat
    let padded :=
      List.replicate (places + 1 - digits.length) '0' ++
        digits
    padded.take (padded.length - places) ++
      '.' :: padded.drop (padded.length - places)

/- A magnitude in positional notation, with a point. -/
def Binary.positional
    (b : Binary) :
    Text :=
  if b.mantissa = 0 then
    ['0', '.', '0']
  else
    let (n, e) := b.shortest
    positionalDigits (Text.ofNat n) e

end SafeRerun
