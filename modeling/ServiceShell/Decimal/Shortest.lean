import ServiceShell.Decimal.Parts

/-!
# The shortest decimal of a double

A double is `m * 2 ^ q` for integers `m` and `q`. The decimals that read back to it fill an
interval around it, ends included exactly when `m` is even. The shortest decimal has the fewest
digits that a decimal in this interval can have, and of those it is the nearest to the double.
All tests are exact comparisons of natural numbers.
-/

namespace ServiceShell.Decimal

/-! ## The interval that reads back -/

/-- An interval of fractions with one denominator, around a value in it. -/
structure Interval where
  /-- Numerator of the lower end. -/
  low : Nat
  /-- Numerator of the value. -/
  value : Nat
  /-- Numerator of the upper end. -/
  high : Nat
  /-- The denominator. -/
  den : Nat
  /-- Whether the ends belong to the interval. -/
  closed : Bool

/-- The interval that reads back to `m * 2 ^ q`: half-way to the neighbours, of which the lower one
is nearer at a power of two. -/
def Interval.around (m : Nat) (q : Int) : Interval :=
  let scale := twoTo q.toNat
  let below := if m = twoTo 52 ∧ q ≠ -1074 then 1 else 2
  { low := (4 * m - below) * scale
    value := 4 * m * scale
    high := (4 * m + 2) * scale
    den := 4 * twoTo (-q).toNat
    closed := m % 2 = 0 }

/-- A decimal `coefficient * 10 ^ exponent`. -/
structure Digits where
  /-- The digits as one number. -/
  coefficient : Nat
  /-- The exponent of ten of the last digit. -/
  exponent : Int
  deriving DecidableEq, Repr

/-- The numerator of a decimal over `den`, both scaled by `10 ^ (-exponent)` where that is whole. -/
def Digits.scaled (d : Digits) (den : Nat) : Nat :=
  d.coefficient * tenTo d.exponent.toNat * den

/-- Whether a decimal lies in the interval. -/
def Interval.contains (i : Interval) (d : Digits) : Bool :=
  let x := d.scaled i.den
  let grid := tenTo (-d.exponent).toNat
  if i.closed then i.low * grid ≤ x && x ≤ i.high * grid else i.low * grid < x && x < i.high * grid

/-! ## Selection -/

/-- The greatest multiple of `10 ^ k` that is not above the value. -/
def Interval.floorAt (i : Interval) (k : Int) : Digits :=
  ⟨i.value * tenTo (-k).toNat / (i.den * tenTo k.toNat), k⟩

/-- The next multiple on the same grid. -/
def Digits.next (d : Digits) : Digits := ⟨d.coefficient + 1, d.exponent⟩

/-- Whether the grid point below the value is at least as near as the next one; of two that are
equally near, the even one counts as nearer. -/
def Interval.prefersFloor (i : Interval) (d : Digits) : Bool :=
  let twice := 2 * i.value * tenTo (-d.exponent).toNat
  let middle := d.scaled i.den + d.next.scaled i.den
  if twice = middle then d.coefficient % 2 = 0 else twice < middle

/-- What the grid of multiples of `10 ^ k` offers: the nearer of the two points beside the value
among those in the interval. -/
def Interval.candidate? (i : Interval) (k : Int) : Option Digits :=
  let d := i.floorAt k
  if i.contains d && (i.prefersFloor d || !i.contains d.next) then some d
  else if i.contains d.next then some d.next
  else none

/-- The number of decimal digits of a number; zero has none. -/
def digitCount (n : Nat) : Nat := if n = 0 then 0 else (Nat.toDigits 10 n).length

/-- The exponent of ten of the first digit of a value; no double is below `10 ^ (-350)`. -/
def Interval.firstExponent (i : Interval) : Int :=
  digitCount (i.value * tenTo 350 / i.den) - 351

/-- The shortest decimal of a positive double `m * 2 ^ q`; seventeen digits always suffice. -/
def shortest (m : Nat) (q : Int) : Digits :=
  let i := Interval.around m q
  let first := i.firstExponent
  let grids := (List.range 17).map fun n => first - Int.ofNat n
  (grids.findSome? i.candidate?).getD (i.floorAt (first - 16))

end ServiceShell.Decimal
