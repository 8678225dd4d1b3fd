/-!
# The parts of a double

A finite double is a sign, a natural number and a power of two. From the parts follow its exact
integer values: whether it is whole, and what is left when its fraction is dropped.
-/

namespace ServiceShell.Decimal

/-! ## Powers -/

/-- A power of two. -/
def twoTo (n : Nat) : Nat := Nat.pow 2 n

/-- A power of ten. -/
def tenTo (n : Nat) : Nat := Nat.pow 10 n

/-! ## Doubles -/

/-- A double by its parts. -/
inductive Parts where
  /-- Not a number. -/
  | nan
  /-- An infinity. -/
  | infinite (negative : Bool)
  /-- The number `mantissa * 2 ^ exponent`, with its sign. -/
  | finite (negative : Bool) (mantissa : Nat) (exponent : Int)
  deriving DecidableEq, Repr

/-- The parts of a double. -/
def Parts.ofFloat (x : Float) : Parts :=
  let bits := x.toBits.toNat
  let negative := bits / twoTo 63 % 2 = 1
  let exponent : Nat := bits / twoTo 52 % twoTo 11
  let fraction := bits % twoTo 52
  if exponent = 2047 then if fraction = 0 then .infinite negative else .nan
  else if exponent = 0 then .finite negative fraction (-1074)
  else .finite negative (twoTo 52 + fraction) (Int.ofNat exponent - 1075)

/-! ## Integer values -/

/-- An integer with a sign. -/
def signed (negative : Bool) (n : Nat) : Int := if negative then -(n : Int) else n

/-- The integer that is left when the fraction of a number is dropped; infinities and what is not
a number have none. -/
def truncate? (x : Float) : Option Int :=
  match Parts.ofFloat x with
  | .finite negative m q => some (signed negative (m * twoTo q.toNat / twoTo (-q).toNat))
  | _ => none

/-- The integer that a double is equal to, if it is whole. -/
def whole? (x : Float) : Option Int :=
  match Parts.ofFloat x with
  | .finite negative m q =>
    if m % twoTo (-q).toNat = 0 then some (signed negative (m * twoTo q.toNat / twoTo (-q).toNat))
    else none
  | _ => none

/-- Whether a double is a number, and finite. -/
def isFinite (x : Float) : Bool := (truncate? x).isSome

end ServiceShell.Decimal
