import ServiceShell.Decimal.Shortest

/-!
# The layout of a decimal

How the digits of a number become text: which exponents are written with all their places, what
marks a whole number, how an exponent looks, and what stands for the values that are no numbers.
-/

namespace ServiceShell.Decimal

/-- The decisions of a notation for doubles. -/
structure Layout where
  /-- Least exponent of the first digit for which all places are written. -/
  leastPlain : Int
  /-- Greatest exponent of the first digit for which all places are written. -/
  mostPlain : Int
  /-- Least number of digits of an exponent. -/
  exponentWidth : Nat
  /-- The text of an infinity. -/
  infinity : String
  /-- The text of a value that is not a number. -/
  nan : String

/-- The decimal digits of a number, at least `width` of them. -/
def padded (width n : Nat) : List Char :=
  let digits := Nat.toDigits 10 n
  List.replicate (width - digits.length) '0' ++ digits

/-- Drops the zeros at the end. -/
def dropZeros (digits : List Char) : List Char :=
  (digits.reverse.dropWhile (· = '0')).reverse

/-- The text of a positive decimal whose first digit has the exponent `first`. -/
def Layout.place (layout : Layout) (digits : List Char) (first : Int) : List Char :=
  let digits := dropZeros digits
  if layout.leastPlain ≤ first ∧ first ≤ layout.mostPlain then
    if first < 0 then
      '0' :: '.' :: List.replicate (-first - 1).toNat '0' ++ digits
    else
      let whole := first.toNat + 1
      let fraction := digits.drop whole
      (digits.take whole ++ List.replicate (whole - digits.length) '0') ++ '.' ::
        (if fraction.isEmpty then ['0'] else fraction)
  else
    let fraction := digits.drop 1
    digits.take 1 ++ (if fraction.isEmpty then [] else '.' :: fraction) ++ 'e' ::
      (if first < 0 then '-' else '+') :: padded layout.exponentWidth first.natAbs

/-- The text of a double. -/
def Layout.write (layout : Layout) (x : Float) : String :=
  let sign (negative : Bool) (text : String) := if negative then "-" ++ text else text
  match Parts.ofFloat x with
  | .nan => layout.nan
  | .infinite negative => sign negative layout.infinity
  | .finite negative 0 _ => sign negative "0.0"
  | .finite negative m q =>
    let d := shortest m q
    let digits := Nat.toDigits 10 d.coefficient
    sign negative (String.ofList (layout.place digits (d.exponent + digits.length - 1)))

/-- The double nearest to `coefficient * 10 ^ exponent`; what is out of range becomes zero or
infinite. -/
def toFloat (negative : Bool) (coefficient : Nat) (exponent : Int) : Float :=
  let size := digitCount coefficient + exponent
  let magnitude :=
    if coefficient = 0 ∨ size < -400 then 0.0
    else if size > 400 then Float.ofBits 0x7FF0000000000000
    else Float.ofScientific coefficient (exponent < 0) exponent.natAbs
  if negative then -magnitude else magnitude

end ServiceShell.Decimal
