import ServiceShell.Decimal.Layout

/-!
# Decimals in text

How a double is read from a decimal: digits with a point among them and an exponent, with a sign
before them, or one of the words for what is infinite or not a number.
-/

namespace ServiceShell.Decimal

/-- Splits a sign from the digits behind it. -/
def takeSign : List Char → Bool × List Char
  | '-' :: r => (true, r)
  | '+' :: r => (false, r)
  | r => (false, r)

/-- The value of decimal digits; anything else is passed over. -/
def digitsValue (cs : List Char) : Nat :=
  cs.foldl (fun n c => if c.isDigit then 10 * n + (c.toNat - '0'.toNat) else n) 0

/-- The digits and the exponent of a decimal: digits with a point among them, then an exponent. -/
def decimalFromText? (cs : List Char) : Option (Nat × Int) :=
  let whole := cs.takeWhile Char.isDigit
  let rest := cs.dropWhile Char.isDigit
  let (fraction, rest) := match rest with
    | '.' :: r => (r.takeWhile Char.isDigit, r.dropWhile Char.isDigit)
    | r => ([], r)
  if whole.isEmpty && fraction.isEmpty then none
  else
    let decimal (exponent : Int) := (digitsValue (whole ++ fraction), exponent - fraction.length)
    match rest with
    | [] => some (decimal 0)
    | e :: r =>
      if e = 'e' ∨ e = 'E' then
        let (negative, digits) := takeSign r
        if digits.isEmpty || !digits.all Char.isDigit then none
        else some (decimal (signed negative (digitsValue digits)))
      else none

/-- Reads a double from a text. -/
def floatFromText? (cs : List Char) : Option Float :=
  let (negative, magnitude) := takeSign cs
  let word := String.ofList (magnitude.map Char.toLower)
  if word = "inf" ∨ word = "infinity" then
    some (if negative then -(1.0 / 0.0) else 1.0 / 0.0)
  else if word = "nan" then some (0.0 / 0.0)
  else
    (decimalFromText? magnitude).map fun (coefficient, exponent) =>
      toFloat negative coefficient exponent

end ServiceShell.Decimal
