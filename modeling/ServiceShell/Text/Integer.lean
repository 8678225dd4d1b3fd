import ServiceShell.Text.Blank

/-!
# Digits and integers in text

The digits of every script, Unicode version 14. Each script has its ten digits in a row, so a table
of the zeros is enough.

Reads the integers that people write: with blanks around them, a sign, digits of any script, and
underscores that group the digits.
-/

namespace ServiceShell.Text

/-! ## Digits -/

/-- The code points of the digit zero in every script, in order. -/
def zeroDigits : List Nat := [
  0x30, 0x660, 0x6F0, 0x7C0, 0x966, 0x9E6, 0xA66, 0xAE6, 0xB66, 0xBE6, 0xC66, 0xCE6, 0xD66,
  0xDE6, 0xE50, 0xED0, 0xF20, 0x1040, 0x1090, 0x17E0, 0x1810, 0x1946, 0x19D0, 0x1A80, 0x1A90,
  0x1B50, 0x1BB0, 0x1C40, 0x1C50, 0xA620, 0xA8D0, 0xA900, 0xA9D0, 0xA9F0, 0xAA50, 0xABF0, 0xFF10,
  0x104A0, 0x10D30, 0x11066, 0x110F0, 0x11136, 0x111D0, 0x112F0, 0x11450, 0x114D0, 0x11650,
  0x116C0, 0x11730, 0x118E0, 0x11950, 0x11C50, 0x11D50, 0x11DA0, 0x16A60, 0x16AC0, 0x16B50,
  0x1D7CE, 0x1D7D8, 0x1D7E2, 0x1D7EC, 0x1D7F6, 0x1E140, 0x1E2F0, 0x1E950, 0x1FBF0]

/-- The value of a decimal digit. -/
def digitValue? (c : Char) : Option Nat :=
  (zeroDigits.find? fun z => z ≤ c.toNat && c.toNat ≤ z + 9).map fun z => c.toNat - z

/-- The value of a digit in a base: the decimal digits, then the letters in either case. -/
def digitIn? (base : Nat) (c : Char) : Option Nat :=
  let letter := c.toLower
  let value :=
    if 'a' ≤ letter ∧ letter ≤ 'z' then some (letter.toNat - 'a'.toNat + 10) else digitValue? c
  value.filter (· < base)

/-- A character with digits of every script written as those of ASCII. -/
def asciiDigit (c : Char) : Char :=
  match digitValue? c with
  | some d => Char.ofNat ('0'.toNat + d)
  | none => c

/-- Whether a character is a decimal digit of some script. -/
def isDecimal (c : Char) : Bool := (digitValue? c).isSome

/-! ## Digits in groups -/

/-- Whether digits stand in groups: single underscores between them, and none at the end;
`afterDigit` tells whether one may come first. -/
def isGrouped (afterDigit : Bool) : List Char → Bool
  | [] => afterDigit
  | c :: r => if c = '_' then afterDigit && isGrouped false r else isGrouped true r

/-- The value of digits in a base; underscores are passed over. -/
def valueIn (base : Nat) (cs : List Char) : Nat :=
  (cs.filterMap (digitIn? base)).foldl (fun n d => base * n + d) 0

/-! ## Integers -/

/-- Why a text gives no integer. -/
inductive IntegerProblem where
  /-- It is not written like one. -/
  | form
  /-- It has too many digits. -/
  | tooManyDigits (count : Nat)
  deriving DecidableEq, Repr

/-- The greatest number of decimal digits that is read. -/
def integerDigitLimit : Nat := 4300

/-- The letter that may announce a base behind a zero. -/
def baseLetter? (base : Nat) : Option Char :=
  [(2, 'b'), (8, 'o'), (16, 'x')].lookup base

/-- The digits behind the announcement of their base, and whether there is one. -/
def dropBaseLetter (base : Nat) : List Char → Bool × List Char
  | '0' :: c :: r =>
    if (baseLetter? base).any fun letter => letter = c.toLower then (true, r)
    else (false, '0' :: c :: r)
  | cs => (false, cs)

/-- Reads an integer in a base: blanks around it, a sign, the announcement of the base, and digits
of any script with single underscores between them. Too many decimal digits are refused before
what follows them is looked at. -/
def readIntegerIn (base : Nat) (cs : List Char) : Except IntegerProblem Int :=
  let (negative, cs) := match trimMargins cs with
    | '-' :: r => (true, r)
    | '+' :: r => (false, r)
    | r => (false, r)
  let (announced, cs) := dropBaseLetter base cs
  let run := cs.takeWhile fun c => c = '_' || (digitIn? base c).isSome
  let count := run.countP (· ≠ '_')
  if count = 0 || !isGrouped announced run then .error .form
  else if base = 10 ∧ count > integerDigitLimit then .error (.tooManyDigits count)
  else if run.length < cs.length then .error .form
  else .ok (if negative then -(valueIn base run : Int) else valueIn base run)

/-- Reads an integer in base ten. -/
def readInteger? (text : String) : Option Int := (readIntegerIn 10 text.toList).toOption

end ServiceShell.Text
