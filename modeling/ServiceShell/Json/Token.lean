import ServiceShell.Decimal.Layout
import ServiceShell.Document.Basic
import ServiceShell.Json.Error

/-!
# The tokens of JSON text

Splits a text into tokens with their offsets. Splitting never fails: what makes no token becomes
one that tells what is wrong, and the reader complains when it comes to it.

Current gaps:

- Half a surrogate pair alone becomes the replacement character, as a text here has only characters.
- Lists and objects may be inside one another without a limit.
-/

namespace ServiceShell.Json

/-! ## Tokens -/

/-- A token of JSON text. -/
inductive Token where
  /-- The start of a list. -/
  | openList
  /-- The end of a list. -/
  | closeList
  /-- The start of an object. -/
  | openObject
  /-- The end of an object. -/
  | closeObject
  /-- The separator of items and fields. -/
  | comma
  /-- The separator of a name and its value. -/
  | colon
  /-- A quoted text. -/
  | text (value : String)
  /-- A quoted text with a fault in it. -/
  | badText (problem : Problem) (distance : Nat)
  /-- A number, a truth value or null. -/
  | scalar (value : Scalar)
  /-- An integer with too many digits. -/
  | hugeInteger (digits : Nat)
  /-- A character that begins no token. -/
  | unknown
  deriving DecidableEq

/-! ## Quoted texts -/

/-- The value of a hexadecimal digit. -/
def hexValue? (c : Char) : Option Nat :=
  if c.isDigit then some (c.toNat - '0'.toNat)
  else if 'a' ≤ c ∧ c ≤ 'f' then some (c.toNat - 'a'.toNat + 10)
  else if 'A' ≤ c ∧ c ≤ 'F' then some (c.toNat - 'A'.toNat + 10)
  else none

/-- The value of four hexadecimal digits behind which the text goes on. -/
def unit? : List Char → Option Nat
  | a :: b :: c :: d :: _ :: _ => do
    return ((← hexValue? a) * 16 + (← hexValue? b)) * 256 + (← hexValue? c) * 16 + (← hexValue? d)
  | _ => none

/-- Whether a unit is the first half of a surrogate pair. -/
def isHighHalf (n : Nat) : Bool := 0xD800 ≤ n && n ≤ 0xDBFF

/-- Whether a unit is the second half of a surrogate pair. -/
def isLowHalf (n : Nat) : Bool := 0xDC00 ≤ n && n ≤ 0xDFFF

/-- The character of a unit; half a pair alone becomes the replacement character. -/
def charOfUnit (n : Nat) : Char :=
  if isHighHalf n ∨ isLowHalf n then Char.ofNat 0xFFFD else Char.ofNat n

/-- The character for a numeric escape, given the text behind its `u`, and the number of characters
that it takes from there. -/
def numericEscape? (cs : List Char) : Option (Char × Nat) :=
  match unit? cs with
  | none => none
  | some high =>
    match cs.drop 4 with
    | '\\' :: 'u' :: r =>
      match unit? r with
      | some low =>
        if isHighHalf high && isLowHalf low then
          some (Char.ofNat (0x10000 + (high - 0xD800) * 0x400 + (low - 0xDC00)), 10)
        else some (charOfUnit high, 4)
      | none => some (charOfUnit high, 4)
    | _ => some (charOfUnit high, 4)

/-- The character for a letter behind a backslash. -/
def escape? : Char → Option Char
  | '"' => some '"'
  | '\\' => some '\\'
  | '/' => some '/'
  | 'b' => some '\x08'
  | 'f' => some '\x0c'
  | 'n' => some '\n'
  | 'r' => some '\r'
  | 't' => some '\t'
  | _ => none

/-- The character that comes next inside quotes, with the number of further characters that it is
written with; or a problem, with its distance. -/
def quotedChar : List Char → Except (Problem × Nat) (Char × Nat)
  | [] => .error (.unterminatedText, 0)
  | '\\' :: [] => .error (.unterminatedText, 0)
  | '\\' :: 'u' :: r =>
    match numericEscape? r with
    | some (c, used) => .ok (c, used + 1)
    | none => .error (.badNumericEscape, 1)
  | '\\' :: c :: _ =>
    match escape? c with
    | some c => .ok (c, 1)
    | none => .error (.badEscape, 0)
  | c :: _ => if c.toNat < 0x20 then .error (.controlCharacter, 0) else .ok (c, 0)

/-- Reads a quoted text from behind its opening quote; `skipped` characters belong to an escape
already read, `used` counts the characters since the opening quote, and `read` holds the
characters of the text, last one first. The result has the number of characters up to and with the
closing quote. -/
def quotedFrom (skipped used : Nat) (read : List Char) :
    List Char → Except (Problem × Nat) (List Char × Nat)
  | [] => .error (.unterminatedText, 0)
  | c :: r =>
    match skipped with
    | n + 1 => quotedFrom n (used + 1) read r
    | 0 =>
      if c = '"' then .ok (read.reverse, used + 1)
      else
        match quotedChar (c :: r) with
        | .ok (d, further) => quotedFrom further (used + 1) (d :: read) r
        | .error (.unterminatedText, _) => .error (.unterminatedText, 0)
        | .error (problem, distance) => .error (problem, used + 1 + distance)

/-- The token of a quoted text, given the text behind the opening quote. -/
def quotedToken (cs : List Char) : Token × Nat :=
  match quotedFrom 0 0 [] cs with
  | .ok (read, used) => (.text (String.ofList read), used)
  | .error (problem, distance) => (.badText problem distance, 0)

/-! ## Numbers -/

/-- The value of a row of decimal digits. -/
def digitsValue (digits : List Char) : Nat :=
  digits.foldl (fun n c => 10 * n + (c.toNat - '0'.toNat)) 0

/-- The digits at the start of a text. -/
def leadingDigits (cs : List Char) : List Char := cs.takeWhile Char.isDigit

/-- The digits of a fraction at the start of a text, behind its point; none without both. -/
def fractionDigits : List Char → List Char
  | '.' :: r => leadingDigits r
  | _ => []

/-- The exponent at the start of a text and the number of its characters; zero without one. -/
def exponentPart : List Char → Int × Nat
  | e :: r =>
    if e = 'e' ∨ e = 'E' then
      let signLength := if r.head? = some '-' ∨ r.head? = some '+' then 1 else 0
      let digits := leadingDigits (r.drop signLength)
      if digits.isEmpty then (0, 0)
      else (Decimal.signed (r.head? = some '-') (digitsValue digits),
        1 + signLength + digits.length)
    else (0, 0)
  | [] => (0, 0)

/-- The digits of a whole number at the start of a text: a zero alone, or digits of which the first
is not zero. -/
def wholeDigits : List Char → List Char
  | '0' :: _ => ['0']
  | cs => leadingDigits cs

/-- The number at the start of a text, behind its sign, and the number of its characters. -/
def unsignedToken? (negative : Bool) (cs : List Char) : Option (Token × Nat) :=
  let whole := wholeDigits cs
  if whole.isEmpty then none
  else
    let rest := cs.drop whole.length
    let fraction := fractionDigits rest
    let fractionLength := if fraction.isEmpty then 0 else fraction.length + 1
    let (exponent, exponentLength) := exponentPart (rest.drop fractionLength)
    let used := whole.length + fractionLength + exponentLength
    if fractionLength = 0 ∧ exponentLength = 0 then
      if whole.length > digitLimit then some (.hugeInteger whole.length, used)
      else some (.scalar (.number (.int (Decimal.signed negative (digitsValue whole)))), used)
    else
      let x := Decimal.toFloat negative (digitsValue (whole ++ fraction))
        (exponent - fraction.length)
      some (.scalar (.number (.float x)), used)

/-! ## Words -/

/-- The infinity of a sign. -/
def infinity (negative : Bool) : Scalar :=
  .number (.float (if negative then -(Float.ofBits 0x7FF0000000000000)
    else Float.ofBits 0x7FF0000000000000))

/-- The words that stand for values. -/
def words : List (String × Scalar) :=
  [("null", .null), ("true", .bool true), ("false", .bool false),
   ("NaN", .number (.float (Float.ofBits 0x7FF8000000000000))),
   ("Infinity", infinity false), ("-Infinity", infinity true)]

/-- The word at the start of a text, and the number of its characters. -/
def word? (cs : List Char) : Option (Token × Nat) :=
  (words.find? fun w => w.1.toList.isPrefixOf cs).map fun w => (.scalar w.2, w.1.length)

/-- The number or word at the start of a text, and the number of its characters. -/
def plainToken (cs : List Char) : Token × Nat :=
  match word? cs with
  | some found => found
  | none =>
    let found : Option (Token × Nat) :=
      match cs with
      | '-' :: r => (unsignedToken? true r).map fun t => (t.1, t.2 + 1)
      | cs => unsignedToken? false cs
    found.getD (.unknown, 1)

/-! ## Splitting -/

/-- Whether a character may stand between tokens. -/
def isSpace (c : Char) : Bool := c = ' ' || c = '\t' || c = '\n' || c = '\r'

/-- The token at the start of a text, and the number of its further characters. -/
def tokenAt (c : Char) (r : List Char) : Token × Nat :=
  match c with
  | '[' => (.openList, 0)
  | ']' => (.closeList, 0)
  | '\x7b' => (.openObject, 0)
  | '\x7d' => (.closeObject, 0)
  | ',' => (.comma, 0)
  | ':' => (.colon, 0)
  | '"' => quotedToken r
  | c =>
    let (token, length) := plainToken (c :: r)
    (token, length - 1)

/-- The tokens of a text that begins at an offset, each with its offset; `skipped` characters belong
to a token already found. -/
def tokensFrom (offset skipped : Nat) : List Char → List (Token × Nat)
  | [] => []
  | c :: r =>
    match skipped with
    | n + 1 => tokensFrom (offset + 1) n r
    | 0 =>
      if isSpace c then tokensFrom (offset + 1) 0 r
      else
        let (token, further) := tokenAt c r
        (token, offset) :: tokensFrom (offset + 1) further r

/-- The tokens of a text, each with its offset. -/
def tokens (cs : List Char) : List (Token × Nat) := tokensFrom 0 0 cs

end ServiceShell.Json
