import ServiceShell.Decimal.Layout
import ServiceShell.Document.Basic
import ServiceShell.Text.Case
import ServiceShell.Text.Integer
import ServiceShell.Text.Quoted

/-!
# Values as literals

The form in which values other than texts appear inside plain output: `True`, `None`, `1.0`,
`['a', 1]`, `{'k': None}`. A text alone appears as it is; inside a list or an object it is quoted.

Current gaps:

- An integer of more than 4300 digits is written out like any other. Only where the metadata of a
  service are spelled is it refused beforehand, by `Document.isOverlong`; the labels of choices, the
  names of members and operations, and the keys of pages are spelled as they are.
- A set shows its elements in the order in which they were written, as it has no order of its own.
- The pairs of an ordered mapping are lists, in square brackets.
-/

namespace ServiceShell

open Text

/-! ## Numbers -/

/-- Doubles have all their places from `0.0001` up to sixteen digits, and an exponent of two digits
or more beyond. -/
def Number.layout : Decimal.Layout :=
  { leastPlain := -4, mostPlain := 15, exponentWidth := 2, infinity := "inf", nan := "nan" }

/-- The literal of a number. -/
def Number.literal : Number → String
  | .int n => toString n
  | .float x => Number.layout.write x

/-- Whether a number is an integer with more digits than are written out. -/
def Number.isOverlong : Number → Bool
  | .int n => integerDigitLimit < (Nat.toDigits 10 n.natAbs).length
  | .float _ => false

/-! ## Texts and bytes -/

/-- A number in hexadecimal, with at least `width` digits. -/
def hexPadded (width n : Nat) : List Char :=
  let digits := Nat.toDigits 16 n
  List.replicate (width - digits.length) '0' ++ digits

/-- A character by its number: two, four or eight hexadecimal digits. -/
def escapeByNumber (c : Char) : List Char :=
  let n := c.toNat
  if n ≤ 0xFF then '\\' :: 'x' :: hexPadded 2 n
  else if n ≤ 0xFFFF then '\\' :: 'u' :: hexPadded 4 n
  else '\\' :: 'U' :: hexPadded 8 n

/-- What is written for a character between the quotes of a literal. -/
def literalChar (quote c : Char) (isShown : Char → Bool) : List Char :=
  if c = quote ∨ c = '\\' then ['\\', c]
  else if c = '\n' then ['\\', 'n']
  else if c = '\r' then ['\\', 'r']
  else if c = '\t' then ['\\', 't']
  else if isShown c then [c]
  else escapeByNumber c

/-- The quote around a literal: the single one, unless only that one occurs in the text. -/
def literalQuote (cs : List Char) : Char :=
  if cs.contains '\'' && !cs.contains '"' then '"' else '\''

/-- A text as a literal. -/
def textLiteral (text : String) : String :=
  let cs := text.toList
  let quote := literalQuote cs
  String.ofList (quote :: cs.flatMap (literalChar quote · isPrintable) ++ [quote])

/-- A sequence of bytes as a literal; bytes outside printed ASCII are shown by number. -/
def bytesLiteral (bytes : List UInt8) : String :=
  let cs := bytes.map fun b => Char.ofNat b.toNat
  let quote := literalQuote cs
  String.ofList ('b' :: quote ::
    cs.flatMap (literalChar quote · fun c => 0x20 ≤ c.toNat && c.toNat < 0x7F) ++ [quote])

/-! ## Dates -/

/-- A number with at least `width` decimal digits. -/
def decimalPadded (width n : Nat) : String := String.ofList (Decimal.padded width n)

/-- A day as `2006-03-01`. -/
def Date.spelling (d : Date) : String :=
  decimalPadded 4 d.year ++ "-" ++ decimalPadded 2 d.month ++ "-" ++ decimalPadded 2 d.day

/-- A distance from universal time as `+05:30`. -/
def offsetSpelling (minutes : Int) : String :=
  (if minutes < 0 then "-" else "+") ++ decimalPadded 2 (minutes.natAbs / 60) ++ ":"
    ++ decimalPadded 2 (minutes.natAbs % 60)

/-- A point of time as `2012-08-10 01:02:03+00:00`, with a fraction if there is one. -/
def Instant.spelling (t : Instant) : String :=
  t.date.spelling ++ " " ++ decimalPadded 2 t.hour ++ ":" ++ decimalPadded 2 t.minute ++ ":"
    ++ decimalPadded 2 t.second
    ++ (if t.microsecond = 0 then "" else "." ++ decimalPadded 6 t.microsecond)
    ++ (match t.offset with
      | some minutes => offsetSpelling minutes
      | none => "")

/-- A list of numbers as the arguments of a call. -/
def callArguments (numbers : List Nat) : String :=
  ", ".intercalate (numbers.map toString)

/-- A day as the call that makes it. -/
def Date.literal (d : Date) : String :=
  "datetime.date(" ++ callArguments [d.year, d.month, d.day] ++ ")"

/-- A distance from universal time as the call that makes it. -/
def offsetLiteral (minutes : Int) : String :=
  if minutes = 0 then "datetime.timezone.utc"
  else
    let days := if minutes < 0 then "days=-1, " else ""
    let seconds := (if minutes < 0 then minutes + 1440 else minutes) * 60
    "datetime.timezone(datetime.timedelta(" ++ days ++ "seconds=" ++ toString seconds ++ "))"

/-- A point of time as the call that makes it; seconds and their fraction are left out when they
are zero. -/
def Instant.literal (t : Instant) : String :=
  let small :=
    if t.microsecond ≠ 0 then [t.second, t.microsecond]
    else if t.second ≠ 0 then [t.second]
    else []
  "datetime.datetime("
    ++ callArguments ([t.date.year, t.date.month, t.date.day, t.hour, t.minute] ++ small)
    ++ (match t.offset with
      | some minutes => ", tzinfo=" ++ offsetLiteral minutes
      | none => "")
    ++ ")"

/-! ## Documents -/

/-- A set by the literals of its elements. -/
def setLiteral (elements : List String) : String :=
  if elements.isEmpty then "set()" else "\x7b" ++ ", ".intercalate elements ++ "\x7d"

/-- The literal of a scalar. -/
def Scalar.literal : Scalar → String
  | .null => "None"
  | .bool b => if b then "True" else "False"
  | .number n => n.literal
  | .text s => textLiteral s
  | .bytes b => bytesLiteral b
  | .date d => d.literal
  | .instant t => t.literal
  | .set elements => setLiteral elements
  | .ellipsis => "..."

/-- The plain form of a scalar. -/
def Scalar.spelling : Scalar → String
  | .text s => s
  | .date d => d.spelling
  | .instant t => t.spelling
  | s => s.literal

mutual

/-- The literal of a document. -/
def Document.literal : Document → String
  | .scalar s => s.literal
  | .list items => "[" ++ ", ".intercalate (literals items) ++ "]"
  | .object fields => "\x7b" ++ ", ".intercalate (fieldLiterals fields) ++ "\x7d"

/-- The literals of the items of a list. -/
def Document.literals : List Document → List String
  | [] => []
  | d :: r => d.literal :: literals r

/-- The fields of an object, each as `key: value`. -/
def Document.fieldLiterals : List (Scalar × Document) → List String
  | [] => []
  | (.ellipsis, _) :: r => Scalar.ellipsis.literal :: fieldLiterals r
  | (k, v) :: r => (k.literal ++ ": " ++ v.literal) :: fieldLiterals r

end

/-- The plain form of a document: a text as it is, all else as a literal. -/
def Document.spelling : Document → String
  | .scalar s => s.spelling
  | d => d.literal

/-! ## Documents without a literal -/

/-- Whether a scalar is an integer with more digits than are written out. -/
def Scalar.isOverlong : Scalar → Bool
  | .number n => n.isOverlong
  | _ => false

mutual

/-- Whether a document has no literal, for an integer in it has too many digits. -/
def Document.isOverlong : Document → Bool
  | .scalar s => s.isOverlong
  | .list items => anyOverlong items
  | .object fields => anyFieldOverlong fields

/-- Whether one of some documents has no literal. -/
def Document.anyOverlong : List Document → Bool
  | [] => false
  | d :: r => d.isOverlong || anyOverlong r

/-- Whether the key or the value of a field has no literal. -/
def Document.anyFieldOverlong : List (Scalar × Document) → Bool
  | [] => false
  | (k, v) :: r => k.isOverlong || v.isOverlong || anyFieldOverlong r

end

end ServiceShell
