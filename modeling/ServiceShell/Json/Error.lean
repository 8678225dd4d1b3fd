/-!
# Errors of JSON text

What can be wrong with a text, where, and how that is told.
-/

namespace ServiceShell.Json

/-- What is wrong at a place of a text. -/
inductive Problem where
  /-- A value has to stand here. -/
  | expectedValue
  /-- A field name has to stand here. -/
  | expectedName
  /-- A comma or the end of the list or object has to stand here. -/
  | expectedComma
  /-- A colon has to stand here. -/
  | expectedColon
  /-- The document ends before here. -/
  | extraData
  /-- A control character stands in a quoted text. -/
  | controlCharacter
  /-- A quoted text that begins here does not end. -/
  | unterminatedText
  /-- A backslash is followed by a character that makes no escape. -/
  | badEscape
  /-- A numeric escape is not followed by four hexadecimal digits, or ends the text. -/
  | badNumericEscape
  /-- The text begins with a byte order mark. -/
  | byteOrderMark
  deriving DecidableEq, Repr

/-- The text for a problem. -/
def Problem.message : Problem → String
  | .expectedValue => "Expecting value"
  | .expectedName => "Expecting property name enclosed in double quotes"
  | .expectedComma => "Expecting ',' delimiter"
  | .expectedColon => "Expecting ':' delimiter"
  | .extraData => "Extra data"
  | .controlCharacter => "Invalid control character at"
  | .unterminatedText => "Unterminated string starting at"
  | .badEscape => "Invalid \\escape"
  | .badNumericEscape => "Invalid \\uXXXX escape"
  | .byteOrderMark => "Unexpected UTF-8 BOM (decode using utf-8-sig)"

/-- A place in a text. -/
structure Place where
  /-- The line, from 1. -/
  line : Nat
  /-- The column, from 1. -/
  column : Nat
  /-- The number of characters before it. -/
  offset : Nat
  deriving DecidableEq, Repr

/-- The place after the first `offset` characters of a text. -/
def Place.ofOffset (cs : List Char) (offset : Nat) : Place :=
  let before := cs.take offset
  { line := before.count '\n' + 1
    column := (before.reverse.takeWhile (· ≠ '\n')).length + 1
    offset }

/-- Why a text is refused. -/
inductive Error where
  /-- The text is no JSON document. -/
  | invalid (problem : Problem) (place : Place)
  /-- An integer has more digits than are accepted. -/
  | tooManyDigits (count : Nat)
  deriving DecidableEq, Repr

/-- The greatest number of digits of an integer. -/
def digitLimit : Nat := 4300

/-- The message of an error. -/
def Error.message : Error → String
  | .invalid problem place =>
    s!"{problem.message}: line {place.line} column {place.column} (char {place.offset})"
  | .tooManyDigits count =>
    s!"Exceeds the limit ({digitLimit} digits) for integer string conversion: "
      ++ s!"value has {count} digits; use sys.set_int_max_str_digits() to increase the limit"

end ServiceShell.Json
