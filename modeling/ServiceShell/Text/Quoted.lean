/-!
# Quoted text

Text between double quotes, with escapes. Two alphabets are in use: one that leaves every character
beyond the controls as it is, and one that writes ASCII only, with the other characters as
four-digit hexadecimal units of UTF-16.
-/

namespace ServiceShell.Text

/-- Which characters a quoted text may hold as they are. -/
inductive Alphabet where
  /-- All but the controls. -/
  | unicode
  /-- The printed characters of ASCII. -/
  | ascii
  deriving DecidableEq

/-- A hexadecimal digit in lower case. -/
def hexDigit (n : Nat) : Char := Nat.digitChar (n % 16)

/-- A UTF-16 unit as four hexadecimal digits. -/
def hexUnit (n : Nat) : List Char :=
  [hexDigit (n / 4096), hexDigit (n / 256), hexDigit (n / 16), hexDigit n]

/-- A unit of UTF-16 as an escape. -/
def escapeUnit (n : Nat) : List Char := '\\' :: 'u' :: hexUnit n

/-- A character as one escape, or as two for the halves of a surrogate pair. -/
def escapeCode (c : Char) : List Char :=
  if c.toNat < 0x10000 then escapeUnit c.toNat
  else
    let n := c.toNat - 0x10000
    escapeUnit (0xD800 + n / 0x400) ++ escapeUnit (0xDC00 + n % 0x400)

/-- Whether a character may stand in a quoted text as it is, apart from the quote and the
backslash. -/
def Alphabet.admits (a : Alphabet) (c : Char) : Bool :=
  match a with
  | .unicode => 0x20 ≤ c.toNat
  | .ascii => 0x20 ≤ c.toNat && c.toNat ≤ 0x7E

/-- What is written for a character of a quoted text. -/
def Alphabet.encode (a : Alphabet) (c : Char) : List Char :=
  match c with
  | '"' => ['\\', '"']
  | '\\' => ['\\', '\\']
  | '\n' => ['\\', 'n']
  | '\r' => ['\\', 'r']
  | '\t' => ['\\', 't']
  | '\x0c' => ['\\', 'f']
  | '\x08' => ['\\', 'b']
  | c => if a.admits c then [c] else escapeCode c

/-- A text between double quotes. -/
def Alphabet.quoteChars (a : Alphabet) (cs : List Char) : List Char :=
  '"' :: cs.flatMap a.encode ++ ['"']

/-- A text between double quotes. -/
def Alphabet.quote (a : Alphabet) (text : String) : String :=
  String.ofList (a.quoteChars text.toList)

/-- Writes the characters that markup gives a meaning to as escapes too, in a text that is quoted
already. -/
def shieldMarkup (quoted : List Char) : List Char :=
  quoted.flatMap fun c => if ['<', '>', '&', '\''].contains c then escapeUnit c.toNat else [c]

end ServiceShell.Text
