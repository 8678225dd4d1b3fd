import Std.Data.HashMap
import ServiceShell.Text.EntityNames
import ServiceShell.Text.Integer
import ServiceShell.Text.Substitute

/-!
# Character references

A character reference stands for one or two characters of a marked-up text: by number
(`&#233;`, `&#xe9;`) or by name (`&eacute;`). A name that no table holds is read as its longest
beginning that may stand without a semicolon (`&notit;` is `¬it;`); a reference that means nothing
stays as it is written.
-/

namespace ServiceShell.Text.Entity

/-! ## Look-up of names -/

/-- The character with a code point. -/
def charOfCode (n : Nat) : Char := Char.ofNat n

/-- Reads a numeral in a base of at most sixteen; other characters count as zero. -/
def readNumeral (base : Nat) (digits : List Char) : Nat :=
  digits.foldl (fun n c => base * n + hexValue c) 0
where
  /-- The value of a hexadecimal digit. -/
  hexValue (c : Char) : Nat :=
    if c.isDigit then c.toNat - '0'.toNat
    else if 'a' ≤ c ∧ c ≤ 'f' then c.toNat - 'a'.toNat + 10
    else if 'A' ≤ c ∧ c ≤ 'F' then c.toNat - 'A'.toNat + 10
    else 0

/-- Reads a word of the table: a name and its characters. -/
def readWord (word : String) : String × List Char :=
  let name := word.toList.takeWhile (· ≠ '=')
  let codes := runs (· ≠ '+') (word.toList.drop (name.length + 1))
  (String.ofList name, codes.map fun c => charOfCode (readNumeral 16 c))
where
  /-- Splits at the characters that are not wanted. -/
  runs (wanted : Char → Bool) (cs : List Char) : List (List Char) :=
    cs.foldr (fun c rest =>
      if wanted c then
        match rest with
        | [] => [[c]]
        | w :: ws => (c :: w) :: ws
      else [] :: rest) [[]]

/-- The characters of every name. -/
def names : Std.HashMap String (List Char) :=
  nameLines.foldl (fun m line =>
    (line.splitOn " ").foldl (fun m word => m.insert (readWord word).1 (readWord word).2) m)
    (Std.HashMap.emptyWithCapacity 2200)

/-- The names that may stand without a semicolon. -/
def bareNames : Std.HashMap String Unit :=
  bareLines.foldl (fun m line => (line.splitOn " ").foldl (fun m word => m.insert word ()) m) {}

/-- The characters of a name written without its semicolon, if it may stand so. -/
def bare? (name : List Char) : Option (List Char) :=
  let name := String.ofList name
  if bareNames.contains name then names[name]? else none

/-! ## Numbers -/

/-- What the numbers 128 to 159 stand for: the characters of the code page in which old documents
were written, for those that it defines. -/
def codePage : List Nat :=
  [0x20AC, 0x81, 0x201A, 0x192, 0x201E, 0x2026, 0x2020, 0x2021, 0x2C6, 0x2030, 0x160, 0x2039,
   0x152, 0x8D, 0x17D, 0x8F, 0x90, 0x2018, 0x2019, 0x201C, 0x201D, 0x2022, 0x2013, 0x2014,
   0x2DC, 0x2122, 0x161, 0x203A, 0x153, 0x9D, 0x17E, 0x178]

/-- Whether a number stands for nothing: most controls, and the code points that are set apart
from characters. -/
def isNonCharacter (n : Nat) : Bool :=
  (1 ≤ n && n ≤ 8) || n == 0xB || (0xE ≤ n && n ≤ 0x1F) || (0x7F ≤ n && n ≤ 0x9F)
    || (0xFDD0 ≤ n && n ≤ 0xFDEF) || n % 0x10000 ≥ 0xFFFE

/-- The characters that a numeric reference stands for. Zero, surrogates and numbers beyond the
last code point give the replacement character. -/
def ofNumber (n : Nat) : List Char :=
  if n = 0 then [charOfCode 0xFFFD]
  else if 0x80 ≤ n ∧ n ≤ 0x9F then [charOfCode (codePage.getD (n - 0x80) 0xFFFD)]
  else if (0xD800 ≤ n ∧ n ≤ 0xDFFF) ∨ n > 0x10FFFF then [charOfCode 0xFFFD]
  else if isNonCharacter n then []
  else [charOfCode n]

/-! ## References -/

/-- Whether a character may stand in a name. -/
def isNameChar (c : Char) : Bool :=
  !(['\t', '\n', '\x0c', ' ', '<', '&', '#', ';'].contains c)

/-- Whether a character is a hexadecimal digit. -/
def isHexDigit (c : Char) : Bool :=
  c.isDigit || ('a' ≤ c && c ≤ 'f') || ('A' ≤ c && c ≤ 'F')

/-- One if the text begins with a semicolon, which then closes a reference. -/
def closing (cs : List Char) : Nat := if cs.head? = some ';' then 1 else 0

/-- The longest beginning of a name, of two characters or more, that may stand without a
semicolon, followed by the rest of the name; `length` bounds the beginning. -/
def longestBare (name : List Char) : Nat → Option (List Char)
  | 0 | 1 => none
  | length + 1 =>
    match bare? (name.take (length + 1)) with
    | some text => some (text ++ name.drop (length + 1))
    | none => longestBare name length

/-- What is written for a named reference; `closed` tells whether a semicolon ends it. A name that
is not known stays as it is written, with its ampersand. -/
def ofName (name : List Char) (closed : Bool) : List Char :=
  let tail := if closed then [';'] else []
  let whole := if closed then names[String.ofList name]? else bare? name
  match whole with
  | some text => text
  | none =>
    match longestBare name (if closed then name.length else name.length - 1) with
    | some text => text ++ tail
    | none => '&' :: name ++ tail

/-- The reference at the start of a text. -/
def reference? : List Char → Option Match
  | '&' :: '#' :: r =>
    let isHex := r.head? = some 'x' ∨ r.head? = some 'X'
    let body := if isHex then r.drop 1 else r
    let digits := body.takeWhile (if isHex then isHexDigit else Char.isDigit)
    if digits.isEmpty then none
    else
      let closed := closing (body.drop digits.length)
      some ⟨ofNumber (readNumeral (if isHex then 16 else 10) digits),
        (if isHex then 2 else 1) + digits.length + closed⟩
  | '&' :: r =>
    let name := (r.takeWhile isNameChar).take 32
    if name.isEmpty then none
    else
      let closed := closing (r.drop name.length)
      some ⟨ofName name (closed = 1), name.length + closed⟩
  | _ => none

/-- Writes the characters that the references of a text stand for. -/
def decode (cs : List Char) : List Char := substitute reference? cs

/-- The number of digits of the reference by a decimal number at the start of a text, if they are
more than are read. -/
def overlongStart? : List Char → Option Nat
  | '&' :: '#' :: r =>
    let count := (r.takeWhile Char.isDigit).length
    if integerDigitLimit < count then some count else none
  | _ => none

/-- The number of digits of the first reference of a text that has more of them than are read. -/
def overlong? : List Char → Option Nat
  | [] => none
  | c :: r => (overlongStart? (c :: r)).or (overlong? r)

end ServiceShell.Text.Entity
