import ServiceShell.Document.Literal
import ServiceShell.Json.Token
import ServiceShell.Pattern.Basic
import ServiceShell.Pattern.Token
import ServiceShell.Text.CharacterName

/-!
# Escapes and sets of patterns

What a backslash and the characters behind it stand for, inside and outside of a set, and how a set
in brackets is read.
-/

namespace ServiceShell.Pattern

/-! ## Single characters -/

/-- The code points of the escapes for controls. -/
def controlEscape? : Char → Option Nat
  | 'a' => some 7
  | 'f' => some 12
  | 'n' => some 10
  | 'r' => some 13
  | 't' => some 9
  | 'v' => some 11
  | '\\' => some 92
  | _ => none

/-- The class that an escape stands for, and whether it is the complement. -/
def classEscape? : Char → Option (CharClass × Bool)
  | 'd' => some (.digit, false)
  | 'D' => some (.digit, true)
  | 's' => some (.space, false)
  | 'S' => some (.space, true)
  | 'w' => some (.word, false)
  | 'W' => some (.word, true)
  | _ => none

/-- The place that an escape stands for. -/
def anchorEscape? : Char → Option Anchor
  | 'A' => some .textStart
  | 'b' => some .boundary
  | 'B' => some .noBoundary
  | 'Z' => some .textEnd
  | _ => none

/-- Whether a character is an octal digit. -/
def isOctal (c : Char) : Bool := '0' ≤ c && c ≤ '7'

/-- Whether a character is a hexadecimal digit. -/
def isHex (c : Char) : Bool := (Json.hexValue? c).isSome

/-- The value of digits in a base. -/
def digitsIn (base : Nat) (digits : List Char) : Nat :=
  digits.foldl (fun n c => base * n + (Json.hexValue? c).getD 0) 0

/-- The number of hexadecimal digits behind the letter of a numeric escape. -/
def hexLength? : Char → Option Nat
  | 'x' => some 2
  | 'u' => some 4
  | 'U' => some 8
  | _ => none

/-- A problem that names an escape as far as it was read. -/
def escapeProblem (c : Cursor) (what : String) (escape : List Char) : Refusal :=
  c.problem (what ++ String.ofList escape) escape.length

/-- Reads the digits of a numeric escape. -/
def numericEscape (c : Cursor) (letter : Char) (length : Nat) : Except Refusal (Nat × Cursor) :=
  let (digits, c) := c.takeWhile isHex length
  let escape := '\\' :: letter :: digits
  if digits.length ≠ length then .error (escapeProblem c "incomplete escape " escape)
  else
    let code := digitsIn 16 digits
    if code > 0x10FFFF then .error (escapeProblem c "bad escape " escape) else .ok (code, c)

/-- Reads the name of a character in braces. -/
def namedEscape (c : Cursor) : Except Refusal (Nat × Cursor) :=
  match c.skip? '\x7b' with
  | none => .error (c.problem "missing \x7b" 0)
  | some c => do
    let (name, c) ← c.name '\x7d' "character name"
    match Text.characterNamed? name with
    | some code => return (code, c)
    | none =>
      .error (c.problem ("undefined character name " ++ textLiteral (String.ofList name))
        (name.length + 4))

/-- An octal escape of up to three digits. -/
def octalCode (c : Cursor) (digits : List Char) : Except Refusal (Nat × Cursor) :=
  let code := digitsIn 8 digits
  if code > 0o377 then
    let escape := '\\' :: digits
    .error (c.problem
      ("octal escape value " ++ String.ofList escape ++ " outside of range 0-0o377") escape.length)
  else .ok (code, c)

/-- The character itself behind a backslash; letters have to mean something. -/
def selfEscape (c : Cursor) (char : Char) : Except Refusal (Nat × Cursor) :=
  if char.isAlpha then .error (escapeProblem c "bad escape " ['\\', char]) else .ok (char.toNat, c)

/-! ## Escapes in sets -/

/-- What an escape inside a set stands for; `c` is the cursor behind it. -/
def setEscape (c : Cursor) (char : Char) : Except Refusal (SetItem × Cursor) :=
  let asChar (found : Except Refusal (Nat × Cursor)) : Except Refusal (SetItem × Cursor) :=
    found.map fun f => (.char f.1, f.2)
  if char = 'b' then .ok (.char 8, c)
  else
    match controlEscape? char, classEscape? char, hexLength? char with
    | some code, _, _ => .ok (.char code, c)
    | _, some (charClass, negated), _ => .ok (.charClass charClass negated, c)
    | _, _, some length => asChar (numericEscape c char length)
    | _, _, _ =>
      if char = 'N' then asChar (namedEscape c)
      else if isOctal char then
        let (digits, c) := c.takeWhile isOctal 2
        asChar (octalCode c (char :: digits))
      else if char.isDigit then .error (escapeProblem c "bad escape " ['\\', char])
      else asChar (selfEscape c char)

/-- What a token inside a set stands for; `c` is the cursor behind it. -/
def setElement (c : Cursor) (chars : List Char) : Except Refusal (SetItem × Cursor) :=
  match chars with
  | ['\\', char] => setEscape c char
  | [char] => .ok (.char char.toNat, c)
  | _ => .error (c.problem "bad escape (end of pattern)" 0)

/-! ## Sets -/

/-- The range between two elements of a set. -/
def setRange (c : Cursor) (first last : SetItem) (firstText lastText : List Char) :
    Except Refusal SetItem :=
  let refusal := c.problem
    ("bad character range " ++ String.ofList firstText ++ "-" ++ String.ofList lastText)
    (firstText.length + 1 + lastText.length)
  match first, last with
  | .char a, .char b => if b < a then .error refusal else .ok (.range a b)
  | _, _ => .error refusal

/-- Reads the elements of a set that begins at an offset, up to its closing bracket; `fuel` bounds
the number of elements, `read` holds those read, last one first. -/
def readSet (start : Nat) (read : List SetItem) (c : Cursor) :
    Nat → Except Refusal (List SetItem × Cursor)
  | 0 => .error (c.problem "unterminated character set" (c.offset - start))
  | fuel + 1 =>
    match c.rest with
    | [] => .error (c.problem "unterminated character set" (c.offset - start))
    | t :: rest => do
      let c := { c with rest }
      if t.chars = [']'] ∧ ¬ read.isEmpty then return (read.reverse, c)
      let (first, c) ← setElement c t.chars
      match c.skip? '-' with
      | none => readSet start (first :: read) c fuel
      | some c =>
        match c.rest with
        | [] => .error (c.problem "unterminated character set" (c.offset - start))
        | u :: rest =>
          let c := { c with rest }
          if u.chars = [']'] then return ((.char '-'.toNat :: first :: read).reverse, c)
          let (last, c) ← setElement c u.chars
          let range ← setRange c first last t.chars u.chars
          readSet start (range :: read) c fuel

/-- Reads a set; `c` is the cursor behind its opening bracket. -/
def readBracketed (c : Cursor) : Except Refusal (Node × Cursor) := do
  let start := c.offset - 1
  let negated := c.sees '^'
  let c := if negated then c.next else c
  let (items, c) ← readSet start [] c (c.rest.length + 1)
  return (.set negated items, c)

end ServiceShell.Pattern
