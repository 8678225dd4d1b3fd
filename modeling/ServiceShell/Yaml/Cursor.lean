/-!
# Places in YAML text

A cursor is a place in a text, with the text that follows it. Lines end at line feeds, carriage
returns, and the line and paragraph marks of other scripts. The text holds no NUL, so NUL stands for
its end.
-/

namespace ServiceShell.Yaml

/-! ## Refusals -/

/-- Why a text gives no document. -/
inductive Refusal where
  /-- The text is no YAML. -/
  | malformed (reason : String)
  /-- A value is written in a way that its type does not allow. -/
  | badValue (reason : String)
  /-- A number is out of range. -/
  | overflow
  /-- A word stands for no truth value. -/
  | unknownWord
  /-- A number has no digits. -/
  | noDigits
  /-- A text tagged as a time is none. -/
  | notTime
  deriving DecidableEq, Repr

/-! ## Characters -/

/-- What stands for the end of the text. -/
def ending : Char := '\x00'

/-- Whether a character ends a line. -/
def isLineBreak (c : Char) : Bool :=
  c = '\n' || c = '\r' || c = '\u0085' || c = '\u2028' || c = '\u2029'

/-- Whether a line or the text ends at a character. -/
def isLineEnd (c : Char) : Bool := c = ending || isLineBreak c

/-- Whether a character is a space or ends a line. -/
def isSpaceOrEnd (c : Char) : Bool := c = ' ' || isLineEnd c

/-- Whether a character is a space or tab or ends a line. -/
def isBlankOrEnd (c : Char) : Bool := c = '\t' || isSpaceOrEnd c

/-- Whether a character can stand in a name. -/
def isNameChar (c : Char) : Bool := c.isAlphanum || c = '-' || c = '_'

/-- Whether a character may stand in YAML text. -/
def isAllowed (c : Char) : Bool :=
  let n := c.toNat
  n = 9 || n = 0xA || n = 0xD || (0x20 ≤ n && n ≤ 0x7E) || n = 0x85
    || (0xA0 ≤ n && n ≤ 0xD7FF) || (0xE000 ≤ n && n ≤ 0xFFFD) || 0x10000 ≤ n

/-! ## Cursors -/

/-- A place in a text. -/
structure Cursor where
  /-- What follows the place. -/
  rest : List Char
  /-- The number of characters before it. -/
  index : Nat := 0
  /-- The number of lines before it. -/
  line : Nat := 0
  /-- The number of characters before it in its line. -/
  column : Nat := 0

namespace Cursor

/-- The next character. -/
def peek (c : Cursor) : Char := c.rest.headD ending

/-- The character after `n` more. -/
def peekAt (c : Cursor) (n : Nat) : Char := (c.rest.drop n).headD ending

/-- The place after the next character. -/
def step (c : Cursor) : Cursor :=
  match c.rest with
  | [] => c
  | '\r' :: '\n' :: rest =>
    { c with rest := '\n' :: rest, index := c.index + 1, column := c.column + 1 }
  | char :: rest =>
    if isLineBreak char then { rest, index := c.index + 1, line := c.line + 1, column := 0 }
    else if char = '\uFEFF' then { c with rest, index := c.index + 1 }
    else { c with rest, index := c.index + 1, column := c.column + 1 }

/-- The place after `n` more characters. -/
def advance (c : Cursor) : Nat → Cursor
  | 0 => c
  | n + 1 => c.step.advance n

/-- The longest run of wanted characters from here, and the place after it. -/
def span (c : Cursor) (wanted : Char → Bool) : List Char × Cursor :=
  let run := c.rest.takeWhile wanted
  (run, c.advance run.length)

/-- The place after the wanted characters. -/
def skip (c : Cursor) (wanted : Char → Bool) : Cursor := (c.span wanted).2

/-- The place after the spaces. -/
def skipSpaces (c : Cursor) : Cursor := c.skip (· = ' ')

/-- The place after a comment, if one begins here. -/
def skipComment (c : Cursor) : Cursor :=
  if c.peek = '#' then c.skip (!isLineEnd ·) else c

/-- Takes a line break: all but the marks of other scripts become line feeds. -/
def lineBreak (c : Cursor) : Option (Char × Cursor) :=
  match c.rest with
  | '\r' :: '\n' :: _ => some ('\n', c.advance 2)
  | char :: _ =>
    if char = '\u2028' ∨ char = '\u2029' then some (char, c.step)
    else if isLineBreak char then some ('\n', c.step)
    else none
  | [] => none

/-- Whether a document begins or ends here. -/
def isSeparator (c : Cursor) : Bool :=
  match c.rest with
  | '-' :: '-' :: '-' :: rest => isBlankOrEnd (rest.headD ending)
  | '.' :: '.' :: '.' :: rest => isBlankOrEnd (rest.headD ending)
  | _ => false

/-- Takes the end of a line that may hold spaces and a comment. -/
def endOfLine (c : Cursor) : Except Refusal Cursor :=
  let c := c.skipSpaces.skipComment
  match c.lineBreak with
  | some (_, c) => .ok c
  | none =>
    if c.rest.isEmpty then .ok c
    else .error (.malformed "expected a comment or a line break")

end Cursor

end ServiceShell.Yaml
