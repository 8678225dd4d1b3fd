import ServiceShell.Json.Token
import ServiceShell.Yaml.Cursor

/-!
# Texts in YAML

The three ways to write a text: between quotes, as a block of lines, and plainly. In all of them a
line break inside a text can be folded into a space. Text that was read is held last character
first.
-/

namespace ServiceShell.Yaml

/-! ## Folded lines -/

/-- Takes line breaks and the spaces and tabs before each of them, in a quoted text. -/
def quotedBreaks : Nat → List Char → Cursor → Except Refusal (List Char × Cursor)
  | 0, _, _ => .error (.malformed "the text is too long")
  | fuel + 1, breaks, c =>
    if c.isSeparator then .error (.malformed "found unexpected document separator")
    else
      let c := c.skip fun char => char = ' ' || char = '\t'
      match c.lineBreak with
      | some (char, c) => quotedBreaks fuel (char :: breaks) c
      | none => .ok (breaks, c)

/-- Folds a line break and the breaks behind it: a single line feed becomes a space. -/
def fold (first : Char) (breaks read : List Char) : List Char :=
  if first ≠ '\n' then breaks ++ first :: read
  else if breaks.isEmpty then ' ' :: read
  else breaks ++ read

/-! ## Quoted texts -/

/-- The character for a letter behind a backslash. -/
def escapedChar? : Char → Option Char
  | '0' => some '\x00'
  | 'a' => some '\x07'
  | 'b' => some '\x08'
  | 't' | '\t' => some '\t'
  | 'n' => some '\n'
  | 'v' => some '\x0b'
  | 'f' => some '\x0c'
  | 'r' => some '\r'
  | 'e' => some '\x1b'
  | ' ' => some ' '
  | '"' => some '"'
  | '\\' => some '\\'
  | '/' => some '/'
  | 'N' => some '\u0085'
  | '_' => some '\u00a0'
  | 'L' => some '\u2028'
  | 'P' => some '\u2029'
  | _ => none

/-- The number of hexadecimal digits behind a letter. -/
def escapeLength? : Char → Option Nat
  | 'x' => some 2
  | 'u' => some 4
  | 'U' => some 8
  | _ => none

/-- The bound of the numbers that can be looked up at all. -/
def characterNumberLimit : Nat := 0x80000000

/-- The character with a number; half a surrogate pair becomes the replacement character. -/
def numberedChar (code : Nat) : Except Refusal Char :=
  if code ≥ characterNumberLimit then .error .overflow
  else if code > 0x10FFFF then .error (.badValue "chr() arg not in range(0x110000)")
  else .ok (Json.charOfUnit code)

/-- Takes a numeric escape with some number of digits. -/
def numberedEscape (c : Cursor) (length : Nat) : Except Refusal (Char × Cursor) :=
  let digits := (c.rest.take length).filterMap Json.hexValue?
  if digits.length = length then
    (numberedChar (digits.foldl (fun n d => 16 * n + d) 0)).map (·, c.advance length)
  else .error (.malformed "expected escape sequence of hexadecimal numbers")

/-- Reads a quoted text up to its closing quote. -/
def quotedBody (quote : Char) : Nat → List Char → Cursor → Except Refusal (List Char × Cursor)
  | 0, _, _ => .error (.malformed "the text is too long")
  | fuel + 1, read, c =>
    let char := c.peek
    if char = quote then
      if quote = '\'' ∧ c.peekAt 1 = '\'' then quotedBody quote fuel ('\'' :: read) (c.advance 2)
      else .ok (read, c.step)
    else if quote = '"' ∧ char = '\\' then
      let c := c.step
      match escapedChar? c.peek, escapeLength? c.peek, c.lineBreak with
      | some char, _, _ => quotedBody quote fuel (char :: read) c.step
      | none, some length, _ =>
        match numberedEscape c.step length with
        | .ok (char, c) => quotedBody quote fuel (char :: read) c
        | .error refusal => .error refusal
      | none, none, some (_, c) =>
        match quotedBreaks (c.rest.length + 1) [] c with
        | .ok (breaks, c) => quotedBody quote fuel (breaks ++ read) c
        | .error refusal => .error refusal
      | none, none, none => .error (.malformed "found unknown escape character")
    else if isBlankOrEnd char then
      let (spaces, after) := c.span fun char => char = ' ' || char = '\t'
      match after.lineBreak with
      | some (first, c) =>
        match quotedBreaks (c.rest.length + 1) [] c with
        | .ok (breaks, c) => quotedBody quote fuel (fold first breaks read) c
        | .error refusal => .error refusal
      | none =>
        if after.rest.isEmpty then .error (.malformed "found unexpected end of stream")
        else quotedBody quote fuel (spaces.reverse ++ read) after
    else quotedBody quote fuel (char :: read) c.step

/-- Reads a quoted text from its opening quote. -/
def quotedText (c : Cursor) : Except Refusal (String × Cursor) :=
  (quotedBody c.peek (c.rest.length + 1) [] c.step).map fun (read, c) =>
    (String.ofList read.reverse, c)

/-! ## Blocks -/

/-- What happens to the line breaks at the end of a block. -/
inductive Chomping where
  /-- All are dropped. -/
  | strip
  /-- The first is kept. -/
  | clip
  /-- All are kept. -/
  | keep
  deriving DecidableEq

/-- The chomping that a sign stands for. -/
def Chomping.ofSign? : Char → Option Chomping
  | '+' => some .keep
  | '-' => some .strip
  | _ => none

/-- The indentation that a digit stands for. -/
def indentOfDigit (c : Char) : Except Refusal (Option Nat) :=
  if c = '0' then
    .error (.malformed "expected indentation indicator in the range 1-9, but found 0")
  else .ok (if c.isDigit then some (c.toNat - '0'.toNat) else none)

/-- Takes the signs behind the start of a block: chomping and indentation in either order. -/
def blockSigns (c : Cursor) : Except Refusal ((Chomping × Option Nat) × Cursor) := do
  let (chomping, indent, c) ← match Chomping.ofSign? c.peek with
    | some chomping => do
      let c := c.step
      match ← indentOfDigit c.peek with
      | some n => pure (chomping, some n, c.step)
      | none => pure (chomping, none, c)
    | none => do
      match ← indentOfDigit c.peek with
      | some n =>
        let c := c.step
        match Chomping.ofSign? c.peek with
        | some chomping => pure (chomping, some n, c.step)
        | none => pure (Chomping.clip, some n, c)
      | none => pure (Chomping.clip, none, c)
  if isSpaceOrEnd c.peek then return ((chomping, indent), c)
  else .error (.malformed "expected chomping or indentation indicators")

/-- Takes the blank lines at the start of a block, and finds the widest of their indents. -/
def blockIndent : Nat → List Char → Nat → Cursor → (List Char × Nat × Cursor)
  | 0, breaks, widest, c => (breaks, widest, c)
  | fuel + 1, breaks, widest, c =>
    if c.peek = ' ' then
      let c := c.step
      blockIndent fuel breaks (max widest c.column) c
    else
      match c.lineBreak with
      | some (char, c) => blockIndent fuel (char :: breaks) widest c
      | none => (breaks, widest, c)

/-- The place after the spaces of an indent. -/
def skipIndent (indent : Nat) (c : Cursor) : Cursor :=
  c.advance ((c.rest.take (indent - c.column)).takeWhile (· = ' ')).length

/-- Takes blank lines in a block with an indent. -/
def blockBreaks (indent : Nat) : Nat → List Char → Cursor → (List Char × Cursor)
  | 0, breaks, c => (breaks, c)
  | fuel + 1, breaks, c =>
    match (skipIndent indent c).lineBreak with
    | some (char, c) => blockBreaks indent fuel (char :: breaks) c
    | none => (breaks, skipIndent indent c)

/-- Reads the lines of a block. The result holds the text, the last line break and the breaks behind
it. -/
def blockLines (folded : Bool) (indent : Nat) :
    Nat → List Char → List Char → Cursor → (List Char × Option Char × List Char × Cursor)
  | 0, read, breaks, c => (read, none, breaks, c)
  | fuel + 1, read, breaks, c =>
    let startsWithText := c.peek ≠ ' ' ∧ c.peek ≠ '\t'
    let (line, c) := c.span (!isLineEnd ·)
    let read := line.reverse ++ breaks ++ read
    let (last, c) := match c.lineBreak with
      | some (char, c) => (some char, c)
      | none => (none, c)
    let (breaks, c) := blockBreaks indent (c.rest.length + 1) [] c
    if c.column = indent ∧ !c.rest.isEmpty then
      if folded ∧ last = some '\n' ∧ startsWithText ∧ c.peek ≠ ' ' ∧ c.peek ≠ '\t' then
        blockLines folded indent fuel (if breaks.isEmpty then ' ' :: read else read) breaks c
      else blockLines folded indent fuel (last.toList ++ read) breaks c
    else (read, last, breaks, c)

/-- Reads a block from its start, inside collections with an indent. -/
def blockText (outer : Int) (c : Cursor) : Except Refusal (String × Cursor) := do
  let folded := c.peek = '>'
  let ((chomping, width), c) ← blockSigns c.step
  let c ← c.endOfLine
  let least := max 1 (outer + 1).toNat
  let (breaks, indent, c) := match width with
    | none =>
      let (breaks, widest, c) := blockIndent (c.rest.length + 1) [] 0 c
      (breaks, max least widest, c)
    | some n =>
      let indent := least + n - 1
      let (breaks, c) := blockBreaks indent (c.rest.length + 1) [] c
      (breaks, indent, c)
  let (read, last, breaks, c) :=
    if c.column = indent ∧ !c.rest.isEmpty then
      blockLines folded indent (c.rest.length + 1) [] breaks c
    else ([], none, breaks, c)
  let ends := match chomping with
    | .strip => []
    | .clip => last.toList
    | .keep => breaks ++ last.toList
  return (String.ofList (ends ++ read).reverse, c)

/-! ## Plain texts -/

/-- Whether a character is an indicator of a flow collection. -/
def isFlowIndicator (c : Char) : Bool :=
  c = ',' || c = '[' || c = ']' || c = '\x7b' || c = '\x7d'

/-- Takes the characters of a plain text up to a blank or an indicator. -/
def plainRun (inFlow : Bool) : List Char → List Char
  | [] => []
  | c :: r =>
    let next := r.headD ending
    if isBlankOrEnd c
      || (c = ':' && (isBlankOrEnd next || (inFlow && isFlowIndicator next)))
      || (inFlow && (c = '?' || isFlowIndicator c)) then []
    else c :: plainRun inFlow r

/-- Takes the spaces and line breaks behind the first line break in a plain text; nothing when a
document begins or ends there. -/
def plainBreaks : Nat → List Char → Cursor → Option (List Char) × Cursor
  | 0, breaks, c => (some breaks, c)
  | fuel + 1, breaks, c =>
    if c.peek = ' ' then plainBreaks fuel breaks c.step
    else
      match c.lineBreak with
      | some (char, c) =>
        if c.isSeparator then (none, c) else plainBreaks fuel (char :: breaks) c
      | none => (some breaks, c)

/-- What separates two runs of a plain text. -/
structure PlainGap where
  /-- The text of the gap, last character first; nothing when the text ends. -/
  text : List Char
  /-- Whether there is a line break in it. -/
  hasBreak : Bool
  /-- The place after it. -/
  cursor : Cursor

/-- Takes what separates two runs of a plain text. -/
def plainGap (c : Cursor) : PlainGap :=
  let (spaces, after) := c.span (· = ' ')
  match after.lineBreak with
  | none => ⟨spaces, false, after⟩
  | some (first, c) =>
    if c.isSeparator then ⟨[], true, c⟩
    else
      match plainBreaks (c.rest.length + 1) [] c with
      | (some breaks, c) => ⟨fold first breaks [], true, c⟩
      | (none, c) => ⟨[], true, c⟩

/-- A plain text that was read. -/
structure PlainText where
  /-- The text, last character first. -/
  read : List Char
  /-- Whether the text ends at the start of a line. -/
  atLineStart : Bool
  /-- The place after it. -/
  cursor : Cursor

/-- Reads the runs of a plain text inside collections with an indent; `gap` is what was read behind
the last run. -/
def plainRuns (inFlow : Bool) (indent : Int) : Nat → List Char → PlainGap → PlainText
  | 0, read, gap => ⟨read, gap.hasBreak, gap.cursor⟩
  | fuel + 1, read, gap =>
    let c := gap.cursor
    let run := if c.peek = '#' then [] else plainRun inFlow c.rest
    if run.isEmpty then ⟨read, gap.hasBreak, c⟩
    else
      let read := run.reverse ++ gap.text ++ read
      let gap := plainGap (c.advance run.length)
      if gap.text.isEmpty || gap.cursor.peek = '#'
        || (!inFlow && (gap.cursor.column : Int) < indent) then
        ⟨read, gap.hasBreak, gap.cursor⟩
      else plainRuns inFlow indent fuel read gap

/-- Reads a plain text inside collections with an indent. -/
def plainText (inFlow : Bool) (outer : Int) (c : Cursor) : PlainText :=
  plainRuns inFlow (outer + 1) (c.rest.length + 1) [] ⟨[], false, c⟩

end ServiceShell.Yaml
