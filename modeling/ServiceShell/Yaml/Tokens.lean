import ServiceShell.Yaml.Scalar
import ServiceShell.Yaml.Tag

/-!
# YAML text as tokens

Splits YAML text into tokens. Outside brackets and braces the indentation of a line tells which
collections end before it. A text becomes a key only when a colon is found behind it, in the same
line and not too far away; so the places where a key may have begun are kept until then.
-/

namespace ServiceShell.Yaml

/-! ## State -/

/-- A place where a key may have begun. -/
structure KeyStart where
  /-- How deep in brackets and braces it is. -/
  level : Nat
  /-- The number of tokens before it. -/
  token : Nat
  /-- Whether there has to be a key. -/
  required : Bool
  /-- The place. -/
  cursor : Cursor

/-- What is known while a text is split. -/
structure Scan where
  /-- The place. -/
  cursor : Cursor
  /-- The tokens, last one first. -/
  tokens : List Token := []
  /-- How deep in brackets and braces the place is. -/
  level : Nat := 0
  /-- The indent of the innermost collection; `-1` outside all of them. -/
  indent : Int := -1
  /-- The indents of the collections around it, innermost first. -/
  outer : List Int := []
  /-- Whether a key may begin here. -/
  keyAllowed : Bool := true
  /-- The places where keys may have begun, one for each level. -/
  starts : List KeyStart := []

namespace Scan

/-- Adds a token. -/
def emit (s : Scan) (token : Token) : Scan := { s with tokens := token :: s.tokens }

/-- Adds a token that ends at a place. -/
def emitTo (s : Scan) (token : Token) (cursor : Cursor) : Scan := { s.emit token with cursor }

/-- Puts a token before those from the `n`th on. -/
def insertAt (s : Scan) (n : Nat) (token : Token) : Scan :=
  let later := s.tokens.length - n
  { s with tokens := s.tokens.take later ++ token :: s.tokens.drop later }

/-- Whether the place is outside brackets and braces. -/
def inBlock (s : Scan) : Bool := s.level = 0

/-! ## Keys -/

/-- The problem that a key has no colon. -/
def missingColon : Refusal := .malformed "could not find expected ':'"

/-- The greatest distance from the start of a key to its colon. -/
def keyLimit : Nat := 1024

/-- Whether a key that began at a place can still be found here. -/
def isOpen (s : Scan) (start : KeyStart) : Bool :=
  start.cursor.line = s.cursor.line && s.cursor.index - start.cursor.index ≤ keyLimit

/-- Forgets the places too far away. -/
def dropStale (s : Scan) : Except Refusal Scan :=
  if s.starts.any fun start => !s.isOpen start && start.required then .error missingColon
  else .ok { s with starts := s.starts.filter s.isOpen }

/-- Forgets the place at this level. -/
def dropStart (s : Scan) : Except Refusal Scan :=
  if s.starts.any fun start => start.level = s.level && start.required then .error missingColon
  else .ok { s with starts := s.starts.filter (·.level ≠ s.level) }

/-- Keeps this place, if a key may begin here. -/
def saveStart (s : Scan) : Except Refusal Scan :=
  if s.keyAllowed then do
    let s ← s.dropStart
    let start : KeyStart :=
      { level := s.level
        token := s.tokens.length
        required := s.inBlock && s.indent = s.cursor.column
        cursor := s.cursor }
    return { s with starts := start :: s.starts }
  else .ok s

/-! ## Indentation -/

/-- Ends the collections that are indented more than a column. -/
def unwindFrom (column : Int) : List Int → Scan → Scan
  | [], s => s
  | indent :: outer, s =>
    if s.indent > column then unwindFrom column outer ({ s with indent, outer }.emit .blockEnd)
    else s

/-- Ends the collections that are indented more than a column; there are none in brackets and
braces. -/
def unwind (s : Scan) (column : Int) : Scan :=
  if s.inBlock then unwindFrom column s.outer s else s

/-- Whether a collection at a column is a new one. -/
def isDeeper (s : Scan) (column : Nat) : Bool := s.indent < column

/-- Begins a collection at a column. -/
def indentTo (s : Scan) (column : Nat) : Scan :=
  { s with indent := column, outer := s.indent :: s.outer }

/-- Begins a collection at this place with a token, unless it is there already. -/
def beginBlock (s : Scan) (token : Token) : Scan :=
  if s.inBlock && s.isDeeper s.cursor.column then (s.indentTo s.cursor.column).emit token else s

/-! ## Marks -/

/-- Takes a mark of one character. -/
def mark (s : Scan) (token : Token) : Scan := s.emitTo token s.cursor.step

/-- Takes the end of the text. -/
def streamEnd (s : Scan) : Except Refusal Scan := do
  let s ← (s.unwind (-1)).dropStart
  return { s with keyAllowed := false, starts := [] }.emit .streamEnd

/-- Takes a directive. -/
def directive (s : Scan) : Except Refusal Scan := do
  let s ← (s.unwind (-1)).dropStart
  let (value, cursor) ← Yaml.directive s.cursor
  return { s with keyAllowed := false }.emitTo (.directive value) cursor

/-- Takes a mark between documents. -/
def separator (s : Scan) (token : Token) : Except Refusal Scan := do
  let s ← (s.unwind (-1)).dropStart
  return { s with keyAllowed := false }.emitTo token (s.cursor.advance 3)

/-- Takes the start of a collection in brackets or braces. -/
def flowStart (s : Scan) (token : Token) : Except Refusal Scan := do
  let s ← s.saveStart
  return { s with level := s.level + 1, keyAllowed := true }.mark token

/-- Takes the end of a collection in brackets or braces. -/
def flowEnd (s : Scan) (token : Token) : Except Refusal Scan := do
  let s ← s.dropStart
  return { s with level := s.level - 1, keyAllowed := false }.mark token

/-- Takes a comma. -/
def flowEntry (s : Scan) : Except Refusal Scan := do
  let s ← { s with keyAllowed := true }.dropStart
  return s.mark .flowEntry

/-- Takes the mark before an item. -/
def blockEntry (s : Scan) : Except Refusal Scan := do
  if s.inBlock && !s.keyAllowed then
    .error (.malformed "sequence entries are not allowed here")
  else
    let s ← { s.beginBlock .blockSequenceStart with keyAllowed := true }.dropStart
    return s.mark .blockEntry

/-- Takes the mark before a key. -/
def keyMark (s : Scan) : Except Refusal Scan := do
  if s.inBlock && !s.keyAllowed then .error (.malformed "mapping keys are not allowed here")
  else
    let s ← { s.beginBlock .blockMappingStart with keyAllowed := s.inBlock }.dropStart
    return s.mark .key

/-- Makes a key of what began at a place. -/
def closeKey (s : Scan) (start : KeyStart) : Scan :=
  let s := { s with starts := s.starts.filter (·.level ≠ s.level), keyAllowed := false }
  let s := s.insertAt start.token .key
  if s.inBlock && s.isDeeper start.cursor.column then
    (s.indentTo start.cursor.column).insertAt start.token .blockMappingStart
  else s

/-- Takes the mark before a value. -/
def valueMark (s : Scan) : Except Refusal Scan := do
  match s.starts.find? (·.level = s.level) with
  | some start => return (s.closeKey start).mark .value
  | none =>
    if s.inBlock && !s.keyAllowed then .error (.malformed "mapping values are not allowed here")
    else
      let s ← { s.beginBlock .blockMappingStart with keyAllowed := s.inBlock }.dropStart
      return s.mark .value

/-! ## Nodes -/

/-- Takes a token that may begin a key, behind which no key can begin. -/
def keyLike {α : Type} (s : Scan) (read : Cursor → Except Refusal (α × Cursor))
    (token : α → Token) : Except Refusal Scan := do
  let s ← s.saveStart
  let (a, cursor) ← read s.cursor
  return { s with keyAllowed := false }.emitTo (token a) cursor

/-- Takes a block. -/
def block (s : Scan) : Except Refusal Scan := do
  let s ← { s with keyAllowed := true }.dropStart
  let (text, cursor) ← blockText s.indent s.cursor
  return s.emitTo (.scalar text false) cursor

/-- Takes a plain text. -/
def plain (s : Scan) : Except Refusal Scan := do
  let s ← s.saveStart
  let found := plainText (!s.inBlock) s.indent s.cursor
  return { s with keyAllowed := found.atLineStart }.emitTo
    (.scalar (String.ofList found.read.reverse) true) found.cursor

/-! ## Steps -/

/-- Skips spaces, comments and line breaks; behind a line break a key may begin, except in brackets
and braces. -/
def skipBlanks : Nat → Scan → Scan
  | 0, s => s
  | fuel + 1, s =>
    let c := s.cursor.skipSpaces.skipComment
    match c.lineBreak with
    | some (_, cursor) =>
      skipBlanks fuel { s with cursor, keyAllowed := s.keyAllowed || s.inBlock }
    | none => { s with cursor := c }

/-- Whether a plain text begins here. -/
def startsPlain (s : Scan) : Bool :=
  let c := s.cursor.peek
  !(isBlankOrEnd c || "-?:,[]\x7b\x7d#&*!|>'\"%@`".toList.contains c)
    || (!isBlankOrEnd (s.cursor.peekAt 1)
      && (c = '-' || (s.inBlock && (c = '?' || c = ':'))))

/-- Takes the token that begins here. -/
def next (s : Scan) : Except Refusal Scan :=
  let c := s.cursor
  let atStart := c.column = 0
  let beforeBlank := isBlankOrEnd (c.peekAt 1)
  match c.peek with
  | '%' => if atStart then s.directive else unexpected
  | '[' => s.flowStart .flowSequenceStart
  | '\x7b' => s.flowStart .flowMappingStart
  | ']' => s.flowEnd .flowSequenceEnd
  | '\x7d' => s.flowEnd .flowMappingEnd
  | ',' => s.flowEntry
  | '*' => s.keyLike anchorName .alias
  | '&' => s.keyLike anchorName .anchor
  | '!' => s.keyLike Yaml.tag .tag
  | '\'' | '"' => s.keyLike quotedText (.scalar · false)
  | '-' =>
    if atStart && c.isSeparator then s.separator .documentStart
    else if beforeBlank then s.blockEntry
    else s.plain
  | '.' => if atStart && c.isSeparator then s.separator .documentEnd else s.plain
  | '?' =>
    if !s.inBlock || beforeBlank then s.keyMark
    else s.plain
  | ':' =>
    if !s.inBlock || beforeBlank then s.valueMark
    else s.plain
  | '|' | '>' => if s.inBlock then s.block else unexpected
  | _ => if s.startsPlain then s.plain else unexpected
where
  /-- The problem that no token begins here. -/
  unexpected : Except Refusal Scan :=
    .error (.malformed "found a character that cannot start any token")

/-- Takes the tokens up to the end; the tokens before a problem are kept. -/
def run : Nat → Scan → List Token × Option Refusal
  | 0, s => (s.tokens.reverse, some (.malformed "the text is too long"))
  | fuel + 1, s =>
    match (skipBlanks (s.cursor.rest.length + 1) s).dropStale with
    | .error refusal => (s.tokens.reverse, some refusal)
    | .ok s =>
      let s := s.unwind s.cursor.column
      if s.cursor.rest.isEmpty then
        match s.streamEnd with
        | .ok s => (s.tokens.reverse, none)
        | .error refusal => (s.tokens.reverse, some refusal)
      else
        match s.next with
        | .ok s => run fuel s
        | .error refusal => (s.tokens.reverse, some refusal)

end Scan

/-- The tokens of a text, and the problem behind them, if there is one. -/
def tokens (text : String) : List Token × Option Refusal :=
  let cs := text.toList
  if cs.all isAllowed then
    let cs := if cs.head? = some '\uFEFF' then cs.drop 1 else cs
    Scan.run (cs.length + 1) { cursor := { rest := cs } }
  else ([], some (.malformed "special characters are not allowed"))

end ServiceShell.Yaml
