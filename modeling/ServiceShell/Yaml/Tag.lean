import ServiceShell.Json.Token
import ServiceShell.Yaml.Cursor
import ServiceShell.Yaml.Token

/-!
# Names, tags and directives in YAML

How the short parts of YAML text are read: names of nodes, tags with their handles, and the
directives at the start of a document.
-/

namespace ServiceShell.Yaml

/-! ## Names -/

/-- Reads a name that is not empty and before which a character passes a test. -/
def name (mayFollow : Char → Bool) (c : Cursor) : Except Refusal (String × Cursor) :=
  let (run, after) := c.span isNameChar
  if run.isEmpty then .error (.malformed "expected alphabetic or numeric character")
  else if mayFollow after.peek then .ok (String.ofList run, after)
  else .error (.malformed "found an unexpected character behind a name")

/-- Whether a character may follow the name of a node. -/
def mayFollowAnchor (c : Char) : Bool := isBlankOrEnd c || "?:,]\x7d%@`".toList.contains c

/-- Reads the name of a node behind its mark. -/
def anchorName (c : Cursor) : Except Refusal (String × Cursor) := name mayFollowAnchor c.step

/-! ## Tags -/

/-- Whether a character may stand in a tag. -/
def isTagChar (c : Char) : Bool := c.isAlphanum || "-;/?:@&=+$,_.!~*'()[]%".toList.contains c

/-- The bytes of the percent escapes at the start of a text, and how many characters they take. -/
def percentBytes : List Char → Except Refusal (List UInt8 × Nat)
  | '%' :: a :: b :: rest =>
    match Json.hexValue? a, Json.hexValue? b with
    | some a, some b =>
      (percentBytes rest).map fun (bytes, n) => (UInt8.ofNat (16 * a + b) :: bytes, n + 3)
    | _, _ => .error (.malformed "expected URI escape sequence of 2 hexadecimal numbers")
  | '%' :: _ => .error (.malformed "expected URI escape sequence of 2 hexadecimal numbers")
  | _ => .ok ([], 0)

/-- Reads the characters of a tag, with percent escapes replaced. -/
def tagText : Nat → String → Cursor → Except Refusal (String × Cursor)
  | 0, _, _ => .error (.malformed "the tag is too long")
  | fuel + 1, read, c =>
    if c.peek = '%' then
      match percentBytes c.rest with
      | .error refusal => .error refusal
      | .ok (bytes, n) =>
        match String.fromUTF8? ⟨bytes.toArray⟩ with
        | some text => tagText fuel (read ++ text) (c.advance n)
        | none => .error (.malformed "a tag holds bytes that are no text")
    else if isTagChar c.peek then tagText fuel (read.push c.peek) c.step
    else if read = "" then .error (.malformed "expected URI")
    else .ok (read, c)

/-- Reads the characters of a tag. -/
def tagUri (c : Cursor) : Except Refusal (String × Cursor) := tagText (c.rest.length + 1) "" c

/-- Reads the handle of a tag: a mark alone, or a name between two marks. -/
def tagHandle (c : Cursor) : Except Refusal (String × Cursor) :=
  if c.peek ≠ '!' then .error (.malformed "expected '!'")
  else if c.peekAt 1 = ' ' then .ok ("!", c.step)
  else
    let (run, after) := c.step.span isNameChar
    if after.peek = '!' then .ok ("!" ++ String.ofList run ++ "!", after.step)
    else .error (.malformed "expected '!' behind a handle")

/-- Whether a second mark stands in the word that begins here. -/
def hasHandle (c : Cursor) : Bool :=
  (c.step.rest.takeWhile (!isSpaceOrEnd ·)).contains '!'

/-- Reads a tag from its mark. -/
def tag (c : Cursor) : Except Refusal (RawTag × Cursor) := do
  let (tag, c) ←
    if c.peekAt 1 = '<' then do
      let (suffix, c) ← tagUri (c.advance 2)
      if c.peek = '>' then pure (RawTag.mk none suffix, c.step)
      else .error (.malformed "expected '>' behind a tag")
    else if isBlankOrEnd (c.peekAt 1) then pure (⟨none, "!"⟩, c.step)
    else do
      let (handle, c) ← if hasHandle c then tagHandle c else pure ("!", c.step)
      let (suffix, c) ← tagUri c
      pure (⟨some handle, suffix⟩, c)
  if isSpaceOrEnd c.peek then return (tag, c)
  else .error (.malformed "expected ' ' behind a tag")

/-! ## Directives -/

/-- Reads the digits of a version. -/
def versionNumber (c : Cursor) : Except Refusal (Nat × Cursor) :=
  let (run, after) := c.span Char.isDigit
  if run.isEmpty then .error (.malformed "expected a digit in a version")
  else .ok (run.foldl (fun n d => 10 * n + (d.toNat - '0'.toNat)) 0, after)

/-- Reads a version behind its name. -/
def versionDirective (c : Cursor) : Except Refusal (Directive × Cursor) := do
  let (major, c) ← versionNumber c.skipSpaces
  if c.peek ≠ '.' then .error (.malformed "expected a digit or '.'")
  else
    let (minor, c) ← versionNumber c.step
    if isSpaceOrEnd c.peek then return (.version major minor, c)
    else .error (.malformed "expected a digit or ' '")

/-- Reads a handle and what it stands for behind their name. -/
def tagDirective (c : Cursor) : Except Refusal (Directive × Cursor) := do
  let (handle, c) ← tagHandle c.skipSpaces
  if c.peek ≠ ' ' then .error (.malformed "expected ' ' behind a handle")
  else
    let (tagPrefix, c) ← tagUri c.skipSpaces
    if isSpaceOrEnd c.peek then return (.tag handle tagPrefix, c)
    else .error (.malformed "expected ' ' behind a tag prefix")

/-- Reads a directive from its mark. -/
def directive (c : Cursor) : Except Refusal (Directive × Cursor) := do
  let (word, c) ← name isSpaceOrEnd c.step
  let (directive, c) ←
    if word = "YAML" then versionDirective c
    else if word = "TAG" then tagDirective c
    else pure (.other, c.skip (!isLineEnd ·))
  return (directive, ← c.endOfLine)

end ServiceShell.Yaml
