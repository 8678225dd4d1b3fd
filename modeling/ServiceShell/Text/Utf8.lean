/-!
# Bytes as text

How bytes are read as UTF-8 text, and what is wrong with bytes that are none: at the first place
where no character can be read, how many bytes belong to the attempt, and why it fails. Line ends of
every convention become line feeds.

Main statements:

- `decode_toUTF8`: the bytes of a text are read as that text.
-/

namespace ServiceShell.Text

/-! ## Problems -/

/-- Why no character can be read. -/
inductive ByteProblem where
  /-- No character begins with this byte. -/
  | badStart
  /-- The next byte does not continue the character. -/
  | badContinuation
  /-- The bytes end in the middle of a character. -/
  | truncated
  deriving DecidableEq, Repr

/-- Bytes that are no text. -/
structure BadBytes where
  /-- Why. -/
  problem : ByteProblem
  /-- The offset of the first byte of the attempt. -/
  offset : Nat
  /-- The bytes of the attempt. -/
  bytes : List UInt8
  deriving DecidableEq, Repr

/-- The text that tells why no character can be read. -/
def ByteProblem.message : ByteProblem → String
  | badStart => "invalid start byte"
  | badContinuation => "invalid continuation byte"
  | truncated => "unexpected end of data"

/-- A byte in hexadecimal. -/
def hexByte (b : UInt8) : String :=
  String.ofList [Nat.digitChar (b.toNat / 16), Nat.digitChar (b.toNat % 16)]

/-- The message for bytes that are no text. -/
def BadBytes.message (b : BadBytes) : String :=
  (match b.bytes with
    | [byte] => s!"'utf-8' codec can't decode byte 0x{hexByte byte} in position {b.offset}: "
    | bytes =>
      let last := b.offset + bytes.length - 1
      s!"'utf-8' codec can't decode bytes in position {b.offset}-{last}: ")
    ++ b.problem.message

/-! ## Characters -/

/-- Whether a byte continues a character. -/
def isContinuation (b : UInt8) : Bool := 0x80 ≤ b && b < 0xC0

/-- Whether a byte may be the second one of a character; some are left out, because the character
has a shorter form or is none. -/
def isSecond (first second : UInt8) : Bool :=
  isContinuation second
    && !(first = 0xE0 && second < 0xA0) && !(first = 0xED && second ≥ 0xA0)
    && !(first = 0xF0 && second < 0x90) && !(first = 0xF4 && second ≥ 0x90)

/-- The number of bytes of the character that a byte begins, if it begins one. -/
def byteCount? (first : UInt8) : Option Nat :=
  if first < 0x80 then some 1
  else if first < 0xC2 then none
  else if first < 0xE0 then some 2
  else if first < 0xF0 then some 3
  else if first < 0xF5 then some 4
  else none

/-- The bytes of a character behind the first one that are as they should be. -/
def goodTail (first : UInt8) : List UInt8 → List UInt8
  | [] => []
  | second :: rest =>
    if isSecond first second then second :: rest.takeWhile isContinuation else []

/-- What is wrong with the character at the start of some bytes, if anything is. -/
def charProblem? (bytes : List UInt8) : Option (ByteProblem × List UInt8) :=
  match bytes with
  | [] => none
  | first :: rest =>
    match byteCount? first with
    | none => some (.badStart, [first])
    | some count =>
      let tail := rest.take (count - 1)
      let good := goodTail first tail
      if good.length = count - 1 then none
      else if good.length = tail.length then some (.truncated, first :: tail)
      else some (.badContinuation, first :: good)

/-- The first problem with bytes, the first of which has an offset. -/
def findBadBytes (offset : Nat) : Nat → List UInt8 → Option BadBytes
  | 0, _ => none
  | _, [] => none
  | fuel + 1, first :: rest =>
    match charProblem? (first :: rest) with
    | some (problem, bytes) => some ⟨problem, offset, bytes⟩
    | none =>
      let more := (byteCount? first).getD 1 - 1
      findBadBytes (offset + more + 1) fuel (rest.drop more)

/-! ## Texts -/

/-- What is wrong with bytes that are no text. -/
def badBytes (bytes : ByteArray) : BadBytes :=
  (findBadBytes 0 bytes.size bytes.toList).getD ⟨.truncated, bytes.size, []⟩

/-- The text that bytes stand for. -/
def decode (bytes : ByteArray) : Except BadBytes String :=
  match String.fromUTF8? bytes with
  | some text => .ok text
  | none => .error (badBytes bytes)

/-- Writes line ends of every convention as line feeds. -/
def unifyLines : List Char → List Char
  | [] => []
  | '\r' :: '\n' :: rest => '\n' :: unifyLines rest
  | '\r' :: rest => '\n' :: unifyLines rest
  | c :: rest => c :: unifyLines rest

/-- The bytes of a text are read as that text. -/
theorem decode_toUTF8 (text : String) : decode text.toUTF8 = .ok text := by
  have h : text.toByteArray.IsValidUTF8 := text.isValidUTF8
  simp [decode, String.fromUTF8?, h, String.fromUTF8]

end ServiceShell.Text
