/-!
# Tokens of patterns

A pattern is read in tokens: single characters, and characters behind a backslash. A problem is
reported at the place that reading has reached, less some characters.
-/

namespace ServiceShell.Pattern

/-- A character, or a backslash and the character behind it. -/
structure Token where
  /-- The characters. -/
  chars : List Char
  /-- The number of characters before it. -/
  offset : Nat
  deriving DecidableEq

/-- What is wrong with a pattern. -/
inductive Complaint where
  /-- A problem, at an offset if it has a place. -/
  | problem (text : String) (offset : Option Nat)
  /-- A number of repetitions is too large. -/
  | tooManyRepetitions
  /-- A number of repetitions has too many digits. -/
  | tooManyDigits (count : Nat)
  /-- Two modes that exclude each other are switched on. -/
  | conflictingModes
  /-- A condition on what stands before is too wide. -/
  | tooWide
  deriving DecidableEq, Repr

/-- Why a pattern is refused. -/
structure Refusal where
  /-- What is wrong. -/
  complaint : Complaint
  /-- Whether all tokens were read when it was found. -/
  exhausted : Bool
  deriving DecidableEq, Repr

/-- The tokens of a pattern that starts at an offset, and whether a lone backslash ends it. -/
def tokenize (offset : Nat) : List Char → List Token × Bool
  | [] => ([], false)
  | '\\' :: c :: r =>
    let (tokens, dangling) := tokenize (offset + 2) r
    (⟨['\\', c], offset⟩ :: tokens, dangling)
  | '\\' :: [] => ([], true)
  | c :: r =>
    let (tokens, dangling) := tokenize (offset + 1) r
    (⟨[c], offset⟩ :: tokens, dangling)

/-- Tokens still to be read, in a pattern of some length. -/
structure Cursor where
  /-- The length of the pattern. -/
  length : Nat
  /-- The tokens that are left. -/
  rest : List Token

namespace Cursor

/-- The offset of the next token. -/
def offset (c : Cursor) : Nat :=
  match c.rest with
  | t :: _ => t.offset
  | [] => c.length

/-- A refusal at the place reached. -/
def refusal (c : Cursor) (complaint : Complaint) : Refusal := ⟨complaint, c.rest.isEmpty⟩

/-- A problem at the place reached, less some characters. -/
def problem (c : Cursor) (text : String) (back : Nat) : Refusal :=
  c.refusal (.problem text (some (c.offset - back)))

/-- Whether the next token is a character. -/
def sees (c : Cursor) (char : Char) : Bool :=
  match c.rest with
  | t :: _ => t.chars = [char]
  | [] => false

/-- The cursor behind the next token. -/
def next (c : Cursor) : Cursor := { c with rest := c.rest.drop 1 }

/-- Reads a character if it is next. -/
def skip? (c : Cursor) (char : Char) : Option Cursor := if c.sees char then some c.next else none

/-- Reads up to `n` characters of a set. -/
def takeWhile (c : Cursor) (wanted : Char → Bool) : Nat → List Char × Cursor
  | 0 => ([], c)
  | n + 1 =>
    match c.rest with
    | ⟨[char], _⟩ :: rest =>
      if wanted char then
        let (chars, c) := takeWhile { c with rest } wanted n
        (char :: chars, c)
      else ([], c)
    | _ => ([], c)

/-- Reads a name up to a character that ends it. -/
def takeName (length : Nat) (terminator : Char) (what : String) (read : List Char) :
    List Token → Except Refusal (List Char × Cursor)
  | [] =>
    let c : Cursor := ⟨length, []⟩
    if read.isEmpty then .error (c.problem s!"missing {what}" 0)
    else .error (c.problem s!"missing {terminator}, unterminated name" read.length)
  | t :: rest =>
    let c : Cursor := ⟨length, rest⟩
    if t.chars = [terminator] then
      if read.isEmpty then .error (c.problem s!"missing {what}" 1) else .ok (read, c)
    else takeName length terminator what (read ++ t.chars) rest

/-- Reads a name up to a character that ends it. -/
def name (c : Cursor) (terminator : Char) (what : String) :
    Except Refusal (List Char × Cursor) :=
  takeName c.length terminator what [] c.rest

end Cursor

end ServiceShell.Pattern
