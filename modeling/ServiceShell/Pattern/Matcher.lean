import ServiceShell.Pattern.Parser
import ServiceShell.Text.Blank
import ServiceShell.Text.Case

/-!
# Matching patterns

Matches a tree against a text by trying its parts in order. A part is matched towards what follows
it: `next` tells what the rest of the pattern makes of the place where the part ends, and the first
way through the part for which `next` succeeds is taken. So no second way is looked for once the
first one leads to a match.
-/

namespace ServiceShell.Pattern

/-! ## Characters -/

/-- A character of a text, with what the matching of patterns asks of it. -/
structure Glyph where
  /-- The character. -/
  char : Char
  /-- Its lower case. -/
  lower : Char
  /-- The characters that are the same letter but for case. -/
  alike : List Char
  /-- Whether it is a decimal digit. -/
  isDigit : Bool
  /-- Whether it is blank. -/
  isSpace : Bool
  /-- Whether it may stand in a word. -/
  isWord : Bool

/-- A character with what is asked of it. -/
def Glyph.ofChar (c : Char) : Glyph :=
  { char := c
    lower := Text.lower c
    alike := Text.sameLetters c
    isDigit := Text.isDecimal c
    isSpace := Text.isBlank c
    isWord := Text.isWordChar c }

/-- The characters that count as a given one. -/
def Glyph.counterparts (modes : List Mode) (g : Glyph) : List Char :=
  if !modes.contains .ignoreCase then [g.char]
  else if modes.contains .ascii then [g.char, g.char.toLower, g.char.toUpper]
  else g.alike

/-- Whether a character belongs to a class. -/
def CharClass.holds (modes : List Mode) (k : CharClass) (g : Glyph) : Bool :=
  if modes.contains .ascii then
    match k with
    | .digit => g.char.isDigit
    | .space => g.char = ' ' || (9 ≤ g.char.toNat && g.char.toNat ≤ 13)
    | .word => g.char.isAlphanum || g.char = '_'
  else
    match k with
    | .digit => g.isDigit
    | .space => g.isSpace
    | .word => g.isWord

/-- Whether a character belongs to a part of a set. -/
def SetItem.holds (modes : List Mode) (g : Glyph) : SetItem → Bool
  | .char code => (g.counterparts modes).any (·.toNat = code)
  | .range first last => (g.counterparts modes).any fun d => first ≤ d.toNat && d.toNat ≤ last
  | .charClass k negated => k.holds modes g != negated

/-- Whether two characters count as the same. -/
def sameChar (modes : List Mode) (g h : Glyph) : Bool :=
  g.char = h.char || (modes.contains .ignoreCase &&
    (if modes.contains .ascii then g.char.toLower = h.char.toLower else g.lower = h.lower))

/-! ## Places -/

/-- A place in a text, with the captured groups. -/
structure Place where
  /-- The number of characters before it. -/
  offset : Nat
  /-- Start and end of the captured groups, latest first. -/
  captures : List (Nat × Nat × Nat) := []

/-- Whether the character at an offset belongs to a word. -/
def isWordAt (modes : List Mode) (text : Array Glyph) (offset : Nat) : Bool :=
  text[offset]?.any (CharClass.word.holds modes)

/-- Whether an offset is between a word and what is none. -/
def isBoundary (modes : List Mode) (text : Array Glyph) (offset : Nat) : Bool :=
  let before := offset > 0 && isWordAt modes text (offset - 1)
  before != isWordAt modes text offset

/-- Whether a line feed is at an offset. -/
def isLineFeedAt (text : Array Glyph) (offset : Nat) : Bool := text[offset]?.any (·.char = '\n')

/-- Whether an anchor holds at an offset. -/
def Anchor.holds (modes : List Mode) (text : Array Glyph) (offset : Nat) : Anchor → Bool
  | .start => offset = 0 || (modes.contains .multiline && isLineFeedAt text (offset - 1))
  | .stop =>
    offset = text.size
      || ((offset + 1 = text.size || modes.contains .multiline) && isLineFeedAt text offset)
  | .textStart => offset = 0
  | .textEnd => offset = text.size
  | .boundary => isBoundary modes text offset
  | .noBoundary => !text.isEmpty && !isBoundary modes text offset

/-- What the rest of a pattern makes of a place: the place where it ends, if it matches. -/
abbrev Next := Place → Option Place

/-- Reads one character for which a test holds. -/
def readOne (text : Array Glyph) (test : Glyph → Bool) (next : Next) (p : Place) :
    Option Place :=
  match text[p.offset]? with
  | some g => if test g then next { p with offset := p.offset + 1 } else none
  | none => none

/-! ## Repetition -/

/-- Repeats a part, at least `least` times and at most `most` times. Beyond the least number, a
repetition that reads no character is the last one. -/
def iterate (part : Next → Next) (greed : Greed) (next : Next) :
    Nat → Nat → Option Nat → Next
  | 0, _, _ => next
  | rounds + 1, least + 1, most =>
    part (iterate part greed next rounds least (most.map (· - 1)))
  | rounds + 1, 0, most => fun p =>
    let again (_ : Unit) : Option Place :=
      if most = some 0 then none
      else
        part (fun q =>
          if q.offset = p.offset then next q
          else iterate part greed next rounds 0 (most.map (· - 1)) q) p
    match greed with
    | .lazy => (next p).orElse again
    | _ => (again ()).orElse fun _ => next p

/-! ## Nodes -/

/-- The text that a group captured. -/
def captured? (text : Array Glyph) (p : Place) (group : Nat) : Option (List Glyph) :=
  (p.captures.lookup group).map fun range => (text.extract range.1 range.2).toList

/-- Reads a text again. -/
def readAgain (modes : List Mode) (text : Array Glyph) (wanted : List Glyph) (next : Next)
    (p : Place) : Option Place :=
  let found := (text.extract p.offset (p.offset + wanted.length)).toList
  if found.length = wanted.length && (found.zip wanted).all fun pair => sameChar modes pair.1 pair.2
  then next { p with offset := p.offset + wanted.length }
  else none

/-- The test that a character has to pass, if a node reads one character. -/
def Node.test? (modes : List Mode) : Node → Option (Glyph → Bool)
  | .char code => some (SetItem.holds modes · (.char code))
  | .dot => some fun g => modes.contains .dotAll || g.char ≠ '\n'
  | .set negated items => some fun g => items.any (·.holds modes g) != negated
  | _ => none

/-- The test of some alternatives, if each of them reads one character. -/
def alternativesTest? (modes : List Mode) (alternatives : List (List Node)) :
    Option (Glyph → Bool) := do
  let tests ← alternatives.mapM fun body =>
    match body with
    | [n] => n.test? modes
    | _ => none
  return fun g => tests.any (· g)

mutual

/-- The first way through a node from a place. -/
def Node.reach (text : Array Glyph) (widths : Nat → Width) (modes : List Mode) :
    Node → Next → Next
  | .char code, next, p => readOne text (SetItem.holds modes · (.char code)) next p
  | .dot, next, p => readOne text (fun g => modes.contains .dotAll || g.char ≠ '\n') next p
  | .set negated items, next, p =>
    readOne text (fun g => items.any (·.holds modes g) != negated) next p
  | .anchor a, next, p => if a.holds modes text p.offset then next p else none
  | .branch alternatives, next, p =>
    match alternativesTest? modes alternatives with
    | some test => readOne text test next p
    | none => alternativesReach text widths modes alternatives next p
  | .repeated least most greed body, next, p =>
    let repetition (next : Next) : Next :=
      iterate (bodyReach text widths modes body) greed next (text.size + least + 1) least most
    if greed = .possessive then (repetition some p).bind next else repetition next p
  | .group index change body, next, p =>
    bodyReach text widths (change.apply modes) body
      (fun q =>
        match index with
        | some group => next { q with captures := (group, p.offset, q.offset) :: q.captures }
        | none => next q) p
  | .atomic body, next, p => (bodyReach text widths modes body some p).bind next
  | .lookAhead negated body, next, p =>
    match bodyReach text widths modes body some p with
    | none => if negated then next p else none
    | some q => if negated then none else next { q with offset := p.offset }
  | .lookBehind negated body, next, p =>
    let width := (bodyWidth widths body).least
    let found :=
      if p.offset < width then none
      else
        bodyReach text widths modes body (fun q => if q.offset = p.offset then some q else none)
          { p with offset := p.offset - width }
    match found with
    | none => if negated then next p else none
    | some q => if negated then none else next q
  | .reference group, next, p =>
    match captured? text p group with
    | some wanted => readAgain modes text wanted next p
    | none => none
  | .conditional group yes no, next, p =>
    if (p.captures.lookup group).isSome then bodyReach text widths modes yes next p
    else bodyReach text widths modes no next p

/-- The first way through a sequence of nodes from a place. -/
def bodyReach (text : Array Glyph) (widths : Nat → Width) (modes : List Mode) :
    List Node → Next → Next
  | [], next, p => next p
  | n :: r, next, p => n.reach text widths modes (bodyReach text widths modes r next) p

/-- The first way through one of some alternatives from a place. -/
def alternativesReach (text : Array Glyph) (widths : Nat → Width) (modes : List Mode) :
    List (List Node) → Next → Next
  | [], _, _ => none
  | body :: r, next, p =>
    (bodyReach text widths modes body next p).orElse fun _ =>
      alternativesReach text widths modes r next p

end

/-- Whether a pattern is found somewhere in a text, with some modes switched on. It is only tried
where enough characters are left. -/
def Tree.isFoundIn (t : Tree) (modes : List Mode) (text : String) : Bool :=
  let glyphs := (text.toList.map Glyph.ofChar).toArray
  let least := (bodyWidth t.groupWidth t.body).least
  (List.range (glyphs.size + 1)).any fun offset =>
    offset + least ≤ glyphs.size
      && (bodyReach glyphs t.groupWidth (modes ++ t.modes) t.body some { offset }).isSome

end ServiceShell.Pattern
