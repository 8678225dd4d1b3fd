/-!
# Patterns

The syntax trees of text patterns: characters and sets of them, anchors, alternatives, repetitions,
groups, conditions on what stands before or behind, and references to what a group matched.
Characters are code points, because a pattern can name some that no text holds.
-/

namespace ServiceShell.Pattern

/-! ## Modes -/

/-- A mode that a pattern can switch on or off. -/
inductive Mode where
  /-- Letters match in either case. -/
  | ignoreCase
  /-- Anchors match at line breaks. -/
  | multiline
  /-- The dot matches line breaks. -/
  | dotAll
  /-- Blanks and comments in the pattern mean nothing. -/
  | verbose
  /-- Classes hold ASCII characters only. -/
  | ascii
  /-- Classes hold characters of all scripts. -/
  | unicode
  /-- The letters follow the locale. -/
  | locale
  /-- The pattern is used as a template. -/
  | template
  deriving DecidableEq, Repr

/-- Modes switched on and off for a part of a pattern. -/
structure ModeChange where
  /-- The modes switched on. -/
  on : List Mode := []
  /-- The modes switched off. -/
  off : List Mode := []
  deriving DecidableEq, Repr

/-- Whether a mode selects the characters of classes. -/
def Mode.selectsClasses (m : Mode) : Bool := m = .ascii || m = .unicode || m = .locale

/-- The modes in force after a change. -/
def ModeChange.apply (change : ModeChange) (modes : List Mode) : List Mode :=
  let kept :=
    if change.on.any Mode.selectsClasses then modes.filter (!·.selectsClasses) else modes
  (kept ++ change.on).filter (!change.off.contains ·)

/-! ## Sets -/

/-- A class of characters. -/
inductive CharClass where
  /-- Decimal digits. -/
  | digit
  /-- Blank characters. -/
  | space
  /-- Letters, numerals and the underscore. -/
  | word
  deriving DecidableEq, Repr

/-- A part of a set of characters. -/
inductive SetItem where
  /-- One code point. -/
  | char (code : Nat)
  /-- The code points from one to another. -/
  | range (first last : Nat)
  /-- A class, or its complement. -/
  | charClass (charClass : CharClass) (negated : Bool)
  deriving DecidableEq, Repr

/-! ## Nodes -/

/-- A place that an anchor asks for. -/
inductive Anchor where
  /-- The start of the text, or of a line in multiline mode. -/
  | start
  /-- The end of the text, or before its last line break; the end of any line in multiline mode. -/
  | stop
  /-- The start of the text. -/
  | textStart
  /-- The end of the text. -/
  | textEnd
  /-- Between a word and what is none. -/
  | boundary
  /-- Anywhere else. -/
  | noBoundary
  deriving DecidableEq, Repr

/-- Which number of repetitions is tried first, and whether others are tried. -/
inductive Greed where
  /-- The greatest. -/
  | greedy
  /-- The least. -/
  | lazy
  /-- The greatest alone. -/
  | possessive
  deriving DecidableEq, Repr

/-- A part of a pattern. -/
inductive Node where
  /-- A code point. -/
  | char (code : Nat)
  /-- Any character. -/
  | dot
  /-- A character of a set, or one outside it. -/
  | set (negated : Bool) (items : List SetItem)
  /-- A place. -/
  | anchor (anchor : Anchor)
  /-- The first of some alternatives that leads to a match. -/
  | branch (alternatives : List (List Node))
  /-- A part repeated. -/
  | repeated (least : Nat) (most : Option Nat) (greed : Greed) (body : List Node)
  /-- A group, which may be captured under a number. -/
  | group (index : Option Nat) (change : ModeChange) (body : List Node)
  /-- A group of which only the first match counts. -/
  | atomic (body : List Node)
  /-- A condition on what follows. -/
  | lookAhead (negated : Bool) (body : List Node)
  /-- A condition on the characters before, of which there are `width`. -/
  | lookBehind (negated : Bool) (body : List Node)
  /-- What a group matched, once more. -/
  | reference (group : Nat)
  /-- One of two parts, by whether a group has matched. -/
  | conditional (group : Nat) (yes no : List Node)

/-- Whether a node is an anchor. -/
def Node.isAnchor : Node → Bool
  | .anchor _ => true
  | _ => false

/-- Whether a node is a repetition. -/
def Node.isRepeated : Node → Bool
  | .repeated .. => true
  | _ => false

/-! ## Widths -/

/-- The least and the greatest number of characters that a part can match. -/
structure Width where
  /-- The least number. -/
  least : Nat
  /-- The greatest number; a part without limit has `Width.mostLimit`. -/
  most : Nat
  deriving DecidableEq, Repr

namespace Width

/-- The bound of all least numbers. -/
def leastLimit : Nat := 4294967294

/-- The bound of all greatest numbers. It is above that of the least ones, so a part as wide as
this never counts as one of a single width. -/
def mostLimit : Nat := 4294967295

/-- A width within the bounds. -/
def bounded (least most : Nat) : Width := ⟨min least leastLimit, min most mostLimit⟩

/-- The width of a place. -/
def zero : Width := ⟨0, 0⟩

/-- The width of a character. -/
def one : Width := ⟨1, 1⟩

/-- The width of one part behind another. -/
def add (a b : Width) : Width := bounded (a.least + b.least) (a.most + b.most)

/-- The width of one part or another. -/
def join (a b : Width) : Width := ⟨min a.least b.least, max a.most b.most⟩

/-- The width of a repetition. -/
def times (w : Width) (least : Nat) (most : Option Nat) : Width :=
  bounded (w.least * least) (w.most * most.getD mostLimit)

end Width

mutual

/-- The width of a node, given the widths of the groups. -/
def Node.width (groups : Nat → Width) : Node → Width
  | .char _ => .one
  | .dot => .one
  | .set _ _ => .one
  | .anchor _ => .zero
  | .branch alternatives => alternativesWidth groups alternatives
  | .repeated least most _ body => (bodyWidth groups body).times least most
  | .group _ _ body => bodyWidth groups body
  | .atomic body => bodyWidth groups body
  | .lookAhead _ _ => .zero
  | .lookBehind _ _ => .zero
  | .reference group => groups group
  | .conditional _ yes no => (bodyWidth groups yes).join (bodyWidth groups no)

/-- The width of a sequence of nodes. -/
def bodyWidth (groups : Nat → Width) : List Node → Width
  | [] => .zero
  | n :: r => (n.width groups).add (bodyWidth groups r)

/-- The width of some alternatives. -/
def alternativesWidth (groups : Nat → Width) : List (List Node) → Width
  | [] => .zero
  | [body] => bodyWidth groups body
  | body :: b :: r => (bodyWidth groups body).join (alternativesWidth groups (b :: r))

end

end ServiceShell.Pattern
