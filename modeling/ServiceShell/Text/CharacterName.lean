import ServiceShell.Text.Case
import ServiceShell.Text.CharacterName.Alias
import ServiceShell.Text.CharacterName.Alphabet
import ServiceShell.Text.CharacterName.Antiquity
import ServiceShell.Text.CharacterName.Form
import ServiceShell.Text.CharacterName.Mathematics
import ServiceShell.Text.CharacterName.Pictograph
import ServiceShell.Text.CharacterName.Script
import ServiceShell.Text.CharacterName.Sign
import ServiceShell.Text.CharacterName.Syllable
import ServiceShell.Text.CharacterName.Symbol
import ServiceShell.Text.Integer

/-!
# Characters by name

The code point of a named character, Unicode version 14. Most names stand in tables and are known in
either case. The names of unified ideographs and of Hangul syllables are made by rules, in upper
case only.
-/

namespace ServiceShell.Text

namespace CharacterName

/-! ## Tables

A line of a table holds entries between commas. An entry that begins with an equals sign gives the
code point of the next name in hexadecimal; names that follow one another belong to code points that
follow one another. The small letter in front of a name tells how many words it shares with the name
before, from the start: none for `a`, one for `b`, and so on. -/

/-- All lines of the tables. -/
def lines : List String :=
  alphabetNames ++ scriptNames ++ symbolNames ++ syllableNames ++ formNames ++ antiquityNames
    ++ signNames ++ mathematicsNames ++ pictographNames ++ furtherNames

/-- The value of hexadecimal digits. -/
def hexCode (digits : List Char) : Nat :=
  (digits.filterMap (digitIn? 16)).foldl (fun n d => 16 * n + d) 0

/-- The code point of a name, given by its words, in the entries of a table; `code` is the code
point of the next name, and `before` holds the words of the last one. -/
def findIn (wanted : List String) (code : Nat) (before : List String) : List String → Option Nat
  | [] => none
  | entry :: rest =>
    match entry.toList with
    | '=' :: digits => findIn wanted (hexCode digits) before rest
    | shared :: new =>
      let count := shared.toNat - 'a'.toNat
      let words := before.take count ++ (String.ofList new).splitOn " "
      if words = wanted then some code else findIn wanted (code + 1) words rest
    | [] => findIn wanted code before rest

/-- The code point of a name in the tables. -/
def listed? (name : List Char) : Option Nat :=
  let wanted := (String.ofList (name.map Char.toUpper)).splitOn " "
  findIn wanted 0 [] (lines.flatMap fun line => line.splitOn ",")

/-! ## Numbered names -/

/-- The value of a number as it is written in a name: four or five hexadecimal digits in upper
case. -/
def number? (digits : List Char) : Option Nat :=
  let isDigit (c : Char) : Bool := c.isDigit || ('A' ≤ c && c ≤ 'F')
  if (digits.length = 4 || digits.length = 5) && digits.all isDigit then some (hexCode digits)
  else none

/-- What is behind the beginning of a text. -/
def afterStart? (start : String) (cs : List Char) : Option (List Char) :=
  if start.toList.isPrefixOf cs then some (cs.drop start.length) else none

/-- The names that end with the number of their character, with the ranges of those numbers. -/
def numberedNames : List (String × Array (Nat × Nat)) :=
  [("CJK COMPATIBILITY IDEOGRAPH-", #[(0xF900, 0xFA6D), (0xFA70, 0xFAD9), (0x2F800, 0x2FA1D)]),
   ("KHITAN SMALL SCRIPT CHARACTER-", #[(0x18B00, 0x18CD5)]),
   ("NUSHU CHARACTER-", #[(0x1B170, 0x1B2FB)])]

/-- The code point of a numbered name, in which the number has no leading zero. -/
def numbered? (name : List Char) : Option Nat :=
  numberedNames.findSome? fun family => do
    let digits ← afterStart? family.1 (name.map Char.toUpper)
    let code ← number? digits
    if digits.head? ≠ some '0' && inRanges family.2 code then some code else none

/-- The ranges of unified ideographs. -/
def ideographRanges : Array (Nat × Nat) :=
  #[(0x3400, 0x4DBF), (0x4E00, 0x9FFF), (0x20000, 0x2A6DF), (0x2A700, 0x2B738),
    (0x2B740, 0x2B81D), (0x2B820, 0x2CEA1), (0x2CEB0, 0x2EBE0), (0x30000, 0x3134A)]

/-- The code point of a unified ideograph by its number. -/
def ideograph? (digits : List Char) : Option Nat :=
  (number? digits).filter (inRanges ideographRanges)

/-! ## Hangul syllables -/

/-- The names of the consonants that begin a syllable. -/
def initials : List String :=
  ["G", "GG", "N", "D", "DD", "R", "M", "B", "BB", "S", "SS", "", "J", "JJ", "C", "K", "T", "P",
   "H"]

/-- The names of the vowels of a syllable. -/
def vowels : List String :=
  ["A", "AE", "YA", "YAE", "EO", "E", "YEO", "YE", "O", "WA", "WAE", "OE", "YO", "U", "WEO", "WE",
   "WI", "YU", "EU", "YI", "I"]

/-- The names of the consonants that end a syllable. -/
def finals : List String :=
  ["", "G", "GG", "GS", "N", "NJ", "NH", "D", "L", "LG", "LM", "LB", "LS", "LT", "LP", "LH", "M",
   "B", "BS", "S", "SS", "NG", "J", "C", "K", "T", "P", "H"]

/-- The number of the longest part that a text begins with, and what is behind it. -/
def longestPart? (parts : List String) (cs : List Char) : Option (Nat × List Char) :=
  let found := parts.zipIdx.filter fun p => p.1.toList.isPrefixOf cs
  let length := (found.map fun p => p.1.length).foldl max 0
  (found.find? fun p => p.1.length = length).map fun p => (p.2, cs.drop length)

/-- The code point of a Hangul syllable by the names of its parts. -/
def syllable? (cs : List Char) : Option Nat := do
  let (initial, cs) ← longestPart? initials cs
  let (vowel, cs) ← longestPart? vowels cs
  let (final, cs) ← longestPart? finals cs
  if cs.isEmpty then some (0xAC00 + (initial * vowels.length + vowel) * finals.length + final)
  else none

example : syllable? ['G', 'A'] = some 0xAC00 := by decide +kernel

end CharacterName

/-! ## All names -/

/-- The code point of the character with a name. -/
def characterNamed? (name : List Char) : Option Nat :=
  match CharacterName.afterStart? "HANGUL SYLLABLE " name,
      CharacterName.afterStart? "CJK UNIFIED IDEOGRAPH-" name with
  | some parts, _ => CharacterName.syllable? parts
  | none, some digits => CharacterName.ideograph? digits
  | none, none => (CharacterName.numbered? name).or (CharacterName.listed? name)

end ServiceShell.Text
