import ServiceShell.Text.CaseTable
import ServiceShell.Text.AlphanumericTable
import ServiceShell.Text.HiddenTable

/-!
# Letters: case and classes

Upper and lower case of any letter, comparison without regard to case, and membership in the
classes of the tables.

Main statements:

- `lower_of_lt`: the lower case of one of the first 128 characters.
-/

namespace ServiceShell.Text

/-! ## Case -/

/-- Moves a code point by the progression that holds it, if one does. -/
def shiftBy (table : Array CaseShift) (n : Nat) : Nat :=
  match table.find? fun s => s.first ≤ n && n ≤ s.last && (n - s.first) % s.stride = 0 with
  | some s => (n + s.offset).toNat
  | none => n

/-- The upper case of a character: one letter or several. -/
def upper (c : Char) : List Char :=
  match upperExpansions.lookup c.toNat with
  | some codes => codes.map Char.ofNat
  | none => [Char.ofNat (shiftBy upperShifts c.toNat)]

/-- The lower case of a character. -/
def lower (c : Char) : Char := Char.ofNat (shiftBy lowerShifts c.toNat)

/-- Of the table of lower case, its first line only is about the first 128 code points. -/
theorem shiftBy_lowerShifts {n : Nat} (hn : n < 128) :
    shiftBy lowerShifts n = if 0x41 ≤ n ∧ n ≤ 0x5A then n + 32 else n := by
  have htable : lowerShifts.toList = ⟨0x41, 0x5A, 1, 32⟩ :: lowerShifts.toList.tail := rfl
  have htail : ∀ s ∈ lowerShifts.toList.tail, 128 ≤ s.first := by decide +kernel
  rw [shiftBy, ← Array.find?_toList, htable, List.find?_cons]
  have hfirst : (decide (0x41 ≤ n) && decide (n ≤ 0x5A) && decide ((n - 0x41) % 1 = 0)) =
      decide (0x41 ≤ n ∧ n ≤ 0x5A) := by
    simp [Nat.mod_one]
  have hother : lowerShifts.toList.tail.find? (fun s => s.first ≤ n && n ≤ s.last &&
      (n - s.first) % s.stride = 0) = none := by
    rw [List.find?_eq_none]
    intro s hs
    have hlater := htail s hs
    simp only [Bool.and_eq_true, decide_eq_true_eq, not_and]
    omega
  rw [hother, hfirst]
  by_cases hletter : 0x41 ≤ n ∧ n ≤ 0x5A
  · rw [if_pos hletter, decide_eq_true hletter]
    rfl
  · rw [if_neg hletter, decide_eq_false hletter]

/-- The lower case of one of the first 128 characters. -/
theorem lower_of_lt {c : Char} (hc : c.toNat < 128) : lower c = c.toLower := by
  have hall : ∀ n < 128,
      Char.ofNat (if 0x41 ≤ n ∧ n ≤ 0x5A then n + 32 else n) = (Char.ofNat n).toLower := by
    decide
  rw [lower, shiftBy_lowerShifts hc, hall _ hc, Char.ofNat_toNat]

/-- A text in upper case. -/
def toUpper (text : String) : String := String.ofList (text.toList.flatMap upper)

/-- Whether a character is a letter with a case. -/
def isCased (c : Char) : Bool := lower c ≠ c || upper c ≠ [c]

/-- Whether a character is passed over where the ends of words are looked for: marks that stand
in words. -/
def isWordMark (c : Char) : Bool :=
  "'.:^`¨\u00AD¯´·¸".toList.contains c || (0x300 ≤ c.toNat && c.toNat ≤ 0x36F)

/-- The lower case of a text; `inWord` tells whether a letter with a case stands before it. At the
end of a word the letter sigma has a form of its own, and the capital I with a dot keeps its dot. -/
def lowerFrom (inWord : Bool) : List Char → List Char
  | [] => []
  | c :: r =>
    let lowered :=
      if c = 'Σ' then
        if inWord && !((r.dropWhile isWordMark).head?.any isCased) then ['ς'] else ['σ']
      else if c = 'İ' then ['i', '\u0307']
      else [lower c]
    lowered ++ lowerFrom (if isWordMark c then inWord else isCased c) r

/-- A text in lower case. -/
def toLower (text : String) : String := String.ofList (lowerFrom false text.toList)

/-- Whether two characters are the same letter but for case: their lower cases are equal, or have
the same upper case. -/
def sameLetter (c d : Char) : Bool :=
  lower c = lower d || upper (lower c) = upper (lower d)

/-- The code points that a table moves to a code point. -/
def unshift (table : Array CaseShift) (n : Nat) : List Nat :=
  table.toList.filterMap fun s =>
    let m := ((n : Int) - s.offset).toNat
    if s.first ≤ m && m ≤ s.last && (m - s.first) % s.stride = 0 then some m else none

/-- The characters with a given lower case. -/
def withLower (c : Char) : List Char :=
  (if lower c = c then [c] else []) ++ (unshift lowerShifts c.toNat).map Char.ofNat

/-- The characters with a given upper case. -/
def withUpper (cs : List Char) : List Char :=
  let single := match cs with
    | [c] => (if upper c = [c] then [c] else []) ++ (unshift upperShifts c.toNat).map Char.ofNat
    | _ => []
  single ++ (upperExpansions.filter fun e => e.2.map Char.ofNat = cs).map fun e => Char.ofNat e.1

/-- The characters that are the same letter as a given one but for case. -/
def sameLetters (c : Char) : List Char :=
  ((withUpper (upper (lower c))).flatMap withLower ++ withLower (lower c)).filter (sameLetter c)

/-! ## Classes -/

/-- Whether a table of ranges holds a code point. -/
def inRanges (ranges : Array (Nat × Nat)) (n : Nat) : Bool :=
  ranges.any fun r => r.1 ≤ n && n ≤ r.2

/-- Whether a character is a letter or a numeral. -/
def isAlphanumeric (c : Char) : Bool := inRanges alphanumericRanges c.toNat

/-- Whether a character may stand in a word: letters, numerals and the underscore. -/
def isWordChar (c : Char) : Bool := isAlphanumeric c || c = '_'

/-- Whether a character has a printed form. -/
def isPrintable (c : Char) : Bool := !inRanges hiddenRanges c.toNat

end ServiceShell.Text
