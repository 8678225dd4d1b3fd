import ServiceShell.Decimal.Reading
import ServiceShell.Record.Reading
import ServiceShell.Text.Blank

/-!
# Reading scalars

How the scalar fields of a record are read. A text is only read from a text; integers and truth
values are also read from other values that clearly stand for one.
-/

namespace ServiceShell.Record

open Reading Decimal

/-- Reads a text. -/
def text : Document → Reading String
  | .text s => .read s
  | _ => refuse .notText

/-! ## Integers in texts -/

/-- Takes single underscores out from between other characters; a text without one, or with one
in another place, has no such form. -/
def ungroup? (cs : List Char) : Option (List Char) :=
  let pairs := cs.zip (cs.drop 1)
  if cs.contains '_' && cs.head? ≠ some '_' && cs.getLast? ≠ some '_' && !pairs.contains ('_', '_')
  then some (cs.filter (· ≠ '_'))
  else none

/-- Drops the zeros in front of a number and the underscores among them. A minus sign may still
follow them; before a point, and where nothing follows, the last of them stays. Anything else but a
digit has no such form, with or without zeros. -/
def dropZeros? (cs : List Char) : Option (List Char) :=
  let isPadding (c : Char) : Bool := c = '0' || c = '_'
  let padding := if cs.head? = some '0' then cs.takeWhile isPadding else []
  match cs.drop padding.length with
  | [] => padding.getLast?.map fun c => [c]
  | c :: r =>
    if c.isDigit || c = '-' then some (c :: r)
    else if c = '.' then padding.getLast?.map fun last => last :: c :: r
    else none

/-- Drops a fraction of zeros, of which there is at least one. -/
def dropZeroFraction (cs : List Char) : List Char :=
  let fraction := (cs.dropWhile (· ≠ '.')).drop 1
  if !fraction.isEmpty && fraction.all (· = '0') then cs.takeWhile (· ≠ '.') else cs

/-- The bare form of an integer: without blanks around it, a plus sign, leading zeros, a fraction
of zeros, and underscores between its digits. -/
def bareInteger? (cs : List Char) : Option (List Char) := do
  let unsigned ← match Text.trimMargins cs with
    | '+' :: '-' :: _ => none
    | '+' :: r => some r
    | r => some r
  let significant ← dropZeros? unsigned
  let whole := dropZeroFraction significant
  return (ungroup? whole).getD whole

/-- The greatest number of characters of an integer, its sign included. -/
def integerTextLimit : Nat := 4300

/-- Reads an integer in its bare form: a minus sign before a negative one, then digits without a
leading zero. -/
def bareInteger (cs : List Char) : Reading Int :=
  let negative := cs.head? = some '-'
  let magnitude := if negative then cs.drop 1 else cs
  let digits := magnitude.takeWhile Char.isDigit
  if digits.head? = some '0' then if magnitude = ['0'] then .read 0 else refuse .notIntegerText
  else if cs.length - magnitude.length + digits.length > integerTextLimit then refuse .integerSize
  else if digits.isEmpty || digits.length < magnitude.length then refuse .notIntegerText
  else .read (Decimal.signed negative (digitsValue digits))

/-- Reads an integer from a text through its bare form. -/
def integerFromText (s : String) : Reading Int :=
  match bareInteger? s.toList with
  | some bare => bareInteger bare
  | none => refuse .notIntegerText

/-! ## Numbers -/

/-- The bound of the magnitudes that fit into a machine word with a sign. -/
def wordLimit : Nat := twoTo 63

/-- Reads an integer from a double without a fraction. -/
def integerFromFloat (x : Float) : Reading Int :=
  if !Decimal.isFinite x then refuse .notFinite
  else
    match Decimal.whole? x with
    | none => refuse .fraction
    | some n => if n.natAbs < wordLimit then .read n else refuse .integerSize

/-- Reads an integer. -/
def integer : Document → Reading Int
  | .int n => .read n
  | .bool b => .read (if b then 1 else 0)
  | .float x => integerFromFloat x
  | .text s => integerFromText s
  | _ => refuse .notInteger

/-- Reads a number: an integer if it can be one, else a double. -/
def number : Document → Reading Number
  | .scalar (.number n) => .read n
  | .bool b => .read (.int (if b then 1 else 0))
  | .text s =>
    match integerFromText s with
    | .read n => .read (.int n)
    | .refused issues =>
      let ungrouped := (ungroup? s.toList).bind floatFromText?
      match (floatFromText? (Text.trimMargins s.toList)).or ungrouped with
      | some x => .read (.float x)
      | none => .refused issues
  | _ => refuse .notInteger

/-! ## Truth values -/

/-- The words for true. -/
def trueWords : List String := ["1", "t", "true", "y", "yes", "on"]

/-- The words for false. -/
def falseWords : List String := ["0", "f", "false", "n", "no", "off"]

/-- Reads a truth value from a word in either case. -/
def booleanFromText (s : String) : Reading Bool :=
  let word := String.ofList (s.toList.map Char.toLower)
  if trueWords.contains word then .read true
  else if falseWords.contains word then .read false
  else refuse .unclearBoolean

/-- Reads a truth value from an integer: zero or one. -/
def booleanFromInteger (n : Int) : Reading Bool :=
  if n = 0 then .read false else if n = 1 then .read true else refuse .unclearBoolean

/-- Reads a truth value. -/
def boolean : Document → Reading Bool
  | .bool b => .read b
  | .int n =>
    if -(wordLimit : Int) ≤ n ∧ n < wordLimit then booleanFromInteger n else refuse .notBoolean
  | .float x =>
    match integerFromFloat x with
    | .read n => booleanFromInteger n
    | .refused _ => refuse .notBoolean
  | .text s => booleanFromText s
  | _ => refuse .notBoolean

/-! ## What was written is read -/

@[simp] theorem text_text (s : String) : text (.text s) = .read s := rfl
@[simp] theorem integer_int (n : Int) : integer (.int n) = .read n := rfl
@[simp] theorem boolean_bool (b : Bool) : boolean (.bool b) = .read b := rfl
end ServiceShell.Record
