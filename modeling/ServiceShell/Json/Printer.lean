import ServiceShell.Document.Literal

/-!
# Writing JSON

The text of a document: on one line, or indented with one item or field a line. Empty lists and
objects stay on one line. Doubles have the digits of their literals, and infinities have names.
Values that JSON does not know are quoted in their plain form.
-/

namespace ServiceShell.Json

open Text

/-- How a document is laid out. -/
structure Style where
  /-- The characters that texts may hold as they are. -/
  alphabet : Alphabet
  /-- The width of one level of indentation; without it everything is on one line. -/
  indent : Option Nat

/-- Doubles as in literals, but with the names that JSON readers know. -/
def layout : Decimal.Layout :=
  { Number.layout with infinity := "Infinity", nan := "NaN" }

/-- The text of a number. -/
def writeNumber : Number → String
  | .int n => toString n
  | .float x => layout.write x

/-- The text of a scalar. -/
def writeScalar (alphabet : Alphabet) : Scalar → String
  | .null => "null"
  | .bool b => if b then "true" else "false"
  | .number n => writeNumber n
  | .text s => alphabet.quote s
  | s => alphabet.quote s.spelling

/-- The text of a key: always quoted. -/
def writeKey (alphabet : Alphabet) : Scalar → String
  | .text s => alphabet.quote s
  | .number n => alphabet.quote (writeNumber n)
  | .bool b => alphabet.quote (if b then "true" else "false")
  | .null => alphabet.quote "null"
  | s => alphabet.quote s.spelling

/-- Lays out the parts of a list or an object between its brackets. -/
def Style.enclose (style : Style) (depth : Nat) (left right : String) (parts : List String) :
    String :=
  if parts.isEmpty then left ++ right
  else
    match style.indent with
    | none => left ++ ", ".intercalate parts ++ right
    | some width =>
      let newline (depth : Nat) := "\n" ++ String.ofList (List.replicate (width * depth) ' ')
      left ++ newline (depth + 1) ++ ("," ++ newline (depth + 1)).intercalate parts
        ++ newline depth ++ right

mutual

/-- The text of a document that stands at a depth. -/
def Style.writeAt (style : Style) (depth : Nat) : Document → String
  | .scalar s => writeScalar style.alphabet s
  | .list items => style.enclose depth "[" "]" (style.writeItems (depth + 1) items)
  | .object fields => style.enclose depth "\x7b" "\x7d" (style.writeFields (depth + 1) fields)

/-- The texts of the items of a list. -/
def Style.writeItems (style : Style) (depth : Nat) : List Document → List String
  | [] => []
  | d :: r => style.writeAt depth d :: style.writeItems depth r

/-- The texts of the fields of an object. -/
def Style.writeFields (style : Style) (depth : Nat) : List (Scalar × Document) → List String
  | [] => []
  | (k, v) :: r =>
    (writeKey style.alphabet k ++ ": " ++ style.writeAt depth v) :: style.writeFields depth r

end

/-- The text of a document. -/
def Style.write (style : Style) (d : Document) : String := style.writeAt 0 d

/-- Indented text with all characters as they are. -/
def indented : Style := ⟨.unicode, some 2⟩

/-- Indented text in ASCII. -/
def indentedAscii : Style := ⟨.ascii, some 2⟩

/-- One line, with all characters as they are. -/
def compact : Style := ⟨.unicode, none⟩

/-- One line in ASCII. -/
def compactAscii : Style := ⟨.ascii, none⟩

end ServiceShell.Json
