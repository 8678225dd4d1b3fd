import ServiceShell.Text.Case
import ServiceShell.Text.Integer
import ServiceShell.Text.NameTable

/-!
# Letters and names

Which characters are letters, and which texts can name something: a letter or an underscore, and
then letters, digits, marks and connectors of any script.
-/

namespace ServiceShell.Text

/-- Whether a character is a letter. -/
def isLetter (c : Char) : Bool :=
  isAlphanumeric c && !isDecimal c && !inRanges numeralRanges c.toNat

/-- Whether a character can begin a name. -/
def isNameStart (c : Char) : Bool :=
  (isLetter c && !inRanges nameGapRanges c.toNat) || inRanges nameStartRanges c.toNat

/-- Whether a character can stand in a name. -/
def isNamePart (c : Char) : Bool :=
  isNameStart c || isDecimal c || inRanges nameMarkRanges c.toNat

/-- Whether a text can name something. -/
def isName : List Char → Bool
  | [] => false
  | c :: r => isNameStart c && r.all isNamePart

end ServiceShell.Text
