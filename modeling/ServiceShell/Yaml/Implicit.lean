import ServiceShell.Yaml.Cursor

/-!
# What plain texts stand for

A plain text without a tag stands for a number, a truth value, a time or nothing when it is written
like one; its form alone decides. Each form is told by a grammar.
-/

namespace ServiceShell.Yaml

/-! ## Tags -/

/-- What kind of value a node is. -/
inductive Tag where
  /-- No value. -/
  | null
  /-- A truth value. -/
  | bool
  /-- An integer. -/
  | int
  /-- A double. -/
  | float
  /-- Bytes. -/
  | binary
  /-- A day or a point of time. -/
  | timestamp
  /-- An ordered mapping. -/
  | orderedMap
  /-- A list of pairs. -/
  | pairs
  /-- A set. -/
  | set
  /-- A text. -/
  | text
  /-- A sequence. -/
  | sequence
  /-- A mapping. -/
  | mapping
  /-- A mapping to be merged into the one around it. -/
  | merge
  /-- The value that stands for a mapping. -/
  | value
  /-- A collection around the node, which a reference names. -/
  | enclosing
  /-- Anything else. -/
  | other (name : String)
  deriving DecidableEq, Repr

/-- What the names of the common tags begin with. -/
def commonPrefix : String := "tag:yaml.org,2002:"

/-- The common tags by name. -/
def commonTags : List (String × Tag) :=
  [("null", .null), ("bool", .bool), ("int", .int), ("float", .float), ("binary", .binary),
   ("timestamp", .timestamp), ("omap", .orderedMap), ("pairs", .pairs), ("set", .set),
   ("str", .text), ("seq", .sequence), ("map", .mapping), ("merge", .merge), ("value", .value)]

/-- The tag with a name. -/
def Tag.ofName (name : String) : Tag :=
  match commonTags.find? fun t => commonPrefix ++ t.1 = name with
  | some (_, tag) => tag
  | none => .other name

/-! ## Grammars -/

/-- A form as the texts that may be left behind it; there is none when the form is not met. -/
abbrev Form := List Char → List (List Char)

namespace Form

/-- Both forms, one behind the other. -/
def andThen (a b : Form) : Form := fun cs => (a cs).flatMap b

/-- Either form. -/
def or (a b : Form) : Form := fun cs => a cs ++ b cs

/-- The form, or nothing. -/
def optional (a : Form) : Form := fun cs => a cs ++ [cs]

/-- One character that passes a test. -/
def one (wanted : Char → Bool) : Form
  | [] => []
  | c :: r => if wanted c then [r] else []

/-- Any number of characters that pass a test: as many as there are. -/
def many (wanted : Char → Bool) : Form := fun cs => [cs.dropWhile wanted]

/-- A text. -/
def exactly (text : String) : Form := fun cs =>
  if text.toList.isPrefixOf cs then [cs.drop text.length] else []

/-- One of some texts. -/
def oneOf (texts : List String) : Form := fun cs => texts.flatMap fun t => exactly t cs

/-- At least one, and then any number, of some form that takes at least one character. -/
def repeated (a : Form) : Nat → Form
  | 0, _ => []
  | fuel + 1, cs => (a cs).flatMap fun r => r :: repeated a fuel r

/-- Whether a text has the form; a line feed may follow. -/
def matches? (a : Form) (cs : List Char) : Bool :=
  (a cs).any fun r => r = [] || r = ['\n']

end Form

open Form

/-- A sign. -/
def sign : Form := optional (one fun c => c = '+' || c = '-')

/-- A digit. -/
def digit : Form := one Char.isDigit

/-- Digits and underscores. -/
def digitTail : Form := many fun c => c.isDigit || c = '_'

/-- A digit and then digits and underscores. -/
def digits : Form := digit.andThen digitTail

/-- One or two digits of a sexagesimal number behind a colon, any number of times. -/
def sexagesimal : Form := fun cs =>
  repeated
    ((exactly ":").andThen ((optional (one fun c => '0' ≤ c && c ≤ '5')).andThen digit))
    (cs.length + 1) cs

/-- An exponent with its sign. -/
def exponent : Form :=
  (one fun c => c = 'e' || c = 'E').andThen
    ((one fun c => c = '+' || c = '-').andThen (digit.andThen (many Char.isDigit)))

/-- The words for truth values. -/
def boolForm : Form :=
  oneOf ["yes", "Yes", "YES", "no", "No", "NO", "true", "True", "TRUE", "false", "False", "FALSE",
    "on", "On", "ON", "off", "Off", "OFF"]

/-- A double: decimal, sexagesimal, infinite or not a number. -/
def floatForm : Form :=
  (sign.andThen (digits.andThen ((exactly ".").andThen (digitTail.andThen (optional exponent))))).or
    (((exactly ".").andThen (digits.andThen (optional exponent))).or
      ((sign.andThen (digits.andThen (sexagesimal.andThen ((exactly ".").andThen digitTail)))).or
        ((sign.andThen (oneOf [".inf", ".Inf", ".INF"])).or (oneOf [".nan", ".NaN", ".NAN"]))))

/-- An integer: binary, octal, decimal, hexadecimal or sexagesimal. -/
def intForm : Form :=
  let tail (wanted : Char → Bool) : Form := (one wanted).andThen (many wanted)
  let positive : Form := (one fun c => '1' ≤ c && c ≤ '9').andThen digitTail
  sign.andThen
    (((exactly "0b").andThen (tail fun c => c = '0' || c = '1' || c = '_')).or
      (((exactly "0").andThen (tail fun c => ('0' ≤ c && c ≤ '7') || c = '_')).or
        ((exactly "0").or
          (positive.or
            (((exactly "0x").andThen
                (tail fun c => c.isDigit || ('a' ≤ c && c ≤ 'f') || ('A' ≤ c && c ≤ 'F')
                  || c = '_')).or
              (positive.andThen sexagesimal))))))

/-- The words for no value. -/
def nullForm : Form := oneOf ["~", "null", "Null", "NULL", ""]

/-- One digit, or two. -/
def upToTwo : Form := digit.andThen (optional digit)

/-- Two digits. -/
def twoDigits : Form := digit.andThen digit

/-- A day with all its digits. -/
def fullDate : Form :=
  twoDigits.andThen (twoDigits.andThen ((exactly "-").andThen
    (twoDigits.andThen ((exactly "-").andThen twoDigits))))

/-- A day whose month and day may have one digit. -/
def shortDate : Form :=
  twoDigits.andThen (twoDigits.andThen ((exactly "-").andThen
    (upToTwo.andThen ((exactly "-").andThen upToTwo))))

/-- Spaces and tabs. -/
def gap : Form := many fun c => c = ' ' || c = '\t'

/-- A time of day with a fraction and a zone. -/
def timeOfDay : Form :=
  let zone : Form := gap.andThen
    ((exactly "Z").or
      ((one fun c => c = '+' || c = '-').andThen
        (upToTwo.andThen (optional ((exactly ":").andThen twoDigits)))))
  upToTwo.andThen ((exactly ":").andThen (twoDigits.andThen ((exactly ":").andThen
    (twoDigits.andThen ((optional ((exactly ".").andThen (many Char.isDigit))).andThen
      (optional zone))))))

/-- What stands between a day and a time of day. -/
def dateGap : Form :=
  (one fun c => c = 'T' || c = 't').or ((one fun c => c = ' ' || c = '\t').andThen gap)

/-- A day, or a point of time. -/
def timestampForm : Form :=
  fullDate.or (shortDate.andThen (dateGap.andThen timeOfDay))

/-! ## Resolution -/

/-- The forms, in the order in which they are tried, with the characters that each can begin with;
a text that is empty stands for no value. -/
def forms : List (String × Form × Tag) :=
  [("yYnNtTfFoO", boolForm, .bool), ("-+0123456789.", floatForm, .float),
   ("-+0123456789", intForm, .int), ("<", exactly "<<", .merge), ("~nN", nullForm, .null),
   ("0123456789", timestampForm, .timestamp), ("=", exactly "=", .value),
   ("!&*", oneOf ["!", "&", "*"], .other (commonPrefix ++ "yaml"))]

/-- What a plain text stands for. -/
def plainTag (text : String) : Tag :=
  match text.toList with
  | [] => .null
  | c :: cs =>
    match forms.find? fun (starts, form, _) =>
      starts.toList.contains c && form.matches? (c :: cs) with
    | some (_, _, tag) => tag
    | none => .text

end ServiceShell.Yaml
