import ServiceShell.Decimal.Reading
import ServiceShell.Document.Literal
import ServiceShell.Json.Error
import ServiceShell.Text.Integer
import ServiceShell.Yaml.Node

/-!
# YAML documents

The document that a YAML text stands for. Scalars become values by their tags; mappings are merged
where a key asks for it, and have only scalars as keys.

Current gaps:

- The entries of an ordered mapping, and pairs, are lists of two values.
- A set is known by the literals of its elements, which is all that is told of it.
- A collection that is met again inside itself shows nothing but an ellipsis there. Where it is
  merged, or is one of some pairs, it is empty.
- Half a surrogate pair alone becomes the replacement character.
- Collections may be inside one another without a limit.
-/

namespace ServiceShell.Yaml

/-! ## Integers -/

/-- How much of a text a complaint about an integer shows. -/
def shownLength : Nat := 200

/-- Reads an integer in a base. -/
def integerIn (base : Nat) (cs : List Char) : Except Refusal Int :=
  match Text.readIntegerIn base cs with
  | .ok n => .ok n
  | .error (.tooManyDigits count) =>
    .error (.badValue (Json.Error.message (.tooManyDigits count)))
  | .error .form =>
    let shown := (textLiteral (String.ofList cs)).toList.take shownLength
    .error (.badValue
      (s!"invalid literal for int() with base {base}: " ++ String.ofList shown))

/-- The value of the parts of a sexagesimal number. -/
def sexagesimalValue (parts : List Int) : Int := parts.foldl (fun n part => 60 * n + part) 0

/-- The parts of a text between colons. -/
def colonParts (cs : List Char) : List (List Char) := cs.splitOn ':'

/-- Reads an integer behind its sign. -/
def magnitude (cs : List Char) : Except Refusal Int :=
  match cs with
  | [] => .error .noDigits
  | '0' :: 'b' :: r => integerIn 2 r
  | '0' :: 'x' :: r => integerIn 16 r
  | '0' :: r => integerIn 8 ('0' :: r)
  | cs =>
    if cs.contains ':' then ((colonParts cs).mapM (integerIn 10)).map sexagesimalValue
    else integerIn 10 cs

/-- Reads an integer; underscores mean nothing. -/
def integer (text : String) : Except Refusal Int :=
  let (negative, cs) := Decimal.takeSign (text.toList.filter (· ≠ '_'))
  (magnitude cs).map fun n => if negative then -n else n

/-! ## Doubles -/

/-- Reads a decimal: blanks around it, and digits of any script. -/
def decimal (cs : List Char) : Except Refusal Float :=
  match Decimal.floatFromText? ((Text.trimMargins cs).map Text.asciiDigit) with
  | some x => .ok x
  | none =>
    .error (.badValue ("could not convert string to float: " ++ textLiteral (String.ofList cs)))

/-- The value of the parts of a sexagesimal number, the last part first, where the first of them
counts `weight`. -/
def weighted (weight : Nat) (sum : Float) : List Float → Except Refusal Float
  | [] => .ok sum
  | part :: rest =>
    let factor := Decimal.toFloat false weight 0
    if Decimal.isFinite factor then weighted (60 * weight) (sum + part * factor) rest
    else .error .overflow

/-- Reads a double; underscores and case mean nothing. -/
def double (text : String) : Except Refusal Float :=
  let lowered := (Text.toLower (String.ofList (text.toList.filter (· ≠ '_')))).toList
  let (negative, cs) := Decimal.takeSign lowered
  let signed (x : Float) : Float := if negative then -x else x
  if lowered.isEmpty then .error .noDigits
  else if cs = ".inf".toList then .ok (signed (1.0 / 0.0))
  else if cs = ".nan".toList then .ok (0.0 / 0.0)
  else if cs.contains ':' then do
    let parts ← (colonParts cs).mapM decimal
    return signed (← weighted 1 0.0 parts.reverse)
  else (decimal cs).map signed

/-! ## Times -/

/-- Takes digits, at least and at most some number of them. -/
def takeDigits (least most : Nat) (cs : List Char) : Option (Nat × List Char) :=
  let run := (cs.take most).takeWhile Char.isDigit
  if least ≤ run.length then some (Decimal.digitsValue run, cs.drop run.length) else none

/-- Takes a character. -/
def takeChar (c : Char) : List Char → Option (List Char)
  | d :: r => if c = d then some r else none
  | [] => none

/-- Reads a day. -/
def takeDate (cs : List Char) : Option (Date × List Char) := do
  let (year, cs) ← takeDigits 4 4 cs
  let (month, cs) ← takeDigits 1 2 (← takeChar '-' cs)
  let (day, cs) ← takeDigits 1 2 (← takeChar '-' cs)
  return (⟨year, month, day⟩, cs)

/-- Reads a fraction of a second to the microsecond. -/
def takeFraction : List Char → Nat × List Char
  | '.' :: r =>
    let run := r.takeWhile Char.isDigit
    let six := run.take 6
    (Decimal.digitsValue (six ++ List.replicate (6 - six.length) '0'), r.drop run.length)
  | cs => (0, cs)

/-- Reads a zone, in minutes ahead of universal time, if there is one. -/
def takeZone (cs : List Char) : Option (Option Int) :=
  match cs.dropWhile fun c => c = ' ' || c = '\t' with
  | [] => if cs.isEmpty then some none else none
  | ['Z'] => some (some 0)
  | sign :: r =>
    if sign = '+' ∨ sign = '-' then do
      let (hours, r) ← takeDigits 1 2 r
      let minutes ← match r with
        | [] => some 0
        | r => do
          let (minutes, rest) ← takeDigits 2 2 (← takeChar ':' r)
          if rest.isEmpty then some minutes else none
      return some (Decimal.signed (sign = '-') (60 * hours + minutes))
    else none

/-- Reads a time of day behind a day. -/
def takeTime (date : Date) (cs : List Char) : Option Instant := do
  let (hour, cs) ← takeDigits 1 2 cs
  let (minute, cs) ← takeDigits 2 2 (← takeChar ':' cs)
  let (second, cs) ← takeDigits 2 2 (← takeChar ':' cs)
  let (microsecond, cs) := takeFraction cs
  let offset ← takeZone cs
  return { date, hour, minute, second, microsecond, offset }

/-- Whether a year has a 29th of February. -/
def isLeapYear (year : Nat) : Bool := year % 4 = 0 && (year % 100 ≠ 0 || year % 400 = 0)

/-- The number of days of a month. -/
def daysOfMonth (year month : Nat) : Nat :=
  if month = 2 then if isLeapYear year then 29 else 28
  else if month = 4 ∨ month = 6 ∨ month = 9 ∨ month = 11 then 30
  else 31

/-- Checks that a day is in the calendar. -/
def checkDate (d : Date) : Except Refusal Unit :=
  if d.year = 0 then .error (.badValue "year 0 is out of range")
  else if d.month = 0 ∨ d.month > 12 then .error (.badValue "month must be in 1..12")
  else if d.day = 0 ∨ d.day > daysOfMonth d.year d.month then
    .error (.badValue "day is out of range for month")
  else .ok ()

/-- A number of minutes as a span of days and seconds. -/
def spanLiteral (minutes : Int) : String :=
  let days := Int.fdiv minutes 1440
  let seconds := Int.fmod minutes 1440 * 60
  let daysPart := if days = 0 then [] else [s!"days={days}"]
  let secondsPart := if seconds = 0 then [] else [s!"seconds={seconds}"]
  "datetime.timedelta(" ++ ", ".intercalate (daysPart ++ secondsPart) ++ ")"

/-- Checks that a distance from universal time is less than a day. -/
def checkOffset (offset : Option Int) : Except Refusal Unit :=
  match offset with
  | none => .ok ()
  | some minutes =>
    if minutes.natAbs < 1440 then .ok ()
    else
      .error (.badValue ("offset must be a timedelta strictly between -timedelta(hours=24) "
        ++ "and timedelta(hours=24), not " ++ spanLiteral minutes ++ "."))

/-- Checks that a point of time exists. -/
def checkInstant (t : Instant) : Except Refusal Unit := do
  checkOffset t.offset
  checkDate t.date
  if t.hour > 23 then .error (.badValue "hour must be in 0..23")
  else if t.minute > 59 then .error (.badValue "minute must be in 0..59")
  else if t.second > 59 then .error (.badValue "second must be in 0..59")
  else .ok ()

/-- Drops a line feed at the end. -/
def dropLastBreak (cs : List Char) : List Char :=
  if cs.getLast? = some '\n' then cs.dropLast else cs

/-- Reads a day or a point of time; a line feed may follow. -/
def time (text : String) : Except Refusal Scalar :=
  match takeDate (dropLastBreak text.toList) with
  | some (date, []) => (checkDate date).map fun _ => .date date
  | some (date, c :: rest) =>
    let isGap := c = 'T' ∨ c = 't' ∨ c = ' ' ∨ c = '\t'
    let rest := if c = 'T' ∨ c = 't' then rest
      else rest.dropWhile fun c => c = ' ' || c = '\t'
    match if isGap then takeTime date rest else none with
    | some t => (checkInstant t).map fun _ => .instant t
    | none => .error .notTime
  | none => .error .notTime

/-! ## Bytes -/

/-- The value of a character in base 64. -/
def base64Value? (c : Char) : Option Nat :=
  if 'A' ≤ c ∧ c ≤ 'Z' then some (c.toNat - 'A'.toNat)
  else if 'a' ≤ c ∧ c ≤ 'z' then some (c.toNat - 'a'.toNat + 26)
  else if c.isDigit then some (c.toNat - '0'.toNat + 52)
  else if c = '+' then some 62
  else if c = '/' then some 63
  else none

/-- Reads base 64. `left` holds the values of the group not complete yet, the last one first, and
`pads` counts the padding behind them; other characters mean nothing. -/
def base64 (left : List Nat) (pads : Nat) : List Char → Except Refusal (List UInt8)
  | [] =>
    if left.isEmpty then .ok [] else .error (.malformed "failed to decode base64 data")
  | c :: r =>
    if c = '=' then
      if left.length ≥ 2 ∧ left.length + pads + 1 ≥ 4 then .ok []
      else base64 left (if left.length ≥ 2 then pads + 1 else pads) r
    else
      match base64Value? c, left with
      | none, _ => base64 left pads r
      | some v, [] => base64 [v] 0 r
      | some v, [a] => (base64 [v, a] 0 r).map (UInt8.ofNat (4 * a + v / 16) :: ·)
      | some v, [b, a] =>
        (base64 [v, b, a] 0 r).map (UInt8.ofNat (16 * (b % 16) + v / 4) :: ·)
      | some v, c :: _ => (base64 [] 0 r).map (UInt8.ofNat (64 * (c % 4) + v) :: ·)

/-- Reads bytes. -/
def bytes (text : String) : Except Refusal Scalar :=
  if text.toList.all fun c => c.toNat < 128 then (base64 [] 0 text.toList).map .bytes
  else .error (.malformed "failed to convert base64 data into ascii")

/-! ## Scalars -/

/-- The words for truth values. -/
def boolWords : List (String × Bool) :=
  [("yes", true), ("no", false), ("true", true), ("false", false), ("on", true), ("off", false)]

/-- Reads a truth value in either case. -/
def truth (text : String) : Except Refusal Scalar :=
  match boolWords.lookup (String.ofList (text.toList.map Char.toLower)) with
  | some b => .ok (.bool b)
  | none => .error .unknownWord

/-- The problem that a node is no collection. -/
def needsCollection : Refusal := .malformed "expected a sequence or mapping node"

/-- The problem that a node is no scalar. -/
def needsScalar : Refusal := .malformed "expected a scalar node"

/-- The problem that a tag is not known. -/
def unknownTag : Refusal := .malformed "could not determine a constructor for the tag"

/-- The value of a scalar by its tag. -/
def scalarValue (tag : Tag) (text : String) : Except Refusal Scalar :=
  match tag with
  | .null => .ok .null
  | .bool => truth text
  | .int => (integer text).map fun n => .number (.int n)
  | .float => (double text).map fun x => .number (.float x)
  | .binary => bytes text
  | .timestamp => time text
  | .text => .ok (.text text)
  | .orderedMap | .pairs | .set | .sequence | .mapping | .enclosing => .error needsCollection
  | .merge | .value | .other _ => .error unknownTag

/-! ## Collections -/

/-- A problem with the depth at which it is met. Values are made level by level, so of two problems
the one less deep is told. -/
structure Fault where
  /-- How many collections are around it. -/
  depth : Nat
  /-- The problem. -/
  refusal : Refusal

/-- The value of a node, or a problem with it. -/
abbrev Outcome := Except Fault Document

/-- The value of a scalar by its tag. -/
def scalarOutcome (tag : Tag) (text : String) : Outcome :=
  (scalarValue tag text).map .scalar |>.mapError (⟨0, ·⟩)

/-- A problem one level deeper. -/
def Fault.deeper (f : Fault) : Fault := { f with depth := f.depth + 1 }

/-- The values of a sequence: of their problems the least deep one, and of these the first. -/
def gatherValues : List Outcome → Except Fault (List Document)
  | [] => .ok []
  | .ok d :: rest => (gatherValues rest).map (d :: ·)
  | .error f :: rest =>
    match gatherValues rest with
    | .ok _ => .error f
    | .error g => .error (if g.depth < f.depth then g else f)

/-- A node with its value, as the collection around it sees it. -/
inductive Built where
  /-- A scalar. -/
  | scalar (tag : Tag) (value : Outcome)
  /-- A sequence, with its items. -/
  | sequence (value : Outcome) (items : List Built)
  /-- A mapping, with its entries after merging. -/
  | mapping (value : Outcome) (entries : Except Refusal (List (Built × Built)))

/-- The value of a node. -/
def Built.value : Built → Outcome
  | .scalar _ value => value
  | .sequence value _ => value
  | .mapping value _ => value

/-- Whether a node asks for merging. -/
def Built.isMerge : Built → Bool
  | .scalar .merge _ => true
  | _ => false

/-- A node as a key: the sign for a value is a text there. -/
def Built.asKey : Built → Outcome
  | .scalar .value _ => .ok (.text "=")
  | .scalar _ value => value
  | b =>
    match b.value with
    | .ok _ => .error ⟨0, .malformed "found unhashable key"⟩
    | .error f => .error (if f.depth = 0 then f else ⟨0, .malformed "found unhashable key"⟩)

/-- The entries of the mappings of a list, in reverse order. -/
def mergedList : List Built → Except Refusal (List (Built × Built))
  | [] => .ok []
  | .mapping _ entries :: rest => do
    let first ← entries
    let others ← mergedList rest
    return others ++ first
  | _ :: _ => .error (.malformed "expected a mapping for merging")

/-- The entries that a value to be merged gives. -/
def Built.merged : Built → Except Refusal (List (Built × Built))
  | .mapping _ entries => entries
  | .sequence _ items => mergedList items
  | .scalar .. => .error (.malformed "expected a mapping or list of mappings for merging")

/-- Splits entries into those merged and those written. -/
def mergeEntries :
    List (Built × Built) → Except Refusal (List (Built × Built) × List (Built × Built))
  | [] => .ok ([], [])
  | (key, value) :: rest => do
    if key.isMerge then
      let first ← value.merged
      let (merged, written) ← mergeEntries rest
      return (first ++ merged, written)
    else
      let (merged, written) ← mergeEntries rest
      return (merged, (key, value) :: written)

/-- The fields of entries: each key and then its value. -/
def gatherFields (entries : List (Built × Built)) : Except Fault Fields := do
  let values ← gatherValues (entries.flatMap fun e => [e.1.asKey, e.2.value])
  return Fields.ofEntries (pairUp values)
where
  /-- Keys and values in turn, as pairs. -/
  pairUp : List Document → List (Scalar × Document)
    | .scalar key :: value :: rest => (key, value) :: pairUp rest
    | _ => []

/-- The single entry of an item of an ordered mapping, as a list of its key and its value. -/
def pairValue : Built → Outcome
  | .mapping _ (.ok [(key, value)]) => (gatherValues [key.value, value.value]).map .list
  | _ => .error ⟨0, .malformed "expected a mapping of length 1"⟩

/-- The list of some values, which are made one level deeper. -/
def listValue (values : List Outcome) : Outcome :=
  ((gatherValues values).mapError Fault.deeper).map .list

/-- The value of a sequence by its tag. -/
def sequenceValue (tag : Tag) (items : List Built) : Outcome :=
  match tag with
  | .sequence => listValue (items.map Built.value)
  | .orderedMap | .pairs => listValue (items.map pairValue)
  | .enclosing => .ok (.list [.scalar .ellipsis])
  | .set | .mapping => .error ⟨1, .malformed "expected a mapping node"⟩
  | .merge | .value | .other _ => .error ⟨0, unknownTag⟩
  | _ => .error ⟨0, needsScalar⟩

/-- The value of a mapping by its tag; `text` is the text that it stands for as a scalar. -/
def mappingValue (tag : Tag) (text : Option String)
    (entries : Except Refusal (List (Built × Built))) : Outcome :=
  let fields : Except Fault Fields :=
    match entries with
    | .ok entries => (gatherFields entries).mapError Fault.deeper
    | .error refusal => .error ⟨1, refusal⟩
  match tag with
  | .mapping => fields.map .object
  | .set => fields.map fun fields => .scalar (.set (fields.map fun e => e.1.literal))
  | .enclosing => .ok (.object [(.ellipsis, .null)])
  | .sequence | .orderedMap | .pairs => .error ⟨1, .malformed "expected a sequence node"⟩
  | .merge | .value | .other _ => .error ⟨0, unknownTag⟩
  | _ =>
    match text with
    | some text => scalarOutcome tag text
    | none => .error ⟨0, needsScalar⟩

mutual

/-- The text that a node stands for as a scalar: its own, or that of the value of a mapping. -/
def Node.scalarText? : Node → Option String
  | .scalar _ text => some text
  | .sequence _ _ => none
  | .mapping _ entries => entriesText? entries

/-- The text of the first entry whose key is the sign for a value. -/
def entriesText? : List (Node × Node) → Option String
  | [] => none
  | (.scalar .value _, value) :: _ => value.scalarText?
  | _ :: rest => entriesText? rest

end

mutual

/-- A node with its value. -/
def Node.build : Node → Built
  | .scalar tag text => .scalar tag (scalarOutcome tag text)
  | .sequence tag items =>
    let items := buildAll items
    .sequence (sequenceValue tag items) items
  | .mapping tag entries =>
    let text := entriesText? entries
    let entries := (mergeEntries (buildEntries entries)).map fun (merged, written) =>
      merged ++ written
    .mapping (mappingValue tag text entries) entries

/-- The nodes of a list with their values. -/
def buildAll : List Node → List Built
  | [] => []
  | n :: rest => n.build :: buildAll rest

/-- The entries of a mapping with their values. -/
def buildEntries : List (Node × Node) → List (Built × Built)
  | [] => []
  | (key, value) :: rest => (key.build, value.build) :: buildEntries rest

end

/-! ## Texts -/

/-- Reads the only document of a text; a text without one stands for null. -/
def parse (text : String) : Except Refusal Document :=
  match Node.ofText text with
  | .ok (some node) =>
    match node.build.value with
    | .ok document => .ok document
    | .error fault => .error fault.refusal
  | .ok none => .ok .null
  | .error refusal => .error refusal

end ServiceShell.Yaml
