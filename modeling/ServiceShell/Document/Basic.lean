import ServiceShell.Decimal.Parts

/-!
# Documents

The values that service models, settings and schemas are written in: scalars, lists, and objects
whose fields keep their order. Keys are scalars; two keys that stand for the same value, such as
`1` and `1.0`, name the same field.
-/

namespace ServiceShell

/-! ## Scalars -/

/-- A number: an integer of any size or a double. -/
inductive Number where
  /-- An integer. -/
  | int (value : Int)
  /-- A double. -/
  | float (value : Float)
  deriving DecidableEq, Inhabited

/-- A day of the calendar. -/
structure Date where
  /-- The year. -/
  year : Nat
  /-- The month, from 1. -/
  month : Nat
  /-- The day of the month, from 1. -/
  day : Nat
  deriving DecidableEq, Inhabited

/-- A date with a time of day. -/
structure Instant where
  /-- The day. -/
  date : Date
  /-- The hour. -/
  hour : Nat
  /-- The minute. -/
  minute : Nat
  /-- The second. -/
  second : Nat
  /-- The microsecond. -/
  microsecond : Nat
  /-- Minutes ahead of universal time, if the clock is known. -/
  offset : Option Int
  deriving DecidableEq, Inhabited

/-- A value without parts. -/
inductive Scalar where
  /-- No value. -/
  | null
  /-- A truth value. -/
  | bool (value : Bool)
  /-- A number. -/
  | number (value : Number)
  /-- A text. -/
  | text (value : String)
  /-- A sequence of bytes. -/
  | bytes (value : List UInt8)
  /-- A day. -/
  | date (value : Date)
  /-- A point of time. -/
  | instant (value : Instant)
  /-- A set, by the literals of its elements; nothing looks into it. -/
  | set (elements : List String)
  /-- What is left open in a collection that is met again inside itself. -/
  | ellipsis
  deriving DecidableEq, Inhabited

/-- A document: a scalar, a list, or an object. -/
inductive Document where
  /-- A value without parts. -/
  | scalar (value : Scalar)
  /-- A sequence. -/
  | list (items : List Document)
  /-- Fields in their order. -/
  | object (fields : List (Scalar × Document))

/-- The fields of an object. -/
abbrev Fields := List (Scalar × Document)

namespace Document

/-- The document without a value. -/
@[match_pattern] abbrev null : Document := .scalar .null

/-- A truth value as a document. -/
@[match_pattern] abbrev bool (b : Bool) : Document := .scalar (.bool b)

/-- An integer as a document. -/
@[match_pattern] abbrev int (n : Int) : Document := .scalar (.number (.int n))

/-- A double as a document. -/
@[match_pattern] abbrev float (x : Float) : Document := .scalar (.number (.float x))

/-- A text as a document. -/
@[match_pattern] abbrev text (s : String) : Document := .scalar (.text s)

instance : Inhabited Document := ⟨.null⟩

/-- A text, or no value. -/
def ofText? : Option String → Document
  | some s => .text s
  | none => .null

/-- A list of texts. -/
def ofTexts (texts : List String) : Document := .list (texts.map .text)

/-- An object with texts as keys. -/
def ofPairs (pairs : List (String × Document)) : Document :=
  .object (pairs.map fun p => (.text p.1, p.2))

/-! ## Views -/

/-- The fields of an object. -/
def fields? : Document → Option Fields
  | .object fields => some fields
  | _ => none

/-- The fields of an object; any other document has none. -/
def fields (d : Document) : Fields := d.fields?.getD []

/-- The text of a document that is one. -/
def text? : Document → Option String
  | .text s => some s
  | _ => none

/-- The items of a list. -/
def items? : Document → Option (List Document)
  | .list items => some items
  | _ => none

/-- The number of a document that is one. -/
def number? : Document → Option Number
  | .scalar (.number n) => some n
  | _ => none

/-- Whether a document is an object. -/
def isObject (d : Document) : Bool := d.fields?.isSome

/-- Whether a document has no value. -/
def isNull : Document → Bool
  | .null => true
  | _ => false

end Document

/-! ## Truth -/

/-- Whether a number differs from zero. -/
def Number.isNonzero : Number → Bool
  | .int n => n ≠ 0
  | .float x => x != 0.0

/-- Whether a scalar counts as true: no value, zero and what is empty do not. -/
def Scalar.isTruthy : Scalar → Bool
  | .null => false
  | .bool b => b
  | .number n => n.isNonzero
  | .text s => s ≠ ""
  | .bytes b => !b.isEmpty
  | .date _ => true
  | .instant _ => true
  | .set elements => !elements.isEmpty
  | .ellipsis => true

/-- Whether a document counts as true: no value, zero and what is empty do not. -/
def Document.isTruthy : Document → Bool
  | .scalar s => s.isTruthy
  | .list items => !items.isEmpty
  | .object fields => !fields.isEmpty

/-! ## Keys -/

/-- Whether two numbers are equal. -/
def Number.same : Number → Number → Bool
  | .int m, .int n => m = n
  | .float x, .float y => x == y
  | .int m, .float y => Decimal.whole? y = some m
  | .float x, .int n => Decimal.whole? x = some n

/-- A truth value as a number, which it equals as a key. -/
def Scalar.asNumber? : Scalar → Option Number
  | .bool b => some (.int (if b then 1 else 0))
  | .number n => some n
  | _ => none

/-- Whether two keys name the same field: they are one key, or equal numbers. What is not a number
differs from itself as a number, but not as a key. -/
def Scalar.same (a b : Scalar) : Bool :=
  a = b ||
    match a.asNumber?, b.asNumber? with
    | some m, some n => m.same n
    | _, _ => false

/-- A key names its own field. -/
@[simp] theorem Scalar.same_self (a : Scalar) : a.same a = true := by
  simp [Scalar.same]

/-! ## Fields -/

namespace Fields

/-- The value of the field with a text as its key. -/
def get? (key : String) : Fields → Option Document
  | [] => none
  | (k, v) :: r => if k = .text key then some v else get? key r

/-- Gives a field a value. A field that is there keeps its place and its key; a new one comes
last. -/
def put (key : Scalar) (value : Document) : Fields → Fields
  | [] => [(key, value)]
  | (k, v) :: r => if k.same key then (k, value) :: r else (k, v) :: put key value r

/-- The fields given by entries in order: of entries with one key the first fixes the place and
the last the value. -/
def ofEntries (entries : List (Scalar × Document)) : Fields :=
  entries.foldl (fun fields e => put e.1 e.2 fields) []

/-- The keys, in order. -/
def keys (fields : Fields) : List Scalar := fields.map (·.1)

@[simp] theorem get?_nil (key : String) : get? key [] = none := rfl

end Fields

/-- The field of an object with a text as its key. -/
def Document.get? (d : Document) (key : String) : Option Document :=
  Fields.get? key d.fields

/-- The field of an object, null when it is missing. -/
def Document.getD (d : Document) (key : String) : Document := (d.get? key).getD .null

end ServiceShell
