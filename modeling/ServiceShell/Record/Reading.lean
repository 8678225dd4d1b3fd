import ServiceShell.Document.Basic
import ServiceShell.Record.Failure

/-!
# Reading records

A record is read field by field. A reading gives a value, or all issues with the fields in the order
in which they are declared; so reading one field never hides what is wrong with another.

Main statements:

- `Reading.seq_read`: a function that was read, applied to a value that was read, is read.
-/

namespace ServiceShell.Record

/-! ## Readings -/

/-- A value that was read, or the issues with it. -/
inductive Reading (α : Type) where
  /-- The value. -/
  | read (value : α)
  /-- What is wrong, in order. -/
  | refused (issues : List Issue)

namespace Reading

variable {α β : Type}

/-- Applies a function to what was read. -/
def map (f : α → β) : Reading α → Reading β
  | .read a => .read (f a)
  | .refused issues => .refused issues

/-- Applies a function that was read to an argument that was read; issues of both are kept. -/
def apply : Reading (α → β) → Reading α → Reading β
  | .read f, .read a => .read (f a)
  | .read _, .refused issues => .refused issues
  | .refused issues, .read _ => .refused issues
  | .refused issues, .refused more => .refused (issues ++ more)

instance : Applicative Reading where
  pure := .read
  map := Reading.map
  seq f a := apply f (a ())

/-- A function applied to a value that was read. -/
@[simp] theorem map_read (f : α → β) (a : α) : f <$> Reading.read a = .read (f a) := rfl

/-- A function that was read, applied to a value that was read. -/
@[simp] theorem seq_read (f : α → β) (a : α) : Reading.read f <*> .read a = .read (f a) := rfl

/-- A reading with one issue. -/
def refuse (cause : Cause) : Reading α := .refused [⟨[], cause⟩]

/-- A reading below a name. -/
def under (name : String) : Reading α → Reading α
  | .read a => .read a
  | .refused issues => .refused (issues.map fun i => { i with path := name :: i.path })

/-- What was read stays below a name. -/
@[simp] theorem under_read (name : String) (a : α) : under name (.read a) = .read a := rfl

/-- A value that was read is passed on, unless a rule refuses it. -/
def bind : Reading α → (α → Reading β) → Reading β
  | .read a, f => f a
  | .refused issues, _ => .refused issues

/-- A rule that a value passes. -/
@[simp] theorem bind_read (a : α) (f : α → Reading β) : (Reading.read a).bind f = f a := rfl

/-- The value that was read. -/
def value? : Reading α → Option α
  | .read a => some a
  | .refused _ => none

/-- A reading as the reading of a whole record. -/
def finish (record : String) : Reading α → Except Failure α
  | .read a => .ok a
  | .refused issues => .error ⟨record, issues⟩

end Reading

open Reading

/-! ## Parts of documents -/

variable {α : Type}

/-- Reads the items of a list. -/
def readItems (reader : Document → Reading α) (index : Nat) : List Document → Reading (List α)
  | [] => .read []
  | d :: rest =>
    List.cons <$> under (toString index) (reader d) <*> readItems reader (index + 1) rest

/-- Reads a list. -/
def list (reader : Document → Reading α) : Document → Reading (List α)
  | .list items => readItems reader 0 items
  | _ => refuse .notList

/-- Reads a value that may be missing. -/
def optional (reader : Document → Reading α) : Document → Reading (Option α)
  | .null => .read none
  | d => some <$> reader d

/-- Reads a field that has to be there. -/
def field (fields : Fields) (name : String) (reader : Document → Reading α) : Reading α :=
  under name
    (match Fields.get? name fields with
    | some d => reader d
    | none => refuse .missing)

/-- Reads a field that has a default. -/
def fieldD (fields : Fields) (name : String) (default : α) (reader : Document → Reading α) :
    Reading α :=
  match Fields.get? name fields with
  | some d => under name (reader d)
  | none => .read default

/-- Reads the fields of a record from an object. -/
def record (name : String) (reader : Fields → Reading α) : Document → Reading α
  | .object fields => reader fields
  | _ => refuse (.notRecord name)

end ServiceShell.Record
