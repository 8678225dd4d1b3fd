/-!
# Types of the host shell

The semantic types that shapes map to, and how the host shell spells them. A type can carry its
choices, the type of its elements, and a note that explains why no better type was found.
-/

namespace ServiceShell

/-- The kinds of types of the host shell. -/
inductive TypeKind where
  /-- Texts. -/
  | string
  /-- Integers. -/
  | int
  /-- Doubles. -/
  | float
  /-- Truth values. -/
  | bool
  /-- Points of time. -/
  | datetime
  /-- Bytes. -/
  | binary
  /-- Sizes of files. -/
  | filesize
  /-- Texts of which only some are allowed. -/
  | choice
  /-- Lists. -/
  | list
  /-- Records. -/
  | record
  /-- Lists of records with the same columns. -/
  | table
  /-- Any value. -/
  | any
  /-- No value. -/
  | nothing
  deriving DecidableEq, Repr, Inhabited

namespace TypeKind

/-- All kinds. -/
def all : List TypeKind :=
  [string, int, float, bool, datetime, binary, filesize, choice, list, record, table, any, nothing]

/-- The word for a kind. -/
def word : TypeKind → String
  | string => "string"
  | int => "int"
  | float => "float"
  | bool => "bool"
  | datetime => "datetime"
  | binary => "binary"
  | filesize => "filesize"
  | choice => "choice"
  | list => "list"
  | record => "record"
  | table => "table"
  | any => "any"
  | nothing => "nothing"

/-- The kind that a word stands for. -/
def ofWord? (word : String) : Option TypeKind := all.find? fun k => k.word = word

@[simp] theorem ofWord?_word (k : TypeKind) : ofWord? k.word = some k := by
  cases k <;> decide

end TypeKind

/-- A type of the host shell. -/
structure HostType where
  /-- The kind of the type. -/
  kind : TypeKind
  /-- The type of the elements of a list. -/
  element : Option HostType := none
  /-- The allowed texts of a choice. -/
  choices : List String := []
  /-- Why no better type was found. -/
  note : Option String := none
  deriving Inhabited

namespace HostType

/-- A type that carries nothing beside its kind. -/
def plain (kind : TypeKind) : HostType := { kind }

/-- The spelling of a type in the host shell. A choice is a text there. -/
def render : HostType → String
  | { kind := .choice, .. } => "string"
  | { kind := .list, element := some e, .. } => "list<" ++ e.render ++ ">"
  | { kind, .. } => kind.word

end HostType

end ServiceShell
