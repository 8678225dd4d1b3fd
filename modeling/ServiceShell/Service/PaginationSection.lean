import ServiceShell.Document.Basic

/-!
# The pagination section of a model

Descriptors from a document of their own are laid over those of a model. The document holds them as
an object or as pairs of a name and a descriptor.
-/

namespace ServiceShell

/-! ## Entries -/

/-- Why a document does not give entries. -/
inductive EntryProblem where
  /-- It is no sequence at all, or holds something that is none. -/
  | notSequence
  /-- The item at an index has another length than that of a pair. -/
  | length (index size : Nat)
  /-- The first part of a pair cannot be a key. -/
  | badKey
  deriving DecidableEq, Repr

/-- The parts of a document that can be taken apart: items, keys or characters. -/
def Document.parts? : Document → Option (List Document)
  | .list items => some items
  | .object fields => some (fields.map fun e => .scalar e.1)
  | .text s => some (s.toList.map fun c => .text (String.singleton c))
  | _ => none

/-- A pair of a key and a value. -/
def Document.entry (index : Nat) (d : Document) : Except EntryProblem (Scalar × Document) :=
  match d.parts? with
  | some [.scalar key, value] => .ok (key, value)
  | some [_, _] => .error .badKey
  | some parts => .error (.length index parts.length)
  | none => .error .notSequence

/-- The pairs of a sequence, the first of which has an index. -/
def entriesFrom (index : Nat) : List Document → Except EntryProblem (List (Scalar × Document))
  | [] => .ok []
  | d :: rest => do
    let first ← d.entry index
    let others ← entriesFrom (index + 1) rest
    return first :: others

/-- The entries that a document gives: the fields of an object, or pairs. -/
def Document.entries : Document → Except EntryProblem (List (Scalar × Document))
  | .object fields => .ok fields
  | d =>
    match d.parts? with
    | some parts => entriesFrom 0 parts
    | none => .error .notSequence

/-- The text that tells a problem. -/
def EntryProblem.message : EntryProblem → Option String
  | length index size =>
    some s!"dictionary update sequence element #{index} has length {size}; 2 is required"
  | _ => none

/-! ## Merging -/

/-- Puts entries over fields, one after the other. -/
def Fields.putAll (fields : Fields) (entries : List (Scalar × Document)) : Fields :=
  entries.foldl (fun fields e => Fields.put e.1 e.2 fields) fields

/-- A model with entries laid over those of its pagination section. -/
def layPagination (model : Fields) (entries : List (Scalar × Document)) : Fields :=
  Fields.put (.text "pagination")
    (.object (Fields.putAll ((Fields.get? "pagination" model).getD .null).fields entries)) model

/-- A model with what a document gives laid over its pagination section. -/
def mergePagination (model : Fields) (pagination : Document) : Except EntryProblem Fields :=
  pagination.entries.map (layPagination model)

/-- An object can always be merged. -/
@[simp] theorem mergePagination_object (model fields : Fields) :
    mergePagination model (.object fields) = .ok (layPagination model fields) := rfl

end ServiceShell
