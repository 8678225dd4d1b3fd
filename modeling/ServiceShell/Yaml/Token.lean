/-!
# YAML tokens

The parts that YAML text consists of: marks for the structure, and the names and texts between them.
-/

namespace ServiceShell.Yaml

/-- A tag as it is written: a handle, if there is one, and what follows it. -/
structure RawTag where
  /-- The handle. -/
  handle : Option String
  /-- What follows it. -/
  suffix : String
  deriving DecidableEq, Repr

/-- A directive. -/
inductive Directive where
  /-- The version of YAML. -/
  | version (major minor : Nat)
  /-- What a handle of tags stands for. -/
  | tag (handle tagPrefix : String)
  /-- Any other directive. -/
  | other
  deriving DecidableEq, Repr

/-- A token of YAML text. -/
inductive Token where
  /-- A directive. -/
  | directive (value : Directive)
  /-- The start of a document. -/
  | documentStart
  /-- The end of a document. -/
  | documentEnd
  /-- The end of the text. -/
  | streamEnd
  /-- The start of a sequence by indentation. -/
  | blockSequenceStart
  /-- The start of a mapping by indentation. -/
  | blockMappingStart
  /-- The end of a sequence or mapping by indentation. -/
  | blockEnd
  /-- The start of a sequence in brackets. -/
  | flowSequenceStart
  /-- The end of a sequence in brackets. -/
  | flowSequenceEnd
  /-- The start of a mapping in braces. -/
  | flowMappingStart
  /-- The end of a mapping in braces. -/
  | flowMappingEnd
  /-- The mark before an item of a sequence. -/
  | blockEntry
  /-- The comma between items. -/
  | flowEntry
  /-- The mark before a key. -/
  | key
  /-- The mark before a value. -/
  | value
  /-- A reference to a named node. -/
  | alias (name : String)
  /-- The name of a node. -/
  | anchor (name : String)
  /-- The tag of a node. -/
  | tag (value : RawTag)
  /-- A text; only a plain one can stand for another value. -/
  | scalar (text : String) (isPlain : Bool)
  deriving DecidableEq, Repr

end ServiceShell.Yaml
