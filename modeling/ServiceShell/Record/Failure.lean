/-!
# Refused values

What is wrong with a value that does not have the form a record needs: one issue per field, in the
order in which the record declares its fields.
-/

namespace ServiceShell.Record

/-! ## Causes -/

/-- Why a rule of a record cannot be applied to a value at all. -/
inductive RuleFault where
  /-- The value holds a number that is out of range. -/
  | numberRange
  /-- The value asks to look back too far. -/
  | width
  deriving DecidableEq, Repr

/-- The text that tells a fault. -/
def RuleFault.message : RuleFault → String
  | numberRange => "a pattern holds a number out of range"
  | width => "invalid SRE code"

/-- Why the value of a field is refused. -/
inductive Cause where
  /-- A text is needed. -/
  | notText
  /-- The bytes are not those of a text. -/
  | notUnicode
  /-- An integer is needed. -/
  | notInteger
  /-- The text is not that of an integer. -/
  | notIntegerText
  /-- The number has a fraction. -/
  | fraction
  /-- The number is infinite or not a number. -/
  | notFinite
  /-- The number is too large to be read as an integer. -/
  | integerSize
  /-- A truth value is needed. -/
  | notBoolean
  /-- The value stands for no truth value. -/
  | unclearBoolean
  /-- An object is needed. -/
  | notObject
  /-- An object with the fields of a record is needed. -/
  | notRecord (record : String)
  /-- A rule of the record refuses the value, and says why. -/
  | refused (reason : String)
  /-- A rule of the record cannot be applied to the value. -/
  | unchecked (fault : RuleFault)
  /-- The field is missing. -/
  | missing
  /-- A list is needed. -/
  | notList
  /-- The value is none of those allowed. -/
  | notAllowed
  deriving DecidableEq, Repr

/-- The text that tells a cause. -/
def Cause.message : Cause → String
  | notText => "Input should be a valid string"
  | notUnicode =>
    "Input should be a valid string, unable to parse raw data as a unicode string"
  | notInteger => "Input should be a valid integer"
  | notIntegerText => "Input should be a valid integer, unable to parse string as an integer"
  | fraction => "Input should be a valid integer, got a number with a fractional part"
  | notFinite => "Input should be a finite number"
  | integerSize => "Unable to parse input string as an integer, exceeded maximum size"
  | notBoolean => "Input should be a valid boolean"
  | unclearBoolean => "Input should be a valid boolean, unable to interpret input"
  | notObject => "Input should be a valid dictionary"
  | notRecord record => "Input should be a valid dictionary or instance of " ++ record
  | refused reason => "Value error, " ++ reason
  | unchecked fault => fault.message
  | missing => "Field required"
  | notList => "Input should be a valid list"
  | notAllowed => "Input should be one of the allowed values"

/-! ## Issues -/

/-- What is wrong with the value of one field. -/
structure Issue where
  /-- The names that lead to the field; none for the whole document. -/
  path : List String
  /-- What is wrong. -/
  cause : Cause
  deriving DecidableEq, Repr

/-- A value that is refused. -/
structure Failure where
  /-- The name of the record. -/
  record : String
  /-- The issues, at least one. -/
  issues : List Issue
  deriving DecidableEq, Repr

/-- An issue as the two lines that tell it; an issue with the whole document has no line for the
field. -/
def Issue.lines (i : Issue) : String :=
  (if i.path.isEmpty then "" else "\n" ++ ".".intercalate i.path) ++ "\n  " ++ i.cause.message

/-- The message of a failure. -/
def Failure.message (f : Failure) : String :=
  let count := f.issues.length
  toString count ++ (if count = 1 then " validation error for " else " validation errors for ")
    ++ f.record ++ String.join (f.issues.map Issue.lines)

/-- The fault of a rule, if a value could not even be checked. -/
def Failure.ruleFault? (f : Failure) : Option RuleFault :=
  f.issues.findSome? fun i =>
    match i.cause with
    | .unchecked fault => some fault
    | _ => none

end ServiceShell.Record
