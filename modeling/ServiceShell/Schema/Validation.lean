import ServiceShell.Document.Literal
import ServiceShell.Record.Encode
import ServiceShell.Text.Integer

/-!
# Checking schemas

The check that a document has what the program that carries out commands relies on. It works on the
document form, so that schemas from any source can be checked, and reports every problem.
-/

namespace ServiceShell

namespace Schema

/-! ## Problems -/

/-- What is wrong with a schema. -/
inductive Problem where
  /-- It is no object. -/
  | notObject
  /-- A field is missing or null. -/
  | missing (field : String)
  /-- The name of the service is empty or no text. -/
  | badService
  /-- The metadata are no object. -/
  | badMetadata
  /-- The time is not written as one. -/
  | badTime
  /-- The operations are no list. -/
  | operationsNotList
  /-- An operation is no object. -/
  | operationNotObject (index : Nat)
  /-- A field of an operation is missing or empty. -/
  | operationLacks (index : Nat) (label field : String)
  deriving DecidableEq, Repr

/-- The text that tells a problem. -/
def Problem.message : Problem → String
  | notObject => "Schema must be a JSON object"
  | missing field => "Missing required field: " ++ field
  | badService => "Field 'service' must be a non-empty string"
  | badMetadata => "Field 'metadata' must be an object"
  | badTime =>
    "Field 'generated_at' must be an ISO-8601 UTC timestamp such as 2024-01-01T00:00:00Z"
  | operationsNotList => "Field 'operations' must be a list"
  | operationNotObject index => s!"Operation {index} must be an object"
  | operationLacks index label field =>
    s!"Operation {index} ({label}) missing required field '{field}'"

/-! ## Times -/

/-- The fixed part of a time: a `0` stands for any digit. -/
def timeForm : List Char := "0000-00-00T00:00:00".toList

/-- What follows a text of the form, if there is one in front. -/
def afterForm? : List Char → List Char → Option (List Char)
  | [], rest => some rest
  | _ :: _, [] => none
  | f :: form, c :: rest =>
    if (if f = '0' then Text.isDecimal c else c = f) then afterForm? form rest else none

/-- Whether a text is the mark of universal time, with or without a line break behind it. -/
def isZoneMark (cs : List Char) : Bool := cs = ['Z'] || cs = ['Z', '\n']

/-- Whether a text is a time: a date, a time of day, perhaps a fraction of a second, and the mark of
universal time. The digits may be of any script, and a line break may follow. -/
def isTime (text : String) : Bool :=
  match afterForm? timeForm text.toList with
  | none => false
  | some ('.' :: rest) =>
    !(rest.takeWhile Text.isDecimal).isEmpty && isZoneMark (rest.dropWhile Text.isDecimal)
  | some rest => isZoneMark rest

/-! ## Checks -/

/-- The fields that every schema has. -/
def requiredFields : List String :=
  ["service", "operations", "metadata", "generated_at", "schema_version", "extractor_version"]

/-- The fields that every operation has. -/
def requiredOperationFields : List String := ["name", "original_name", "http_method", "http_uri"]

/-- The problem with a field that is there but not as it should be. -/
def checkField (d : Document) (isGood : Document → Bool) (problem : Problem) : List Problem :=
  if d.isNull || isGood d then [] else [problem]

/-- What an operation is called in messages. -/
def operationLabel (operation : Document) : String :=
  let named := ["original_name", "name"].map operation.getD
  match named.find? Document.isTruthy with
  | some d => d.spelling
  | none => "<unnamed>"

/-- The problems with an operation. -/
def checkOperation (index : Nat) (operation : Document) : List Problem :=
  if operation.isObject then
    (requiredOperationFields.filter fun field => !(operation.getD field).isTruthy).map
      (.operationLacks index (operationLabel operation))
  else [.operationNotObject index]

/-- The problems with the operations of a list, the first of which has an index. -/
def checkOperations (index : Nat) : List Document → List Problem
  | [] => []
  | d :: rest => checkOperation index d ++ checkOperations (index + 1) rest

/-- The problems with the operations of a schema. -/
def checkOperationList (d : Document) : List Problem :=
  match d with
  | .null => []
  | .list items => checkOperations 0 items
  | _ => [.operationsNotList]

/-- The problems with a schema, in the order in which they are reported. -/
def problems (d : Document) : List Problem :=
  if d.isObject then
    (requiredFields.filter fun field => (d.getD field).isNull).map .missing
      ++ checkField (d.getD "service") (fun s => s.text?.any (· ≠ "")) .badService
      ++ checkField (d.getD "metadata") Document.isObject .badMetadata
      ++ checkField (d.getD "generated_at") (fun t => t.text?.any isTime) .badTime
      ++ checkOperationList (d.getD "operations")
  else [.notObject]

/-- The texts of the problems with a schema. -/
def problemTexts (d : Document) : List String := (problems d).map Problem.message

/-- Whether a schema has no problem. -/
def isValid (d : Document) : Bool := (problems d).isEmpty

/-- The record of the result of a check. -/
def encodeResult (d : Document) : Document :=
  .ofPairs [("valid", .bool (isValid d)), ("errors", .ofTexts (problemTexts d))]

end Schema

end ServiceShell
