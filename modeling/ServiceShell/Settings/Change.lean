import ServiceShell.Document.Literal
import ServiceShell.Json.Reader
import ServiceShell.Settings.Record
import ServiceShell.Text.Case
import ServiceShell.Text.Integer

/-!
# Changing settings

A single setting is changed by its key, the names that lead to it with dots between them. The new
value is written as text, and read as what the old one is: a truth value, an integer, an object,
or a text. What comes out has to be settings again.
-/

namespace ServiceShell

open Record

/-! ## Problems -/

/-- Why a setting is not changed. -/
inductive ChangeProblem where
  /-- The names before the last one do not lead to an object. -/
  | invalidKey
  /-- There is no setting with the key. -/
  | unknownKey
  /-- The setting holds an integer, and the text is none. -/
  | notInteger
  /-- The setting holds an object, and the text is no JSON. -/
  | notJson
  /-- An integer in the text has too many digits. -/
  | tooManyDigits (count : Nat)
  /-- With the value these are no settings. -/
  | invalid (failure : Failure)
  deriving DecidableEq, Repr

/-- The sentence that tells why a setting is not changed. -/
def ChangeProblem.message (key value : String) : ChangeProblem → String
  | invalidKey => "Invalid config key: " ++ key
  | unknownKey => "Unknown config key: " ++ key
  | notInteger => "Expected integer for " ++ key ++ ", got: " ++ value
  | notJson => "Expected a JSON object for " ++ key ++ ", got: " ++ value
  | tooManyDigits count => (Json.Error.tooManyDigits count).message
  | invalid failure => "Validation error: " ++ failure.message

/-! ## Values -/

/-- A text in lower case. -/
def lowerText (text : String) : String := String.ofList (text.toList.map Text.lower)

/-- The words for no value. -/
def noValueWords : List String := ["none", "null"]

/-- The words for true. -/
def affirmativeWords : List String := ["true", "1", "yes"]

/-- The value that a text stands for where another value was. -/
def coerce (current : Document) (text : String) : Except ChangeProblem Document :=
  if noValueWords.contains (lowerText text) then .ok .null
  else
    match current with
    | .bool _ => .ok (.bool (affirmativeWords.contains (lowerText text)))
    | .int _ =>
      match Text.readInteger? text with
      | some n => .ok (.int n)
      | none => .error .notInteger
    | .object _ =>
      match Json.parse text with
      | .ok d => .ok d
      | .error (.invalid _ _) => .error .notJson
      | .error (.tooManyDigits count) => .error (.tooManyDigits count)
    | _ => .ok (.text text)

/-! ## Keys -/

/-- Gives the setting at the end of a path of names the value that a text stands for; the value is
told along with the fields. -/
def changeAt (text : String) : List String → Fields → Except ChangeProblem (Document × Fields)
  | [], _ => .error .unknownKey
  | [name], fields =>
    match Fields.get? name fields with
    | none => .error .unknownKey
    | some current => do
      let value ← coerce current text
      return (value, fields.put (.text name) value)
  | name :: rest, fields =>
    match Fields.get? name fields with
    | some (.object inner) => do
      let (value, inner) ← changeAt text rest inner
      return (value, fields.put (.text name) (.object inner))
    | _ => .error .invalidKey

/-- The settings with one of them changed, and the value that it was given. -/
def Settings.change (s : Settings) (key text : String) :
    Except ChangeProblem (Document × Settings) := do
  let (value, fields) ← changeAt text (key.splitOn ".") s.encode.fields
  match Settings.decode (.object fields) with
  | .ok s => return (value, s)
  | .error failure => .error (.invalid failure)

end ServiceShell
