import ServiceShell.Files.Tree
import ServiceShell.Host.Sample
import ServiceShell.Json.Error
import ServiceShell.Record.Failure
import ServiceShell.Schema.Validation
import ServiceShell.Signature.Batch
import ServiceShell.Text.Utf8
import ServiceShell.Yaml.Cursor

/-!
# Trouble

What can keep a job from being done. Some trouble is foreseen: it is told to the user in a sentence,
and the program ends with a code of its own. Anything else breaks the job off.
-/

namespace ServiceShell

open Record

/-! ## Documents from files -/

/-- What is wrong with the source of a model or of a schema. -/
inductive SourceProblem where
  /-- The model file is not there. -/
  | missingModel (path : String)
  /-- The model file holds only blanks. -/
  | emptyModel (path : String)
  /-- The standard input holds only blanks. -/
  | emptyInput
  /-- The text of a JSON file is no JSON. -/
  | notJson (problem : Json.Problem) (place : Json.Place)
  /-- The text is neither JSON, if that was tried, nor YAML. -/
  | unreadable (json : Option (Json.Problem × Json.Place)) (yaml : String)
  /-- The document is no object. -/
  | notObject (kind : String)
  /-- The pagination section is no object. -/
  | noDescriptors (source : String)
  /-- The schema file is not there. -/
  | missingSchema (path : String)
  /-- The schema file is no file that can be read. -/
  | unreadableSchema (error : FileError) (path : String)
  /-- The text of a schema is no JSON. -/
  | schemaNotJson (problem : Json.Problem) (place : Json.Place) (path : String)
  /-- The schema is no object. -/
  | schemaNotObject (path : String)
  deriving DecidableEq, Repr

/-- The text that tells what is wrong with the text of a document. -/
def jsonMessage (problem : Json.Problem) (place : Json.Place) : String :=
  (Json.Error.invalid problem place).message

/-- The text that tells a problem with a source. -/
def SourceProblem.message : SourceProblem → String
  | missingModel path => "Model file not found: " ++ path
  | emptyModel path => "Model file is empty: " ++ path
  | emptyInput => "No input received from stdin"
  | notJson problem place => "Invalid JSON: " ++ jsonMessage problem place
  | unreadable json yaml =>
    "Failed to parse model as JSON or YAML"
      ++ (match json with
        | some (problem, place) => "\n  JSON error: " ++ jsonMessage problem place
        | none => "")
      ++ "\n  YAML error: " ++ yaml
  | notObject kind => "Model must be a JSON/YAML object (got " ++ kind ++ ")"
  | noDescriptors source =>
    "Pagination document " ++ source ++ " must map operation names to configs"
  | missingSchema path => "Schema file not found: " ++ path
  | unreadableSchema error path => "Cannot read schema " ++ path ++ ": " ++ error.message
  | schemaNotJson problem place path =>
    "Cannot read schema " ++ path ++ ": " ++ jsonMessage problem place
  | schemaNotObject path => "Schema " ++ path ++ " is not a JSON object"

/-! ## Settings -/

/-- What is wrong with a file of settings. -/
inductive SettingsFileProblem where
  /-- Its bytes are no text. -/
  | bytes (bytes : Text.BadBytes)
  /-- Its text is no JSON. -/
  | json (error : Json.Error)
  /-- It does not hold settings. -/
  | record (failure : Failure)
  /-- It holds no object. -/
  | notObject
  deriving DecidableEq, Repr

/-- The text that tells a problem with a file of settings. -/
def SettingsFileProblem.message : SettingsFileProblem → String
  | .bytes b => b.message
  | .json e => e.message
  | .record failure => failure.message
  | .notObject => "expected a JSON object"

/-- What is wrong with the settings. -/
inductive SettingsProblem where
  /-- The user's file has a problem. -/
  | userFile (path : String) (problem : SettingsFileProblem)
  /-- The project's file has a problem. -/
  | projectFile (path : String) (problem : SettingsFileProblem)
  /-- A variable holds no integer. -/
  | notInteger (name text : String)
  /-- The settings of all layers together are no settings. -/
  | invalid (failure : Failure)
  deriving DecidableEq, Repr

/-- The text that tells a problem with the settings. -/
def SettingsProblem.message : SettingsProblem → String
  | userFile path problem => "Invalid global config at " ++ path ++ ": " ++ problem.message
  | projectFile path problem => "Invalid project config at " ++ path ++ ": " ++ problem.message
  | notInteger name text =>
    "Environment variable " ++ name ++ " must be an integer, got: " ++ text
  | invalid failure => "Invalid configuration: " ++ failure.message

/-! ## Breakdowns -/

/-- What breaks a job off. -/
inductive Breakdown where
  /-- A file cannot be used. -/
  | file (error : FileError)
  /-- Bytes are no text. -/
  | bytes (bytes : Text.BadBytes)
  /-- An integer in a text has too many digits. -/
  | digits (count : Nat)
  /-- A value in YAML text is not as its type needs it. -/
  | yaml (refusal : Yaml.Refusal)
  /-- A model cannot be compiled. -/
  | compile (error : CompileError)
  /-- A sample value cannot be made. -/
  | sample (refusal : Sample.Refusal)
  /-- A rule for the settings cannot be applied to them. -/
  | rule (fault : Record.RuleFault)
  /-- A section of the settings is no object, so nothing can be put into it. -/
  | closedSection
  /-- The section of the settings for generation is no object, so nothing can be looked up in it. -/
  | unreadableSection
  /-- What is to be saved as a schema is no object. -/
  | unreadableSchema
  /-- The home directory is not known. -/
  | noHome
  deriving DecidableEq, Repr

/-- The text that tells that an integer has too many digits to be spelled. -/
def overlongMessage : String :=
  s!"Exceeds the limit ({Text.integerDigitLimit} digits) for integer string conversion; "
    ++ "use sys.set_int_max_str_digits() to increase the limit"

/-- What is to be known about a breakdown. -/
def Breakdown.message : Breakdown → String
  | file e => e.message
  | .bytes b => b.message
  | digits count | compile (.digits count) | compile (.badError (.digits count)) =>
    (Json.Error.tooManyDigits count).message
  | compile .overlong => overlongMessage
  | yaml (.malformed reason) | yaml (.badValue reason) => reason
  | yaml .overflow => "a number in YAML text is out of range"
  | yaml .unknownWord => "a word in YAML text stands for no truth value"
  | yaml .noDigits => "string index out of range"
  | yaml .notTime => "a text tagged as a time is none"
  | compile (.invalid failure) => failure.message
  | compile (.badError .documentation) => "the documentation of an error cannot be read"
  | compile (.badError .status) => "the status of an error is infinite"
  | compile .tooDeep => "Circular reference detected (depth exceeded)"
  | sample .overflow => "the least number of a type is out of range"
  | sample .notANumber => "cannot convert float NaN to integer"
  | rule fault => fault.message
  | closedSection => "a section of the settings is no object"
  | unreadableSection => "the section of the settings for generation is no object"
  | unreadableSchema => "the schema is no object"
  | noHome => "Could not determine home directory."

/-! ## Trouble -/

/-- What keeps a job from being done. -/
inductive Trouble where
  /-- A model or a schema cannot be had from its source. -/
  | source (problem : SourceProblem)
  /-- A schema has problems. -/
  | schema (problems : List Schema.Problem)
  /-- A file holds no schema, for its problems. -/
  | schemaFile (path : String) (problems : List Schema.Problem)
  /-- The settings have a problem. -/
  | settings (problem : SettingsProblem)
  /-- There is no operation with a name. -/
  | unknownOperation (name : String)
  /-- The job broke off. -/
  | unexpected (breakdown : Breakdown)
  deriving DecidableEq, Repr

/-- The sentence that tells foreseen trouble. -/
def Trouble.message? : Trouble → Option String
  | source problem => some problem.message
  | schema problems =>
    some (s!"Schema failed validation with {problems.length} error(s): "
      ++ "; ".intercalate (problems.map Schema.Problem.message))
  | schemaFile path _ => some (path ++ " is not a valid service schema")
  | settings problem => some problem.message
  | unknownOperation name => some ("Unknown operation: " ++ name)
  | unexpected _ => none

/-- The code with which the program ends. -/
def Trouble.exitCode : Trouble → Nat
  | source _ => 7
  | schema _ | schemaFile .. => 8
  | settings _ => 1
  | unknownOperation _ => 2
  | unexpected _ => 1

/-- The trouble that a refused record of settings is: settings that could not even be checked break
the job off. -/
def Record.Failure.trouble (failure : Failure) (problem : Failure → SettingsProblem) : Trouble :=
  match failure.ruleFault? with
  | some fault => .unexpected (.rule fault)
  | none => .settings (problem failure)

end ServiceShell
