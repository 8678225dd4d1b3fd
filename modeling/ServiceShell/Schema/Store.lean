import ServiceShell.Json.Printer
import ServiceShell.Json.Reader
import ServiceShell.Schema.Validation
import ServiceShell.Workspace.Basic

/-!
# Schemas in files

A schema is saved as a file that is named for its service, unless it has problems. It is read back
from any file that holds an object.

Main statements:

- `Job.run_saveSchema_problems`: a schema with problems is not saved, and nothing changes.
-/

namespace ServiceShell

/-! ## Saving -/

/-- The name of the service that a schema is for, or a general one. -/
def schemaService (fields : Fields) : String :=
  match (Fields.get? "service" fields).bind Document.text? with
  | some name => if name = "" then "service" else name
  | none => "service"

/-- The path of the file for a schema in a directory. -/
def schemaPath (directory : Path) (fields : Fields) : Path :=
  directory.child (schemaService fields ++ ".json")

/-- The text of a file with a schema. -/
def schemaText (schema : Document) : String := Json.indented.write schema ++ "\n"

namespace Job

/-- Saves the record of a schema, and tells where. One with problems is not saved, if it is to be
checked. -/
def saveSchema (schema : Document) (directory : Path) (check : Bool) : Job Path :=
  if check && !Schema.isValid schema then fail (.schema (Schema.problems schema))
  else
    match schema with
    | .object fields => do
      let path := schemaPath directory fields
      writeText path (schemaText schema)
      return path
    | _ => fail (.unexpected .unreadableSchema)

/-- A schema with problems is not saved, and nothing changes. -/
theorem run_saveSchema_problems {schema : Document} (h : Schema.isValid schema = false)
    (directory : Path) (w : Workspace) :
    (saveSchema schema directory true).run w =
      (.error (.schema (Schema.problems schema)), w) := by
  simp [saveSchema, h]

end Job

/-! ## Reading -/

namespace Workspace

/-- The text of a file with a schema. -/
def schemaFileText (w : Workspace) (path : Path) : Except Trouble String :=
  match w.files.content w.directory path with
  | .ok bytes => (textOf bytes).mapError fun b => .unexpected (.bytes b)
  | .error e =>
    .error (match e.problem with
      | .missing => .source (.missingSchema path.text)
      | .badName => .unexpected (.file e)
      | _ => .source (.unreadableSchema e path.text))

/-- The record of the schema in a file. -/
def schema (w : Workspace) (path : Path) : Except Trouble Document := do
  match Json.parse (← w.schemaFileText path) with
  | .ok (.object fields) => return .object fields
  | .ok _ => .error (.source (.schemaNotObject path.text))
  | .error (.invalid problem place) =>
    .error (.source (.schemaNotJson problem place path.text))
  | .error (.tooManyDigits count) => .error (.unexpected (.digits count))

end Workspace

end ServiceShell
