import ServiceShell.Proofs.Json.Characters
import ServiceShell.Proofs.Schema.Validity
import ServiceShell.Proofs.Text.Split
import ServiceShell.Proofs.Workspace.Job
import ServiceShell.Schema.Store

/-!
# Schemas that are saved

Saving the record of a schema comes to one of two things, unless its file cannot be written: the
record has problems, which are told, and nothing changes; or a file holds the record, which is read
back from it.

Main results:

- Definition `Workspace.HasSaved`: what saving a schema leaves behind.
- Theorem `Workspace.schema_of_lookup?`: a schema is read from the file that holds its text.
- Theorem `Job.run_saveSchema`: what saving a schema comes to.
-/

namespace ServiceShell

/-! ## Reading -/

namespace Workspace

/-- A schema is read from the file that holds its text. -/
theorem schema_of_lookup? {w : Workspace} {path : Path} {place : Place} {fields : Fields}
    (hschema : (Document.object fields).IsMadeOf Json.IsWritable)
    (hlocate : w.files.locate w.directory path = .ok place)
    (hlookup : w.files.lookup? place = some (.file (schemaText (.object fields)).toUTF8)) :
    w.schema path = .ok (.object fields) := by
  have hfind := FileTree.find_eq_ok_iff.mpr ⟨place, hlocate, hlookup⟩
  have htext : w.schemaFileText path = .ok (schemaText (.object fields)) := by
    rw [schemaFileText, FileTree.content, hfind]
    simp only
    rw [schemaText, Json.textOf_write Json.indented hschema]
    rfl
  have hparse : Json.parse (schemaText (.object fields)) = .ok (.object fields) :=
    Json.parse_write_lineEnd Json.indented hschema
  rw [schema, htext]
  simp only [bind, Except.bind, hparse]
  rfl

/-- A file at a path holds the record of a schema, which is read back from it; every other file is
as it was, and only directories are new besides. -/
structure HasSaved (before after : Workspace) (path : Path) (schema : Document) : Prop where
  /-- Only the files are changed. -/
  files : after = { before with files := after.files }
  /-- Of these, only the file at the path is. -/
  written : ∃ place, after.files.locate after.directory path = .ok place ∧
    before.files.IsWritten after.files place (schemaText schema).toUTF8
  /-- The schema is read back. -/
  read : after.schema path = .ok schema

end Workspace

/-! ## A schema -/

/-- The record of a schema with a double in its metadata. -/
def weatherSchema : Document :=
  .ofPairs [
    ("service", .text "weather"),
    ("operations", .list [.ofPairs [("name", .text "get-report"),
      ("original_name", .text "GetReport"), ("http_method", .text "POST"),
      ("http_uri", .text "/")]]),
    ("metadata", .ofPairs [("scale", .float 1.5)]),
    ("generated_at", .text "2024-01-01T00:00:00Z"),
    ("schema_version", .int 1),
    ("extractor_version", .text "1.0")]

theorem isMadeOf_weatherSchema : weatherSchema.IsMadeOf Json.IsWritable := by
  have hdouble : Json.IsReadBack 1.5 := by
    unfold Json.IsReadBack
    decide +kernel
  have hoperation : (Document.ofPairs [("name", .text "get-report"),
      ("original_name", .text "GetReport"), ("http_method", .text "POST"),
      ("http_uri", .text "/")]).IsMadeOf Json.IsWritable := by
    refine .ofPairs (by decide) ?_
    simp only [List.forall_mem_cons]
    exact ⟨.scalar trivial, .scalar trivial, .scalar trivial, .scalar trivial, by simp⟩
  refine .ofPairs (by decide) ?_
  simp only [List.forall_mem_cons]
  refine ⟨.scalar trivial, .list (List.forall_mem_singleton.mpr hoperation),
    .ofPairs (by decide) (List.forall_mem_singleton.mpr (.scalar hdouble)), .scalar trivial,
    .scalar (show _ ≤ Json.digitLimit by decide), .scalar trivial, by simp⟩

/-- The path of the schema in a directory. -/
theorem schemaPath_weatherSchema :
    schemaPath ⟨"/", ["out"]⟩ weatherSchema.fields = ⟨"/", ["out", "weather.json"]⟩ := by
  have hsplit : "weather.json".splitOn "/" = ["weather.json"] :=
    (Text.splitOn_ofList "weather.json" '/').trans (by decide)
  have hservice : schemaService weatherSchema.fields = "weather" := by decide
  rw [schemaPath, hservice, Path.child, Path.ofText,
    show "weather" ++ ".json" = "weather.json" from rfl, hsplit]
  rfl

/-! ## Saving -/

namespace Job

/-- Saving the record of a schema comes to one of two things: the record has problems, which are all
told, and nothing changes; or it has none, and is read back from a file that holds it.  Where this
file cannot be written, no file changes. -/
theorem run_saveSchema {schema : Document} (hschema : schema.IsMadeOf Json.IsWritable)
    (directory : Path) (w : Workspace) :
    (Schema.problems schema ≠ [] ∧ (saveSchema schema directory true).run w =
        (.error (.schema (Schema.problems schema)), w)) ∨
      (Schema.problems schema = [] ∧ ∃ path later,
        (saveSchema schema directory true).run w = (.ok path, later) ∧
          w.HasSaved later path schema) ∨
      (Schema.problems schema = [] ∧
        ¬ w.files.Admits w.directory w.token (schemaPath directory schema.fields) ∧
        ∃ e files, (saveSchema schema directory true).run w =
            (.error (.unexpected (.file e)), { w with files }) ∧ w.files.Grows files) := by
  by_cases hvalid : Schema.isValid schema = true
  · have hproblems : Schema.problems schema = [] := List.isEmpty_iff.mp hvalid
    obtain ⟨fields, rfl⟩ : ∃ fields, schema = .object fields := by
      have hobject := (Schema.isValid_iff_isSchema.mp hvalid).isObject_eq
      cases schema with
      | object fields => exact ⟨fields, rfl⟩
      | scalar | list => cases hobject
    have hsave : (saveSchema (.object fields) directory true).run w =
        (do
          writeText (schemaPath directory fields) (schemaText (.object fields))
          return schemaPath directory fields : Job Path).run w := by
      simp [saveSchema, hvalid]
    rw [hsave, run_bind]
    by_cases hadmits : w.files.Admits w.directory w.token (schemaPath directory fields)
    · obtain ⟨made, parent, hadmitted⟩ := hadmits
      obtain ⟨files, hwrite, hwritten, hlocate⟩ :=
        run_writeText_of_isAdmitted hadmitted (schemaText (.object fields))
      rw [hwrite]
      refine .inr (.inl ⟨hproblems, _, _, rfl, rfl, ⟨_, hlocate, hwritten⟩, ?_⟩)
      exact Workspace.schema_of_lookup? hschema hlocate hwritten.written
    · obtain ⟨e, files, hwrite, hgrows⟩ :=
        run_writeText_of_not_admits hadmits (schemaText (.object fields))
      rw [hwrite]
      exact .inr (.inr ⟨hproblems, hadmits, e, files, rfl, hgrows⟩)
  · rw [Bool.not_eq_true] at hvalid
    refine .inl ⟨?_, run_saveSchema_problems hvalid directory w⟩
    intro hnil
    rw [Schema.isValid, hnil] at hvalid
    cases hvalid

/-- The schema is saved in a new directory, and is read back from there. -/
theorem run_saveSchema_weatherSchema :
    weatherSchema.IsMadeOf Json.IsWritable ∧ ∃ path later,
      (saveSchema weatherSchema ⟨"/", ["out"]⟩ true).run
          { (default : Workspace) with files := {} } =
        (.ok path, later) ∧
      { (default : Workspace) with files := {} }.HasSaved later path weatherSchema := by
  refine ⟨isMadeOf_weatherSchema, ?_⟩
  have hproblems : Schema.problems weatherSchema = [] := by decide +kernel
  rcases run_saveSchema isMadeOf_weatherSchema ⟨"/", ["out"]⟩
      { (default : Workspace) with files := {} } with
    ⟨hsome, -⟩ | ⟨-, path, later, hrun, hsaved⟩ | ⟨-, hadmits, -⟩
  · exact absurd hproblems hsome
  · exact ⟨path, later, hrun, hsaved⟩
  · rw [schemaPath_weatherSchema] at hadmits
    exact absurd ⟨_, ["out"], rfl, rfl, by decide, by decide, by decide, by decide,
      nofun⟩ hadmits

end Job

end ServiceShell
