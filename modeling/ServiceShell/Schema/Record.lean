import ServiceShell.Record.Decode
import ServiceShell.Record.Encode
import ServiceShell.Schema.Basic
import ServiceShell.Settings.Record

/-!
# Records of schemas

The document form of schemas, which is what is written to a file, and how it is read back.
-/

namespace ServiceShell

open Document Record

/-- The shape of an input or output, or no value. -/
def encodeShape? : Option Shape → Document
  | some shape => shape.encode
  | none => .null

/-- The record of an operation in a schema. -/
def OperationRecord.encode (o : OperationRecord) : Document :=
  ofPairs [
    ("name", .text o.name),
    ("original_name", .text o.modelName),
    ("http_method", .text o.httpMethod),
    ("http_uri", .text o.httpUri),
    ("input_shape", ofText? o.inputShape),
    ("output_shape", ofText? o.outputShape),
    ("input_schema", encodeShape? o.input),
    ("output_schema", encodeShape? o.output),
    ("errors", ofTexts o.errors),
    ("documentation", .text o.documentation),
    ("deprecated", .bool o.deprecated),
    ("deprecation_message", ofText? o.deprecationMessage),
    ("pagination", o.pagination.encode)]

/-- Reads an operation of a schema. -/
def OperationRecord.decode : Document → Reading OperationRecord :=
  record "OperationRecord" fun fields =>
    OperationRecord.mk <$> field fields "name" text
      <*> field fields "original_name" text
      <*> field fields "http_method" text
      <*> field fields "http_uri" text
      <*> fieldD fields "input_shape" none (optional text)
      <*> fieldD fields "output_shape" none (optional text)
      <*> fieldD fields "input_schema" none (optional Shape.decode)
      <*> fieldD fields "output_schema" none (optional Shape.decode)
      <*> fieldD fields "errors" [] (list text)
      <*> fieldD fields "documentation" "" text
      <*> fieldD fields "deprecated" false boolean
      <*> fieldD fields "deprecation_message" none (optional text)
      <*> fieldD fields "pagination" {} Pagination.decode

/-- The record of a schema, however deep its shapes are. -/
def Schema.encode (s : Schema) : Document :=
  ofPairs [
    ("service", .text s.service),
    ("operations", .list (s.operations.map OperationRecord.encode)),
    ("errors", .list (s.errors.map ErrorDescriptor.encode)),
    ("resources", .list (s.resources.map Resource.encode)),
    ("metadata", ofPairs (s.metadata.map fun m => (m.1, .text m.2))),
    ("generated_at", .text s.generatedAt),
    ("schema_version", .text s.schemaVersion),
    ("extractor_version", .text s.extractorVersion)]

/-- The shapes of the operations of a schema. -/
def Schema.shapes (s : Schema) : List Shape :=
  s.operations.flatMap fun o => o.input.toList ++ o.output.toList

/-- The record of a schema, unless a shape is nested too deep for one. -/
def Schema.toRecord (s : Schema) : Except CompileError Document :=
  if s.shapes.all Shape.isRecordable then .ok s.encode else .error .tooDeep

/-- Reads a schema. -/
def Schema.decode : Document → Reading Schema :=
  record "ServiceSchema" fun fields =>
    Schema.mk <$> field fields "service" text
      <*> fieldD fields "operations" [] (list OperationRecord.decode)
      <*> fieldD fields "errors" [] (list ErrorDescriptor.decode)
      <*> fieldD fields "resources" [] (list Resource.decode)
      <*> fieldD fields "metadata" [] texts
      <*> field fields "generated_at" text
      <*> field fields "schema_version" text
      <*> field fields "extractor_version" text

end ServiceShell
