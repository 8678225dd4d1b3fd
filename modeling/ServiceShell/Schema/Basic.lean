import ServiceShell.Module
import ServiceShell.Service.Resource
import ServiceShell.Signature.Batch

/-!
# Service schemas

Everything that is known about a service, in one record for the program that carries out the
commands: its operations with resolved input and output, its errors, its resources and its metadata.
-/

namespace ServiceShell

open Record

/-- An operation as it stands in a schema. -/
structure OperationRecord where
  /-- The hyphenated name. -/
  name : String
  /-- The name in the model. -/
  modelName : String
  /-- The request method. -/
  httpMethod : String
  /-- The request path. -/
  httpUri : String
  /-- The name of the input shape. -/
  inputShape : Option String := none
  /-- The name of the output shape. -/
  outputShape : Option String := none
  /-- The input. -/
  input : Option Shape := none
  /-- The output. -/
  output : Option Shape := none
  /-- The names of the errors that the operation declares. -/
  errors : List String := []
  /-- The documentation, still marked up. -/
  documentation : String := ""
  /-- Whether the operation is deprecated. -/
  deprecated : Bool := false
  /-- What to use instead. -/
  deprecationMessage : Option String := none
  /-- How the output comes in pages. -/
  pagination : Pagination := {}
  deriving Inhabited

/-- The schema of a service. -/
structure Schema where
  /-- The name of the service. -/
  service : String
  /-- The operations, in the order of the model. -/
  operations : List OperationRecord := []
  /-- The errors, in the order of the model. -/
  errors : List ErrorDescriptor := []
  /-- The resources. -/
  resources : List Resource := []
  /-- The metadata, by name. -/
  metadata : List (String × String) := []
  /-- When the schema was made. -/
  generatedAt : String
  /-- The version of the form of schemas. -/
  schemaVersion : String
  /-- The version of the generator. -/
  extractorVersion : String
  deriving Inhabited

namespace Schema

/-! ## Parts -/

/-- The version of the form of schemas. -/
def version : String := "1.0"

/-- An operation with its pagination, as it stands in a schema. -/
def recordOf (pagination : Fields) (o : Operation) : OperationRecord :=
  { name := o.name
    modelName := o.modelName
    httpMethod := o.httpMethod
    httpUri := o.httpUri
    inputShape := o.inputShape
    outputShape := o.outputShape
    input := some o.input
    output := some o.output
    errors := o.errors
    documentation := o.documentation
    deprecated := o.deprecated
    deprecationMessage := o.deprecationMessage
    pagination := Pagination.detect o ((Fields.get? o.modelName pagination).getD .null) }

/-- The metadata that a schema keeps. -/
def metadataOf (m : Metadata) : List (String × String) :=
  [("api_version", m.apiVersion), ("protocol", m.protocol),
   ("service_full_name", m.serviceFullName), ("endpoint_prefix", m.endpointPrefix),
   ("signature_version", m.signatureVersion)]

/-- A point of time to the second, as `2026-01-01T12:00:00Z`. -/
def timestamp (t : Instant) : String :=
  t.date.spelling ++ "T" ++ decimalPadded 2 t.hour ++ ":" ++ decimalPadded 2 t.minute ++ ":"
    ++ decimalPadded 2 t.second ++ "Z"

/-! ## Building -/

/-- The schema of a model at a time. -/
def ofModel (now : Instant) (service : Option String) (limit : Option Int) (model : Document) :
    Except CompileError Schema :=
  if Metadata.isOverlong model then .error .overlong
  else
    match Operation.ofModel model limit with
    | .error failure => .error (.invalid failure)
    | .ok operations =>
      match ErrorDescriptor.ofTable (Operation.shapeTable model) with
      | .error refusal => .error (.badError refusal)
      | .ok errors =>
        .ok
          { service := Signature.serviceOf model service
            operations := operations.map (recordOf (model.getD "pagination").fields)
            errors
            resources := Resource.ofOperations operations
            metadata := metadataOf (.ofModel model)
            generatedAt := timestamp now
            schemaVersion := version
            extractorVersion := Program.version }

end Schema

end ServiceShell
