import ServiceShell.Command.Action
import ServiceShell.Module.Store
import ServiceShell.Schema.Record
import ServiceShell.Schema.Store
import ServiceShell.Service.Source
import ServiceShell.Settings.Store
import ServiceShell.Signature.Record

/-!
# Compiling models

The commands that make something of a model: its schema and module, the definitions of its
commands, a sample of an input; and the command that checks a schema.

Main statements:

- `Operation.find?_eq_some`: an operation that is found has the name by which it was looked for.
-/

namespace ServiceShell

/-! ## What was noticed -/

/-- What was noticed when the operations of a model were read. -/
def operationNotices (model : Document) (operations : List Operation) : List Notice :=
  ((Operation.entries model).zip operations).flatMap fun e =>
    entryNotices e.1 e.2.input e.2.output

/-- What was noticed when the schema of a model was made. -/
def schemaNotices (model : Document) (schema : Schema) : List Notice :=
  (((Operation.entries model).zip schema.operations).flatMap fun e =>
      entryNotices e.1 (e.2.input.getD .empty) (e.2.output.getD .empty))
    ++ schema.operations.flatMap (·.pagination.notices)
    ++ [.builtSchema schema.service schema.operations.length]

/-- What was noticed when a signature was made. -/
def signatureNotices (entry : String × Document) (o : Operation) (s : Signature) : List Notice :=
  entryNotices entry o.input o.output ++ s.pagination.notices ++ o.parameterNotices

/-- What was noticed when the signatures of a model were made. -/
def batchNotices (settings : GeneratorSettings) (model : Document) (signatures : List Signature) :
    List Notice :=
  let entries := Operation.entries model
  let operations := ((Operation.ofModel model settings.maxDepth).toOption).getD []
  (if settings.workers ≤ 1 ∨ entries.length ≤ 1 then []
    else [.severalWorkers entries.length settings.workers])
    ++ (entries.zip (operations.zip signatures)).flatMap fun e => signatureNotices e.1 e.2.1 e.2.2

/-! ## Finding operations -/

/-- Whether an operation has a name, as it is in the model or hyphenated. -/
def Operation.isNamed (name : String) (o : Operation) : Bool :=
  name = o.modelName || name = o.name

/-- The first operation with a name. -/
def Operation.find? (operations : List Operation) (name : String) : Option Operation :=
  operations.find? (Operation.isNamed name)

/-- An operation that is found has the name by which it was looked for. -/
theorem Operation.find?_eq_some {operations : List Operation} {name : String} {o : Operation}
    (h : Operation.find? operations name = some o) : name = o.modelName ∨ name = o.name := by
  have := List.find?_some h
  simpa [Operation.isNamed] using this

namespace Action

/-! ## Steps -/

/-- The model from a source, with descriptors of pagination from another one. -/
def model (source : String) (pages : Option String) : Action Document := do
  let d ← perform (Job.modelWith source pages)
  remark .debug ("Loaded model from " ++ source)
  return d

/-- The value of a result of the compiler. -/
def compiled {α : Type} (result : Except CompileError α) : Action α :=
  match result with
  | .ok a => pure a
  | .error e => fail (.unexpected (.compile e))

/-- The schema of a model. -/
def schema (service : Option String) (limit : Option Int) (model : Document) : Action Schema := do
  let now ← perform (Job.ask fun w => .ok w.now)
  let schema ← compiled (Schema.ofModel now service limit model)
  pass (schemaNotices model schema)
  return schema

/-- The signatures of a model. -/
def signatures (settings : GeneratorSettings) (service : Option String) (model : Document) :
    Action (List Signature) := do
  let signatures ← compiled (Signature.ofModel settings service settings.workers model)
  pass (batchNotices settings model signatures)
  return signatures

/-- The operation of a model with a name. -/
def operation (limit : Option Int) (model : Document) (name : String) : Action Operation := do
  let operations ← compiled ((Operation.ofModel model limit).mapError .invalid)
  pass (operationNotices model operations)
  match Operation.find? operations name with
  | some o => return o
  | none => fail (.unknownOperation name)

/-- Tells the problems with a schema, one by one. -/
def tellProblems (problems : List Schema.Problem) : Action Unit :=
  problems.forM fun p => remark .error p.message

/-- Saves a schema; when it has problems, these are told one by one first. -/
def saveSchema (schema : Schema) (directory : Path) (check : Bool) : Action Path := do
  let d ← compiled schema.toRecord
  if check && !Schema.isValid d then
    tellProblems (Schema.problems d)
    fail (.schema (Schema.problems d))
  else perform (Job.saveSchema d directory check)

/-! ## Commands -/

/-- The record of what was written. -/
def writtenRecord (service : String) (schema : Path) (module? : Option Path) : Document :=
  .ofPairs [("service", .text service), ("schema", .text schema.text),
    ("module", .ofText? (module?.map Path.text))]

/-- Writes the module of a model, and tells where. -/
def writeModule (settings : GeneratorSettings) (service : String) (model : Document)
    (directory : Path) : Action Path := do
  let signatures ← signatures settings (some service) model
  let path ← perform (Job.writeModule settings service signatures directory)
  remark .success s!"Wrote {signatures.length} command definitions"
  remark .suggestion ("use " ++ path.text)
  return path

/-- Writes the schema of a model, and its module unless that is not wanted. -/
def generate (format : Format) (source : String) (pages service : Option String)
    (choices : Choices) (check withModule : Bool) : Action Unit := do
  let settings ← perform (Job.settings choices)
  let model ← model source pages
  let directory ← perform (Job.outputDirectory settings)
  let schema ← schema service settings.generator.maxDepth model
  let path ← saveSchema schema directory check
  remark .success s!"Wrote schema for {schema.service} ({schema.operations.length} operations)"
  let module? ←
    if withModule then some <$> writeModule settings.generator schema.service model directory
    else pure none
  print ((writtenRecord schema.service path module?).linesIn format)

/-- Prints the definitions of the commands of a model, or of one operation. -/
def printSignatures (format : Format) (source : String) (operation pages service : Option String)
    (choices : Choices) : Action Unit := do
  let settings ← perform (Job.settings choices)
  let model ← model source pages
  let all ← signatures settings.generator service model
  let chosen := match operation with
    | none => all
    | some name => all.filter fun s => name = s.modelName || name = s.operation
  match operation, chosen with
  | some name, [] => fail (.unknownOperation name)
  | _, _ =>
    if format = .json then do
      let records ← compiled (chosen.mapM Signature.toRecord)
      print [Json.indented.write (.list records)]
    else do
      perform (Job.readMessages chosen)
      print ["\n\n".intercalate (chosen.map (·.render settings.generator.dispatcher))]

/-- Checks the schema in a file. -/
def validate (format : Format) (source : String) : Action Unit := do
  let d ← perform (Job.ask (·.schema (.ofText source)))
  if format = .json then print [Json.indented.write (Schema.encodeResult d)]
  if Schema.isValid d then remark .success (source ++ " is valid")
  else
    tellProblems (Schema.problems d)
    fail (.schemaFile source (Schema.problems d))

/-- Prints a sample of the input of an operation. -/
def printSample (format : Format) (source name : String) (includeOptional : Bool) :
    Action Unit := do
  let settings ← perform (Job.settings {})
  let model ← model source none
  let o ← operation settings.generator.maxDepth model name
  let now ← perform (Job.ask fun w => .ok w.now)
  match Sample.ofShape { now, includeOptional } Sample.defaultDepth o.input with
  | .ok sample => print (sample.linesIn format)
  | .error refusal => fail (.unexpected (.sample refusal))

end Action

end ServiceShell
