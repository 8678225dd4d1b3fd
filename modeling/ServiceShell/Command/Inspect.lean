import ServiceShell.Command.Basic
import ServiceShell.Command.Compile
import ServiceShell.Host.Column

/-!
# Inspecting models

Tables of what a model comes to: its operations, errors, resources and pagination, and the columns
of the output of an operation.
-/

namespace ServiceShell

/-! ## Cells -/

/-- The text of a cell, which a hyphen fills where there is none. -/
def orHyphen (text : Option String) : String :=
  match text with
  | none | some "" => "-"
  | some text => text

/-- The text of a cell that is filled only where something holds. -/
def yesOrEmpty (b : Bool) : String := if b then "Yes" else ""

/-- The text of the cell for a member name, or several. -/
def PageKey.cell : Option PageKey → String
  | none => "-"
  | some (.one name) => name
  | some (.several names) => ", ".intercalate names

/-! ## Tables -/

/-- The table of operations. -/
def Schema.operationTable (s : Schema) : Table :=
  { headers := ["Command", "Operation", "Method", "URI", "Input", "Output", "Deprecated"]
    rows := s.operations.map fun o =>
      [o.name, o.modelName, o.httpMethod, o.httpUri, orHyphen o.inputShape,
        orHyphen o.outputShape, yesOrEmpty o.deprecated] }

/-- The table of errors. -/
def Schema.errorTable (s : Schema) : Table :=
  { headers := ["Error", "Code", "Status", "Retryable", "Throttling", "Fault"]
    rows := s.errors.map fun e =>
      [e.name, orHyphen e.code, orHyphen (e.httpStatus.map toString), yesOrEmpty e.retryable,
        yesOrEmpty e.throttling, orHyphen (e.fault.map Fault.word)] }

/-- The table of resources. -/
def Schema.resourceTable (s : Schema) : Table :=
  { headers := ["Resource", "Operations"]
    rows := s.resources.map fun r => [r.name, ", ".intercalate r.operations] }

/-- The table of the operations whose output comes in pages. -/
def Schema.paginationTable (s : Schema) : Table :=
  { headers := ["Operation", "Source", "Input token", "Output token", "Limit", "Result key"]
    rows := (s.operations.filter (·.pagination.paginated)).map fun o =>
      [o.modelName, orHyphen (o.pagination.source.map PageSource.word),
        PageKey.cell o.pagination.inputToken, PageKey.cell o.pagination.outputToken,
        PageKey.cell (o.pagination.limitKey.map .one), PageKey.cell o.pagination.resultKey] }

/-! ## Columns -/

/-- The only list in an output, if there is just one. -/
def onlyList? (output : Shape) : Option Shape :=
  match (output.members.map Member.shape).filter Shape.isList with
  | [shape] => some shape
  | _ => none

/-- The columns that are shown for an output. -/
def outputColumns (output : Shape) : List Column :=
  Column.ofShape ((onlyList? output).getD output) Column.defaultDepth

/-- The table of the columns of an output. -/
def columnTable (output : Shape) : Table :=
  { headers := ["Column", "Type"]
    rows := (outputColumns output).map fun c => [c.name, c.type.render] }

namespace Action

/-! ## Commands -/

/-- The schema of the model from a source. -/
def sourceSchema (source : String) (pages : Option String) : Action Schema := do
  let settings ← perform (Job.settings {})
  let model ← model source pages
  schema none settings.generator.maxDepth model

/-- Prints what a model comes to. -/
def inspect (format : Format) (source : String) : Inspection → Action Unit
  | .operations => do print ((← sourceSchema source none).operationTable.linesIn format)
  | .errors => do print ((← sourceSchema source none).errorTable.linesIn format)
  | .resources => do print ((← sourceSchema source none).resourceTable.linesIn format)
  | .pagination pages => do print ((← sourceSchema source pages).paginationTable.linesIn format)
  | .columns name => do
    let settings ← perform (Job.settings {})
    let model ← model source none
    let o ← operation settings.generator.maxDepth model name
    print ((columnTable o.output).linesIn format)

end Action

end ServiceShell
