import ServiceShell.Host.Type
import ServiceShell.Service.Pagination

/-!
# Command signatures

The signature of the command for an operation: its words, parameters and return type, and what a
reader has to know about it.
-/

namespace ServiceShell

/-- How the values of a parameter are found. -/
inductive CompletionKind where
  /-- From fixed choices. -/
  | static
  /-- By looking up the resources that exist. -/
  | dynamic
  deriving DecidableEq, Repr, Inhabited

/-- The word for a kind of completion. -/
def CompletionKind.word : CompletionKind → String
  | .static => "static"
  | .dynamic => "dynamic"

/-- A hint how to complete a parameter. -/
structure CompletionHint where
  /-- How values are found. -/
  kind : CompletionKind
  /-- The fixed choices. -/
  choices : List String := []
  /-- The resource to look up. -/
  resource : Option String := none
  /-- The service that has it. -/
  service : Option String := none
  deriving DecidableEq, Inhabited

/-- A parameter of a command. -/
structure Parameter where
  /-- The name on the command line. -/
  name : String
  /-- The name of the member in the model. -/
  modelName : String
  /-- The type. -/
  type : HostType
  /-- Whether it has to be given. -/
  required : Bool := false
  /-- Whether it is given by its place. -/
  positional : Bool := false
  /-- Whether it is a flag without a value. -/
  flag : Bool := false
  /-- Whether it takes all arguments that are left. -/
  rest : Bool := false
  /-- How to complete it. -/
  completion : Option CompletionHint := none
  /-- A line of documentation. -/
  documentation : String := ""
  /-- Whether it is deprecated. -/
  deprecated : Bool := false
  /-- What to use instead. -/
  deprecationMessage : Option String := none
  deriving Inhabited

/-- The signature of the command for an operation. -/
structure Signature where
  /-- The words of the command. -/
  command : String
  /-- The hyphenated name of the operation. -/
  operation : String
  /-- The name of the operation in the model. -/
  modelName : String
  /-- The service. -/
  service : String
  /-- The parameters, the required ones first. -/
  parameters : List Parameter := []
  /-- The type of the result. -/
  returnType : HostType
  /-- A line of documentation. -/
  documentation : String := ""
  /-- What else a reader has to know. -/
  comments : List String := []
  /-- Whether the operation is deprecated. -/
  deprecated : Bool := false
  /-- What to use instead. -/
  deprecationMessage : Option String := none
  /-- How the output comes in pages. -/
  pagination : Pagination := {}
  /-- The names of the errors that the operation declares. -/
  errors : List String := []
  /-- The output member that is returned in place of the whole output. -/
  unwrapKey : Option String := none
  deriving Inhabited

end ServiceShell
