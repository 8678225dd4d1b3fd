import ServiceShell.Document.Literal
import ServiceShell.Service.Operation
import ServiceShell.Text.Case

/-!
# Pagination

How the output of an operation comes in pages. A model can say so in its own section; else it is
inferred from the names of members: a token in input and output, a limit in the input, and a list in
the output.
-/

namespace ServiceShell

/-- One member name, or several as they are given. -/
inductive PageKey where
  /-- One name. -/
  | one (name : String)
  /-- Several names. -/
  | several (names : List String)
  deriving DecidableEq, Repr

/-- Where a pagination descriptor comes from. -/
inductive PageSource where
  /-- The model says so. -/
  | explicit
  /-- Member names suggest it. -/
  | inferred
  deriving DecidableEq, Repr

/-- The word for a source. -/
def PageSource.word : PageSource → String
  | .explicit => "explicit"
  | .inferred => "inferred"

/-- How an output comes in pages. -/
structure Pagination where
  /-- Whether it does. -/
  paginated : Bool := false
  /-- The input member that takes the token of the next page. -/
  inputToken : Option PageKey := none
  /-- The output member that gives it. -/
  outputToken : Option PageKey := none
  /-- The input member that limits the size of a page. -/
  limitKey : Option String := none
  /-- The output member that holds the data. -/
  resultKey : Option PageKey := none
  /-- Where this is known from. -/
  source : Option PageSource := none
  deriving DecidableEq, Inhabited

namespace Pagination

/-- The descriptor of an output that comes in one piece. -/
def none : Pagination := {}

/-! ## Member names -/

/-- A name as its ASCII letters, in lower case, and digits. -/
def compact (name : String) : String :=
  String.ofList ((name.toList.map Text.lower).filter fun c => c.isLower || c.isDigit)

/-- The first member with a compact name. -/
def findCompact? (members : List (Member Shape)) (name : String) : Option String :=
  (members.find? fun m => compact m.name = name).map Member.name

/-- The compact name of members that hold a page token. -/
def tokenName : String := "nexttoken"

/-- The compact name of members that limit the size of a page. -/
def limitName : String := "maxresults"

/-! ## Explicit descriptors -/

/-- The names that an entry gives for a key. -/
def pageKey? : Document → Option PageKey
  | .text name => some (.one name)
  | .list items => some (.several (items.map Document.spelling))
  | _ => Option.none

/-- The descriptor that an entry of the pagination section gives. -/
def ofEntry (entry : Document) : Pagination :=
  { paginated := true
    inputToken := pageKey? (entry.getD "input_token")
    outputToken := pageKey? (entry.getD "output_token")
    limitKey := (entry.getD "limit_key").text?
    resultKey := pageKey? (entry.getD "result_key")
    source := some .explicit }

/-! ## Inference -/

/-- The names that make two records an inferred pair of pages. -/
structure Inferred where
  /-- The input member that takes the token. -/
  inputToken : String
  /-- The output member that gives it. -/
  outputToken : String
  /-- The input member that limits a page. -/
  limitKey : String
  /-- The output member that holds the data. -/
  resultKey : String
  deriving DecidableEq

/-- Finds the four members, whose names must not be empty. The data is the first list of the
output. -/
def infer? (input output : Shape) : Option Inferred :=
  match input, output with
  | .record _ inputs _ _, .record _ outputs _ _ => do
    let inputToken ← Operation.nonEmpty? (findCompact? inputs tokenName)
    let outputToken ← Operation.nonEmpty? (findCompact? outputs tokenName)
    let limitKey ← Operation.nonEmpty? (findCompact? inputs limitName)
    let resultKey ← Operation.nonEmpty? ((outputs.find? fun m => m.shape.isList).map Member.name)
    return { inputToken, outputToken, limitKey, resultKey }
  | _, _ => Option.none

/-- The descriptor for the members found. -/
def ofInferred (i : Inferred) : Pagination :=
  { paginated := true
    inputToken := some (.one i.inputToken)
    outputToken := some (.one i.outputToken)
    limitKey := some i.limitKey
    resultKey := some (.one i.resultKey)
    source := some .inferred }

/-- The descriptor that member names suggest. -/
def infer (input output : Shape) : Pagination :=
  match infer? input output with
  | some i => ofInferred i
  | Option.none => Pagination.none

/-! ## Detection -/

/-- The descriptor of an operation: none without an output shape, else that of its entry when the
entry is an object that is not empty, else the inferred one. -/
def detect (operation : Operation) (entry : Document) : Pagination :=
  if operation.outputShape.isNone then Pagination.none
  else if entry.isObject && entry.isTruthy then ofEntry entry
  else infer operation.input operation.output

end Pagination

end ServiceShell
