import ServiceShell.Document.Literal
import ServiceShell.Text.Integer
import ServiceShell.Text.Plain

/-!
# Error descriptors

A model marks some of its definitions as exceptions. Each becomes a descriptor with the status of
the response, whether a retry makes sense, and whose fault it is.
-/

namespace ServiceShell

/-- Whose fault an error is. -/
inductive Fault where
  /-- The sender of the request. -/
  | client
  /-- The service. -/
  | server
  deriving DecidableEq, Repr

/-- An error that a service declares. -/
structure ErrorDescriptor where
  /-- The name of the definition. -/
  name : String
  /-- The code in the response. -/
  code : Option String := none
  /-- The status of the response. -/
  httpStatus : Option Int := none
  /-- Whether the definition says that a retry makes sense. -/
  retryable : Bool := false
  /-- Whether the error tells to slow down. -/
  throttling : Bool := false
  /-- Whose fault the error is, if the model tells. -/
  fault : Option Fault := none
  /-- The documentation as plain text. -/
  description : String := ""
  deriving DecidableEq, Inhabited

namespace ErrorDescriptor

/-- Why a definition cannot be described. -/
inductive Refusal where
  /-- The documentation is neither missing nor a text. -/
  | documentation
  /-- The documentation has a reference by a number of so many digits, which are too many. -/
  | digits (count : Nat)
  /-- The status is infinite. -/
  | status
  deriving DecidableEq, Repr

/-! ## Status codes -/

/-- Reads an integer from bytes, which have to be ASCII. -/
def integerOfBytes? (bytes : List UInt8) : Option Int :=
  if bytes.all (· < 128) then
    Text.readInteger? (String.ofList (bytes.map fun b => Char.ofNat b.toNat))
  else none

/-- The status that a model declares; what gives no integer counts as missing. -/
def status (d : Document) : Except Refusal (Option Int) :=
  match d with
  | .scalar (.number (.int n)) => .ok (some n)
  | .scalar (.number (.float x)) =>
    match Decimal.Parts.ofFloat x with
    | .infinite _ => .error .status
    | _ => .ok (Decimal.truncate? x)
  | .text s => .ok (Text.readInteger? s)
  | .scalar (.bytes b) => .ok (integerOfBytes? b)
  | _ => .ok none

/-! ## Descriptors -/

/-- Whose fault an error is: the service's when its definition has a fault marker, else what the
sender marker of its error entry tells. -/
def faultOf (definition error : Document) : Option Fault :=
  if (definition.getD "fault").isTruthy then some .server
  else
    match error.get? "senderFault" with
    | some marker => some (if marker.isTruthy then .client else .server)
    | none => none

/-- The description of a definition: its documentation as plain text. -/
def describe (documentation : Document) : Except Refusal String :=
  match documentation with
  | .text s =>
    match Text.overlong? s with
    | none => .ok (Text.plain s)
    | some count => .error (.digits count)
  | d => if d.isTruthy then .error .documentation else .ok ""

/-- Whether a definition tells that a retry makes sense: a marker other than null and false. -/
def isRetryable : Document → Bool
  | .null => false
  | .bool b => b
  | _ => true

/-- The descriptor of a definition. -/
def ofDefinition (name : String) (definition : Document) : Except Refusal ErrorDescriptor := do
  let error := match definition.getD "error" with
    | .object fields => Document.object fields
    | _ => .null
  let marker := definition.getD "retryable"
  let httpStatus ← status (error.getD "httpStatusCode")
  let description ← describe (definition.getD "documentation")
  return {
    name
    code := (error.getD "code").text?
    httpStatus
    retryable := isRetryable marker
    throttling := (marker.getD "throttling").isTruthy
    fault := faultOf definition error
    description }

/-- Whether a definition is marked as an exception. -/
def isException (definition : Document) : Bool := (definition.getD "exception").isTruthy

/-- The descriptors of the exceptions of a table, in declared order. -/
def ofTable (table : Fields) : Except Refusal (List ErrorDescriptor) :=
  (table.filter fun e => isException e.2).mapM fun e => ofDefinition e.1.spelling e.2

end ErrorDescriptor

end ServiceShell
