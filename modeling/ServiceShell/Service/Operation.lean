import ServiceShell.Shape.Resolve
import ServiceShell.Text.Naming

/-!
# Operations

The operations of a service in full: every field has a value, whatever the model leaves out, and
input and output are resolved shapes. The order is that of the model.
-/

namespace ServiceShell

open Record

/-- An operation of a service. -/
structure Operation where
  /-- The hyphenated name, the last word of the command. -/
  name : String
  /-- The name in the model. -/
  modelName : String
  /-- The request method. -/
  httpMethod : String := "POST"
  /-- The request path. -/
  httpUri : String := "/"
  /-- The name of the input shape. -/
  inputShape : Option String := none
  /-- The name of the output shape. -/
  outputShape : Option String := none
  /-- The input. -/
  input : Shape := .empty
  /-- The output. -/
  output : Shape := .empty
  /-- The names of the errors that the operation declares. -/
  errors : List String := []
  /-- The documentation, still marked up. -/
  documentation : String := ""
  /-- Whether the operation is deprecated. -/
  deprecated : Bool := false
  /-- What to use instead of a deprecated operation. -/
  deprecationMessage : Option String := none
  deriving Inhabited

namespace Operation

/-! ## References -/

/-- A text that is not empty. -/
def nonEmpty? (text : Option String) : Option String := text.filter (· ≠ "")

/-- The name that a reference holds: it is a name or an object with one. -/
def referenceName? (reference : Document) : Option String :=
  match reference with
  | .object fields => nonEmpty? ((Fields.get? "shape" fields).bind Document.text?)
  | d => nonEmpty? d.text?

/-- Resolves a named shape; no name is the record without members. -/
def resolveOrEmpty (table : Fields) (limit : Option Int) : Option String → Except Failure Shape
  | some name => Shape.resolve table limit (.text name)
  | none => .ok .empty

/-! ## Extraction -/

/-- The text of a field unless it is empty or no text. -/
def textOr (default : String) (d : Document) : String := (nonEmpty? d.text?).getD default

/-- The operation that an entry of a model describes. An entry that is no object describes one with
all fields left out. -/
def ofEntry (key : String) (entry : Document) (table : Fields) (limit : Option Int) :
    Except Failure Operation := do
  let http := entry.getD "http"
  let modelName := (entry.getD "name").text?.getD key
  let inputShape := referenceName? (entry.getD "input")
  let outputShape := referenceName? (entry.getD "output")
  let input ← resolveOrEmpty table limit inputShape
  let output ← resolveOrEmpty table limit outputShape
  return {
    name := Naming.kebab modelName
    modelName
    httpMethod := Text.toUpper (textOr "POST" (http.getD "method"))
    httpUri := textOr "/" (http.getD "requestUri")
    inputShape, outputShape, input, output
    errors := ((entry.getD "errors").items?.getD []).filterMap referenceName?
    documentation := textOrEmpty (entry.getD "documentation")
    deprecated := (entry.getD "deprecated").isTruthy
    deprecationMessage := (entry.getD "deprecatedMessage").text? }

/-- The entries of a model's operations; none when the model or that part of it is no object. -/
def entries (model : Document) : List (String × Document) :=
  (model.getD "operations").fields.map fun e => (e.1.spelling, e.2)

/-- The table of definitions of a model. -/
def shapeTable (model : Document) : Fields := (model.getD "shapes").fields

/-- The operations of a model, in its order. -/
def ofModel (model : Document) (limit : Option Int) : Except Failure (List Operation) :=
  (entries model).mapM fun e => ofEntry e.1 e.2 (shapeTable model) limit

end Operation

end ServiceShell
