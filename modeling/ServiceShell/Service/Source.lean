import ServiceShell.Json.Reader
import ServiceShell.Service.PaginationSection
import ServiceShell.Text.Blank
import ServiceShell.Workspace.Basic
import ServiceShell.Yaml.Value

/-!
# Models from files

A model is read from a file or from the standard input. It is written in JSON or in YAML: the ending
of the file's name tells, or else JSON is tried first.

Main statements:

- `modelFields_object`: a document that is an object gives its fields.
-/

namespace ServiceShell

/-! ## Texts -/

/-- How the text of a model is written, as far as that is known. -/
inductive ModelForm where
  /-- As JSON. -/
  | json
  /-- As YAML. -/
  | yaml
  /-- As one of them. -/
  | either
  deriving DecidableEq, Repr

/-- The form that the ending of a file's name tells. -/
def ModelForm.ofPath (path : Path) : ModelForm :=
  let ending := String.ofList (path.suffix.toList.map Char.toLower)
  if ending = ".json" then .json else if ending = ".yaml" ∨ ending = ".yml" then .yaml else .either

/-- The word for what a document is, where it is no object. -/
def Document.kindWord : Document → String
  | .object _ => "dict"
  | .list _ => "list"
  | .scalar .null => "empty document"
  | .scalar (.bool _) => "bool"
  | .scalar (.number (.int _)) => "int"
  | .scalar (.number (.float _)) => "float"
  | .scalar (.text _) => "str"
  | .scalar (.bytes _) => "bytes"
  | .scalar (.date _) => "date"
  | .scalar (.instant _) => "datetime"
  | .scalar (.set _) => "set"
  | .scalar .ellipsis => "ellipsis"

/-- The fields of a model, which has to be an object. -/
def modelFields : Document → Except Trouble Fields
  | .object fields => .ok fields
  | d => .error (.source (.notObject d.kindWord))

/-- A document that is an object gives its fields. -/
@[simp] theorem modelFields_object (fields : Fields) :
    modelFields (.object fields) = .ok fields := rfl

/-- Reads a model as YAML; what is wrong with it as JSON is told too, if that was tried. -/
def modelOfYaml (json : Option (Json.Problem × Json.Place)) (text : String) :
    Except Trouble Fields :=
  match Yaml.parse text with
  | .ok d => modelFields d
  | .error (.malformed reason) => .error (.source (.unreadable json reason))
  | .error refusal => .error (.unexpected (.yaml refusal))

/-- Reads a model from its text. -/
def modelOfText (form : ModelForm) (text : String) : Except Trouble Fields :=
  match form with
  | .yaml => modelOfYaml none text
  | _ =>
    match Json.parse text with
    | .ok d => modelFields d
    | .error (.tooManyDigits count) => .error (.unexpected (.digits count))
    | .error (.invalid problem place) =>
      if form = .json then .error (.source (.notJson problem place))
      else modelOfYaml (some (problem, place)) text

/-- Whether a text holds only blanks. -/
def isBlankText (text : String) : Bool := text.toList.all Text.isBlank

/-! ## Sources -/

/-- The model in the file at a path. -/
def Workspace.modelFile (w : Workspace) (source : String) : Except Trouble Fields := do
  let path := Path.ofText source
  if ← w.isFile path then
    let text ← w.readText path
    if isBlankText text then .error (.source (.emptyModel source))
    else modelOfText (.ofPath path) text
  else .error (.source (.missingModel source))

/-- The model in a text from the standard input. -/
def modelOfInput (text : String) : Except Trouble Fields :=
  if isBlankText text then .error (.source .emptyInput) else modelOfText .either text

/-- The sign for the standard input. -/
def inputSign : String := "-"

/-- The descriptors of a document about pagination: its pagination section, or all of it. -/
def descriptors (source : String) (document : Fields) : Except Trouble Fields :=
  match Fields.get? "pagination" document with
  | none => .ok document
  | some (.object fields) => .ok fields
  | some _ => .error (.source (.noDescriptors source))

namespace Job

/-- The model from a source. -/
def model (source : String) : Job Fields :=
  if source = inputSign then do
    let text ← readInput
    ofResult (modelOfInput text)
  else ask (·.modelFile source)

/-- The descriptors of pagination from a source. -/
def pagination (source : String) : Job Fields := do
  let document ← model source
  ofResult (descriptors source document)

/-- The model from a source, with descriptors of pagination from another one laid over its own. -/
def modelWith (source : String) (pages : Option String) : Job Document := do
  let fields ← model source
  match pages with
  | none => return .object fields
  | some pages => return .object (layPagination fields (← pagination pages))

end Job

end ServiceShell
