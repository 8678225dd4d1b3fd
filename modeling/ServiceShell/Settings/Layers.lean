import ServiceShell.Settings.Record
import ServiceShell.Text.Integer
import ServiceShell.Workspace.Basic

/-!
# Layers of settings

Settings come from five layers: the command line, the environment, the project's file, the user's
file, and the defaults. Each setting is that of the highest layer that has it. The layers are put on
top of each other as documents, and what comes out is read as settings.

Main statements:

- `Document.over_null`: a document over nothing is itself.
- `choose_none`, `chooseIn_none`: a layer without a value leaves what is below in force.
-/

namespace ServiceShell

open Record

/-! ## Documents over each other -/

mutual

/-- A document over another one: objects are put together field by field, anything else counts as a
whole. -/
def Document.over (below : Document) : Document → Document
  | .object fields =>
    match below with
    | .object fieldsBelow => .object (fieldsOver fieldsBelow fields)
    | _ => .object fields
  | d => d

/-- Fields over those of another object; fields that only one of them has are kept. -/
def fieldsOver (below : Fields) : List (Scalar × Document) → Fields
  | [] => below
  | (.text key, d) :: rest =>
    fieldsOver (below.put (.text key) (((Fields.get? key below).getD .null).over d)) rest
  | (key, d) :: rest => fieldsOver (below.put key d) rest

end

/-- A document over nothing is itself. -/
theorem Document.over_null (d : Document) : Document.null.over d = d := by
  cases d <;> rfl

/-! ## Choices -/

/-- The settings that are chosen on the command line. -/
structure Choices where
  /-- The first word of every command. -/
  commandPrefix : Option String := none
  /-- How deep shapes are resolved. -/
  maxDepth : Option Int := none
  /-- How many workers make signatures. -/
  workers : Option Int := none
  /-- The directory for generated files. -/
  outputDir : Option String := none
  /-- The word for the output format. -/
  format : Option String := none
  deriving DecidableEq, Inhabited

/-- The integer that a variable holds, unless it is empty. -/
def Workspace.integer? (w : Workspace) (name : String) : Except Trouble (Option Int) :=
  match w.filled? name with
  | none => .ok none
  | some text =>
    match Text.readInteger? text with
    | some n => .ok (some n)
    | none => .error (.settings (.notInteger name text))

/-! ## Choosing -/

/-- Gives a setting the value that a layer has for it. -/
def choose (key : String) (value : Option Document) (fields : Fields) : Fields :=
  match value with
  | some d => fields.put (.text key) d
  | none => fields

/-- Gives a setting of a part the value that a layer has for it; the part has to be an object. -/
def chooseIn (part key : String) (value : Option Document) (fields : Fields) :
    Except Trouble Fields :=
  match value with
  | none => .ok fields
  | some d =>
    match Fields.get? part fields with
    | some (.object inner) =>
      .ok (fields.put (.text part) (.object (Fields.put (.text key) d inner)))
    | _ => .error (.unexpected .closedSection)

/-- A layer without a value leaves what is below in force. -/
@[simp] theorem choose_none (key : String) (fields : Fields) :
    choose key none fields = fields := rfl

/-- A layer without a value leaves what is below in force. -/
@[simp] theorem chooseIn_none (part key : String) (fields : Fields) :
    chooseIn part key none fields = .ok fields := rfl

/-- The part with the settings for generation. -/
def generatorPart : String := "generator"

/-- Whether a document is the number zero, in any form. -/
def isZero : Document → Bool
  | .scalar s => s.same (.number (.int 0))
  | _ => false

/-- Takes the limit away where it is zero. -/
def liftZeroLimit (fields : Fields) : Except Trouble Fields :=
  match Fields.get? generatorPart fields with
  | some (.object inner) =>
    if isZero ((Fields.get? "max_depth" inner).getD .null) then
      chooseIn generatorPart "max_depth" (some .null) fields
    else .ok fields
  | _ => .error (.unexpected .unreadableSection)

/-- Puts the layers of the environment over documents from files. -/
def chooseVariables (w : Workspace) (fields : Fields) : Except Trouble Fields := do
  let fields ← chooseIn generatorPart "command_prefix"
    ((w.filled? "SHAPECLI_PREFIX").map .text) fields
  let depth ← w.integer? "SHAPECLI_MAX_DEPTH"
  let fields ← chooseIn generatorPart "max_depth" (depth.map .int) fields
  let workers ← w.integer? "SHAPECLI_WORKERS"
  let fields ← chooseIn generatorPart "workers" (workers.map .int) fields
  return choose "output_dir" ((w.filled? "SHAPECLI_OUTPUT_DIR").map .text) fields

/-- Puts the choices of the command line over what is below. -/
def Choices.choose (c : Choices) (fields : Fields) : Except Trouble Fields := do
  let fields ← chooseIn generatorPart "command_prefix" (c.commandPrefix.map .text) fields
  let fields ← chooseIn generatorPart "max_depth" (c.maxDepth.map .int) fields
  let fields ← chooseIn generatorPart "workers" (c.workers.map .int) fields
  chooseIn "output" "format" (c.format.map .text)
    (ServiceShell.choose "output_dir" (c.outputDir.map .text) fields)

/-! ## Layering -/

/-- The settings in force, from those of the user's file and the layers above: the project's file,
the environment, and the command line. -/
def Settings.layer (user : Settings) (project : Option Fields) (w : Workspace) (c : Choices) :
    Except Trouble Settings := do
  let fields := fieldsOver user.encode.fields (project.getD [])
  let fields ← chooseVariables w fields
  let fields ← c.choose fields
  let fields ← liftZeroLimit fields
  (Settings.decode (.object fields)).mapError fun failure => failure.trouble .invalid

end ServiceShell
