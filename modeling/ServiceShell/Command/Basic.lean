import ServiceShell.Command.Line
import ServiceShell.Settings.Layers

/-!
# Commands

What a user can ask for, and how it is written on a command line: the commands by their names,
some of them in groups, with their options and arguments.
-/

namespace ServiceShell

/-! ## Commands -/

/-- What can be inspected. -/
inductive Inspection where
  /-- The operations. -/
  | operations
  /-- The errors. -/
  | errors
  /-- The resources. -/
  | resources
  /-- The pagination of operations, with descriptors from a source of their own. -/
  | pagination (pages : Option String)
  /-- The columns of the output of an operation. -/
  | columns (operation : String)
  deriving DecidableEq, Repr

/-- What a user asks for. -/
inductive Command where
  /-- To write the schema and the module of a model. -/
  | generate (model : String) (pages service : Option String) (choices : Choices)
      (check withModule : Bool)
  /-- To print the definitions of commands, perhaps of one operation. -/
  | signatures (model : String) (operation pages service : Option String) (choices : Choices)
  /-- To check a schema. -/
  | validate (schema : String)
  /-- To print a sample of the input of an operation. -/
  | sample (model operation : String) (includeOptional : Bool)
  /-- To print what a model comes to. -/
  | inspect (model : String) (what : Inspection)
  /-- To print the settings in force. -/
  | showSettings
  /-- To change a setting of the user. -/
  | changeSetting (key value : String)
  /-- To go back to the default settings. -/
  | resetSettings (force : Bool)

/-! ## Forms -/

/-- What follows the name of a command: how many arguments there are, what they are called, and the
command that they make together with the options of the line. -/
inductive CommandBody where
  /-- No argument. -/
  | none (make : Line → Except LineProblem Command)
  /-- One argument. -/
  | one (name : String) (make : Line → String → Except LineProblem Command)
  /-- Two arguments. -/
  | two (first second : String) (make : Line → String → String → Except LineProblem Command)

namespace CommandBody

/-- The names of the arguments. -/
def arguments : CommandBody → List String
  | none _ => []
  | one name _ => [name]
  | two first second _ => [first, second]

/-- The problem with arguments that are too many. -/
def extra (arguments : List String) : LineProblem := .extraArgument (" ".intercalate arguments)

/-- The command that a line asks for. -/
def read (line : Line) : CommandBody → Except LineProblem Command
  | none make =>
    match line.arguments with
    | [] => make line
    | rest => .error (extra rest)
  | one name make =>
    match line.arguments with
    | [] => .error (.missingArgument name)
    | [argument] => make line argument
    | _ :: rest => .error (extra rest)
  | two first second make =>
    match line.arguments with
    | [] => .error (.missingArgument first)
    | [_] => .error (.missingArgument second)
    | [a, b] => make line a b
    | _ :: _ :: rest => .error (extra rest)

end CommandBody

/-- How a command is written. -/
structure CommandForm where
  /-- The name. -/
  name : String
  /-- What the command does. -/
  purpose : String
  /-- The options. -/
  options : List OptionForm := []
  /-- The arguments and the command. -/
  body : CommandBody

/-- Commands in a group. -/
structure CommandGroup where
  /-- The name. -/
  name : String
  /-- What the commands are about. -/
  purpose : String
  /-- The commands. -/
  forms : List CommandForm

/-- The option that asks for help, which every command has. -/
def helpOption : OptionForm := { long := "--help", purpose := "Show this message and exit." }

/-- Reads an option whose value is an integer. -/
def integerOption (line : Line) (long : String) : Except LineProblem (Option Int) :=
  match line.value? long with
  | none => .ok none
  | some text =>
    match Text.readInteger? text with
    | some n => .ok (some n)
    | none => .error (.notInteger long text)

/-! ## Options -/

/-- The option for descriptors of pagination. -/
def pagesOption : OptionForm :=
  { long := "--pagination", letter := some 'p', takesValue := true
    purpose := "Paginator document (paginators-1.json)." }

/-- The option for the name of the service. -/
def serviceOption : OptionForm :=
  { long := "--service", letter := some 's', takesValue := true
    purpose := "Service name (derived from the model if omitted)." }

/-- The option for the first word of every command. -/
def prefixOption : OptionForm :=
  { long := "--prefix", takesValue := true, purpose := "Command name prefix." }

/-- The name of the argument for the source of a model. -/
def modelArgument : String := "MODEL"

/-- The name of the argument for an operation. -/
def operationArgument : String := "OPERATION"

/-! ## All commands -/

/-- How the command that writes a schema and a module is written. -/
def generateForm : CommandForm :=
  { name := "generate"
    purpose := "Compile a service model into a schema and a command module."
    options := [pagesOption, serviceOption,
      { long := "--output-dir", letter := some 'o', takesValue := true
        purpose := "Directory for the schema and module." },
      prefixOption,
      { long := "--max-depth", takesValue := true
        purpose := "Shape resolution depth limit (0 for unbounded)." },
      { long := "--workers", letter := some 'w', takesValue := true
        purpose := "Workers for signature generation." },
      { long := "--no-validate", purpose := "Write the schema even if it fails validation." },
      { long := "--no-module", purpose := "Only write the schema, not the command module." }]
    body := .one modelArgument fun line model => do
      let maxDepth ← integerOption line "--max-depth"
      let workers ← integerOption line "--workers"
      return .generate model (line.value? "--pagination") (line.value? "--service")
        { commandPrefix := line.value? "--prefix", maxDepth, workers
          outputDir := line.value? "--output-dir" }
        (!line.has "--no-validate") (!line.has "--no-module") }

/-- How the command that prints definitions is written. -/
def signaturesForm : CommandForm :=
  { name := "signatures"
    purpose := "Print generated command definitions."
    options := [
      { long := "--operation", letter := some 'O', takesValue := true
        purpose := "Only this operation (by its name in the model or in kebab case)." },
      pagesOption, serviceOption, prefixOption]
    body := .one modelArgument fun line model =>
      return .signatures model (line.value? "--operation") (line.value? "--pagination")
        (line.value? "--service") { commandPrefix := line.value? "--prefix" } }

/-- How the command that checks a schema is written. -/
def validateForm : CommandForm :=
  { name := "validate"
    purpose := "Validate a persisted service schema."
    body := .one "SCHEMA" fun _ schema => return .validate schema }

/-- How the command that prints a sample is written. -/
def sampleForm : CommandForm :=
  { name := "example"
    purpose := "Print a sample input record for an operation."
    options := [{ long := "--all", letter := some 'a', purpose := "Include optional members too." }]
    body := .two modelArgument operationArgument fun line model operation =>
      return .sample model operation (line.has "--all") }

/-- A form of an inspection that needs a model only. -/
def inspectForm (name purpose : String) (what : Inspection) : CommandForm :=
  { name, purpose
    body := .one modelArgument fun _ model => return .inspect model what }

/-- The commands that inspect a model. -/
def inspectGroup : CommandGroup :=
  { name := "inspect"
    purpose := "Inspect what a model compiles to."
    forms := [
      inspectForm "operations" "List every operation with its HTTP binding and shapes." .operations,
      inspectForm "errors" "List the model's exception shapes." .errors,
      inspectForm "resources" "List resources inferred from operation names." .resources,
      { name := "pagination"
        purpose := "List paginated operations and their token, limit, and result keys."
        options := [pagesOption]
        body := .one modelArgument fun line model =>
          return .inspect model (.pagination (line.value? "--pagination")) },
      { name := "columns"
        purpose := "Show the table columns an operation's output flattens to."
        body := .two modelArgument operationArgument fun _ model operation =>
          return .inspect model (.columns operation) }] }

/-- The commands for settings. -/
def settingsGroup : CommandGroup :=
  { name := "config"
    purpose := "Configuration management."
    forms := [
      { name := "show"
        purpose := "Show the effective configuration."
        body := .none fun _ => return .showSettings },
      { name := "set"
        purpose := "Set a configuration value."
        body := .two "KEY" "VALUE" fun _ key value => return .changeSetting key value },
      { name := "reset"
        purpose := "Reset configuration to defaults."
        options := [{ long := "--force", letter := some 'f'
                      purpose := "Skip the confirmation prompt." }]
        body := .none fun line => return .resetSettings (line.has "--force") }] }

/-- The commands outside groups. -/
def commandForms : List CommandForm := [generateForm, signaturesForm, validateForm, sampleForm]

/-- The groups of commands. -/
def commandGroups : List CommandGroup := [inspectGroup, settingsGroup]

/-- The options of the program. -/
def programOptions : List OptionForm :=
  [{ long := "--version", purpose := "Show version and exit." },
   { long := "--json", purpose := "JSON output format." },
   { long := "--plain", purpose := "Plain text output." },
   { long := "--no-color", purpose := "Disable color output." },
   { long := "--quiet", letter := some 'q', purpose := "Suppress non-essential output." },
   { long := "--verbose", letter := some 'v', purpose := "Enable debug output and logging." }]

/-- What the program is for. -/
def programPurpose : String := "Compile AWS service models into typed shell command signatures."

end ServiceShell
