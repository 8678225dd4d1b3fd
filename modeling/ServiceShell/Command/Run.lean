import ServiceShell.Command.Configure
import ServiceShell.Command.Inspect
import ServiceShell.Command.Invocation

/-!
# Running the program

A run begins with the words of a command line and a workspace. It ends with a code, with what was
said, and with a workspace. Trouble is told; a breakdown leaves a log file behind. How much the
user wants to see matters only when the report is shown.
-/

namespace ServiceShell

/-! ## Logs -/

/-- The time in the name of a log file. -/
def logTime (t : Instant) : String :=
  decimalPadded 4 t.date.year ++ decimalPadded 2 t.date.month ++ decimalPadded 2 t.date.day ++ "-"
    ++ decimalPadded 2 t.hour ++ decimalPadded 2 t.minute ++ decimalPadded 2 t.second

/-- Writes a log file with a message, and tells where. -/
def Job.writeLog (message : String) : Job Path := do
  let directory := (← dataDirectory).join ⟨"", ["logs"]⟩
  ensureDirectories directory
  let now ← ask fun w => .ok w.now
  let path := directory.join ⟨"", ["crash-" ++ logTime now ++ ".log"]⟩
  writeText path (message ++ "\n")
  return path

namespace Action

/-! ## Trouble -/

/-- Breaks off: leaves a log file behind, and tells where. -/
def breakOff (message : String) : Action Unit := do
  let path ← perform (Job.writeLog message)
  remark .error ("Unexpected error. Debug log: " ++ path.text)
  stop 1

/-- The message of a log file about a remark that could not be shown. -/
def unshownMessage : String := "a remark closes a style that is not open"

/-- Tells foreseen trouble, and ends with its code; trouble that cannot be shown is a breakdown. -/
def tell (trouble : Trouble) : Action Unit := fun s =>
  match (remark .error (trouble.message?.getD "")).run s with
  | (.ok (), s) => (stop trouble.exitCode).run s
  | (.error _, s) => (breakOff unshownMessage).run s

/-- What is still to be done when an action ends early. -/
def settle : Ending → Action Unit
  | .stop code => stop code
  | .unshown => breakOff unshownMessage
  | .trouble (.unexpected breakdown) => breakOff breakdown.message
  | .trouble trouble => tell trouble

/-- Takes an action to its end: the code, and where it ends. -/
def finish (action : Action Unit) (s : Scene) : Nat × Scene :=
  match action.run s with
  | (.ok (), s) => (0, s)
  | (.error ending, s) =>
    match (settle ending).run s with
    | (.ok (), s) => (0, s)
    | (.error ending, s) => (ending.code, s)

/-! ## Commands -/

/-- Does what a command asks for. -/
def ofCommand (format : Format) : Command → Action Unit
  | .generate model pages service choices check withModule =>
    generate format model pages service choices check withModule
  | .signatures model operation pages service choices =>
    printSignatures format model operation pages service choices
  | .validate schema => validate format schema
  | .sample model operation includeOptional => printSample format model operation includeOptional
  | .inspect model what => inspect format model what
  | .showSettings => showSettings format
  | .changeSetting key value => changeSetting key value
  | .resetSettings force => resetSettings force

/-- Does what is asked for. -/
def ofRequest (format : Format) : Request → Action Unit
  | .command command => ofCommand format command
  | .text code event => do
    say event
    stop code

/-! ## Formats -/

/-- The format that the user's settings ask for; settings that have a problem leave it open. -/
def settingsFormat : Action (Option Format) := fun s =>
  match (perform Job.userSettings).run s with
  | (.ok settings, s) => (.ok ((Format.ofWord? settings.format).getD none), s)
  | (.error (.trouble (.settings _)), s) => (.ok none, s)
  | (.error ending, s) => (.error ending, s)

/-- Whether colours are wanted: neither an option nor the environment says otherwise. -/
def hasColour (options : Line) (w : Workspace) : Bool :=
  !options.has "--no-color" && (w.value? "NO_COLOR").isNone && w.value? "TERM" ≠ some "dumb"

/-- Whether a remark can be shown: where colours are wanted and the user wants to see it, the
console has to accept its markup. -/
def showsRemark (options : Line) (display : Display) (w : Workspace) (kind : RemarkKind)
    (text : String) : Bool :=
  !(hasColour options w && display.shows kind) || w.showsMarkup (kind.markup text)

/-- The format for a run. -/
def format (options : Line) : Action Format := do
  let wish ←
    if options.has "--json" then pure (some Format.json)
    else if options.has "--plain" then pure (some Format.plain)
    else settingsFormat
  perform (Job.ask fun w => .ok (Format.choose wish w.isTerminal (hasColour options w)))

/-- Gets ready and does what is asked for. -/
def start (options : Line) (request : Request) : Action Unit := do
  let format ← format options
  ofRequest format request

end Action

/-! ## Runs -/

/-- What a run came to. -/
structure Outcome where
  /-- The code. -/
  code : Nat
  /-- How much the user wants to see. -/
  display : Display
  /-- What was said. -/
  events : List Event
  /-- The workspace at the end. -/
  workspace : Workspace

namespace Outcome

/-- The text on the standard output. -/
def output (o : Outcome) : String := Display.output o.events

/-- The text on the standard error. -/
def errors (o : Outcome) : String := o.display.errors o.events

end Outcome

/-- How much a user wants to see, by the options of the program. -/
def Display.ofLine (options : Line) : Display :=
  { isQuiet := options.has "--quiet", isVerbose := options.has "--verbose" }

/-- Runs the program on the words of a command line. -/
def run (words : List String) (w : Workspace) : Outcome :=
  match Invocation.ofWords words with
  | .text code event => ⟨code, {}, [event], w⟩
  | .start options request =>
    let display := Display.ofLine options
    let (code, s) := (Action.start options request).finish
      { workspace := w, shows := Action.showsRemark options display w }
    ⟨code, display, s.events, s.workspace⟩

end ServiceShell
