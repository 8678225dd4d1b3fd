import ServiceShell.Program
import ServiceShell.Report.Notice

/-!
# Reports

What a command says while it runs: data for the standard output, and remarks and notices for the
standard error. What is said never depends on how much the user wants to see; that is decided when
the report is shown.
-/

namespace ServiceShell

/-! ## Formats -/

/-- How data are laid out. -/
inductive Format where
  /-- As indented JSON. -/
  | json
  /-- As lines with tabs. -/
  | plain
  /-- For a terminal. -/
  | rich
  deriving DecidableEq, Repr

/-- The word for a format. -/
def Format.word : Format → String
  | json => "json"
  | plain => "plain"
  | rich => "rich"

/-- The format that a word stands for: none for the word that leaves it open. -/
def Format.ofWord? : String → Option (Option Format)
  | "auto" => some none
  | "json" => some (some .json)
  | "plain" => some (some .plain)
  | "rich" => some (some .rich)
  | _ => none

/-- The format that is meant when it is left open: rich on a terminal with colours. -/
def Format.choose (wish : Option Format) (isTerminal hasColour : Bool) : Format :=
  match wish with
  | some f => f
  | none => if isTerminal && hasColour then .rich else .plain

/-! ## Events -/

/-- What a remark is for. -/
inductive RemarkKind where
  /-- To inform. -/
  | info
  /-- To tell that something was done. -/
  | success
  /-- To warn. -/
  | warning
  /-- To tell that something went wrong. -/
  | error
  /-- To say what could be done next. -/
  | suggestion
  /-- To help to find mistakes. -/
  | debug
  deriving DecidableEq, Repr

/-- The line for a remark. -/
def RemarkKind.line (kind : RemarkKind) (text : String) : String :=
  match kind with
  | info | success => text
  | warning => "Warning: " ++ text
  | error => "Error: " ++ text
  | suggestion => "→ " ++ text
  | debug => "[debug] " ++ text

/-- The markup for a remark, where colours are wanted. -/
def RemarkKind.markup (kind : RemarkKind) (text : String) : String :=
  match kind with
  | info => text
  | success => "[green]" ++ text ++ "[/green]"
  | warning => "[yellow]Warning:[/yellow] " ++ text
  | error => "[bold red]Error:[/bold red] " ++ text
  | suggestion => "[dim]→ " ++ text ++ "[/dim]"
  | debug => "[dim]\\[debug] " ++ text ++ "[/dim]"

/-- Something that a command says. -/
inductive Event where
  /-- A line of data. -/
  | data (text : String)
  /-- A question, after which the line goes on. -/
  | question (text : String)
  /-- A remark. -/
  | remark (kind : RemarkKind) (text : String)
  /-- A message that is always shown. -/
  | message (text : String)
  /-- What a part of the generator noticed. -/
  | notice (notice : Notice)

/-! ## Display -/

/-- How much a user wants to see. -/
structure Display where
  /-- Whether only warnings and errors are shown. -/
  isQuiet : Bool := false
  /-- Whether also what helps to find mistakes is shown. -/
  isVerbose : Bool := false
  deriving DecidableEq, Inhabited

namespace Display

/-- Whether remarks of a kind are shown. -/
def shows (d : Display) : RemarkKind → Bool
  | .info | .success | .suggestion => !d.isQuiet
  | .warning | .error => true
  | .debug => d.isVerbose

/-- What an event adds to the standard output. -/
def outputText : Event → String
  | .data text => text ++ "\n"
  | .question text => text
  | _ => ""

/-- What an event adds to the standard error. -/
def errorText (d : Display) : Event → String
  | .remark kind text => if d.shows kind then kind.line text ++ "\n" else ""
  | .message text => text ++ "\n"
  | .notice n =>
    if d.isVerbose then "DEBUG " ++ Program.name ++ "." ++ n.part ++ ": " ++ n.text ++ "\n" else ""
  | _ => ""

/-- The text that a report shows on the standard output. -/
def output (events : List Event) : String := String.join (events.map outputText)

/-- The text that a report shows on the standard error. -/
def errors (d : Display) (events : List Event) : String := String.join (events.map d.errorText)

end Display

end ServiceShell
