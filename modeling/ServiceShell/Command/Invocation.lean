import ServiceShell.Command.Basic
import ServiceShell.Program
import ServiceShell.Report.Basic

/-!
# Invocations

What the words of a command line ask the program for: a command, or a text that explains how the
program is used. The options of the program come before the name of the command, all others behind
it.
-/

namespace ServiceShell

/-! ## Explanations -/

/-- How something is used, and what it is for. -/
structure Explanation where
  /-- The words that lead to it. -/
  path : String
  /-- What follows these words. -/
  rest : String
  /-- What it is for. -/
  purpose : String
  /-- Its options. -/
  options : List OptionForm
  /-- The commands below it, with what they do. -/
  commands : List (String × String) := []

namespace Explanation

/-- The line that shows how something is used. -/
def usage (e : Explanation) : String := "Usage: " ++ e.path ++ " " ++ e.rest

/-- The line for an option. -/
def optionLine (o : OptionForm) : String :=
  "  " ++ (match o.letter with
    | some c => String.ofList ['-', c] ++ ", "
    | none => "") ++ o.long ++ (if o.takesValue then " TEXT" else "") ++ "  " ++ o.purpose

/-- The line for a command. -/
def commandLine (c : String × String) : String := "  " ++ c.1 ++ "  " ++ c.2

/-- The text that explains everything. -/
def text (e : Explanation) : String :=
  "\n".intercalate
    ([e.usage, "", "  " ++ e.purpose, "", "Options:"] ++ e.options.map optionLine
      ++ (if e.commands.isEmpty then [] else ["", "Commands:"] ++ e.commands.map commandLine))

/-- The text that tells a problem with a line. -/
def problemText (e : Explanation) (problem : LineProblem) : String :=
  e.usage ++ "\nTry '" ++ e.path ++ " --help' for help.\n\nError: " ++ problem.message

end Explanation

/-- What follows the name of a group. -/
def groupRest : String := "[OPTIONS] COMMAND [ARGS]..."

/-- How the program is used. -/
def programExplanation : Explanation :=
  { path := Program.name
    rest := groupRest
    purpose := programPurpose
    options := programOptions ++ [helpOption]
    commands := commandForms.map (fun f => (f.name, f.purpose))
      ++ commandGroups.map fun g => (g.name, g.purpose) }

/-- How a group is used. -/
def CommandGroup.explanation (g : CommandGroup) : Explanation :=
  { path := Program.name ++ " " ++ g.name
    rest := groupRest
    purpose := g.purpose
    options := [helpOption]
    commands := g.forms.map fun f => (f.name, f.purpose) }

/-- How a command is used. -/
def CommandForm.explanation (f : CommandForm) (above : String) : Explanation :=
  { path := above ++ " " ++ f.name
    rest := " ".intercalate ("[OPTIONS]" :: f.body.arguments)
    purpose := f.purpose
    options := f.options ++ [helpOption] }

/-! ## Requests -/

/-- What is asked for: a text, after which the program ends with a code, or a command. -/
inductive Request where
  /-- A text. -/
  | text (code : Nat) (event : Event)
  /-- A command. -/
  | command (command : Command)

namespace Request

/-- The text that explains something, shown because it was asked for. -/
def help (e : Explanation) : Request := .text 0 (.data e.text)

/-- The text that explains something, shown because nothing else was asked for. -/
def nothing (e : Explanation) : Request := .text 2 (.data e.text)

/-- The text that tells a problem. -/
def problem (e : Explanation) (p : LineProblem) : Request := .text 2 (.message (e.problemText p))

end Request

/-- What the words behind the name of a command ask for. -/
def CommandForm.request (f : CommandForm) (above : String) (words : List String) : Request :=
  let e := f.explanation above
  match Line.read e.options true words with
  | .error p => .problem e p
  | .ok line =>
    if line.has helpOption.long then .help e
    else
      match f.body.read line with
      | .ok command => .command command
      | .error p => .problem e p

/-- What the words behind the name of a group ask for. -/
def CommandGroup.request (g : CommandGroup) (words : List String) : Request :=
  let e := g.explanation
  if words.isEmpty then .nothing e
  else
    match Line.read e.options false words with
    | .error p => .problem e p
    | .ok line =>
      if line.has helpOption.long then .help e
      else
        match line.arguments with
        | [] => .problem e .missingCommand
        | name :: rest =>
          match g.forms.find? fun f => f.name = name with
          | some f => f.request e.path rest
          | none =>
            if Line.beginsWithSign name then .nothing e else .problem e (.unknownCommand name)

/-! ## Invocations -/

/-- What a command line asks the program for. -/
inductive Invocation where
  /-- A text, before anything is done. -/
  | text (code : Nat) (event : Event)
  /-- Something for which the program gets ready by its own options. -/
  | start (options : Line) (request : Request)

namespace Invocation

/-- The line with the version of the program. -/
def versionLine : String := Program.name ++ " " ++ Program.version

/-- What the name of a command and the words behind it ask for, if there is such a command. -/
def request? (name : String) (words : List String) : Option Request :=
  match commandForms.find? fun f => f.name = name with
  | some f => some (f.request Program.name words)
  | none => (commandGroups.find? fun g => g.name = name).map (·.request words)

/-- The first option that asks for a text. -/
def textOption? (line : Line) : Option String :=
  (line.options.map (·.1)).find? fun o => o = "--version" || o = helpOption.long

/-- The answer to the name of a command that there is not. A name that begins with a sign is taken
for a question how the program is used. -/
def unknown (name : String) : Invocation :=
  if Line.beginsWithSign name then .text 2 (.data programExplanation.text)
  else .text 2 (.message (programExplanation.problemText (.unknownCommand name)))

/-- What the words of a line that were told apart ask for. -/
def ofLine (line : Line) : Invocation :=
  match textOption? line with
  | some option =>
    .text 0 (.data (if option = "--version" then versionLine else programExplanation.text))
  | none =>
    match line.arguments with
    | [] => .text 2 (.message (programExplanation.problemText .missingCommand))
    | name :: rest =>
      match request? name rest with
      | some request => .start line request
      | none => unknown name

/-- What the words of a command line ask for. -/
def ofWords (words : List String) : Invocation :=
  if words.isEmpty then .text 2 (.data programExplanation.text)
  else
    match Line.read programExplanation.options false words with
    | .error p => .text 2 (.message (programExplanation.problemText p))
    | .ok line => ofLine line

end Invocation

end ServiceShell
