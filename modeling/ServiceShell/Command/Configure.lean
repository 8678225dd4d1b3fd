import ServiceShell.Command.Action
import ServiceShell.Settings.Change
import ServiceShell.Settings.Store

/-!
# Commands for settings

The commands that print the settings in force, change one of the user's settings, and go back to the
defaults. Whoever goes back is asked first, unless that is not wanted.

Main statements:

- `confirm_yes`: an answer counts at once.
-/

namespace ServiceShell

/-! ## Questions -/

/-- What a question came to. -/
inductive Answer where
  /-- The answer was yes. -/
  | yes
  /-- The answer was no. -/
  | no
  /-- There was no answer. -/
  | nothing
  deriving DecidableEq, Repr

/-- The answer that a line is, if it is one; an empty line means no. -/
def Answer.ofLine? (line : String) : Option Answer :=
  let word := String.ofList (Text.trim (lowerText line).toList)
  if word = "y" ∨ word = "yes" then some .yes
  else if word = "n" ∨ word = "no" ∨ word = "" then some .no
  else none

/-- Asks a question until a line is an answer. -/
def confirm (question : String) : List String → List Event × Answer
  | [] => ([.question question], .nothing)
  | line :: rest =>
    match Answer.ofLine? line with
    | some answer => ([.question question], answer)
    | none =>
      let (events, answer) := confirm question rest
      (.question question :: .data "Error: invalid input" :: events, answer)

/-- The lines of a text; a line break at its end begins no other line. -/
def linesOf (text : String) : List String :=
  let lines := text.splitOn "\n"
  if lines.getLast? = some "" then lines.dropLast else lines

/-- An answer counts at once. -/
theorem confirm_yes {question line : String} {answer : Answer}
    (h : Answer.ofLine? line = some answer) (rest : List String) :
    confirm question (line :: rest) = ([.question question], answer) := by
  simp [confirm, h]

namespace Action

/-! ## Commands -/

/-- Prints the settings in force. -/
def showSettings (format : Format) : Action Unit := do
  let settings ← perform (Job.settings {})
  let path ← perform Job.settingsFile
  remark .info ("Config file: " ++ path.text)
  print (settings.encode.linesIn format)

/-- Ends because a setting cannot be changed. -/
def refuseChange (key text : String) (problem : ChangeProblem) : Action Unit :=
  match problem with
  | .tooManyDigits count => fail (.unexpected (.digits count))
  | .invalid failure =>
    match failure.ruleFault? with
    | some fault => fail (.unexpected (.rule fault))
    | none => do
      remark .error (problem.message key text)
      stop 2
  | _ => do
    remark .error (problem.message key text)
    stop 2

/-- Changes one of the user's settings. -/
def changeSetting (key text : String) : Action Unit := do
  let settings ← perform Job.userSettings
  match settings.change key text with
  | .error problem => refuseChange key text problem
  | .ok (value, settings) =>
    perform (Job.saveSettings settings)
    remark .success ("Set " ++ key ++ " = " ++ value.spelling)

/-- The question before the settings are lost. -/
def resetQuestion : String := "Reset all config to defaults? [y/N]: "

/-- Goes back to the default settings. -/
def saveDefaults : Action Unit := do
  perform (Job.saveSettings {})
  remark .success "Configuration reset to defaults."

/-- Goes back to the default settings, unless the user does not want it after all. -/
def resetSettings (force : Bool) : Action Unit :=
  if force then saveDefaults
  else do
    let input ← perform Job.readInput
    let (events, answer) := confirm resetQuestion (linesOf input)
    sayAll events
    match answer with
    | .yes => saveDefaults
    | .no => remark .info "Cancelled."
    | .nothing =>
      say (.message "Aborted.")
      stop 1

end Action

end ServiceShell
