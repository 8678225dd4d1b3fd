import ServiceShell.Json.Printer
import ServiceShell.Json.Reader
import ServiceShell.Settings.Layers

/-!
# Settings in files

The user's settings are in a file in the user's directory, those of a project in its directory. A
file that is not there has no settings of its own.

Main statements:

- `Workspace.userSettings_missing`: without a file the user has the default settings.
-/

namespace ServiceShell

open Record

namespace Workspace

/-! ## Reading -/

/-- The document in a file of settings, if the file is there. -/
def settingsDocument? (w : Workspace) (path : Path)
    (problem : SettingsFileProblem → SettingsProblem) :
    Except Trouble (Option Document) := do
  if ← w.isFile path then
    let text ← (← w.fileText path).mapError fun b => .settings (problem (.bytes b))
    some <$> (Json.parse text).mapError fun e => .settings (problem (.json e))
  else return none

/-- The user's settings, given the path of their file. -/
def userSettings (w : Workspace) (path : Path) : Except Trouble Settings := do
  let problem := SettingsProblem.userFile path.text
  match ← w.settingsDocument? path problem with
  | some d => (Settings.decode d).mapError fun failure => failure.trouble (problem ∘ .record)
  | none => return {}

/-- The path of the project's file of settings. -/
def projectFile (w : Workspace) : Path := ⟨"/", w.directory.reverse ++ [Program.name ++ ".json"]⟩

/-- The fields that the project's file sets, if it is there. -/
def projectSettings (w : Workspace) : Except Trouble (Option Fields) := do
  let problem := SettingsProblem.projectFile w.projectFile.text
  match ← w.settingsDocument? w.projectFile problem with
  | some (.object fields) => return some fields
  | some _ => .error (.settings (problem .notObject))
  | none => return none

/-- Without a file the user has the default settings. -/
theorem userSettings_missing {w : Workspace} {path : Path} (h : w.isFile path = .ok false) :
    w.userSettings path = .ok {} := by
  simp [userSettings, settingsDocument?, h, bind, Except.bind, pure, Except.pure]

end Workspace

namespace Job

/-- The path of the user's file of settings; the directory is there then. -/
def settingsFile : Job Path := (·.join ⟨"", ["config.json"]⟩) <$> settingsDirectory

/-- The user's settings. -/
def userSettings : Job Settings := do
  let path ← settingsFile
  ask (·.userSettings path)

/-- The settings in force for choices on the command line. -/
def settings (c : Choices) : Job Settings := do
  let user ← userSettings
  let project ← ask Workspace.projectSettings
  ask fun w => user.layer project w c

/-! ## Saving -/

/-- Saves the user's settings. -/
def saveSettings (s : Settings) : Job Unit := do
  writeText (← settingsFile) (Json.indentedAscii.write s.encode ++ "\n")

/-! ## Directories -/

/-- The path that a user writes, with the sign for the home directory replaced. -/
def expanded (text : String) : Job Path :=
  let path := Path.ofText text
  if path.isFromHome then
    ask fun w => do
      match Path.expand? (← w.home) path with
      | some path => return path
      | none => .error (.unexpected .noHome)
  else return path

/-- The directory for generated files. -/
def outputDirectory (s : Settings) : Job Path :=
  match s.outputDir.filter (· ≠ "") with
  | some directory => expanded directory
  | none => (·.join ⟨"", ["generated"]⟩) <$> dataDirectory

end Job

end ServiceShell
