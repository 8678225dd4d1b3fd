import ServiceShell.Files.Replacement
import ServiceShell.Program
import ServiceShell.Report.Markup
import ServiceShell.Workspace.Trouble

/-!
# Workspaces

What a job sees of the world and can change: files, the environment, the clock, and the text on the
standard input. A job ends with a value or with trouble, and leaves a workspace in either case.

Main statements:

- `Job.run_bind`: a job that follows another one begins with its value and its workspace, and is not
  begun after trouble.
- `Job.run_ask`: a question leaves the workspace as it is.
-/

namespace ServiceShell

/-! ## Workspaces -/

/-- What a job works on. -/
structure Workspace where
  /-- The files. -/
  files : FileTree
  /-- The current directory. -/
  directory : Place
  /-- The variables of the environment. -/
  environment : List (String × String)
  /-- The name of the operating system. -/
  system : String
  /-- The home directory of the account, for an environment that names none. -/
  accountHome : String
  /-- The present time. -/
  now : Instant
  /-- The text on the standard input. -/
  input : String
  /-- The part of the names of temporary files that makes them new. -/
  token : String
  /-- Whether the standard output is a terminal. -/
  isTerminal : Bool := false
  /-- Whether the console shows a text with markup. -/
  showsMarkup : String → Bool := Markup.isShown
  deriving Inhabited

namespace Workspace

/-- The value of a variable of the environment. -/
def value? (w : Workspace) (name : String) : Option String := w.environment.lookup name

/-- The value of a variable of the environment, unless it is empty. -/
def filled? (w : Workspace) (name : String) : Option String := (w.value? name).filter (· ≠ "")

/-! ## Reading files -/

/-- A result whose error is a problem with a file. -/
def fileResult {α : Type} (result : Except FileError α) : Except Trouble α :=
  result.mapError fun e => .unexpected (.file e)

/-- Whether a file is at a path. -/
def isFile (w : Workspace) (path : Path) : Except Trouble Bool :=
  fileResult (w.files.isFile w.directory path)

/-- The text that bytes stand for, with line feeds for all line ends. -/
def textOf (bytes : ByteArray) : Except Text.BadBytes String :=
  (Text.decode bytes).map fun text => String.ofList (Text.unifyLines text.toList)

/-- The text of the file at a path, or why its bytes are none. -/
def fileText (w : Workspace) (path : Path) : Except Trouble (Except Text.BadBytes String) :=
  (fileResult (w.files.content w.directory path)).map textOf

/-- The text of the file at a path. -/
def readText (w : Workspace) (path : Path) : Except Trouble String := do
  (← w.fileText path).mapError fun b => .unexpected (.bytes b)

/-! ## Home -/

/-- The home directory as it is written in the environment, or that of the account. -/
def homeText (w : Workspace) : String :=
  match w.value? "HOME" with
  | some "" => "/"
  | some home => home
  | none => w.accountHome

/-- The home directory; one that is written with the sign for a home directory is none. -/
def home (w : Workspace) : Except Trouble Path :=
  if w.homeText.startsWith "~" then .error (.unexpected .noHome) else .ok (.ofText w.homeText)

/-- Whether the operating system keeps the directories of a user apart by their purpose. -/
def hasPurposeDirectories (w : Workspace) : Bool := w.system = "Linux" || w.system.endsWith "BSD"

/-- The directory for a purpose: the one that a variable names, or one in the home directory. -/
def purposeDirectory (w : Workspace) (name : String) (inHome : List String) :
    Except Trouble Path :=
  match w.filled? name with
  | some directory => .ok (.ofText directory)
  | none => w.home.map (·.join ⟨"", inHome⟩)

/-- The user's directory for settings. -/
def settingsDirectory (w : Workspace) : Except Trouble Path :=
  if w.hasPurposeDirectories then
    (w.purposeDirectory "XDG_CONFIG_HOME" [".config"]).map (·.join ⟨"", [Program.name]⟩)
  else w.home.map (·.join ⟨"", ["." ++ Program.name]⟩)

/-- The user's directory for data. -/
def dataDirectory (w : Workspace) : Except Trouble Path :=
  if w.hasPurposeDirectories then
    (w.purposeDirectory "XDG_DATA_HOME" [".local", "share"]).map (·.join ⟨"", [Program.name]⟩)
  else w.home.map (·.join ⟨"", ["." ++ Program.name, "data"]⟩)

end Workspace

/-! ## Jobs -/

/-- Something that is done in a workspace. -/
abbrev Job := ExceptT Trouble (StateM Workspace)

namespace Job

variable {α β : Type}

/-- A job that ends with trouble. -/
def fail (trouble : Trouble) : Job α := throw trouble

/-- Asks something about the workspace. -/
def ask (question : Workspace → Except Trouble α) : Job α := fun w => (question w, w)

/-- The value of a result. -/
def ofResult (result : Except Trouble α) : Job α := ask fun _ => result

/-- Trouble leaves the workspace as it is. -/
@[simp] theorem run_fail (trouble : Trouble) (w : Workspace) :
    (fail trouble : Job α).run w = (.error trouble, w) := rfl

/-- A question leaves the workspace as it is. -/
@[simp] theorem run_ask (question : Workspace → Except Trouble α) (w : Workspace) :
    (ask question).run w = (question w, w) := rfl

/-- A value leaves the workspace as it is. -/
@[simp] theorem run_pure (a : α) (w : Workspace) : (pure a : Job α).run w = (.ok a, w) := rfl

/-- A job that follows another one begins with its value and its workspace, and is not begun after
trouble. -/
theorem run_bind (job : Job α) (next : α → Job β) (w : Workspace) :
    (job >>= next).run w =
      match job.run w with
      | (.ok a, w) => (next a).run w
      | (.error trouble, w) => (.error trouble, w) := by
  show (ExceptT.bind job next).run w = _
  simp only [ExceptT.bind, ExceptT.run, ExceptT.mk]
  show (StateT.bind job _) w = _
  simp only [StateT.bind]
  cases job w with
  | mk result w => cases result <;> rfl

/-! ## Changes -/

/-- Makes a directory and those around it, where they are missing. -/
def ensureDirectories (path : Path) : Job Unit := fun w =>
  match w.files.ensureDirectories w.directory path with
  | .ok files => (.ok (), { w with files })
  | .error (e, files) => (.error (.unexpected (.file e)), { w with files })

/-- Writes a text to a file as a whole. -/
def writeText (path : Path) (text : String) : Job Unit := fun w =>
  let (result, files) := w.files.writeWhole w.directory w.token Faults.none path text.toUTF8
  (Workspace.fileResult result, { w with files })

/-- The text on the standard input, which is then used up. -/
def readInput : Job String := fun w => (.ok w.input, { w with input := "" })

/-- The user's directory for settings, which is there then. -/
def settingsDirectory : Job Path := do
  let path ← ask Workspace.settingsDirectory
  ensureDirectories path
  return path

/-- The user's directory for data, which is there then. -/
def dataDirectory : Job Path := do
  let path ← ask Workspace.dataDirectory
  ensureDirectories path
  return path

end Job

end ServiceShell
