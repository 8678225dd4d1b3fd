import ServiceShell.Command.Run
import Std.Time.DateTime

/-!
# The command line

The outer layer of the program. It looks at the files that a run may need, runs the program on
what it saw, and carries out the changes. A run that changes a place which was not looked at
before is repeated with that place in view.
-/

namespace ServiceShell.Outer

/-! ## Looking -/

/-- A place as the path that the system knows. -/
def systemPath (place : Place) : String := FileTree.placeText place

/-- The places from the root to a place, the root left out. -/
def placesTo : Place → List Place
  | [] => []
  | name :: rest => placesTo rest ++ [name :: rest]

/-- What is at a place, if anything is. -/
def look (place : Place) : IO (Option Entry) := do
  match ← (IO.FS.readBinFile (systemPath place)).toBaseIO with
  | .ok content => return some (.file content)
  | .error (.inappropriateType ..) => return some .directory
  | .error _ => return none

/-- Takes what is at some places, each inside the one before, into view. -/
def lookAlong (files : FileTree) : List Place → IO FileTree
  | [] => return files
  | place :: rest => do
    match ← look place with
    | some .directory => lookAlong (files.put place .directory) rest
    | some entry => return files.put place entry
    | none => return files

/-- Takes what is at some places into view. -/
def lookAt (files : FileTree) (places : List Place) : IO FileTree :=
  places.foldlM (fun files place => lookAlong files (placesTo place)) files

/-- The place that a path names, seen from a directory. -/
def placeOf (directory : Place) (path : Path) : Place :=
  path.names.foldl (fun place name => if name = ".." then place.tail else name :: place)
    (if path.root = "" then directory else [])

/-- The texts in a word of the command line that may be paths. -/
def pathTexts (word : String) : List String :=
  word :: String.ofList (word.toList.drop 2)
    :: String.ofList ((word.toList.dropWhile (· ≠ '=')).drop 1) :: []

/-- The places that a run may read: those that words name, and those of the files of settings. -/
def readPlaces (words : List String) (w : Workspace) : List Place :=
  let settings := match w.settingsDirectory with
    | .ok directory => [directory.join ⟨"", ["config.json"]⟩]
    | .error _ => []
  ((words.flatMap pathTexts).map Path.ofText ++ w.projectFile :: settings).map
    (placeOf w.directory)

/-! ## Running -/

/-- The entries of a tree that another one does not have. -/
def changed (before after : FileTree) : List (Place × Entry) :=
  after.entries.filter fun e =>
    match e.2, before.lookup? e.1 with
    | .directory, some .directory => false
    | .file new, some (.file old) => new != old
    | _, _ => true

/-- Runs the program until all places that it changes were looked at, `fuel` times at most. -/
def settle (words : List String) : Nat → List Place → Workspace → IO (Workspace × Outcome)
  | 0, _, w => return (w, run words w)
  | fuel + 1, seen, w => do
    let o := run words w
    let places := ((changed w.files o.workspace.files).map (·.1)).filter fun p => !seen.contains p
    if places.isEmpty then return (w, o)
    else settle words fuel (places ++ seen) { w with files := ← lookAt w.files places }

/-- Makes an entry that a run left. -/
def commit (token : String) (e : Place × Entry) : IO Unit := do
  match e.2 with
  | .directory => IO.FS.createDirAll (systemPath e.1)
  | .file content =>
    let temporary := systemPath e.1 ++ "." ++ token
    IO.FS.writeBinFile temporary content
    IO.FS.rename temporary (systemPath e.1)

/-! ## Surroundings -/

/-- The variables of the environment that matter. -/
def variableNames : List String :=
  ["HOME", "XDG_CONFIG_HOME", "XDG_DATA_HOME", "NO_COLOR", "TERM", "SHAPECLI_PREFIX",
   "SHAPECLI_MAX_DEPTH", "SHAPECLI_WORKERS", "SHAPECLI_OUTPUT_DIR"]

/-- The variables of the environment that matter, with their values. -/
def environment : IO (List (String × String)) :=
  variableNames.filterMapM fun name => do return (← IO.getEnv name).map (name, ·)

/-- The present time. -/
def now : IO Instant := do
  let elapsed := (← Std.Time.Timestamp.now).toNanosecondsSinceUnixEpoch
  let t := Std.Time.PlainDateTime.ofWallTime (.ofNanoseconds elapsed)
  return {
    date := ⟨t.year.toInt.toNat, t.month.toNat, t.day.toNat⟩
    hour := t.hour.val.toNat
    minute := t.minute.val.toNat
    second := t.second.val.toNat
    microsecond := t.nanosecond.val.toNat / 1000
    offset := some 0 }

/-- A part for the names of temporary files. -/
def newToken : IO String := do return toString (← IO.rand 10000000 99999999)

/-- The text on the standard input, if a command line may need it. -/
def input (words : List String) : IO String := do
  if words.contains inputSign || words.contains "reset" then (← IO.getStdin).readToEnd
  else return ""

/-- The workspace that a run begins with. -/
def surroundings (words : List String) : IO Workspace := do
  let directory := (Path.ofText (← IO.currentDir).toString).names.reverse
  return {
    files := ← lookAt {} [directory]
    directory
    environment := ← environment
    system := "Linux"
    accountHome := "/"
    now := ← now
    input := ← input words
    token := ← newToken
    isTerminal := ← (← IO.getStdout).isTty }

/-- Runs the program on the words of a command line. -/
def runProgram (words : List String) : IO UInt32 := do
  let w ← surroundings words
  let w := { w with files := ← lookAt w.files (readPlaces words w) }
  let (w, o) ← settle words 4 [] w
  (changed w.files o.workspace.files).forM (commit w.token)
  (← IO.getStdout).putStr o.output
  (← IO.getStderr).putStr o.errors
  return UInt32.ofNat o.code

end ServiceShell.Outer

/-- Runs the program. -/
def main (words : List String) : IO UInt32 := ServiceShell.Outer.runProgram words
