import ServiceShell.Files.Tree

/-!
# Replacing files

A file is written as a whole: the text goes to a temporary file beside the target, which then takes
the target's place. So whoever reads the target finds its old content or its new content. Every call
that this takes can fail; then the temporary file is removed.

Main statements:

- `Replacement.run_no_fault`: without a fault the target holds the content, and nothing else
  changes.
-/

namespace ServiceShell

/-! ## Calls -/

/-- The calls that the replacement of a file takes. -/
inductive ReplacementCall where
  /-- Making the temporary file. -/
  | create
  /-- Handing over the content. -/
  | write
  /-- Passing on what was handed over. -/
  | flush
  /-- Waiting until the content is on the device. -/
  | sync
  /-- Giving up the temporary file. -/
  | close
  /-- Giving the temporary file the name of the target. -/
  | rename
  /-- Giving up the temporary file after a call failed. -/
  | abandon
  deriving DecidableEq, Repr

/-- What goes wrong in each call, if anything does. -/
abbrev Faults := ReplacementCall → Option FileProblem

/-- No fault at all. -/
def Faults.none : Faults := fun _ => .none

/-- Faults, and others where there are none. -/
def Faults.orElse (faults others : Faults) : Faults := fun call => (faults call).or (others call)

/-! ## Replacements -/

/-- A file that is to be replaced. -/
structure Replacement where
  /-- The place of the temporary file. -/
  temporary : Place
  /-- The place of the target. -/
  target : Place
  /-- The new content of the target. -/
  content : ByteArray

namespace Replacement

/-- The calls on an open temporary file, in order. -/
def openCalls : List ReplacementCall := [.write, .flush, .sync, .close]

/-- The first of some calls that fails. -/
def firstFault (faults : Faults) : List ReplacementCall → Option (ReplacementCall × FileProblem)
  | [] => none
  | call :: rest =>
    match faults call with
    | some problem => some (call, problem)
    | none => firstFault faults rest

/-- Gives the temporary file the name of the target. -/
def rename (r : Replacement) (t : FileTree) : FileTree :=
  (t.remove r.temporary).put r.target (.file r.content)

/-- Replaces a file. The files are as they are left, along with the call that failed, if one did. A
temporary file that cannot be given up stays. -/
def run (r : Replacement) (faults : Faults) (t : FileTree) :
    Option (ReplacementCall × FileProblem) × FileTree :=
  match faults .create with
  | some problem => (some (.create, problem), t)
  | none =>
    let t := t.put r.temporary (.file r.content)
    match firstFault faults openCalls with
    | some fault => (some ((faults .abandon).elim fault (.abandon, ·)),
        if (faults .abandon).isSome then t else t.remove r.temporary)
    | none =>
      match faults .rename with
      | some problem => (some (.rename, problem), t.remove r.temporary)
      | none => (none, r.rename t)

/-- Without a fault the temporary file takes the place of the target. -/
theorem run_no_fault (r : Replacement) (t : FileTree) :
    r.run Faults.none t = (none, r.rename (t.put r.temporary (.file r.content))) := by
  simp [run, firstFault, openCalls, Faults.none]

end Replacement

/-! ## Paths -/

namespace FileTree

/-- The name of the temporary file for a target. -/
def temporaryName (token : String) (path : Path) : String :=
  "." ++ path.name ++ "." ++ token ++ ".tmp"

/-- A place as an absolute path. -/
def placeText (place : Place) : String := "/" ++ "/".intercalate place.reverse

/-- What goes wrong for the temporary file in a directory, and for the target, as the files are. The
temporary file has to be a new one. -/
def replacementFaults (t : FileTree) (parent : Place) (temporary : String)
    (target : Except FileProblem Place) : Faults
  | .create =>
    if temporary.toList.contains '\x00' then some .badName
    else if temporary.utf8ByteSize > nameLimit then some .nameTooLong
    else if (t.lookup? (temporary :: parent)).isSome then some .alreadyThere
    else none
  | .rename =>
    match target with
    | .error problem => some problem
    | .ok place =>
      match t.lookup? place with
      | some .directory => some .isDirectory
      | _ => none
  | _ => none

/-- The place that the target of a path has; the directory itself, or the one around it, is in
use. -/
def targetPlace (parent : Place) (path : Path) : Except FileProblem Place :=
  if path.name = "" ∨ path.name = ".." then .error .busy else .ok (path.name :: parent)

/-- The error for a call that failed. -/
def replacementError (temporary : String) (path : Path) :
    ReplacementCall × FileProblem → FileError
  | (.rename, problem) => ⟨problem, temporary, some path.text⟩
  | (_, problem) => ⟨problem, temporary, none⟩

/-- Writes a file as a whole, and makes the directories around it where they are missing. Faults
come on top of those that the files give. -/
def writeWhole (t : FileTree) (directory : Place) (token : String) (faults : Faults) (path : Path)
    (content : ByteArray) : Except FileError Unit × FileTree :=
  match t.ensureDirectories directory path.parent with
  | .error (e, t) => (.error e, t)
  | .ok t =>
    match t.locate directory path.parent with
    | .error problem => (.error ⟨problem, path.parent.text, none⟩, t)
    | .ok parent =>
      let name := temporaryName token path
      let target := targetPlace parent path
      let r : Replacement := ⟨name :: parent, path.name :: parent, content⟩
      match r.run (faults.orElse (t.replacementFaults parent name target)) t with
      | (none, t) => (.ok (), t)
      | (some fault, t) => (.error (replacementError (placeText (name :: parent)) path fault), t)

end FileTree

end ServiceShell
