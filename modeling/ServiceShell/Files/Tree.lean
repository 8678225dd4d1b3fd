import ServiceShell.Document.Literal
import ServiceShell.Files.Path

/-!
# Trees of files

The files and directories that a program sees, and what can go wrong with them. A place is the
sequence of names that lead to it from the root; paths are followed from the current directory.

Main statements:

- `FileTree.lookup?_put_same`, `FileTree.lookup?_put_other`: what was put at a place is found there,
  and other places are as before.
- `FileTree.lookup?_remove_same`, `FileTree.lookup?_remove_other`: the same for what was removed.
-/

namespace ServiceShell

/-! ## Problems -/

/-- What can go wrong with a path. -/
inductive FileProblem where
  /-- Nothing is there. -/
  | missing
  /-- Something is there already. -/
  | alreadyThere
  /-- A name along the path is no directory. -/
  | notDirectory
  /-- A directory is there. -/
  | isDirectory
  /-- The place is in use. -/
  | busy
  /-- A name is too long. -/
  | nameTooLong
  /-- The path holds a NUL. -/
  | badName
  deriving DecidableEq, Repr

/-- The number of a problem and the text that tells it; a path that makes no sense has no number. -/
def FileProblem.describe : FileProblem → Option Nat × String
  | missing => (some 2, "No such file or directory")
  | busy => (some 16, "Device or resource busy")
  | alreadyThere => (some 17, "File exists")
  | notDirectory => (some 20, "Not a directory")
  | isDirectory => (some 21, "Is a directory")
  | nameTooLong => (some 36, "File name too long")
  | badName => (none, "embedded null byte")

/-- A problem with the paths it was met at. -/
structure FileError where
  /-- The problem. -/
  problem : FileProblem
  /-- The path. -/
  path : String
  /-- The path that it was to become. -/
  target : Option String := none
  deriving DecidableEq, Repr

/-- The message of a problem. -/
def FileError.message (e : FileError) : String :=
  match e.problem.describe with
  | (none, text) => text
  | (some number, text) =>
    s!"[Errno {number}] {text}: " ++ textLiteral e.path
      ++ (match e.target with
        | some target => " -> " ++ textLiteral target
        | none => "")

/-! ## Trees -/

/-- A place: the names that lead to it from the root, innermost first. -/
abbrev Place := List String

/-- What can be at a place. -/
inductive Entry where
  /-- A directory. -/
  | directory
  /-- A file with its content. -/
  | file (content : ByteArray)

/-- The files and directories that there are. -/
structure FileTree where
  /-- What is at each place. -/
  entries : List (Place × Entry) := []
  deriving Inhabited

namespace FileTree

/-- The first entry at a place. -/
def entryIn (place : Place) : List (Place × Entry) → Option Entry
  | [] => none
  | (p, e) :: rest => if p = place then some e else entryIn place rest

/-- What is at a place; the root is a directory. -/
def lookup? (t : FileTree) (place : Place) : Option Entry :=
  if place = [] then some .directory else entryIn place t.entries

/-- Puts an entry at a place. -/
def putEntry (place : Place) (entry : Entry) : List (Place × Entry) → List (Place × Entry)
  | [] => [(place, entry)]
  | (p, e) :: rest => if p = place then (p, entry) :: rest else (p, e) :: putEntry place entry rest

/-- Puts an entry at a place. -/
def put (t : FileTree) (place : Place) (entry : Entry) : FileTree :=
  ⟨putEntry place entry t.entries⟩

/-- Removes what is at a place. -/
def remove (t : FileTree) (place : Place) : FileTree :=
  ⟨t.entries.filter fun e => e.1 ≠ place⟩

theorem entryIn_putEntry_same (place : Place) (entry : Entry) (entries : List (Place × Entry)) :
    entryIn place (putEntry place entry entries) = some entry := by
  induction entries with
  | nil => simp [putEntry, entryIn]
  | cons e rest ih =>
    by_cases h : e.1 = place
    · simp [putEntry, entryIn, h]
    · simp [putEntry, entryIn, h, ih]

theorem entryIn_putEntry_other {place other : Place} (hne : place ≠ other) (entry : Entry)
    (entries : List (Place × Entry)) :
    entryIn other (putEntry place entry entries) = entryIn other entries := by
  induction entries with
  | nil => simp [putEntry, entryIn, hne]
  | cons e rest ih =>
    by_cases h : e.1 = place
    · simp [putEntry, entryIn, h, hne]
    · simp only [putEntry, h, if_false, entryIn]
      split <;> simp_all

theorem entryIn_filter_same (place : Place) (entries : List (Place × Entry)) :
    entryIn place (entries.filter fun e => e.1 ≠ place) = none := by
  induction entries with
  | nil => rfl
  | cons e rest ih =>
    by_cases h : e.1 = place
    · simpa [h] using ih
    · simpa [entryIn, h] using ih

theorem entryIn_filter_other {place other : Place} (hne : place ≠ other)
    (entries : List (Place × Entry)) :
    entryIn other (entries.filter fun e => e.1 ≠ place) = entryIn other entries := by
  induction entries with
  | nil => rfl
  | cons e rest ih =>
    by_cases h : e.1 = place
    · simpa [entryIn, h, hne] using ih
    · by_cases ho : e.1 = other
      · simp [entryIn, ho, Ne.symm hne]
      · simpa [entryIn, h, ho] using ih

/-- What was put at a place is found there. -/
@[simp] theorem lookup?_put_same {t : FileTree} {place : Place} {entry : Entry} (h : place ≠ []) :
    (t.put place entry).lookup? place = some entry := by
  simp [lookup?, put, h, entryIn_putEntry_same]

/-- Putting an entry leaves the other places as they are. -/
@[simp] theorem lookup?_put_other {t : FileTree} {place other : Place} {entry : Entry}
    (hne : place ≠ other) : (t.put place entry).lookup? other = t.lookup? other := by
  simp [lookup?, put, entryIn_putEntry_other hne]

/-- What was removed is not found. -/
@[simp] theorem lookup?_remove_same {t : FileTree} {place : Place} (h : place ≠ []) :
    (t.remove place).lookup? place = none := by
  simpa [lookup?, remove, h] using entryIn_filter_same place t.entries

/-- Removing an entry leaves the other places as they are. -/
@[simp] theorem lookup?_remove_other {t : FileTree} {place other : Place} (hne : place ≠ other) :
    (t.remove place).lookup? other = t.lookup? other := by
  have := entryIn_filter_other hne t.entries
  simp only [lookup?, remove]
  split
  · rfl
  · exact this

/-! ## Following paths -/

/-- The greatest number of bytes of a name. -/
def nameLimit : Nat := 255

/-- Follows names from a place. All but the last have to be directories; the last need not be
there. -/
def walk (t : FileTree) (place : Place) : List String → Except FileProblem Place
  | [] => .ok place
  | name :: rest =>
    match t.lookup? place with
    | none => .error .missing
    | some (.file _) => .error .notDirectory
    | some .directory =>
      if name = ".." then walk t place.tail rest
      else if name.utf8ByteSize > nameLimit then .error .nameTooLong
      else walk t (name :: place) rest

/-- The place of a path seen from a directory. -/
def locate (t : FileTree) (directory : Place) (path : Path) : Except FileProblem Place :=
  if path.names.any fun name => name.toList.contains '\x00' then .error .badName
  else t.walk (if path.root = "" then directory else []) path.names

/-- What is at a path. -/
def find (t : FileTree) (directory : Place) (path : Path) : Except FileProblem Entry :=
  match t.locate directory path with
  | .error problem => .error problem
  | .ok place =>
    match t.lookup? place with
    | some entry => .ok entry
    | none => .error .missing

/-- Whether a file is at a path; only a name that is too long is a problem. -/
def isFile (t : FileTree) (directory : Place) (path : Path) : Except FileError Bool :=
  match t.find directory path with
  | .ok (.file _) => .ok true
  | .error .nameTooLong => .error ⟨.nameTooLong, path.text, none⟩
  | _ => .ok false

/-- The content of the file at a path. -/
def content (t : FileTree) (directory : Place) (path : Path) : Except FileError ByteArray :=
  match t.find directory path with
  | .ok (.file content) => .ok content
  | .ok .directory => .error ⟨.isDirectory, path.text, none⟩
  | .error problem => .error ⟨problem, path.text, none⟩

/-! ## Directories -/

/-- Makes one directory; something must not be there, but what is around it must. -/
def makeDirectory (t : FileTree) (directory : Place) (path : Path) :
    Except FileProblem FileTree :=
  match t.locate directory path with
  | .error problem => .error problem
  | .ok place =>
    match t.lookup? place with
    | some _ => .error .alreadyThere
    | none => .ok (t.put place .directory)

/-- Makes a directory where there may be one already. -/
def ensureDirectory (t : FileTree) (directory : Place) (path : Path) : Except FileError FileTree :=
  match t.makeDirectory directory path with
  | .ok t => .ok t
  | .error problem =>
    match t.find directory path with
    | .ok .directory => .ok t
    | _ => .error ⟨problem, path.text, none⟩

/-- Makes the directory that the first `n` names of a path lead to, and those around it. Trouble
comes with the files as they are left: directories that were made before it stay. -/
def ensureUpTo (t : FileTree) (directory : Place) (path : Path) :
    Nat → Except (FileError × FileTree) FileTree
  | 0 => (t.ensureDirectory directory { path with names := [] }).mapError (·, t)
  | n + 1 =>
    let here : Path := { path with names := path.names.take (n + 1) }
    match t.makeDirectory directory here with
    | .error .missing => do
      let t ← t.ensureUpTo directory path n
      (t.ensureDirectory directory here).mapError (·, t)
    | _ => (t.ensureDirectory directory here).mapError (·, t)

/-- Makes a directory and those around it, where they are missing. -/
def ensureDirectories (t : FileTree) (directory : Place) (path : Path) :
    Except (FileError × FileTree) FileTree :=
  t.ensureUpTo directory path path.names.length

end FileTree

end ServiceShell
