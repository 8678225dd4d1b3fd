import ServiceShell.Proofs.Files.Replacement
import ServiceShell.Workspace.Basic

/-!
# Jobs that change files

What jobs leave behind.  A text is written to a file as a whole, or no file changes; making
directories changes no file at all.

Most of what a job does to a workspace has nothing to do with the files of a certain name: it makes
directories, and writes files of other names.  A job that is put together from such steps is such a
job.

Main results:

- Theorem `Job.run_writeText_of_isAdmitted`: where a file can be written, it holds the text.
- Theorem `Job.run_writeText_of_not_admits`: where it cannot, no file changes.
- Definition `Workspace.Keeps`: what is left of a workspace by a job that leaves the files of a name
  alone.
- Theorem `Job.Keeps.bind`: one such job after the other.
- Theorem `Job.keeps_writeText`: writing a file of another name.
-/

namespace ServiceShell

namespace Job

variable {α β : Type} {w later : Workspace} {path : Path}

/-! ## Steps -/

/-- Two jobs end with a value exactly when the first does, and the second does from there. -/
theorem run_bind_eq_ok_iff {job : Job α} {next : α → Job β} {b : β} :
    (job >>= next).run w = (.ok b, later) ↔
      ∃ a middle, job.run w = (.ok a, middle) ∧ (next a).run middle = (.ok b, later) := by
  rw [run_bind]
  rcases job.run w with ⟨_ | a, middle⟩
  · constructor
    · intro h
      cases h
    · rintro ⟨_, _, h, _⟩
      cases h
  · constructor
    · intro h
      exact ⟨a, middle, rfl, h⟩
    · rintro ⟨_, _, ⟨⟩, h⟩
      exact h

/-- A question that is answered. -/
theorem run_ask_eq_ok_iff {question : Workspace → Except Trouble α} {a : α} :
    (ask question).run w = (.ok a, later) ↔ question w = .ok a ∧ w = later := by
  rw [run_ask, Prod.mk.injEq]

theorem run_ensureDirectories (path : Path) (w : Workspace) :
    (ensureDirectories path).run w =
      match w.files.ensureDirectories w.directory path with
      | .ok files => ((.ok (), { w with files }) : Except Trouble Unit × Workspace)
      | .error (e, files) => (.error (.unexpected (.file e)), { w with files }) := rfl

/-- A directory that was made. -/
theorem run_ensureDirectories_eq_ok_iff {u : Unit} :
    (ensureDirectories path).run w = (.ok u, later) ↔
      ∃ files, w.files.ensureDirectories w.directory path = .ok files ∧
        later = { w with files } := by
  rw [run_ensureDirectories]
  cases w.files.ensureDirectories w.directory path with
  | error e =>
      constructor
      · intro h
        cases h
      · rintro ⟨_, h, _⟩
        cases h
  | ok files =>
      constructor
      · rintro ⟨⟩
        exact ⟨files, rfl, rfl⟩
      · rintro ⟨_, ⟨⟩, rfl⟩
        rfl

/-! ## Writing -/

theorem run_writeText (path : Path) (text : String) (w : Workspace) :
    (writeText path text).run w =
      (Workspace.fileResult
        (w.files.writeWhole w.directory w.token Faults.none path text.toUTF8).1,
        { w with
          files := (w.files.writeWhole w.directory w.token Faults.none path text.toUTF8).2 }) := rfl

/-- Where a file can be written, it holds the text, and is found by its path. -/
theorem run_writeText_of_isAdmitted {made : FileTree} {parent : Place}
    (h : w.files.IsAdmitted w.directory w.token path made parent) (text : String) :
    ∃ files, (writeText path text).run w = (.ok (), { w with files }) ∧
      w.files.IsWritten files (path.name :: parent) text.toUTF8 ∧
      files.locate w.directory path = .ok (path.name :: parent) := by
  obtain ⟨files, hwrite, hwritten, hlocate⟩ := FileTree.writeWhole_of_isAdmitted h text.toUTF8
  refine ⟨files, ?_, hwritten, hlocate⟩
  rw [run_writeText, hwrite]
  rfl

/-- The workspace then. -/
theorem run_writeText_eq_of_isAdmitted {made : FileTree} {parent : Place}
    (h : w.files.IsAdmitted w.directory w.token path made parent) (text : String) :
    (writeText path text).run w =
      (.ok (), { w with files := made.put (path.name :: parent) (.file text.toUTF8) }) := by
  rw [run_writeText, FileTree.writeWhole_eq_of_isAdmitted h]
  rfl

/-- Where it cannot be written, no file changes. -/
theorem run_writeText_of_not_admits (h : ¬ w.files.Admits w.directory w.token path)
    (text : String) :
    ∃ e files, (writeText path text).run w = (.error (.unexpected (.file e)), { w with files }) ∧
      w.files.Grows files := by
  obtain ⟨e, files, hwrite, hgrows⟩ := FileTree.writeWhole_of_not_admits h text.toUTF8
  refine ⟨e, files, ?_, hgrows⟩
  rw [run_writeText, hwrite]
  rfl

end Job

/-! ## Files left alone -/

namespace Workspace

/-- Every directory stays, and the files of a name are as they were. Nothing but other files
changes. -/
structure Keeps (name : String) (before after : Workspace) : Prop where
  /-- Only files may be others. -/
  eq : after = { before with files := after.files }
  /-- Every directory stays. -/
  directories : before.files.KeepsDirectories after.files
  /-- The files of the name are as they were. -/
  files : ∀ parent content, after.files.lookup? (name :: parent) = some (.file content) ↔
    before.files.lookup? (name :: parent) = some (.file content)

variable {name : String} {u v w : Workspace}

theorem Keeps.refl (w : Workspace) : w.Keeps name w :=
  ⟨rfl, fun _ h => h, fun _ _ => Iff.rfl⟩

theorem Keeps.trans (h : u.Keeps name v) (h' : v.Keeps name w) : u.Keeps name w := by
  refine ⟨?_, fun place hplace => h'.directories place (h.directories place hplace),
    fun parent content => (h'.files parent content).trans (h.files parent content)⟩
  rw [h'.eq, h.eq]

/-- The console shows the same. -/
theorem Keeps.showsMarkup (h : v.Keeps name w) : w.showsMarkup = v.showsMarkup := by
  rw [h.eq]

/-- Directories that are new do no harm. -/
theorem keeps_of_grows {files : FileTree} (h : w.files.Grows files) :
    w.Keeps name { w with files } :=
  ⟨rfl, h.keepsDirectories, fun _ content => (h _).file_iff content⟩

end Workspace

namespace Job

variable {α β : Type} {name : String}

/-- A job that leaves the files of a name alone. -/
def Keeps (name : String) (job : Job α) : Prop := ∀ w : Workspace, w.Keeps name (job.run w).2

theorem keeps_pure (a : α) : Keeps name (pure a) := fun w => .refl w

theorem keeps_ask (question : Workspace → Except Trouble α) : Keeps name (ask question) :=
  fun w => .refl w

/-- One such job after the other. -/
theorem Keeps.bind {job : Job α} {next : α → Job β} (h : Keeps name job)
    (hnext : ∀ a, Keeps name (next a)) : Keeps name (job >>= next) := by
  intro w
  have hfirst := h w
  rw [run_bind]
  split <;> rename_i heq <;> rw [heq] at hfirst
  · exact hfirst.trans (hnext _ _)
  · exact hfirst

theorem keeps_ensureDirectories (path : Path) : Keeps name (ensureDirectories path) := by
  intro w
  rw [run_ensureDirectories]
  cases hmade : w.files.ensureDirectories w.directory path with
  | error e => exact Workspace.keeps_of_grows (FileTree.ensureDirectories_eq_error hmade).1
  | ok files => exact Workspace.keeps_of_grows (FileTree.ensureDirectories_eq_ok hmade).1

/-- Writing a file of another name. -/
theorem keeps_writeText {path : Path} (hname : name ≠ path.name) (text : String) :
    Keeps name (writeText path text) := by
  intro w
  by_cases hadmits : w.files.Admits w.directory w.token path
  · obtain ⟨made, parent, hadmitted⟩ := hadmits
    obtain ⟨files, hrun, hwritten, -⟩ := run_writeText_of_isAdmitted hadmitted text
    rw [hrun]
    refine ⟨rfl, hwritten.keepsDirectories, fun place content => ?_⟩
    exact (hwritten.others _ fun heq => hname (List.cons.inj heq).1).file_iff content
  · obtain ⟨e, files, hrun, hgrows⟩ := run_writeText_of_not_admits hadmits text
    rw [hrun]
    exact Workspace.keeps_of_grows hgrows

theorem keeps_dataDirectory : Keeps name dataDirectory :=
  (keeps_ask _).bind fun path => (keeps_ensureDirectories path).bind fun _ => keeps_pure path

end Job

end ServiceShell
