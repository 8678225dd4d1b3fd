import ServiceShell.Proofs.Workspace.Job
import ServiceShell.Service.Source
import ServiceShell.Settings.Store

/-!
# Jobs that write no other files

A job that writes files at certain paths leaves everything else as it is, but that directories may
be new.  Reading the settings and the model, and finding the directory for what is generated, write
no file at all.

Main results:

- Definition `Workspace.WritesOnly`: what is left by a job that writes files at certain paths only.
- Theorem `Job.WritesOnly.bind`: one such job after the other.
- Theorem `Workspace.WritesOnly.holdsFile`: a file that is there is not lost to such a job.
-/

namespace ServiceShell

namespace Workspace

/-- A file is at a path. -/
def HoldsFile (w : Workspace) (path : Path) : Prop :=
  ∃ place content, w.files.locate w.directory path = .ok place ∧
    w.files.lookup? place = some (.file content)

/-- Nothing changes but the files and what is left of the standard input; of the files, only those
at certain paths were written, and directories may be new. -/
structure WritesOnly (paths : List Path) (before after : Workspace) : Prop where
  /-- Only the files and the input may be others. -/
  eq : after = { before with files := after.files, input := after.input }
  /-- Every directory stays. -/
  directories : before.files.KeepsDirectories after.files
  /-- A place is as it was, or a new directory, or a file that one of the paths leads to. -/
  places : ∀ place, before.files.GrowsAt after.files place ∨
    ∃ path ∈ paths, after.files.locate after.directory path = .ok place ∧
      ∃ content, after.files.lookup? place = some (.file content)

variable {paths more : List Path} {u v w : Workspace}

theorem WritesOnly.refl (paths : List Path) (w : Workspace) : w.WritesOnly paths w :=
  ⟨rfl, fun _ h => h, fun _ => .inl (.inl rfl)⟩

/-- A file that is there is not lost. -/
theorem WritesOnly.holdsFile {path : Path} (h : v.WritesOnly paths w) (hfile : v.HoldsFile path) :
    w.HoldsFile path := by
  obtain ⟨place, content, hlocate, hlookup⟩ := hfile
  have hdirectory : w.directory = v.directory := by rw [h.eq]
  have hthere : ∃ content, w.files.lookup? place = some (.file content) := by
    rcases h.places place with hgrows | ⟨_, _, _, hwritten⟩
    · exact ⟨content, (hgrows.file_iff content).mpr hlookup⟩
    · exact hwritten
  obtain ⟨content', hlookup'⟩ := hthere
  refine ⟨place, content', ?_, hlookup'⟩
  rw [hdirectory]
  exact FileTree.locate_of_keepsDirectories h.directories hlocate

theorem WritesOnly.trans (h : u.WritesOnly paths v) (h' : v.WritesOnly paths w) :
    u.WritesOnly paths w := by
  have hdirectory : w.directory = v.directory := by rw [h'.eq]
  refine ⟨by rw [h'.eq, h.eq], ?_, fun place => ?_⟩
  · exact fun place hplace => h'.directories place (h.directories place hplace)
  rcases h'.places place with hgrows' | hwritten
  · rcases h.places place with hgrows | ⟨path, hpath, hlocate, content, hlookup⟩
    · exact .inl (hgrows.trans hgrows')
    · refine .inr ⟨path, hpath, ?_, content, (hgrows'.file_iff content).mpr hlookup⟩
      rw [hdirectory]
      exact FileTree.locate_of_keepsDirectories h'.directories hlocate
  · exact .inr hwritten

/-- Directories that are new do no harm. -/
theorem writesOnly_of_grows {files : FileTree} (h : w.files.Grows files) :
    w.WritesOnly paths { w with files } :=
  ⟨rfl, h.keepsDirectories, fun place => .inl (h place)⟩

end Workspace

namespace Job

variable {α β : Type} {paths : List Path}

/-- A job that writes files at certain paths only. -/
def WritesOnly (paths : List Path) (job : Job α) : Prop :=
  ∀ w : Workspace, w.WritesOnly paths (job.run w).2

/-! ## Steps -/

theorem writesOnly_pure (a : α) : WritesOnly paths (pure a) := fun w => .refl paths w

theorem writesOnly_ask (question : Workspace → Except Trouble α) :
    WritesOnly paths (ask question) := fun w => .refl paths w

theorem writesOnly_readInput : WritesOnly paths readInput := fun _ =>
  ⟨rfl, fun _ h => h, fun _ => .inl (.inl rfl)⟩

/-- One such job after the other. -/
theorem WritesOnly.bind {job : Job α} {next : α → Job β} (h : WritesOnly paths job)
    (hnext : ∀ a, WritesOnly paths (next a)) : WritesOnly paths (job >>= next) := by
  intro w
  have hfirst := h w
  rw [run_bind]
  split <;> rename_i heq <;> rw [heq] at hfirst
  · exact hfirst.trans (hnext _ _)
  · exact hfirst

theorem writesOnly_ensureDirectories (path : Path) :
    WritesOnly paths (ensureDirectories path) := by
  intro w
  rw [run_ensureDirectories]
  cases hmade : w.files.ensureDirectories w.directory path with
  | error e => exact Workspace.writesOnly_of_grows (FileTree.ensureDirectories_eq_error hmade).1
  | ok files => exact Workspace.writesOnly_of_grows (FileTree.ensureDirectories_eq_ok hmade).1

/-- A file that is written is at its path; one that cannot be written changes no other. -/
theorem writesOnly_writeText {path : Path} (hpath : path ∈ paths) (text : String) :
    WritesOnly paths (writeText path text) := by
  intro w
  by_cases hadmits : w.files.Admits w.directory w.token path
  · obtain ⟨made, parent, hadmitted⟩ := hadmits
    obtain ⟨files, hrun, hwritten, hlocate⟩ := run_writeText_of_isAdmitted hadmitted text
    rw [hrun]
    refine ⟨rfl, hwritten.keepsDirectories, fun place => ?_⟩
    by_cases hplace : place = path.name :: parent
    · rw [hplace]
      exact .inr ⟨path, hpath, hlocate, _, hwritten.written⟩
    · exact .inl (hwritten.others place hplace)
  · obtain ⟨e, files, hrun, hgrows⟩ := run_writeText_of_not_admits hadmits text
    rw [hrun]
    exact Workspace.writesOnly_of_grows hgrows

/-- A text that was written is in a file. -/
theorem holdsFile_of_writeText {path : Path} {text : String} {u : Unit} {w later : Workspace}
    (h : (writeText path text).run w = (.ok u, later)) : later.HoldsFile path := by
  by_cases hadmits : w.files.Admits w.directory w.token path
  · obtain ⟨made, parent, hadmitted⟩ := hadmits
    obtain ⟨files, hrun, hwritten, hlocate⟩ := run_writeText_of_isAdmitted hadmitted text
    rw [hrun] at h
    cases h
    exact ⟨_, _, hlocate, hwritten.written⟩
  · obtain ⟨e, files, hrun, -⟩ := run_writeText_of_not_admits hadmits text
    rw [hrun] at h
    cases h

/-! ## Jobs that write no file -/

theorem writesOnly_dataDirectory : WritesOnly paths dataDirectory :=
  (writesOnly_ask _).bind fun path => (writesOnly_ensureDirectories path).bind fun _ =>
    writesOnly_pure path

theorem writesOnly_settingsFile : WritesOnly paths settingsFile := by
  rw [settingsFile, map_eq_pure_bind]
  exact ((writesOnly_ask _).bind fun path => (writesOnly_ensureDirectories path).bind fun _ =>
    writesOnly_pure path).bind fun path => writesOnly_pure _

/-- Reading the settings. -/
theorem writesOnly_settings (c : Choices) : WritesOnly paths (settings c) :=
  (writesOnly_settingsFile.bind fun _ => writesOnly_ask _).bind fun _ =>
    (writesOnly_ask _).bind fun _ => writesOnly_ask _

/-- Finding the directory for what is generated. -/
theorem writesOnly_outputDirectory (s : Settings) : WritesOnly paths (outputDirectory s) := by
  unfold outputDirectory
  split
  · unfold expanded
    simp only
    split
    · exact writesOnly_ask _
    · exact writesOnly_pure _
  · rw [map_eq_pure_bind]
    exact writesOnly_dataDirectory.bind fun _ => writesOnly_pure _

theorem writesOnly_model (source : String) : WritesOnly paths (model source) := by
  unfold model
  split
  · exact writesOnly_readInput.bind fun _ => writesOnly_ask _
  · exact writesOnly_ask _

/-- Reading the model. -/
theorem writesOnly_modelWith (source : String) (pages : Option String) :
    WritesOnly paths (modelWith source pages) := by
  refine (writesOnly_model source).bind fun fields => ?_
  cases pages with
  | none => exact writesOnly_pure _
  | some pages =>
      exact ((writesOnly_model pages).bind fun _ => writesOnly_ask _).bind fun _ =>
        writesOnly_pure _

end Job

end ServiceShell
