import ServiceShell.Proofs.Settings.Outcome
import ServiceShell.Proofs.Settings.Saved

/-!
# What breaks settings off

The settings in force are put together from files that anyone may write, and from an environment
that anyone may set.  Trouble with them is to be told as trouble with the settings.  This module
says exactly where the work is broken off instead.

Main results:

- Definition `Workspace.SettingsBreak`: files, environments and choices that break the work off.
- Theorem `Job.settings_ends_iff`: in all other cases it gives settings, or tells what is wrong.
-/

namespace ServiceShell

open Document Record

/-! ## Documents in files -/

namespace Workspace

variable {w later : Workspace} {path : Path}

/-- A document is looked for at any path but one with a name that is too long. -/
theorem breaksOff_settingsDocument?_iff {problem : SettingsFileProblem → SettingsProblem} :
    BreaksOff (w.settingsDocument? path problem) ↔
      w.files.find w.directory path = .error .nameTooLong := by
  rw [settingsDocument?, isFile, FileTree.isFile]
  cases hfind : w.files.find w.directory path with
  | error fault => cases fault <;> simp [fileResult, Except.mapError, bind, Except.bind, pure,
      Except.pure]
  | ok entry =>
      cases entry with
      | directory => simp [fileResult, Except.mapError, bind, Except.bind, pure, Except.pure]
      | file content =>
          have htext : w.fileText path = .ok (textOf content) := by
            rw [fileText, FileTree.content, hfind]
            rfl
          simp only [fileResult, Except.mapError, bind, Except.bind, if_true, htext]
          cases textOf content with
          | error b => simp
          | ok text =>
              cases hparse : Json.parse text <;> simp [hparse, Functor.map, Except.map]

/-- The user's settings cannot be had where their completions stop the check. -/
theorem breaksOff_userSettings_iff :
    BreaksOff (w.userSettings path) ↔
      w.files.find w.directory path = .error .nameTooLong ∨
        ∃ d, w.settingsDocument? path (.userFile path.text) = .ok (some d) ∧
          d.fields.StopCheck := by
  rw [userSettings, breaksOff_bind_iff, breaksOff_settingsDocument?_iff]
  refine or_congr_right ⟨?_, ?_⟩
  · rintro ⟨d, hd, hbreak⟩
    cases d with
    | none => exact absurd hbreak (not_breaksOff_ok _)
    | some d => exact ⟨d, hd, Settings.breaksOff_decode_iff.mp hbreak⟩
  · rintro ⟨d, hd, hstop⟩
    exact ⟨some d, hd, Settings.breaksOff_decode_iff.mpr hstop⟩

theorem breaksOff_projectSettings_iff :
    BreaksOff w.projectSettings ↔
      w.files.find w.directory w.projectFile = .error .nameTooLong := by
  rw [projectSettings, breaksOff_bind_iff, breaksOff_settingsDocument?_iff, or_iff_left]
  rintro ⟨d, -, hbreak⟩
  split at hbreak <;> simp [pure, Except.pure] at hbreak

/-! ## The user's file -/

/-- The path of the user's file leads to a place, be there a file or not. -/
theorem exists_locate_settingsFile (h : Job.settingsFile.run w = (.ok path, later)) :
    ∃ place, later.files.locate later.directory path = .ok place := by
  obtain ⟨directory, files, -, hfiles, rfl, rfl⟩ := Job.run_settingsFile_eq_ok_iff.mp h
  obtain ⟨parent, hlocate, hthere⟩ :=
    FileTree.find_eq_ok_iff.mp (FileTree.ensureDirectories_eq_ok hfiles).2
  exact ⟨_, FileTree.locate_child hlocate hthere (show settingsName ≠ ".." by decide) (by decide)
    (by decide)⟩

theorem find_settingsFile_ne (h : Job.settingsFile.run w = (.ok path, later)) :
    later.files.find later.directory path ≠ .error .nameTooLong := by
  obtain ⟨place, hplace⟩ := exists_locate_settingsFile h
  cases hlookup : later.files.lookup? place <;> simp [FileTree.find, hplace, hlookup]

/-- The user's settings that were loaded can be stored. -/
theorem isStorable_of_userSettings {s : Settings}
    (h : Job.settingsFile.run w = (.ok path, later)) (hs : later.userSettings path = .ok s) :
    s.IsStorable := by
  obtain ⟨place, hplace⟩ := exists_locate_settingsFile h
  exact ((userSettings_eq_ok_iff_isHeld hplace).mp hs).isStorable

end Workspace

/-! ## Jobs -/

namespace Job

variable {α β : Type} {w later : Workspace}

/-- Of two jobs, the second is broken off if the first is not. -/
theorem breaksOff_run_bind_iff {job : Job α} {next : α → Job β} :
    BreaksOff ((job >>= next).run w).1 ↔
      BreaksOff (job.run w).1 ∨
        ∃ a later, job.run w = (.ok a, later) ∧ BreaksOff ((next a).run later).1 := by
  rw [run_bind]
  rcases job.run w with ⟨trouble | a, middle⟩
  · constructor
    · rintro ⟨_, ⟨⟩, h⟩
      exact .inl ⟨_, rfl, h⟩
    · rintro (⟨_, ⟨⟩, h⟩ | ⟨_, _, ⟨⟩, _⟩)
      exact ⟨_, rfl, h⟩
  · constructor
    · intro h
      exact .inr ⟨a, middle, rfl, h⟩
    · rintro (h | ⟨_, _, ⟨⟩, h⟩)
      · exact absurd h (not_breaksOff_ok a)
      · exact h

/-- After a question, a job is broken off if the question is answered. -/
theorem breaksOff_run_ask_bind_iff {question : Workspace → Except Trouble α} {next : α → Job β} :
    BreaksOff ((ask question >>= next).run w).1 ↔
      BreaksOff (question w) ∨ ∃ a, question w = .ok a ∧ BreaksOff ((next a).run w).1 := by
  rw [breaksOff_run_bind_iff]
  refine or_congr_right (exists_congr fun a => ?_)
  simp only [run_ask_eq_ok_iff, and_assoc, exists_and_left, exists_eq_left']

end Job

/-- The user's directory cannot be told without a home, and then the work is broken off. -/
theorem Workspace.not_refuses_settingsDirectory {w : Workspace} :
    ¬ Refuses w.settingsDirectory := by
  have hhome : ¬ Refuses w.home := by
    unfold home
    split <;> simp
  have hmap : ∀ {x : Except Trouble Path} {f : Path → Path}, Refuses (x.map f) → Refuses x := by
    rintro x f ⟨problem, h⟩
    exact ⟨problem, map_eq_error_iff.mp h⟩
  unfold settingsDirectory purposeDirectory
  split
  · intro h
    split at h
    · exact not_refuses_ok _ (hmap h)
    · exact hhome (hmap (hmap h))
  · exact mt hmap hhome

namespace Job

theorem breaksOff_ensureDirectories_iff {path : Path} :
    BreaksOff ((ensureDirectories path).run w).1 ↔
      ¬ ∃ files, w.files.ensureDirectories w.directory path = .ok files := by
  rw [run_ensureDirectories]
  cases w.files.ensureDirectories w.directory path <;> simp

/-- The user's directory is had and made, or the work is broken off. -/
theorem breaksOff_settingsFile_iff :
    BreaksOff (settingsFile.run w).1 ↔
      ¬ ∃ directory files, w.settingsDirectory = .ok directory ∧
        w.files.ensureDirectories w.directory directory = .ok files := by
  rw [settingsFile, map_eq_pure_bind, settingsDirectory, breaksOff_run_bind_iff,
    breaksOff_run_ask_bind_iff]
  simp only [breaksOff_run_bind_iff, breaksOff_ensureDirectories_iff, run_pure, not_breaksOff_ok,
    and_false, exists_false, or_false]
  cases hdirectory : w.settingsDirectory with
  | error trouble =>
      have hbreak : BreaksOff (.error trouble : Except Trouble Path) := by
        by_contra h
        rcases not_breaksOff_iff.mp h with ⟨_, ⟨⟩⟩ | hrefuses
        exact Workspace.not_refuses_settingsDirectory (hdirectory ▸ hrefuses)
      simp [hbreak]
  | ok directory => simp

end Job

namespace Job

/-- The user's settings cannot be had without the user's directory, or where their completions stop
the check. -/
theorem breaksOff_userSettings_iff :
    BreaksOff (userSettings.run w).1 ↔
      BreaksOff (settingsFile.run w).1 ∨
        ∃ path later d, settingsFile.run w = (.ok path, later) ∧
          later.settingsDocument? path (.userFile path.text) = .ok (some d) ∧
          d.fields.StopCheck := by
  rw [userSettings, breaksOff_run_bind_iff]
  refine or_congr_right (exists_congr fun path => exists_congr fun later => ?_)
  rw [exists_and_left]
  refine and_congr_right fun hpath => ?_
  rw [run_ask, Workspace.breaksOff_userSettings_iff,
    or_iff_right (Workspace.find_settingsFile_ne hpath)]

end Job

/-! ## Main statements -/

/-- The files, environments and choices for which the work is broken off that puts the settings in
force together. -/
inductive Workspace.SettingsBreak (w : Workspace) (c : Choices) : Prop
  /-- The user's directory cannot be told, or cannot be made. -/
  | directory (h : ¬ ∃ directory files, w.settingsDirectory = .ok directory ∧
      w.files.ensureDirectories w.directory directory = .ok files)
  /-- The completions in the user's file stop the check. -/
  | user {path : Path} {later : Workspace} {d : Document}
      (hpath : Job.settingsFile.run w = (.ok path, later))
      (hfile : later.settingsDocument? path (.userFile path.text) = .ok (some d))
      (h : d.fields.StopCheck)
  /-- The path of the project's file has a name that is too long. -/
  | name {path : Path} {later : Workspace} {user : Settings}
      (hpath : Job.settingsFile.run w = (.ok path, later))
      (huser : later.userSettings path = .ok user)
      (h : later.files.find later.directory later.projectFile = .error .nameTooLong)
  /-- The layers above the user's file break the work off. -/
  | layers {path : Path} {later : Workspace} {user : Settings} {project : Option Fields}
      (hpath : Job.settingsFile.run w = (.ok path, later))
      (huser : later.userSettings path = .ok user)
      (hproject : later.projectSettings = .ok project) (h : c.Break w (project.getD []))

namespace Job

/-- The work is broken off exactly there. -/
theorem breaksOff_settings_iff {c : Choices} :
    BreaksOff ((settings c).run w).1 ↔ w.SettingsBreak c := by
  have hlayer : ∀ {path later user project}, settingsFile.run w = (.ok path, later) →
      later.userSettings path = .ok user → later.projectSettings = .ok project →
      (BreaksOff (user.layer project later c) ↔ c.Break w (project.getD [])) := by
    intro path later user project hpath huser hproject
    have hstorable := Workspace.isStorable_of_userSettings hpath huser
    obtain ⟨_, files, -, -, -, rfl⟩ := run_settingsFile_eq_ok_iff.mp hpath
    rw [Settings.breaksOff_layer_iff hstorable (Workspace.isMadeOf_of_projectSettings hproject)]
    -- The layers see of the workspace only its environment, which is as before.
    constructor <;> rintro (⟨h, hfirst⟩ | ⟨h, hformat, hread⟩ | ⟨h, hread⟩)
    · exact .generator h hfirst
    · exact .output h hformat hread
    · exact .completions h hread
    · exact .generator h hfirst
    · exact .output h hformat hread
    · exact .completions h hread
  rw [settings, breaksOff_run_bind_iff, breaksOff_userSettings_iff, breaksOff_settingsFile_iff]
  simp only [breaksOff_run_ask_bind_iff, run_userSettings_eq_ok_iff, run_ask,
    Workspace.breaksOff_projectSettings_iff]
  constructor
  · rintro ((h | ⟨path, later, d, hpath, hfile, h⟩) |
      ⟨user, later, ⟨path, hpath, huser⟩, h | ⟨project, hproject, h⟩⟩)
    · exact .directory h
    · exact .user hpath hfile h
    · exact .name hpath huser h
    · exact .layers hpath huser hproject ((hlayer hpath huser hproject).mp h)
  · rintro (h | ⟨hpath, hfile, h⟩ | ⟨hpath, huser, h⟩ | ⟨hpath, huser, hproject, h⟩)
    · exact .inl (.inl h)
    · exact .inl (.inr ⟨_, _, _, hpath, hfile, h⟩)
    · exact .inr ⟨_, _, ⟨_, hpath, huser⟩, .inl h⟩
    · exact .inr ⟨_, _, ⟨_, hpath, huser⟩, .inr ⟨_, hproject,
        (hlayer hpath huser hproject).mpr h⟩⟩

/-- Unless the work is broken off, it gives settings, or tells what is wrong with them. -/
theorem settings_ends_iff {c : Choices} :
    ((∃ s, ((settings c).run w).1 = .ok s) ∨ Refuses ((settings c).run w).1) ↔
      ¬ w.SettingsBreak c := by
  rw [← not_breaksOff_iff, breaksOff_settings_iff]

end Job

end ServiceShell
