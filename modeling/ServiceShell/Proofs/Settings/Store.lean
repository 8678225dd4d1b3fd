import ServiceShell.Proofs.Json.Parsed
import ServiceShell.Proofs.Result
import ServiceShell.Proofs.Settings.Record
import ServiceShell.Proofs.Text.Split
import ServiceShell.Proofs.Workspace.Job
import ServiceShell.Settings.Store

/-!
# Settings that are loaded

Settings that were loaded from a file tell of the file: it is not there, or holds a document that
they were read from.

Main results:

- Theorem `Job.run_settingsFile_eq_ok_iff`: where the user's file of settings is.
- Theorem `Workspace.isMadeOf_of_settingsDocument?`: what the document in a file is made of.
- Theorem `Workspace.userSettings_eq_ok_iff`: what the user's settings were read from.
-/

namespace ServiceShell

open Record

/-! ## The user's file -/

/-- The user's file of settings is in the user's directory, which is there then. -/
theorem Job.run_settingsFile_eq_ok_iff {w later : Workspace} {path : Path} :
    settingsFile.run w = (.ok path, later) ↔
      ∃ directory files, w.settingsDirectory = .ok directory ∧
        w.files.ensureDirectories w.directory directory = .ok files ∧
        path = directory.join ⟨"", ["config.json"]⟩ ∧ later = { w with files } := by
  rw [settingsFile, map_eq_pure_bind, settingsDirectory]
  simp only [run_bind_eq_ok_iff, run_ask_eq_ok_iff, run_ensureDirectories_eq_ok_iff, run_pure]
  constructor
  · rintro ⟨_, _, ⟨_, _, ⟨hdirectory, rfl⟩, _, _, ⟨files, hfiles, rfl⟩, ⟨⟩⟩, ⟨⟩⟩
    exact ⟨_, files, hdirectory, hfiles, rfl, rfl⟩
  · rintro ⟨directory, files, hdirectory, hfiles, rfl, rfl⟩
    exact ⟨directory, _, ⟨directory, w, ⟨hdirectory, rfl⟩, (), _, ⟨files, hfiles, rfl⟩, rfl⟩,
      rfl⟩

/-- The user's settings are those in the user's file. -/
theorem Job.run_userSettings_eq_ok_iff {w later : Workspace} {user : Settings} :
    userSettings.run w = (.ok user, later) ↔
      ∃ path, settingsFile.run w = (.ok path, later) ∧ later.userSettings path = .ok user := by
  rw [userSettings, run_bind_eq_ok_iff]
  simp only [run_ask_eq_ok_iff]
  constructor
  · rintro ⟨path, _, hpath, huser, rfl⟩
    exact ⟨path, hpath, huser⟩
  · rintro ⟨path, hpath, huser⟩
    exact ⟨path, later, hpath, huser, rfl⟩

/-- The settings in force are the layers over the user's settings. -/
theorem Job.run_settings_eq_ok_iff {c : Choices} {w later : Workspace} {s : Settings} :
    (settings c).run w = (.ok s, later) ↔
      ∃ user project, userSettings.run w = (.ok user, later) ∧
        later.projectSettings = .ok project ∧ user.layer project later c = .ok s := by
  rw [settings]
  simp only [run_bind_eq_ok_iff, run_ask_eq_ok_iff]
  constructor
  · rintro ⟨user, _, huser, project, _, ⟨hproject, rfl⟩, hlayer, rfl⟩
    exact ⟨user, project, huser, hproject, hlayer⟩
  · rintro ⟨user, project, huser, hproject, hlayer⟩
    exact ⟨user, later, huser, project, later, ⟨hproject, rfl⟩, hlayer, rfl⟩

/-- The user's directory, where a variable names `/c` as the one for settings. -/
theorem Workspace.settingsDirectory_of_variable {w : Workspace}
    (hpurpose : w.hasPurposeDirectories = true)
    (hvalue : w.filled? "XDG_CONFIG_HOME" = some "/c") :
    w.settingsDirectory = .ok ⟨"/", ["c", "shapecli"]⟩ := by
  have hsplit : "/c".splitOn "/" = ["", "c"] := (Text.splitOn_ofList "/c" '/').trans (by decide)
  have hpath : Path.ofText "/c" = ⟨"/", ["c"]⟩ := by
    rw [Path.ofText, hsplit]
    decide
  have hnamed : w.purposeDirectory "XDG_CONFIG_HOME" [".config"] = .ok (.ofText "/c") := by
    rw [purposeDirectory, hvalue]
  rw [settingsDirectory, if_pos hpurpose, hnamed, hpath]
  rfl

/-! ## Documents in files -/

namespace Workspace

variable {w : Workspace} {path : Path}

/-- The document in a file has distinct texts as keys, over scalars that JSON knows. -/
theorem isMadeOf_of_settingsDocument? {problem : SettingsFileProblem → SettingsProblem}
    {d : Document} (h : w.settingsDocument? path problem = .ok (some d)) :
    d.IsMadeOf Json.IsParsed := by
  unfold settingsDocument? at h
  obtain ⟨isThere, -, h⟩ := bind_eq_ok_iff.mp h
  cases isThere with
  | false => cases h
  | true =>
      obtain ⟨bytes, -, h⟩ := bind_eq_ok_iff.mp h
      obtain ⟨text, -, h⟩ := bind_eq_ok_iff.mp h
      obtain ⟨parsed, hparse, heq⟩ := map_eq_ok_iff.mp h
      cases heq
      exact Json.isMadeOf_of_parse (mapError_eq_ok_iff.mp hparse)

/-- The user's settings were read from the document in their file; without one they are the
defaults. -/
theorem userSettings_eq_ok_iff {s : Settings} :
    w.userSettings path = .ok s ↔
      ∃ d, w.settingsDocument? path (.userFile path.text) = .ok d ∧
        IsTaken Settings.read {} d s := by
  rw [userSettings, bind_eq_ok_iff]
  refine exists_congr fun d => and_congr_right fun _ => ?_
  cases d with
  | none =>
      change (pure {} : Except Trouble Settings) = _ ↔ s = {}
      rw [pure_eq_ok_iff, eq_comm]
  | some d =>
      change (Settings.decode d).mapError _ = _ ↔ Settings.read d = .read s
      rw [mapError_eq_ok_iff, Settings.decode, Reading.finish_eq_ok_iff]

/-- The fields that the project's file sets are those of an object that was read. -/
theorem isMadeOf_of_projectSettings {project : Option Fields}
    (h : w.projectSettings = .ok project) :
    (Document.object (project.getD [])).IsMadeOf Json.IsParsed := by
  unfold projectSettings at h
  obtain ⟨d, hdocument, h⟩ := bind_eq_ok_iff.mp h
  split at h
  · cases h
    exact isMadeOf_of_settingsDocument? hdocument
  · cases h
  · cases h
    exact .object nofun .nil

end Workspace

end ServiceShell
