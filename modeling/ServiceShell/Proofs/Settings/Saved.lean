import ServiceShell.Proofs.Json.Characters
import ServiceShell.Proofs.Settings.Storable
import ServiceShell.Proofs.Settings.Store
import ServiceShell.Proofs.Workspace.Job

/-!
# Settings that are saved

The user's settings are at a place in the tree of files: they are what the file there holds, or the
defaults where there is no file.  Settings that are saved there are loaded again; a job that leaves
the file alone leaves them in force.

Main results:

- Definition `Workspace.YieldsSettings`: the settings that a workspace yields, and where they are.
- Theorem `Workspace.exists_yieldsSettings`: settings that are loaded come from somewhere.
- Theorem `Workspace.YieldsSettings.run_userSettings`: the settings that a workspace yields are
  loaded.
- Theorem `Workspace.YieldsSettings.run_saveSettings`: settings that are saved are held from then
  on.
- Theorem `Workspace.YieldsSettings.run_saveSettings_of_not_canSave`: where they cannot be saved,
  the old ones are.
-/

namespace ServiceShell

open Record

/-! ## Files of settings -/

/-- The name of the user's file of settings. -/
def settingsName : String := "config.json"

/-- What is at a place holds settings: it is a file from which they are read; or it is none, and
they are the defaults. -/
def IsHeld : Option Entry → Settings → Prop
  | some (.file content), s => ∃ text d, Workspace.textOf content = .ok text ∧
      Json.parse text = .ok d ∧ Settings.decode d = .ok s
  | _, s => s = {}

/-- Only a file matters. -/
theorem isHeld_congr {before after : Option Entry} {s : Settings}
    (h : ∀ content, after = some (.file content) ↔ before = some (.file content)) :
    IsHeld after s ↔ IsHeld before s := by
  by_cases hfile : ∃ content, before = some (.file content)
  · obtain ⟨content, hbefore⟩ := hfile
    rw [hbefore, (h content).mpr hbefore]
  · have hafter : ¬ ∃ content, after = some (.file content) :=
      fun ⟨content, hcontent⟩ => hfile ⟨content, (h content).mp hcontent⟩
    have hdefault : ∀ {entry : Option Entry}, (¬ ∃ content, entry = some (.file content)) →
        (IsHeld entry s ↔ s = {}) := by
      intro entry hentry
      rcases entry with _ | _ | content
      · exact Iff.rfl
      · exact Iff.rfl
      · exact absurd ⟨content, rfl⟩ hentry
    rw [hdefault hfile, hdefault hafter]

/-- The text of settings that can be stored holds them. -/
theorem isHeld_write {s : Settings} (hs : s.IsStorable) :
    IsHeld (some (.file (Json.indentedAscii.write s.encode ++ "\n").toUTF8)) s :=
  ⟨_, s.encode, Json.textOf_write Json.indentedAscii hs.writable,
    Json.parse_write_lineEnd Json.indentedAscii hs.writable, Settings.decode_encode hs.patterns⟩

/-- Settings that are not the defaults are in a file. -/
theorem IsHeld.exists_file {entry : Option Entry} {s : Settings} (h : IsHeld entry s)
    (hs : s ≠ {}) : ∃ content, entry = some (.file content) := by
  rcases entry with _ | _ | content
  · exact absurd h hs
  · exact absurd h hs
  · exact ⟨content, rfl⟩

/-- Settings that a file holds can be stored. -/
theorem IsHeld.isStorable {entry : Option Entry} {s : Settings} (h : IsHeld entry s) :
    s.IsStorable := by
  rcases entry with _ | _ | content
  · rw [show s = {} from h]
    exact Settings.isStorable_default
  · rw [show s = {} from h]
    exact Settings.isStorable_default
  · obtain ⟨text, d, -, hparse, hdecode⟩ := h
    exact Settings.isStorable_of_decode (Json.isMadeOf_of_parse hparse) hdecode

namespace Workspace

/-- The document in a file is what its text is read as. -/
theorem settingsDocument?_eq_ok_iff {w : Workspace} {path : Path} {content : ByteArray}
    (hfind : w.files.find w.directory path = .ok (.file content))
    {problem : SettingsFileProblem → SettingsProblem} {document : Option Document} :
    w.settingsDocument? path problem = .ok document ↔
      ∃ text d, textOf content = .ok text ∧ Json.parse text = .ok d ∧ some d = document := by
  have hfile : w.isFile path = .ok true := by
    rw [isFile, FileTree.isFile, hfind]
    rfl
  have htext : w.fileText path = .ok (textOf content) := by
    rw [fileText, FileTree.content, hfind]
    rfl
  have hdocument : w.settingsDocument? path problem =
      (do
        let text ← (textOf content).mapError fun b => .settings (problem (.bytes b))
        some <$> (Json.parse text).mapError fun e => .settings (problem (.json e))) := by
    rw [settingsDocument?, hfile]
    change (w.fileText path >>= _) = _
    rw [htext]
    rfl
  rw [hdocument]
  simp only [bind_eq_ok_iff, map_eq_ok_iff, mapError_eq_ok_iff, exists_and_left]

/-- The user's settings are what is held at the place of their path. -/
theorem userSettings_eq_ok_iff_isHeld {w : Workspace} {path : Path} {place : Place}
    {s : Settings} (hlocate : w.files.locate w.directory path = .ok place) :
    w.userSettings path = .ok s ↔ IsHeld (w.files.lookup? place) s := by
  have habsent : w.isFile path = .ok false → (w.userSettings path = .ok s ↔ s = {}) := by
    intro hfile
    rw [userSettings_missing hfile, Except.ok.injEq, eq_comm]
  rcases hlookup : w.files.lookup? place with _ | _ | content
  · refine habsent ?_
    rw [isFile, FileTree.isFile, FileTree.find, hlocate]
    simp only [hlookup]
    rfl
  · refine habsent ?_
    rw [isFile, FileTree.isFile, FileTree.find, hlocate]
    simp only [hlookup]
    rfl
  · have hfind : w.files.find w.directory path = .ok (.file content) :=
      FileTree.find_eq_ok_iff.mpr ⟨place, hlocate, hlookup⟩
    rw [userSettings_eq_ok_iff]
    simp only [settingsDocument?_eq_ok_iff hfind]
    constructor
    · rintro ⟨_, ⟨text, d, htext, hparse, rfl⟩, htaken⟩
      exact ⟨text, d, htext, hparse, Reading.finish_eq_ok_iff.mpr htaken⟩
    · rintro ⟨text, d, htext, hparse, hdecode⟩
      exact ⟨some d, ⟨text, d, htext, hparse, rfl⟩, Reading.finish_eq_ok_iff.mp hdecode⟩

/-! ## Settings in force -/

/-- The user's directory can be made at a place, and the file in it holds settings. -/
structure YieldsSettings (w : Workspace) (parent : Place) (s : Settings) : Prop where
  /-- The directory can be made there. -/
  located : ∃ directory files, w.settingsDirectory = .ok directory ∧
    w.files.ensureDirectories w.directory directory = .ok files ∧
    files.locate w.directory directory = .ok parent
  /-- The file holds the settings. -/
  held : IsHeld (w.files.lookup? (settingsName :: parent)) s

/-- The user's directory is at a place, and the file in it holds settings. -/
structure HoldsSettings (w : Workspace) (parent : Place) (s : Settings) : Prop where
  /-- The directory has this place. -/
  located : ∃ directory, w.settingsDirectory = .ok directory ∧
    w.files.locate w.directory directory = .ok parent
  /-- The directory is there. -/
  directory : w.files.lookup? parent = some .directory
  /-- The file holds the settings. -/
  held : IsHeld (w.files.lookup? (settingsName :: parent)) s

variable {w later : Workspace} {parent : Place} {path : Path} {s new : Settings}

/-- A directory that is there is not made again. -/
theorem HoldsSettings.yields (h : w.HoldsSettings parent s) : w.YieldsSettings parent s := by
  obtain ⟨directory, hpath, hlocate⟩ := h.located
  have hfind := FileTree.find_eq_ok_iff.mpr ⟨parent, hlocate, h.directory⟩
  exact ⟨⟨directory, w.files, hpath, FileTree.ensureDirectories_of_find hfind, hlocate⟩, h.held⟩

/-- Settings stay in force where their file is left alone. -/
theorem HoldsSettings.of_keeps (h : w.HoldsSettings parent s)
    (hkeeps : w.Keeps settingsName later) : later.HoldsSettings parent s := by
  obtain ⟨directory, hpath, hlocate⟩ := h.located
  have hlater := FileTree.locate_of_keepsDirectories hkeeps.directories hlocate
  refine ⟨⟨directory, ?_, ?_⟩, hkeeps.directories _ h.directory,
    (isHeld_congr (hkeeps.files parent)).mpr h.held⟩
  · rw [hkeeps.eq]
    exact hpath
  · rw [hkeeps.eq]
    exact hlater

/-- The user's directory is made, and the path of the file leads into it. -/
theorem YieldsSettings.run_settingsFile (h : w.YieldsSettings parent s) :
    ∃ path later, Job.settingsFile.run w = (.ok path, later) ∧ w.Keeps settingsName later ∧
      later.files.locate later.directory path = .ok (settingsName :: parent) ∧
      later.HoldsSettings parent s := by
  obtain ⟨directory, files, hpath, hfiles, hlocate⟩ := h.located
  obtain ⟨hgrows, hfind⟩ := FileTree.ensureDirectories_eq_ok hfiles
  obtain ⟨place, hplace, hthere⟩ := FileTree.find_eq_ok_iff.mp hfind
  rw [hlocate] at hplace
  cases hplace
  have hkeeps : w.Keeps settingsName { w with files } := keeps_of_grows hgrows
  refine ⟨_, _, Job.run_settingsFile_eq_ok_iff.mpr ⟨directory, files, hpath, hfiles, rfl, rfl⟩,
    hkeeps, ?_, ⟨⟨directory, hpath, hlocate⟩, hthere, ?_⟩⟩
  · exact FileTree.locate_child hlocate hthere (by decide) (by decide) (by decide)
  · exact (isHeld_congr (hkeeps.files parent)).mpr h.held

/-! ## Loading -/

/-- The user's settings can be saved: their file can be written. -/
def CanSaveSettings (w : Workspace) : Prop :=
  ∃ path later, Job.settingsFile.run w = (.ok path, later) ∧
    later.files.Admits later.directory later.token path

/-- The user's directory is not made twice. -/
theorem run_settingsFile_again (h : Job.settingsFile.run w = (.ok path, later)) :
    Job.settingsFile.run later = (.ok path, later) := by
  obtain ⟨directory, files, hpath, hfiles, rfl, rfl⟩ := Job.run_settingsFile_eq_ok_iff.mp h
  have hfind := (FileTree.ensureDirectories_eq_ok hfiles).2
  exact Job.run_settingsFile_eq_ok_iff.mpr
    ⟨directory, files, hpath, FileTree.ensureDirectories_of_find hfind, rfl, rfl⟩

/-- It depends on the file alone whether settings can be saved. -/
theorem canSaveSettings_iff (h : Job.settingsFile.run w = (.ok path, later)) :
    w.CanSaveSettings ↔ later.files.Admits later.directory later.token path := by
  constructor
  · rintro ⟨_, _, hagain, hadmits⟩
    rw [h] at hagain
    cases hagain
    exact hadmits
  · exact fun hadmits => ⟨path, later, h, hadmits⟩

/-- The settings that a workspace yields are loaded. -/
theorem YieldsSettings.run_userSettings (h : w.YieldsSettings parent s) :
    ∃ later, Job.userSettings.run w = (.ok s, later) ∧ w.Keeps settingsName later ∧
      (later.CanSaveSettings ↔ w.CanSaveSettings) ∧ later.HoldsSettings parent s := by
  obtain ⟨path, later, hfile, hkeeps, hlocate, hholds⟩ := h.run_settingsFile
  refine ⟨later, ?_, hkeeps, ?_, hholds⟩
  · rw [Job.userSettings, Job.run_bind_eq_ok_iff]
    refine ⟨path, later, hfile, ?_⟩
    rw [Job.run_ask, (userSettings_eq_ok_iff_isHeld hlocate).mpr hholds.held]
  · rw [canSaveSettings_iff (run_settingsFile_again hfile), canSaveSettings_iff hfile]

/-- Settings that are loaded come from somewhere. -/
theorem exists_yieldsSettings (h : Job.userSettings.run w = (.ok s, later)) :
    ∃ parent, w.YieldsSettings parent s := by
  rw [Job.userSettings] at h
  simp only [Job.run_bind_eq_ok_iff, Job.run_ask_eq_ok_iff] at h
  obtain ⟨path, _, hfile, hsettings, rfl⟩ := h
  obtain ⟨directory, files, hpath, hfiles, rfl, rfl⟩ := Job.run_settingsFile_eq_ok_iff.mp hfile
  obtain ⟨hgrows, hfind⟩ := FileTree.ensureDirectories_eq_ok hfiles
  obtain ⟨parent, hlocate, hthere⟩ := FileTree.find_eq_ok_iff.mp hfind
  have hchild := FileTree.locate_child hlocate hthere (show settingsName ≠ ".." by decide)
    (by decide) (by decide)
  refine ⟨parent, ⟨directory, files, hpath, hfiles, hlocate⟩, ?_⟩
  refine (isHeld_congr fun content => (hgrows _).file_iff content).mp ?_
  exact (userSettings_eq_ok_iff_isHeld hchild).mp hsettings

/-! ## Saving -/

/-- Settings that are saved are held from then on. -/
theorem YieldsSettings.run_saveSettings (h : w.YieldsSettings parent s)
    (hsave : w.CanSaveSettings) (hnew : new.IsStorable) :
    ∃ later, (Job.saveSettings new).run w = (.ok (), later) ∧ later.HoldsSettings parent new ∧
      later.showsMarkup = w.showsMarkup := by
  obtain ⟨path, between, hfile, hkeeps, hlocate, hholds⟩ := h.run_settingsFile
  obtain ⟨made, other, hadmitted⟩ := (canSaveSettings_iff hfile).mp hsave
  obtain ⟨files, hwrite, hwritten, hafter⟩ := Job.run_writeText_of_isAdmitted hadmitted
    (Json.indentedAscii.write new.encode ++ "\n")
  have hplace := FileTree.locate_of_keepsDirectories hwritten.keepsDirectories hlocate
  rw [hafter, Except.ok.injEq] at hplace
  rw [hplace] at hwritten
  obtain ⟨directory, hpath, hdirectory⟩ := hholds.located
  refine ⟨{ between with files }, ?_, ⟨⟨directory, hpath, ?_⟩, ?_, ?_⟩, ?_⟩
  · rw [Job.saveSettings, Job.run_bind, hfile]
    exact hwrite
  · exact FileTree.locate_of_keepsDirectories hwritten.keepsDirectories hdirectory
  · exact hwritten.keepsDirectories _ hholds.directory
  · rw [hwritten.written]
    exact isHeld_write hnew
  · exact hkeeps.showsMarkup

/-- Where they cannot be saved, the old ones are. -/
theorem YieldsSettings.run_saveSettings_of_not_canSave (h : w.YieldsSettings parent s)
    (hsave : ¬ w.CanSaveSettings) (new : Settings) :
    ∃ e later, (Job.saveSettings new).run w = (.error (.unexpected (.file e)), later) ∧
      w.Keeps settingsName later ∧ later.HoldsSettings parent s := by
  obtain ⟨path, between, hfile, hkeeps, -, hholds⟩ := h.run_settingsFile
  obtain ⟨e, files, hwrite, hgrows⟩ := Job.run_writeText_of_not_admits
    (mt (canSaveSettings_iff hfile).mpr hsave) (Json.indentedAscii.write new.encode ++ "\n")
  have hlater : between.Keeps settingsName { between with files } := keeps_of_grows hgrows
  refine ⟨e, _, ?_, hkeeps.trans hlater, hholds.of_keeps hlater⟩
  rw [Job.saveSettings, Job.run_bind, hfile]
  exact hwrite

/-! ## Later -/

/-- Later on: the files are the same, and so is the user's directory. -/
structure IsLater (before after : Workspace) : Prop where
  /-- The files are the same. -/
  files : after.files = before.files
  /-- The user's directory has the same path. -/
  settingsDirectory : after.settingsDirectory = before.settingsDirectory
  /-- The path leads to the same place: it begins at the root, or at the same directory. -/
  directory : ∀ path, before.settingsDirectory = .ok path → path.root = "" →
    after.directory = before.directory
  /-- The console shows the same. -/
  showsMarkup : after.showsMarkup = before.showsMarkup

/-- Later on, the settings are the same. -/
theorem YieldsSettings.of_isLater (h : w.YieldsSettings parent s) (hlater : w.IsLater later) :
    later.YieldsSettings parent s := by
  obtain ⟨directory, files, hpath, hfiles, hlocate⟩ := h.located
  have hsame := hlater.directory directory hpath
  refine ⟨⟨directory, files, hlater.settingsDirectory.trans hpath, ?_, ?_⟩, ?_⟩
  · rw [hlater.files, FileTree.ensureDirectories_congr hsame, hfiles]
  · rw [FileTree.locate_congr hsame, hlocate]
  · rw [hlater.files]
    exact h.held

end Workspace

end ServiceShell
