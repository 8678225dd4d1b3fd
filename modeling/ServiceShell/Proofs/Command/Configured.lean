import ServiceShell.Proofs.Command.Configure

/-!
# Runs that change settings

However often settings are changed, and whatever for, the user's settings can be loaded.  A run that
changes a setting and ends well leaves the other settings alone.  A run that does not end well
leaves the file alone, but for one case: the setting was changed, and the console refuses the remark
that tells so.

Main results:

- Definition `IsConfigured`: a workspace that runs of the commands for settings lead to.
- Theorem `ofWords_of_asksToConfigure`: what the words for these commands can ask for.
- Theorem `run_changeSetting_of_ok`: a run that changes a setting.
- Theorem `run_changeSetting_of_refused`: a run that cannot.
- Theorem `yieldsSettings_run`: after one run there are settings that can be loaded.
- Theorem `configured_settings`: so there are after any number of runs, and what one more of them
  does.
-/

namespace ServiceShell

/-! ## Words -/

/-- The words of a command line name a command that changes settings, whatever else they say. -/
def AsksToConfigure (words : List String) : Prop :=
  ∃ line name rest, Line.read programExplanation.options false words = .ok line ∧
    line.arguments = settingsGroup.name :: name :: rest ∧ (name = "set" ∨ name = "reset")

/-- What the commands that change settings ask for: that, or a text that explains them. -/
inductive Request.Configures : Request → Prop where
  /-- A text. -/
  | text (code : Nat) (event : Event) : Configures (.text code event)
  /-- A change of a setting. -/
  | change (key text : String) : Configures (.command (.changeSetting key text))
  /-- The defaults. -/
  | reset (force : Bool) : Configures (.command (.resetSettings force))

/-- What the words behind the name of a command ask for. -/
theorem CommandForm.configures_request {f : CommandForm}
    (h : ∀ line command, f.body.read line = .ok command → (Request.command command).Configures)
    (above : String) (words : List String) : (f.request above words).Configures := by
  simp only [request]
  split
  · exact .text _ _
  · split
    · exact .text _ _
    · split
      · rename_i hread
        exact h _ _ hread
      · exact .text _ _

theorem CommandBody.configures_read_two {first second : String} {line : Line} {command : Command}
    (h : (CommandBody.two first second fun _ key value =>
      return .changeSetting key value).read line = .ok command) :
    (Request.command command).Configures := by
  simp only [read] at h
  split at h
  · cases h
  · cases h
  · cases h
    exact .change _ _
  · cases h

theorem CommandBody.configures_read_none {line : Line} {command : Command}
    (h : (CommandBody.none fun line => return .resetSettings (line.has "--force")).read line =
      .ok command) : (Request.command command).Configures := by
  simp only [read] at h
  split at h
  · cases h
    exact .reset _
  · cases h

theorem settingsGroup_request_set (rest : List String) :
    (settingsGroup.request ("set" :: rest)).Configures := by
  refine CommandForm.configures_request ?_ settingsGroup.explanation.path rest
  exact fun _ _ h => CommandBody.configures_read_two h

theorem settingsGroup_request_reset (rest : List String) :
    (settingsGroup.request ("reset" :: rest)).Configures := by
  refine CommandForm.configures_request ?_ settingsGroup.explanation.path rest
  exact fun _ _ h => CommandBody.configures_read_none h

/-- What words that name such a command ask for. -/
theorem ofWords_of_asksToConfigure {words : List String} (h : AsksToConfigure words) :
    (∃ code event, Invocation.ofWords words = .text code event) ∨
      ∃ options request, Invocation.ofWords words = .start options request ∧
        request.Configures := by
  obtain ⟨line, name, rest, hread, harguments, hname⟩ := h
  have hwords : words ≠ [] := by
    rintro rfl
    cases hread
    cases harguments
  have hrequest : (settingsGroup.request (name :: rest)).Configures := by
    rcases hname with rfl | rfl
    · exact settingsGroup_request_set rest
    · exact settingsGroup_request_reset rest
  have hfound : Invocation.request? settingsGroup.name (name :: rest) =
      some (settingsGroup.request (name :: rest)) := rfl
  rw [Invocation.ofWords, if_neg (by simpa using hwords), hread]
  simp only [Invocation.ofLine]
  split
  · exact .inl ⟨_, _, rfl⟩
  · rw [harguments]
    simp only [hfound]
    exact .inr ⟨line, _, rfl, hrequest⟩

/-- The words for a change of a setting, where the key and the text begin with no hyphen. -/
theorem ofWords_set {key text : String} (hkey : Line.isOptionWord key.toList = false)
    (htext : Line.isOptionWord text.toList = false) :
    Invocation.ofWords [settingsGroup.name, "set", key, text] =
      .start { arguments := [settingsGroup.name, "set", key, text] }
        (.command (.changeSetting key text)) := by
  have hread : ∀ forms, Line.read forms true [key, text] = .ok { arguments := [key, text] } := by
    intro forms
    refine Line.readWords_plain forms ?_
    simp [hkey, htext]
  have hrequest : (settingsGroup.forms[1]).request settingsGroup.explanation.path [key, text] =
      .command (.changeSetting key text) := by
    simp only [CommandForm.request, hread]
    rfl
  exact congrArg (Invocation.start _) hrequest

/-! ## Runs -/

section

variable {w : Workspace} {parent : Place} {s changed : Settings} {words : List String}
  {options : Line} {request : Request} {key text : String} {value : Document}

/-- A run gets ready, which leaves the settings in force, and does what is asked for. -/
theorem run_start (h : w.YieldsSettings parent s)
    (hwords : Invocation.ofWords words = .start options request) :
    ∃ f scene, w.Keeps settingsName scene.workspace ∧
      scene.shows = Action.showsRemark options (Display.ofLine options) w ∧
      (scene.workspace.CanSaveSettings ↔ w.CanSaveSettings) ∧
      scene.workspace.YieldsSettings parent s ∧
      ∀ code later, (Action.ofRequest f request).finish scene = (code, later) →
        (run words w).code = code ∧ (run words w).workspace = later.workspace := by
  obtain ⟨f, scene, hfinish, hkeeps, hsave, hyields⟩ := Action.finish_start
    (s := { workspace := w, shows := Action.showsRemark options (Display.ofLine options) w })
    h options request
  refine ⟨f, scene, hkeeps.workspace, hkeeps.shows, hsave, hyields, fun code later hlast => ?_⟩
  rw [run, hwords]
  simp only [hfinish, hlast]
  exact ⟨trivial, trivial⟩

/-- A run that changes a setting where the settings can be saved. It ends well if it can be told. -/
theorem run_changeSetting_of_ok (h : w.YieldsSettings parent s) (hsave : w.CanSaveSettings)
    (hwords : Invocation.ofWords words = .start options (.command (.changeSetting key text)))
    (hchange : s.change key text = .ok (value, changed)) :
    (run words w).workspace.HoldsSettings parent changed ∧
      (run words w).workspace.showsMarkup = w.showsMarkup ∧
      ((run words w).code = 0 ↔ Action.showsRemark options (Display.ofLine options) w .success
        ("Set " ++ key ++ " = " ++ value.spelling) = true) := by
  obtain ⟨f, scene, hkeeps, hshows, hsaveIff, hyields, hrun⟩ := run_start h hwords
  obtain ⟨code, later, hfinish, hlast, hmarkup, hcodeIff⟩ :=
    Action.finish_changeSetting_of_ok hyields (hsaveIff.mpr hsave) hchange
  obtain ⟨hcode, hworkspace⟩ := hrun code later hfinish
  rw [hcode, hworkspace]
  refine ⟨hlast, ?_, ?_⟩
  · rw [hmarkup, hkeeps.showsMarkup]
  · rw [hcodeIff, hshows]

/-- A run that does not change a setting, as the change is refused or the settings cannot be
saved. -/
theorem run_changeSetting_of_refused (h : w.YieldsSettings parent s)
    (hwords : Invocation.ofWords words = .start options (.command (.changeSetting key text)))
    (hrefused : ∀ value changed, s.change key text = .ok (value, changed) →
      ¬ w.CanSaveSettings) :
    (run words w).code ≠ 0 ∧ w.Keeps settingsName (run words w).workspace ∧
      (run words w).workspace.HoldsSettings parent s := by
  obtain ⟨f, scene, hkeeps, -, hsaveIff, hyields, hrun⟩ := run_start h hwords
  obtain ⟨code, later, hfinish, hnonzero, hrest, hlast⟩ := Action.finish_changeSetting_of_refused
    hyields fun value changed hchange => mt hsaveIff.mp (hrefused value changed hchange)
  obtain ⟨hcode, hworkspace⟩ := hrun code later hfinish
  rw [hcode, hworkspace]
  exact ⟨hnonzero, hkeeps.trans hrest.workspace, hlast⟩

/-- A run of a command for settings leaves settings that can be loaded. -/
theorem yieldsSettings_run (h : w.YieldsSettings parent s)
    (hmarkup : ∀ text, Markup.tags text = [] → w.showsMarkup text = true)
    (hwords : AsksToConfigure words) :
    ∃ left, (run words w).workspace.YieldsSettings parent left ∧
      (run words w).workspace.showsMarkup = w.showsMarkup := by
  obtain ⟨code, event, hwords⟩ | ⟨options, request, hwords, hrequest⟩ :=
    ofWords_of_asksToConfigure hwords
  · rw [run, hwords]
    exact ⟨s, h, rfl⟩
  · cases hrequest with
    | text code event =>
        obtain ⟨f, scene, hkeeps, -, -, hyields, hrun⟩ := run_start h hwords
        rw [(hrun code _ rfl).2]
        exact ⟨s, hyields, hkeeps.showsMarkup⟩
    | change key text =>
        by_cases hrefused : ∀ value changed, s.change key text = .ok (value, changed) →
            ¬ w.CanSaveSettings
        · obtain ⟨-, hkeeps, hlast⟩ := run_changeSetting_of_refused h hwords hrefused
          exact ⟨s, hlast.yields, hkeeps.showsMarkup⟩
        · simp only [not_forall, not_not] at hrefused
          obtain ⟨value, changed, hchange, hsave⟩ := hrefused
          obtain ⟨hlast, hsame, -⟩ := run_changeSetting_of_ok h hsave hwords hchange
          exact ⟨changed, hlast.yields, hsame⟩
    | reset force =>
        obtain ⟨f, scene, hkeeps, hshows, -, hyields, hrun⟩ := run_start h hwords
        have htold : scene.shows .info "Cancelled." = true := by
          rw [hshows, Action.showsRemark, hmarkup (RemarkKind.info.markup "Cancelled.")
            (by decide +kernel), Bool.or_true]
        obtain ⟨code, later, left, hfinish, -, hlast, hsame⟩ :=
          Action.finish_resetSettings hyields htold force
        rw [(hrun code later hfinish).2]
        exact ⟨left, hlast, hsame.trans hkeeps.showsMarkup⟩

end

/-! ## Runs of any number -/

/-- A workspace that runs of the commands for settings lead to, with time between them. -/
inductive IsConfigured (start : Workspace) : Workspace → Prop where
  /-- At the start there was no run. -/
  | start : IsConfigured start start
  /-- Time goes by. -/
  | later {before after : Workspace} (h : IsConfigured start before)
      (hlater : before.IsLater after) : IsConfigured start after
  /-- There is one more run. -/
  | run {w : Workspace} (h : IsConfigured start w) {words : List String}
      (hwords : AsksToConfigure words) : IsConfigured start (run words w).workspace

/-- Settings can be loaded after any number of runs. -/
theorem exists_yieldsSettings_of_isConfigured {start w : Workspace} {parent : Place} {s : Settings}
    (h : start.YieldsSettings parent s)
    (hmarkup : ∀ text, Markup.tags text = [] → start.showsMarkup text = true)
    (hw : IsConfigured start w) :
    (∃ left, w.YieldsSettings parent left) ∧ w.showsMarkup = start.showsMarkup := by
  induction hw with
  | start => exact ⟨⟨s, h⟩, rfl⟩
  | later _ hlater ih =>
      obtain ⟨⟨left, hleft⟩, hsame⟩ := ih
      exact ⟨⟨left, hleft.of_isLater hlater⟩, hlater.showsMarkup.trans hsame⟩
  | run _ hwords ih =>
      obtain ⟨⟨left, hleft⟩, hsame⟩ := ih
      obtain ⟨next, hnext, hshows⟩ := yieldsSettings_run hleft (by rwa [hsame]) hwords
      exact ⟨⟨next, hnext⟩, hshows.trans hsame⟩

/-- A run changed a setting: other settings are loaded from then on, and apart from the key they are
as they were. -/
structure Outcome.HasChanged (o : Outcome) (s : Settings) (key text : String) (value : Document)
    (changed : Settings) : Prop where
  /-- The text was read as the value for the key. -/
  change : s.change key text = .ok (value, changed)
  /-- The changed settings are loaded from then on. -/
  loaded : ∃ later, Job.userSettings.run o.workspace = (.ok changed, later)
  /-- Apart from the key they are as they were. -/
  apart : ∀ names, IsApart names (key.splitOn ".") →
    changed.encode.at? names = s.encode.at? names

/-- After any number of runs the settings can be loaded. A run that changes a setting and ends well
changes the settings at the key only; one that does not end well leaves the file alone, or has
changed the setting and could not show the remark that tells so. -/
theorem configured_settings {start first w : Workspace} {s₀ : Settings}
    (hload : Job.userSettings.run start = (.ok s₀, first))
    (hmarkup : ∀ text, Markup.tags text = [] → start.showsMarkup text = true)
    (hw : IsConfigured start w) :
    ∃ s loaded, Job.userSettings.run w = (.ok s, loaded) ∧
      ∀ words options key text,
        Invocation.ofWords words = .start options (.command (.changeSetting key text)) →
        ((run words w).code = 0 →
          ∃ value changed, (run words w).HasChanged s key text value changed) ∧
        ((run words w).code ≠ 0 →
          (∀ parent content,
            (run words w).workspace.files.lookup? (settingsName :: parent) = some (.file content) ↔
              w.files.lookup? (settingsName :: parent) = some (.file content)) ∨
          ∃ value changed, (run words w).HasChanged s key text value changed ∧
            Action.showsRemark options (Display.ofLine options) w .success
              ("Set " ++ key ++ " = " ++ value.spelling) = false) := by
  obtain ⟨parent, hstart⟩ := Workspace.exists_yieldsSettings hload
  obtain ⟨⟨s, hyields⟩, -⟩ := exists_yieldsSettings_of_isConfigured hstart hmarkup hw
  obtain ⟨loaded, hloaded, -⟩ := hyields.run_userSettings
  refine ⟨s, loaded, hloaded, fun words options key text hwords => ?_⟩
  by_cases hrefused : ∀ value changed, s.change key text = .ok (value, changed) →
      ¬ w.CanSaveSettings
  · obtain ⟨hcode, hkeeps, -⟩ := run_changeSetting_of_refused hyields hwords hrefused
    exact ⟨fun hzero => absurd hzero hcode, fun _ => .inl hkeeps.files⟩
  · simp only [not_forall, not_not] at hrefused
    obtain ⟨value, changed, hchange, hsave⟩ := hrefused
    obtain ⟨hlast, -, hcode⟩ := run_changeSetting_of_ok hyields hsave hwords hchange
    obtain ⟨later, hlater, -⟩ := hlast.yields.run_userSettings
    have hchanged : (run words w).HasChanged s key text value changed :=
      ⟨hchange, ⟨later, hlater⟩, fun names hnames =>
        Settings.at?_encode_of_change hyields.held.isStorable.patterns hchange hnames⟩
    exact ⟨fun _ => ⟨value, changed, hchanged⟩, fun hnonzero =>
      .inr ⟨value, changed, hchanged, Bool.eq_false_of_not_eq_true (mt hcode.mpr hnonzero)⟩⟩

/-! ## A remark that closes a style -/

/-- A workspace without any files. -/
def freshWorkspace : Workspace :=
  { files := {}, directory := [], environment := [("XDG_CONFIG_HOME", "/c")], system := "Linux"
    accountHome := "/", now := default, input := "", token := "new" }

/-- The files with the user's directory. -/
def freshFiles : FileTree := ⟨[(["c"], .directory), (["shapecli", "c"], .directory)]⟩

theorem run_settingsFile_freshWorkspace :
    Job.settingsFile.run freshWorkspace = (.ok ⟨"/", ["c", "shapecli", "config.json"]⟩,
      { freshWorkspace with files := freshFiles }) :=
  Job.run_settingsFile_eq_ok_iff.mpr
    ⟨_, _, Workspace.settingsDirectory_of_variable rfl rfl, rfl, rfl, rfl⟩

theorem yieldsSettings_freshWorkspace :
    freshWorkspace.YieldsSettings ["shapecli", "c"] {} :=
  ⟨⟨_, freshFiles, Workspace.settingsDirectory_of_variable rfl rfl, rfl, rfl⟩, rfl⟩

theorem canSaveSettings_freshWorkspace : freshWorkspace.CanSaveSettings := by
  refine ⟨_, _, run_settingsFile_freshWorkspace, freshFiles, ["shapecli", "c"], ?_⟩
  exact ⟨rfl, rfl, by decide, by decide, by decide, rfl, nofun⟩

/-- The directory for generated files is given a name that closes a style. -/
theorem change_outputDir :
    ({} : Settings).change "output_dir" "[/x]" =
      .ok (.text "[/x]", { outputDir := some "[/x]" }) := by
  have hsplit : "output_dir".splitOn "." = ["output_dir"] := by
    rw [String.splitOn, if_neg (by decide)]
    iterate 10 rw [String.splitOnAux, if_neg (by decide +kernel), if_neg (by decide +kernel)]
    rw [String.splitOnAux, if_pos (by decide +kernel)]
    decide +kernel
  have hcoerce : coerce .null "[/x]" = .ok (.text "[/x]") := by
    unfold coerce
    rw [if_neg (by decide +kernel)]
  have hchange : changeAt "[/x]" ["output_dir"] ({} : Settings).encode.fields =
      .ok (.text "[/x]", ({ outputDir := some "[/x]" } : Settings).encode.fields) := by
    change (do
      let value ← coerce .null "[/x]"
      return (value, Fields.put (.text "output_dir") value ({} : Settings).encode.fields)) = _
    rw [hcoerce]
    rfl
  have hread : Settings.decode (.object ({ outputDir := some "[/x]" } : Settings).encode.fields) =
      .ok { outputDir := some "[/x]" } :=
    Settings.decode_encode Settings.isStorable_default.patterns
  rw [Settings.change, hsplit, hchange]
  simp only [bind, Except.bind, hread]
  rfl

/-- The run that gives it this name. -/
def closingRun : Outcome := run ["config", "set", "output_dir", "[/x]"] freshWorkspace

/-- The name is saved, in a file that was not there before, and loaded from then on; but the run
does not end well. -/
theorem configured_settings_freshWorkspace :
    ∃ first, Job.userSettings.run freshWorkspace = (.ok {}, first) ∧
      (∀ text, Markup.tags text = [] → freshWorkspace.showsMarkup text = true) ∧
      IsConfigured freshWorkspace freshWorkspace ∧ closingRun.code ≠ 0 ∧
      closingRun.HasChanged {} "output_dir" "[/x]" (.text "[/x]") { outputDir := some "[/x]" } ∧
      freshWorkspace.files.lookup? [settingsName, "shapecli", "c"] = none ∧
      ∃ content, closingRun.workspace.files.lookup? [settingsName, "shapecli", "c"] =
        some (.file content) := by
  obtain ⟨first, hload, -⟩ := yieldsSettings_freshWorkspace.run_userSettings
  have hmarkup : ∀ text, Markup.tags text = [] → freshWorkspace.showsMarkup text = true :=
    fun _ => Markup.isShown_of_tags_eq_nil
  have hwords : Invocation.ofWords ["config", "set", "output_dir", "[/x]"] = .start
      { arguments := ["config", "set", "output_dir", "[/x]"] }
      (.command (.changeSetting "output_dir" "[/x]")) := ofWords_set (by decide) (by decide)
  obtain ⟨hlast, -, hcode⟩ := run_changeSetting_of_ok yieldsSettings_freshWorkspace
    canSaveSettings_freshWorkspace hwords change_outputDir
  have hnonzero : closingRun.code ≠ 0 := mt hcode.mp (by decide +kernel)
  obtain ⟨content, hfile⟩ : ∃ content,
      closingRun.workspace.files.lookup? [settingsName, "shapecli", "c"] = some (.file content) :=
    hlast.held.exists_file (by decide)
  obtain ⟨s, loaded, hagain, hruns⟩ := configured_settings hload hmarkup .start
  rw [hload] at hagain
  cases hagain
  refine ⟨first, hload, hmarkup, .start, hnonzero, ?_, rfl, content, hfile⟩
  obtain hkept | ⟨value, changed, hchanged, -⟩ := (hruns _ _ _ _ hwords).2 hnonzero
  · cases (hkept _ content).mp hfile
  · have hsame := hchanged.change
    rw [change_outputDir] at hsame
    cases hsame
    exact hchanged

end ServiceShell
