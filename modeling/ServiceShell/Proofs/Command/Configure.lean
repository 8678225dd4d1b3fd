import ServiceShell.Proofs.Command.Keeps
import ServiceShell.Proofs.Settings.Change
import ServiceShell.Proofs.Settings.Saved

/-!
# Commands that change settings

A command that changes a setting, or goes back to the defaults, either saves settings that can be
loaded again, or leaves the file alone.

Main results:

- Theorem `Action.finish_start`: getting ready leaves the settings in force.
- Theorem `Action.finish_changeSetting_of_ok`: a setting is changed.
- Theorem `Action.finish_changeSetting_of_refused`: a setting is not changed, and nothing else is.
- Theorem `Action.finish_resetSettings`: the defaults are in force, or the old settings.
-/

namespace ServiceShell

/-- The file of settings is no log. -/
theorem not_isLogName_settingsName : ¬ IsLogName settingsName := by
  rintro ⟨time, h⟩
  have hsecond := congrArg (fun name => name.toList[1]?) h
  simp [settingsName] at hsecond

namespace Action

variable {s : Scene} {parent : Place} {settings changed : Settings} {key text : String}
  {value : Document}

/-! ## Settings that are loaded -/

/-- The user's settings are loaded. -/
theorem run_perform_userSettings (h : s.workspace.YieldsSettings parent settings) :
    ∃ later, (perform Job.userSettings).run s = (.ok settings, later) ∧
      s.Keeps settingsName later ∧
      (later.workspace.CanSaveSettings ↔ s.workspace.CanSaveSettings) ∧
      later.workspace.HoldsSettings parent settings := by
  obtain ⟨workspace, hrun, hkeeps, hsave, hholds⟩ := h.run_userSettings
  refine ⟨{ s with workspace }, ?_, ⟨hkeeps, rfl⟩, hsave, hholds⟩
  rw [run_perform, hrun]

/-- The format that loaded settings ask for. -/
theorem run_settingsFormat {later : Scene}
    (h : (perform Job.userSettings).run s = (.ok settings, later)) :
    settingsFormat.run s = (.ok ((Format.ofWord? settings.format).getD none), later) := by
  rw [show settingsFormat.run s = settingsFormat s from rfl, settingsFormat, h]

/-- The format is found, be it in the settings. -/
theorem run_format (h : s.workspace.YieldsSettings parent settings) (options : Line) :
    ∃ f later, (format options).run s = (.ok f, later) ∧ s.Keeps settingsName later ∧
      (later.workspace.CanSaveSettings ↔ s.workspace.CanSaveSettings) ∧
      later.workspace.YieldsSettings parent settings := by
  unfold format
  split
  · exact ⟨_, s, rfl, .refl s, Iff.rfl, h⟩
  · split
    · exact ⟨_, s, rfl, .refl s, Iff.rfl, h⟩
    · obtain ⟨later, hload, hkeeps, hsave, hholds⟩ := run_perform_userSettings h
      refine ⟨Format.choose ((Format.ofWord? settings.format).getD none) later.workspace.isTerminal
        (hasColour options later.workspace), later, ?_, hkeeps, hsave, hholds.yields⟩
      rw [run_bind, run_settingsFormat hload]
      rfl

/-- Getting ready leaves the settings in force. -/
theorem finish_start (h : s.workspace.YieldsSettings parent settings) (options : Line)
    (request : Request) :
    ∃ f later, (start options request).finish s = (ofRequest f request).finish later ∧
      s.Keeps settingsName later ∧
      (later.workspace.CanSaveSettings ↔ s.workspace.CanSaveSettings) ∧
      later.workspace.YieldsSettings parent settings := by
  obtain ⟨f, later, hrun, hkeeps, hsave, hyields⟩ := run_format h options
  refine ⟨f, later, ?_, hkeeps, hsave, hyields⟩
  rw [finish, finish, start, run_bind, hrun]

/-! ## Saving -/

theorem finish_congr {action other : Action Unit} {t : Scene} (h : action.run s = other.run t) :
    action.finish s = other.finish t := by
  rw [finish, finish, h]

/-- Settings are saved before that is told. -/
theorem finish_save {new : Settings} (h : s.workspace.YieldsSettings parent settings)
    (hsave : s.workspace.CanSaveSettings) (hnew : new.IsStorable) (text : String) :
    ∃ code later, (do perform (Job.saveSettings new); remark .success text).finish s =
        (code, later) ∧
      later.workspace.HoldsSettings parent new ∧
      later.workspace.showsMarkup = s.workspace.showsMarkup ∧
      (code = 0 ↔ s.shows .success text = true) := by
  obtain ⟨workspace, hsaved, hlast, hmarkup⟩ := h.run_saveSettings hsave hnew
  have hrun : (do perform (Job.saveSettings new); remark .success text).run s =
      (remark .success text).run { s with workspace } := by
    rw [run_bind, run_perform, hsaved]
  by_cases hshows : s.shows .success text = true
  · have htold : (remark .success text).run { s with workspace } = (.ok (), _) :=
      run_remark hshows
    exact ⟨0, _, finish_of_ok (hrun.trans htold), hlast, hmarkup, by simp [hshows]⟩
  · have hunshown : (remark .success text).run { s with workspace } = (.error .unshown, _) :=
      run_remark_of_not_shows hshows
    obtain ⟨code, later, hfinish, hrest, hcode⟩ :=
      finish_of_error not_isLogName_settingsName (hrun.trans hunshown)
    refine ⟨code, later, hfinish, hlast.of_keeps hrest.workspace, ?_, ?_⟩
    · rw [hrest.workspace.showsMarkup]
      exact hmarkup
    · exact iff_of_false (hcode Nat.one_ne_zero) hshows

/-- Settings that cannot be saved change nothing. -/
theorem finish_save_of_not_canSave (h : s.workspace.YieldsSettings parent settings)
    (hsave : ¬ s.workspace.CanSaveSettings) (new : Settings) (text : String) :
    ∃ code later, (do perform (Job.saveSettings new); remark .success text).finish s =
        (code, later) ∧
      code ≠ 0 ∧ s.Keeps settingsName later ∧ later.workspace.HoldsSettings parent settings := by
  obtain ⟨e, workspace, hrefused, hkeeps, hlast⟩ := h.run_saveSettings_of_not_canSave hsave new
  have hrun : (do perform (Job.saveSettings new); remark .success text).run s =
      (.error (.trouble (.unexpected (.file e))), { s with workspace }) := by
    rw [run_bind, run_perform, hrefused]
  have hfirst : s.Keeps settingsName { s with workspace } := ⟨hkeeps, rfl⟩
  obtain ⟨code, later, hfinish, hrest, hcode⟩ := finish_of_error not_isLogName_settingsName hrun
  exact ⟨code, later, hfinish, hcode (Trouble.exitCode_ne_zero (.unexpected (.file e))),
    hfirst.trans hrest, hlast.of_keeps hrest.workspace⟩

/-! ## Changes -/

/-- A change is refused with trouble, or with an error that is told. -/
theorem refuseChange_eq (key text : String) (problem : ChangeProblem) :
    (∃ trouble, refuseChange key text problem = fail trouble) ∨
      ∃ message, refuseChange key text problem = (do remark .error message; stop 2) := by
  unfold refuseChange
  split
  · exact .inl ⟨_, rfl⟩
  · split
    · exact .inl ⟨_, rfl⟩
    · exact .inr ⟨_, rfl⟩
  · exact .inr ⟨_, rfl⟩

theorem run_refuseChange (key text : String) (problem : ChangeProblem) (s : Scene) :
    ∃ ending later, (refuseChange key text problem).run s = (.error ending, later) ∧
      s.Keeps settingsName later ∧ ending.code ≠ 0 := by
  obtain ⟨trouble, heq⟩ | ⟨message, heq⟩ := refuseChange_eq key text problem
  · rw [heq]
    exact (fails_fail trouble).run (keeps_fail trouble) s
  · rw [heq]
    exact (fails_remark_bind _ _ fun _ => fails_stop (by decide)).run
      ((keeps_remark _ _).bind fun _ => keeps_stop 2) s

/-- A setting is changed: the settings are saved before that is told. -/
theorem finish_changeSetting_of_ok (h : s.workspace.YieldsSettings parent settings)
    (hsave : s.workspace.CanSaveSettings)
    (hchange : settings.change key text = .ok (value, changed)) :
    ∃ code later, (changeSetting key text).finish s = (code, later) ∧
      later.workspace.HoldsSettings parent changed ∧
      later.workspace.showsMarkup = s.workspace.showsMarkup ∧
      (code = 0 ↔ s.shows .success ("Set " ++ key ++ " = " ++ value.spelling) = true) := by
  obtain ⟨middle, hload, hkeeps, hsaveIff, hholds⟩ := run_perform_userSettings h
  obtain ⟨code, later, hfinish, hlast, hmarkup, hcode⟩ := finish_save hholds.yields
    (hsaveIff.mpr hsave) (Settings.isStorable_of_change h.held.isStorable hchange)
    ("Set " ++ key ++ " = " ++ value.spelling)
  refine ⟨code, later, ?_, hlast, ?_, ?_⟩
  · rw [← hfinish]
    apply finish_congr
    rw [changeSetting, run_bind, hload]
    simp only [hchange]
  · rw [hmarkup, hkeeps.workspace.showsMarkup]
  · rw [hcode, hkeeps.shows]

/-- A setting is not changed, as the change is refused or the settings cannot be saved. -/
theorem finish_changeSetting_of_refused (h : s.workspace.YieldsSettings parent settings)
    (hrefused : ∀ value changed, settings.change key text = .ok (value, changed) →
      ¬ s.workspace.CanSaveSettings) :
    ∃ code later, (changeSetting key text).finish s = (code, later) ∧ code ≠ 0 ∧
      s.Keeps settingsName later ∧ later.workspace.HoldsSettings parent settings := by
  obtain ⟨middle, hload, hkeeps, hsaveIff, hholds⟩ := run_perform_userSettings h
  cases hchange : settings.change key text with
  | error problem =>
      obtain ⟨ending, last, hrefuse, hlast, hending⟩ := run_refuseChange key text problem middle
      have hrun : (changeSetting key text).run s = (.error ending, last) := by
        rw [changeSetting, run_bind, hload]
        simp only [hchange]
        exact hrefuse
      obtain ⟨code, later, hfinish, hrest, hcode⟩ :=
        finish_of_error not_isLogName_settingsName hrun
      exact ⟨code, later, hfinish, hcode hending, hkeeps.trans (hlast.trans hrest),
        hholds.of_keeps (hlast.trans hrest).workspace⟩
  | ok result =>
      obtain ⟨value, changed⟩ := result
      obtain ⟨code, later, hfinish, hcode, hrest, hlast⟩ := finish_save_of_not_canSave hholds.yields
        (mt hsaveIff.mp (hrefused value changed hchange)) changed
        ("Set " ++ key ++ " = " ++ value.spelling)
      refine ⟨code, later, ?_, hcode, hkeeps.trans hrest, hlast⟩
      rw [← hfinish]
      apply finish_congr
      rw [changeSetting, run_bind, hload]
      simp only [hchange]

/-! ## Going back -/

/-- The defaults are in force, or the old settings where the defaults cannot be saved. -/
theorem finish_saveDefaults (h : s.workspace.YieldsSettings parent settings) :
    ∃ code later left, saveDefaults.finish s = (code, later) ∧ (left = {} ∨ left = settings) ∧
      later.workspace.YieldsSettings parent left ∧
      later.workspace.showsMarkup = s.workspace.showsMarkup := by
  by_cases hsave : s.workspace.CanSaveSettings
  · obtain ⟨code, later, hfinish, hlast, hmarkup, -⟩ :=
      finish_save h hsave Settings.isStorable_default "Configuration reset to defaults."
    exact ⟨code, later, {}, hfinish, .inl rfl, hlast.yields, hmarkup⟩
  · obtain ⟨code, later, hfinish, -, hkeeps, hlast⟩ :=
      finish_save_of_not_canSave h hsave {} "Configuration reset to defaults."
    refine ⟨code, later, settings, hfinish, .inr rfl, hlast.yields, ?_⟩
    exact hkeeps.workspace.showsMarkup

/-- What comes of the question before the settings are lost. -/
theorem run_resetSettings_of_asked (s : Scene) :
    ∃ events, (resetSettings false).run s =
      (match (confirm resetQuestion (linesOf s.workspace.input)).2 with
        | .yes => saveDefaults
        | .no => remark .info "Cancelled."
        | .nothing => do
          say (.message "Aborted.")
          stop 1).run { s with workspace := { s.workspace with input := "" }, events } :=
  ⟨s.events ++ (confirm resetQuestion (linesOf s.workspace.input)).1, rfl⟩

/-- The defaults are in force, or the old settings, provided that it can be told when nothing was
done. -/
theorem finish_resetSettings (h : s.workspace.YieldsSettings parent settings)
    (hshows : s.shows .info "Cancelled." = true) (force : Bool) :
    ∃ code later left, (resetSettings force).finish s = (code, later) ∧
      (left = {} ∨ left = settings) ∧ later.workspace.YieldsSettings parent left ∧
      later.workspace.showsMarkup = s.workspace.showsMarkup := by
  cases force with
  | true => exact finish_saveDefaults h
  | false =>
      obtain ⟨events, hrun⟩ := run_resetSettings_of_asked s
      have hasked : Workspace.YieldsSettings { s.workspace with input := "" } parent settings :=
        h.of_isLater ⟨rfl, rfl, fun _ _ _ => rfl, rfl⟩
      rw [finish_congr hrun]
      split
      · exact finish_saveDefaults hasked
      · exact ⟨0, _, settings, finish_of_ok (run_remark hshows), .inr rfl, hasked, rfl⟩
      · exact ⟨1, _, settings, rfl, .inr rfl, hasked, rfl⟩

end Action

end ServiceShell
