import ServiceShell.Proofs.Settings.Layers

/-!
# The limit of depth

A limit of zero stands for no limit, so zero should not be the limit in force.  It is looked for
among documents, before they are read as integers, and a text is no number: a text for zero in the
project's file is passed over, and read as zero afterwards.  This module says that nothing else is.

Main results:

- Theorem `limit_eq_read_zero_iff`: only a text is read as a limit of zero.
- Definition `Choices.TakesZeroText`: such a text in the project's file is the limit in force.
- Theorem `Job.settings_zeroLimit`: the limit in force is zero exactly then, and any other zero
  stands for no limit.
-/

namespace ServiceShell

open Document Record

/-! ## Documents for zero -/

theorem optional_integer_eq_read_some_iff {d : Document} {n : Int} :
    optional integer d = .read (some n) ↔ integer d = .read n := by
  unfold Record.optional
  split
  · simp [integer, Reading.refuse]
  · rw [Reading.map_eq_read_iff]
    simp

/-- What is read as zero is the number zero, unless it is a text. -/
theorem isZero_of_integer {d : Document} (h : integer d = .read 0) (htext : d.text? = none) :
    isZero d = true := by
  unfold integer at h
  split at h
  · cases h
    rfl
  · rename_i b
    cases b with
    | false => rfl
    | true => cases h
  · rename_i x
    have hwhole : Decimal.whole? x = some 0 := by
      unfold integerFromFloat at h
      split at h
      · cases h
      · split at h
        · cases h
        · split at h
          · cases h
            assumption
          · cases h
    simp [isZero, Scalar.same, Scalar.asNumber?, Number.same, hwhole]
  · cases htext
  · cases h

theorem isZero_text (text : String) : isZero (.text text) = false := by
  simp [isZero, Scalar.same, Scalar.asNumber?]

/-- What is read as zero is read as no limit, unless it is a text. -/
theorem limit_of_integer {d : Document} (h : integer d = .read 0) (htext : d.text? = none) :
    limit d = .read none :=
  if_pos (isZero_of_integer h htext)

/-- Only a text is read as a limit of zero. -/
theorem limit_eq_read_zero_iff {d : Document} :
    limit d = .read (some 0) ↔ ∃ text, d = .text text ∧ integerFromText text = .read 0 := by
  constructor
  · intro h
    unfold limit at h
    split at h
    · cases h
    · rename_i hzero
      rw [optional_integer_eq_read_some_iff] at h
      cases htext : d.text? with
      | none => exact absurd (isZero_of_integer h htext) hzero
      | some text =>
          unfold text? at htext
          split at htext
          · exact ⟨_, rfl, h⟩
          · cases htext
  · rintro ⟨text, rfl, hread⟩
    rw [limit, isZero_text, if_neg Bool.false_ne_true, optional_integer_eq_read_some_iff]
    exact hread

/-- An integer is never a limit of zero. -/
theorem limit_int_ne (n : Int) : limit (.int n) ≠ .read (some 0) := by
  rw [Ne, limit_eq_read_zero_iff]
  simp

/-- Neither is what was loaded from the user's file: a text is an integer by then. -/
theorem limit_loadedLimit_ne (d : Document) : limit (loadedLimit d) ≠ .read (some 0) := by
  rw [Ne, limit_eq_read_zero_iff]
  rintro ⟨text, htext, hread⟩
  unfold loadedLimit at htext
  split at htext
  · rename_i n _
    cases n <;> cases htext
  · rename_i hrefused
    subst htext
    have hzero : optional integer (.text text) = .read (some 0) :=
      optional_integer_eq_read_some_iff.mpr hread
    rw [hzero] at hrefused
    cases hrefused

theorem limit_loadedLimit_of_integer {d : Document} (h : integer d = .read 0) :
    limit (loadedLimit d) = .read none := by
  rw [loadedLimit, optional_integer_eq_read_some_iff.mpr h]
  rfl

/-! ## Limits over each other -/

section

variable {chosen : Option Int} {project file : Option Document} {n : Option Int}

/-- A limit is zero exactly where the project's file has a text for zero, and nothing above it has a
limit. -/
theorem limit_layers_eq_zero_iff
    (h : IsTaken limit (some 16)
      ((chosen.map Document.int).or (project.or (file.map loadedLimit))) n) :
    n = some 0 ↔
      chosen = none ∧ ∃ text, project = some (.text text) ∧ integerFromText text = .read 0 := by
  constructor
  · rintro rfl
    cases chosen with
    | some m => exact absurd h (limit_int_ne m)
    | none =>
        cases project with
        | some d =>
            obtain ⟨text, rfl, hread⟩ := limit_eq_read_zero_iff.mp h
            exact ⟨rfl, text, rfl, hread⟩
        | none =>
            cases file with
            | some d => exact absurd h (limit_loadedLimit_ne d)
            | none => cases h
  · rintro ⟨rfl, text, rfl, hread⟩
    have hzero := limit_eq_read_zero_iff.mpr ⟨text, rfl, hread⟩
    exact Reading.read.inj (Eq.trans (Eq.symm h) hzero)

/-- Any other zero stands for no limit. -/
theorem limit_layers_of_integer {d : Document}
    (h : IsTaken limit (some 16)
      ((chosen.map Document.int).or (project.or (file.map loadedLimit))) n)
    (hd : (chosen.map Document.int).or (project.or file) = some d) (hzero : integer d = .read 0)
    (hn : n ≠ some 0) : n = none := by
  have hlimit : limit d = .read n → n = none := by
    intro hread
    cases htext : d.text? with
    | none => exact Reading.read.inj (Eq.trans (Eq.symm hread) (limit_of_integer hzero htext))
    | some text =>
        unfold text? at htext
        split at htext
        · rw [limit_eq_read_zero_iff.mpr ⟨_, rfl, hzero⟩] at hread
          exact absurd (Reading.read.inj hread).symm hn
        · cases htext
  cases chosen with
  | some m =>
      cases hd
      exact hlimit h
  | none =>
      cases project with
      | some other =>
          cases hd
          exact hlimit h
      | none =>
          cases hd
          exact Reading.read.inj (Eq.trans (Eq.symm h) (limit_loadedLimit_of_integer hzero))

end

/-- What layers say about the limit, one over the other. -/
theorem Layer.maxDepth_stack (c : Choices) (w : Workspace) (project : Fields) (file : Layer) :
    (stack [.ofChoices c, .ofVariables w, .ofFields project, file]).maxDepth =
      ((c.maxDepth.or (w.variableInteger? "SHAPECLI_MAX_DEPTH")).map Document.int).or
        ((Fields.getIn? generatorPart "max_depth" project).or file.maxDepth) := by
  simp only [stack, overlay, ofChoices, ofVariables, ofFields, Option.or_none]
  cases c.maxDepth <;> rfl

/-! ## Main statements -/

/-- The limit in force is one that the project's file has as a text for zero. -/
structure Choices.TakesZeroText (c : Choices) (w : Workspace) (project : Fields) : Prop where
  /-- The command line has none. -/
  choice : c.maxDepth = none
  /-- The environment has none. -/
  environment : w.variableInteger? "SHAPECLI_MAX_DEPTH" = none
  /-- The project's file has a text for zero. -/
  text : ∃ text, Fields.getIn? generatorPart "max_depth" project = some (.text text) ∧
    integerFromText text = .read 0

/-- The limit in force is zero exactly where it is taken from a text in the project's file; wherever
else the highest layer with a limit has zero, in whatever form, there is none. -/
theorem Job.settings_zeroLimit {c : Choices} {w later : Workspace} {s : Settings}
    (h : (Job.settings c).run w = (.ok s, later)) :
    ∃ path file project, settingsFile.run w = (.ok path, later) ∧
      later.settingsDocument? path (.userFile path.text) = .ok file ∧
      later.projectSettings = .ok project ∧
      (s.generator.maxDepth = some 0 ↔ c.TakesZeroText w (project.getD [])) ∧
      ∀ d, (Layer.stack [.ofChoices c, .ofVariables w, .ofFields (project.getD []),
          .ofFields ((file.map Document.fields).getD [])]).maxDepth = some d →
        integer d = .read 0 → ¬ c.TakesZeroText w (project.getD []) →
        s.generator.maxDepth = none := by
  obtain ⟨user, project, huser, hproject, hlayer⟩ := run_settings_eq_ok_iff.mp h
  obtain ⟨path, hpath, huser⟩ := run_userSettings_eq_ok_iff.mp huser
  obtain ⟨file, hfile, htaken⟩ := Workspace.userSettings_eq_ok_iff.mp huser
  refine ⟨path, file, project, hpath, hfile, hproject, ?_⟩
  obtain ⟨_, files, -, -, -, rfl⟩ := run_settingsFile_eq_ok_iff.mp hpath
  have hlimit := (Settings.isTakenFrom_of_layer (Settings.isTakenFrom_of_isTaken htaken)
    (Workspace.isMadeOf_of_projectSettings hproject) hlayer).maxDepth
  change IsTaken limit (some 16) (Layer.stack [.ofChoices c, .ofVariables w,
    .ofFields (project.getD []), .ofUserFile _]).maxDepth s.generator.maxDepth at hlimit
  rw [Layer.maxDepth_stack] at hlimit
  have hzero : s.generator.maxDepth = some 0 ↔ c.TakesZeroText w (project.getD []) := by
    rw [limit_layers_eq_zero_iff hlimit, Option.or_eq_none_iff]
    constructor
    · rintro ⟨⟨hchoice, henvironment⟩, htext⟩
      exact ⟨hchoice, henvironment, htext⟩
    · rintro ⟨hchoice, henvironment, htext⟩
      exact ⟨⟨hchoice, henvironment⟩, htext⟩
  refine ⟨hzero, fun d hd hread htext => ?_⟩
  rw [Layer.maxDepth_stack] at hd
  exact limit_layers_of_integer hlimit hd hread (mt hzero.mp htext)

/-- A workspace in which the project's file has a text for zero. -/
def zeroTextWorkspace : Workspace :=
  { (default : Workspace) with
    files := ⟨[
      (["c"], .directory), (["shapecli", "c"], .directory), (["w"], .directory),
      (["shapecli.json", "w"],
        .file "\x7b\"generator\": \x7b\"max_depth\": \"0\"\x7d\x7d".toUTF8)]⟩
    directory := ["w"]
    environment := [("XDG_CONFIG_HOME", "/c")]
    system := "Linux" }

/-- There the limit in force is zero. -/
theorem Job.settings_zeroTextWorkspace :
    (Job.settings {}).run zeroTextWorkspace =
        (.ok { generator := { maxDepth := some 0 } }, zeroTextWorkspace) ∧
      ∃ project, zeroTextWorkspace.projectSettings = .ok project ∧
        Choices.TakesZeroText {} zeroTextWorkspace (project.getD []) := by
  have hfile : settingsFile.run zeroTextWorkspace =
      (.ok ⟨"/", ["c", "shapecli", "config.json"]⟩, zeroTextWorkspace) :=
    run_settingsFile_eq_ok_iff.mpr
      ⟨_, _, Workspace.settingsDirectory_of_variable rfl rfl, rfl, rfl, rfl⟩
  have huser : zeroTextWorkspace.userSettings ⟨"/", ["c", "shapecli", "config.json"]⟩ =
      .ok {} := by
    decide +kernel
  obtain ⟨project, hproject, hlayer⟩ : ∃ project, zeroTextWorkspace.projectSettings = .ok project ∧
      Settings.layer {} project zeroTextWorkspace {} =
        .ok { generator := { maxDepth := some 0 } } := by
    rw [← bind_eq_ok_iff]
    decide +kernel
  have hrun : (Job.settings {}).run zeroTextWorkspace =
      (.ok { generator := { maxDepth := some 0 } }, zeroTextWorkspace) :=
    run_settings_eq_ok_iff.mpr
      ⟨{}, project, run_userSettings_eq_ok_iff.mpr ⟨_, hfile, huser⟩, hproject, hlayer⟩
  obtain ⟨_, _, other, -, -, hother, hzero, -⟩ := Job.settings_zeroLimit hrun
  exact ⟨hrun, other, hother, hzero.mp rfl⟩

end ServiceShell
