import ServiceShell.Proofs.Settings.Layer
import ServiceShell.Proofs.Settings.Store

/-!
# Where settings come from

The settings in force are put together from the defaults, two files, the environment and the command
line.  Each of them is what the highest of these layers says that says anything about it; a layer
that sets some settings of a part leaves the others of that part alone.

Main results:

- Definitions `Layer.ofChoices`, `Layer.ofVariables` and `Layer.ofUserFile`: what layers say.
- Definition `limit`: how the limit of depth is read, where zero stands for none.
- Theorem `Settings.isTakenFrom_of_layer`: where settings come from, given the documents of the
  files.
- Theorem `Job.settings_isTakenFrom`: where the settings in force come from.
-/

namespace ServiceShell

open Document Record

/-! ## What layers say -/

/-- The integer in a variable of the environment, if there is one. -/
def Workspace.variableInteger? (w : Workspace) (name : String) : Option Int :=
  (w.filled? name).bind Text.readInteger?

/-- The document of a limit that was read from another one, as it is where it is not read. -/
def loadedLimit (d : Document) : Document :=
  match optional integer d with
  | .read n => encodeInt? n
  | .refused _ => d

/-- Reads a limit of depth; zero stands for none. -/
def limit (d : Document) : Reading (Option Int) :=
  if isZero d then .read none else optional integer d

namespace Layer

/-- What the command line says. -/
def ofChoices (c : Choices) : Layer where
  outputDir := c.outputDir.map .text
  commandPrefix := c.commandPrefix.map .text
  maxDepth := c.maxDepth.map .int
  workers := c.workers.map .int
  format := c.format.map .text

/-- What the environment says: a variable that is empty says nothing. -/
def ofVariables (w : Workspace) : Layer where
  outputDir := (w.filled? "SHAPECLI_OUTPUT_DIR").map .text
  commandPrefix := (w.filled? "SHAPECLI_PREFIX").map .text
  maxDepth := (w.variableInteger? "SHAPECLI_MAX_DEPTH").map .int
  workers := (w.variableInteger? "SHAPECLI_WORKERS").map .int

/-- What the user's file says.  It is loaded before it is put below the other layers, so a limit in
it is an integer by then. -/
def ofUserFile (fields : Fields) : Layer :=
  { ofFields fields with maxDepth := (ofFields fields).maxDepth.map loadedLimit }

end Layer

/-! ## One step -/

/-- A field of a part after a setting of a part was chosen. -/
theorem getIn?_chooseIn {part key : String} {value : Option Document} {fields after : Fields}
    (h : chooseIn part key value fields = .ok after) (other name : String) :
    Fields.getIn? other name after =
      if other = part ∧ name = key then value.or (Fields.getIn? other name fields)
      else Fields.getIn? other name fields := by
  unfold chooseIn at h
  split at h
  · cases h
    simp
  · split at h
    · rename_i d _ inner hinner
      cases h
      rw [Fields.getIn?, Fields.get?_put]
      by_cases hpart : other = part
      · subst hpart
        rw [if_pos rfl, Fields.getIn?, hinner]
        change Fields.get? name (Fields.put (.text key) d inner) = _
        rw [Fields.get?_put]
        by_cases hkey : name = key
        · rw [if_pos hkey, if_pos ⟨rfl, hkey⟩]
          rfl
        · rw [if_neg hkey, if_neg (fun hboth => hkey hboth.2)]
          rfl
      · rw [if_neg hpart, if_neg (fun hboth => hpart hboth.1), Fields.getIn?]
    · cases h

/-- A field beside the part of a setting that was chosen. -/
theorem get?_chooseIn {part key : String} {value : Option Document} {fields after : Fields}
    (h : chooseIn part key value fields = .ok after) {name : String} (hname : name ≠ part) :
    Fields.get? name after = Fields.get? name fields := by
  unfold chooseIn at h
  split at h
  · cases h
    rfl
  · split at h
    · cases h
      rw [Fields.get?_put, if_neg hname]
    · cases h

/-- Parts that are objects in the end were objects before. -/
theorem isOpen_of_chooseIn {part key : String} {value : Option Document} {fields after : Fields}
    (h : chooseIn part key value fields = .ok after) (hkey : key ≠ "dynamic_completions")
    (hafter : after.IsOpen) : fields.IsOpen := by
  have hpart : ∀ name, (∀ d, Fields.get? name after = some d → d.isObject = true) →
      ∀ d, Fields.get? name fields = some d → d.isObject = true := by
    intro name hobject d hd
    by_cases hname : name = part
    · subst hname
      unfold chooseIn at h
      split at h
      · cases h
        exact hobject d hd
      · split at h
        · rename_i hinner
          rw [hinner] at hd
          cases hd
          rfl
        · cases h
    · exact hobject d ((get?_chooseIn h hname).trans hd)
  refine ⟨hpart _ hafter.generator, hpart _ hafter.output, fun d hd => hafter.completions d ?_⟩
  rw [getIn?_chooseIn h, if_neg (fun hboth => hkey hboth.2.symm)]
  exact hd

theorem getIn?_choose {part key : String} (h : part ≠ key) (name : String)
    (value : Option Document) (fields : Fields) :
    Fields.getIn? part name (choose key value fields) = Fields.getIn? part name fields := by
  cases value with
  | none => rfl
  | some d => rw [choose, Fields.getIn?, Fields.get?_put, if_neg h, Fields.getIn?]

theorem get?_choose (key : String) (value : Option Document) (fields : Fields) (name : String) :
    Fields.get? name (choose key value fields) =
      if name = key then value.or (Fields.get? name fields) else Fields.get? name fields := by
  cases value with
  | none => simp
  | some d => rw [choose, Fields.get?_put, Option.some_or]

theorem isOpen_of_choose {value : Option Document} {fields : Fields}
    (h : (choose "output_dir" value fields).IsOpen) : fields.IsOpen := by
  obtain ⟨hgenerator, houtput, hcompletions⟩ := h
  rw [get?_choose, if_neg (by decide)] at hgenerator houtput
  rw [getIn?_choose (by decide)] at hcompletions
  exact ⟨hgenerator, houtput, hcompletions⟩

/-! ## The environment and the command line -/

theorem Workspace.integer?_eq_ok {w : Workspace} {name : String} {n : Option Int}
    (h : w.integer? name = .ok n) : n = w.variableInteger? name := by
  unfold integer? at h
  rw [variableInteger?]
  split at h <;> rename_i hfilled
  · cases h
    rw [hfilled]
    rfl
  · split at h <;> rename_i hread
    · cases h
      rw [hfilled]
      exact hread.symm
    · cases h

/-- The environment is over what is below. -/
theorem Layer.ofFields_chooseVariables {w : Workspace} {fields after : Fields}
    (h : chooseVariables w fields = .ok after) :
    ofFields after = (ofFields fields).overlay (ofVariables w) ∧
      (after.IsOpen → fields.IsOpen) := by
  obtain ⟨first, hfirst, h⟩ := bind_eq_ok_iff.mp h
  obtain ⟨depth, hdepth, h⟩ := bind_eq_ok_iff.mp h
  obtain ⟨second, hsecond, h⟩ := bind_eq_ok_iff.mp h
  obtain ⟨workers, hworkers, h⟩ := bind_eq_ok_iff.mp h
  obtain ⟨third, hthird, h⟩ := bind_eq_ok_iff.mp h
  rw [pure_eq_ok_iff] at h
  subst h
  rw [Workspace.integer?_eq_ok hdepth] at hsecond
  rw [Workspace.integer?_eq_ok hworkers] at hthird
  constructor
  · have hdirectory : Fields.get? "output_dir" third = Fields.get? "output_dir" fields := by
      rw [get?_chooseIn hthird (by decide), get?_chooseIn hsecond (by decide),
        get?_chooseIn hfirst (by decide)]
    simp [ofFields, overlay, ofVariables, get?_choose, getIn?_choose, hdirectory, generatorPart,
      getIn?_chooseIn hthird, getIn?_chooseIn hsecond, getIn?_chooseIn hfirst]
  · intro hopen
    exact isOpen_of_chooseIn hfirst (by decide) (isOpen_of_chooseIn hsecond (by decide)
      (isOpen_of_chooseIn hthird (by decide) (isOpen_of_choose hopen)))

/-- The command line is over what is below. -/
theorem Layer.ofFields_choose {c : Choices} {fields after : Fields}
    (h : c.choose fields = .ok after) :
    ofFields after = (ofFields fields).overlay (ofChoices c) ∧
      (after.IsOpen → fields.IsOpen) := by
  obtain ⟨first, hfirst, h⟩ := bind_eq_ok_iff.mp h
  obtain ⟨second, hsecond, h⟩ := bind_eq_ok_iff.mp h
  obtain ⟨third, hthird, hformat⟩ := bind_eq_ok_iff.mp h
  constructor
  · have hdirectory : Fields.get? "output_dir" after =
        (c.outputDir.map .text).or (Fields.get? "output_dir" fields) := by
      rw [get?_chooseIn hformat (by decide), get?_choose, if_pos rfl,
        get?_chooseIn hthird (by decide), get?_chooseIn hsecond (by decide),
        get?_chooseIn hfirst (by decide)]
    simp [ofFields, overlay, ofChoices, getIn?_choose, hdirectory, generatorPart,
      getIn?_chooseIn hformat, getIn?_chooseIn hthird, getIn?_chooseIn hsecond,
      getIn?_chooseIn hfirst]
  · intro hopen
    exact isOpen_of_chooseIn hfirst (by decide) (isOpen_of_chooseIn hsecond (by decide)
      (isOpen_of_chooseIn hthird (by decide) (isOpen_of_choose
        (isOpen_of_chooseIn hformat (by decide) hopen))))

/-! ## Zero -/

/-- The document of a limit, or none for zero. -/
def liftedLimit (d : Document) : Document := if isZero d then .null else d

/-- Where the limit is zero, there is none. -/
theorem Layer.ofFields_liftZeroLimit {fields after : Fields}
    (h : liftZeroLimit fields = .ok after) :
    ofFields after = { ofFields fields with
        maxDepth := (ofFields fields).maxDepth.map liftedLimit } ∧
      (after.IsOpen → fields.IsOpen) := by
  unfold liftZeroLimit at h
  split at h
  · rename_i inner hinner
    have hdepth : Fields.getIn? generatorPart "max_depth" fields =
        Fields.get? "max_depth" inner := by
      rw [Fields.getIn?, hinner]
      rfl
    split at h <;> rename_i hzero
    · have hlifted : (Fields.get? "max_depth" inner).map liftedLimit = some .null := by
        cases hget : Fields.get? "max_depth" inner with
        | none =>
            rw [hget] at hzero
            cases hzero
        | some d =>
            rw [hget] at hzero
            exact congrArg some (if_pos hzero)
      have hdirectory := get?_chooseIn h (show "output_dir" ≠ generatorPart by decide)
      refine ⟨?_, isOpen_of_chooseIn h (by decide)⟩
      simp [ofFields, hdirectory, getIn?_chooseIn h, hdepth, hlifted]
    · have hlifted : (Fields.get? "max_depth" inner).map liftedLimit =
          Fields.get? "max_depth" inner := by
        cases hget : Fields.get? "max_depth" inner with
        | none => rfl
        | some d =>
            rw [hget] at hzero
            exact congrArg some (if_neg hzero)
      cases h
      refine ⟨?_, id⟩
      simp [ofFields, hdepth, hlifted]
  · cases h

/-! ## Main statements -/

theorem isTaken_map_liftedLimit {layer : Option Document} {default n : Option Int} :
    IsTaken (optional integer) default (layer.map liftedLimit) n ↔
      IsTaken limit default layer n := by
  cases layer with
  | none => rfl
  | some d =>
      change optional integer (liftedLimit d) = _ ↔ limit d = _
      rw [liftedLimit, limit]
      split <;> rfl

/-- What a loaded limit stands for, zero or not, is what it stands for in the file. -/
theorem isTaken_loadedLimit {layer : Option Document} {n m : Option Int}
    (hloaded : IsTaken (optional integer) (some 16) layer n) (h : limit (encodeInt? n) = .read m) :
    IsTaken limit (some 16) (layer.map loadedLimit) m := by
  cases layer with
  | none =>
      rw [show n = some 16 from hloaded] at h
      cases h
      rfl
  | some d =>
      change limit (loadedLimit d) = .read m
      rw [loadedLimit, show optional integer d = .read n from hloaded]
      exact h

/-- Settings that were read after zero was lifted. -/
theorem Settings.IsTakenFrom.of_liftedLimit {s : Settings} {layer : Layer}
    (h : s.IsTakenFrom (optional integer)
      { layer with maxDepth := layer.maxDepth.map liftedLimit }) : s.IsTakenFrom limit layer :=
  ⟨h.outputDir, h.commandPrefix, isTaken_map_liftedLimit.mp h.maxDepth, h.workers, h.dispatcher,
    h.unwrapListOutputs, h.format, h.completions⟩

/-- In the place of settings that were loaded from a file there may be the file. -/
theorem Settings.IsTakenFrom.of_loaded {user s : Settings} {file : Fields} {above : Layer}
    (huser : user.IsTakenFrom (optional integer) (.ofFields file))
    (h : s.IsTakenFrom limit ((Layer.ofFields user.encode.fields).overlay above)) :
    s.IsTakenFrom limit ((Layer.ofUserFile file).overlay above) := by
  rw [Layer.ofFields_encode] at h
  refine ⟨h.outputDir.or (optional_ofText? _) huser.outputDir,
    h.commandPrefix.or (text_text _) huser.commandPrefix, ?_,
    h.workers.or (integer_int _) huser.workers, h.dispatcher.or (text_text _) huser.dispatcher,
    h.unwrapListOutputs.or (boolean_bool _) huser.unwrapListOutputs,
    h.format.or (text_text _) huser.format, fun name => ?_⟩
  · have hdepth := h.maxDepth
    change IsTaken limit (some 16) (above.maxDepth.or (some (encodeInt? user.generator.maxDepth)))
      s.generator.maxDepth at hdepth
    change IsTaken limit (some 16)
      (above.maxDepth.or ((Layer.ofFields file).maxDepth.map loadedLimit)) s.generator.maxDepth
    cases habove : above.maxDepth with
    | some d =>
        rw [habove] at hdepth
        exact hdepth
    | none =>
        rw [habove] at hdepth
        exact isTaken_loadedLimit huser.maxDepth hdepth
  · refine (h.completions name).or ?_ (huser.completions name)
    cases hlookup : user.generator.completions.lookup name <;> simp [IsTaken, hlookup]

/-- Every setting is the one that the highest layer says, given the documents of the files: the
command line, the environment, the project's file, and the user's file. -/
theorem Settings.isTakenFrom_of_layer {user s : Settings} {project : Option Fields}
    {file : Fields} {w : Workspace} {c : Choices}
    (huser : user.IsTakenFrom (optional integer) (.ofFields file))
    (hproject : (Document.object (project.getD [])).IsMadeOf Json.IsParsed)
    (h : user.layer project w c = .ok s) :
    s.IsTakenFrom limit (Layer.stack [.ofChoices c, .ofVariables w, .ofFields (project.getD []),
      .ofUserFile file]) := by
  obtain ⟨first, hfirst, h⟩ := bind_eq_ok_iff.mp h
  obtain ⟨second, hsecond, h⟩ := bind_eq_ok_iff.mp h
  obtain ⟨third, hthird, h⟩ := bind_eq_ok_iff.mp h
  obtain ⟨_, ⟨⟩, hread⟩ := decode_eq_ok_iff.mp (mapError_eq_ok_iff.mp h)
  obtain ⟨htaken, hopen⟩ := hread.isTakenFrom
  obtain ⟨hzero, hopenThird⟩ := Layer.ofFields_liftZeroLimit hthird
  obtain ⟨hchoices, hopenSecond⟩ := Layer.ofFields_choose hsecond
  obtain ⟨hvariables, hopenFirst⟩ := Layer.ofFields_chooseVariables hfirst
  have hfile := Layer.ofFields_fieldsOver user hproject
    (hopenFirst (hopenSecond (hopenThird hopen)))
  rw [hzero, hchoices, hvariables, hfile] at htaken
  have hlimit := htaken.of_liftedLimit
  rw [Layer.overlay_assoc, Layer.overlay_assoc] at hlimit
  rw [Layer.stack, Layer.stack, Layer.stack, Layer.stack, Layer.stack, Layer.overlay_assoc,
    Layer.overlay_assoc, Layer.empty_overlay]
  exact huser.of_loaded hlimit

/-- The user's settings were read from the document in their file, setting by setting. -/
theorem Settings.isTakenFrom_of_isTaken {d : Option Document} {s : Settings}
    (h : IsTaken Settings.read {} d s) :
    s.IsTakenFrom (optional integer) (.ofFields ((d.map Document.fields).getD [])) := by
  cases d with
  | none =>
      rw [show s = {} from h]
      exact ⟨rfl, rfl, rfl, rfl, rfl, rfl, rfl, fun _ => rfl⟩
  | some d =>
      have hdecode : decode d = .ok s := Reading.finish_eq_ok_iff.mpr h
      obtain ⟨fields, rfl, hread⟩ := decode_eq_ok_iff.mp hdecode
      exact hread.isTakenFrom.1

/-- Every setting in force is the one that the highest layer says that says anything about it: the
command line, the environment, the project's file, and the user's file, with its default where none
of them does; completions are told apart by their patterns. -/
theorem Job.settings_isTakenFrom {c : Choices} {w later : Workspace} {s : Settings}
    (h : (Job.settings c).run w = (.ok s, later)) :
    ∃ path file project, settingsFile.run w = (.ok path, later) ∧
      later.settingsDocument? path (.userFile path.text) = .ok file ∧
      later.projectSettings = .ok project ∧
      s.IsTakenFrom limit (Layer.stack [.ofChoices c, .ofVariables w, .ofFields (project.getD []),
        .ofUserFile ((file.map Document.fields).getD [])]) := by
  rw [settings, userSettings] at h
  simp only [run_bind_eq_ok_iff, run_ask_eq_ok_iff] at h
  obtain ⟨user, _, ⟨path, _, hpath, huser, rfl⟩, project, _, ⟨hproject, rfl⟩, hlayer, rfl⟩ := h
  obtain ⟨file, hfile, htaken⟩ := Workspace.userSettings_eq_ok_iff.mp huser
  refine ⟨path, file, project, hpath, hfile, hproject, ?_⟩
  obtain ⟨_, files, -, -, -, rfl⟩ := run_settingsFile_eq_ok_iff.mp hpath
  exact Settings.isTakenFrom_of_layer (Settings.isTakenFrom_of_isTaken htaken)
    (Workspace.isMadeOf_of_projectSettings hproject) hlayer

/-- A workspace in which every layer sets some of the settings. -/
def layeredWorkspace : Workspace :=
  { (default : Workspace) with
    files := ⟨[
      (["c"], .directory), (["shapecli", "c"], .directory), (["w"], .directory),
      (["config.json", "shapecli", "c"], .file ("\x7b\"generator\": \x7b\"max_depth\": 0, "
        ++ "\"dispatcher\": \"run\", \"dynamic_completions\": "
        ++ "\x7b\"id\": \"all\", \"arn\": \"arns\"\x7d\x7d\x7d").toUTF8),
      (["shapecli.json", "w"], .file ("\x7b\"generator\": \x7b\"command_prefix\": \"ops\", "
        ++ "\"dynamic_completions\": \x7b\"id\": \"some\"\x7d\x7d\x7d").toUTF8)]⟩
    directory := ["w"]
    environment := [("XDG_CONFIG_HOME", "/c"), ("SHAPECLI_WORKERS", "3")]
    system := "Linux" }

/-- The settings in force there, for the choice of a format. -/
def layeredSettings : Settings :=
  { generator := {
      commandPrefix := "ops", maxDepth := none, workers := 3, dispatcher := "run",
      completions := [("id", "some"), ("arn", "arns")] }
    format := "json" }

/-- Each of these settings comes from the highest layer that sets it. -/
theorem Job.settings_layeredWorkspace :
    (Job.settings { format := some "json" }).run layeredWorkspace =
        (.ok layeredSettings, layeredWorkspace) ∧
      ∃ path file project, settingsFile.run layeredWorkspace = (.ok path, layeredWorkspace) ∧
        layeredWorkspace.settingsDocument? path (.userFile path.text) = .ok file ∧
        layeredWorkspace.projectSettings = .ok project ∧
        layeredSettings.IsTakenFrom limit (Layer.stack [.ofChoices { format := some "json" },
          .ofVariables layeredWorkspace, .ofFields (project.getD []),
          .ofUserFile ((file.map Document.fields).getD [])]) := by
  have hfile : settingsFile.run layeredWorkspace =
      (.ok ⟨"/", ["c", "shapecli", "config.json"]⟩, layeredWorkspace) :=
    run_settingsFile_eq_ok_iff.mpr
      ⟨_, _, Workspace.settingsDirectory_of_variable rfl rfl, rfl, rfl, rfl⟩
  have huser : layeredWorkspace.userSettings ⟨"/", ["c", "shapecli", "config.json"]⟩ =
      .ok { generator := {
        maxDepth := some 0, dispatcher := "run",
        completions := [("id", "all"), ("arn", "arns")] } } := by
    decide +kernel
  obtain ⟨project, hproject, hlayer⟩ : ∃ project, layeredWorkspace.projectSettings = .ok project ∧
      Settings.layer { generator := {
        maxDepth := some 0, dispatcher := "run",
        completions := [("id", "all"), ("arn", "arns")] } } project layeredWorkspace
          { format := some "json" } = .ok layeredSettings := by
    rw [← bind_eq_ok_iff]
    decide +kernel
  have hrun : (Job.settings { format := some "json" }).run layeredWorkspace =
      (.ok layeredSettings, layeredWorkspace) := by
    rw [settings, userSettings]
    simp only [run_bind_eq_ok_iff, run_ask_eq_ok_iff]
    exact ⟨_, _, ⟨_, _, hfile, huser, rfl⟩, project, _, ⟨hproject, rfl⟩, hlayer, rfl⟩
  exact ⟨hrun, Job.settings_isTakenFrom hrun⟩

end ServiceShell
