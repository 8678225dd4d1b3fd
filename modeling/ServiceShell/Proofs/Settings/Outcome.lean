import ServiceShell.Proofs.Settings.Layers
import ServiceShell.Proofs.Settings.Pattern

/-!
# How layers of settings end

The layers of settings are put on top of each other before anything is checked, so work on them ends
in one of three ways: with settings, with trouble that tells what is wrong with them, or broken off.
This module says exactly which documents and which choices break it off.

Main results:

- Definitions `Refuses` and `BreaksOff`: the two ways to end without a value.
- Definition `Choices.Break`: what breaks the work off, given the settings of the user.
- Theorem `Settings.breaksOff_layer_iff`: nothing else does.
-/

namespace ServiceShell

open Document Record

/-! ## Ends -/

section

variable {α β : Type}

/-- Whether work ends with trouble that tells what is wrong with the settings. -/
def Refuses (result : Except Trouble α) : Prop := ∃ problem, result = .error (.settings problem)

/-- Whether work ends with any other trouble. -/
def BreaksOff (result : Except Trouble α) : Prop :=
  ∃ trouble, result = .error trouble ∧ ∀ problem, trouble ≠ .settings problem

@[simp] theorem not_refuses_ok (a : α) : ¬ Refuses (.ok a) := by simp [Refuses]

@[simp] theorem not_breaksOff_ok (a : α) : ¬ BreaksOff (.ok a) := by simp [BreaksOff]

@[simp] theorem refuses_settings (problem : SettingsProblem) :
    Refuses (.error (.settings problem) : Except Trouble α) :=
  ⟨problem, rfl⟩

@[simp] theorem not_refuses_unexpected (breakdown : Breakdown) :
    ¬ Refuses (.error (.unexpected breakdown) : Except Trouble α) := by
  simp [Refuses]

@[simp] theorem not_breaksOff_settings (problem : SettingsProblem) :
    ¬ BreaksOff (.error (.settings problem) : Except Trouble α) := by
  simp [BreaksOff]

@[simp] theorem breaksOff_unexpected (breakdown : Breakdown) :
    BreaksOff (.error (.unexpected breakdown) : Except Trouble α) := by
  simp [BreaksOff]

/-- Work that is not broken off gives a value or tells what is wrong. -/
theorem not_breaksOff_iff {result : Except Trouble α} :
    ¬ BreaksOff result ↔ (∃ a, result = .ok a) ∨ Refuses result := by
  cases result with
  | ok a => simp
  | error trouble => cases trouble <;> simp [BreaksOff, Refuses]

theorem exists_of_not_breaksOff {result : Except Trouble α} (hbreak : ¬ BreaksOff result)
    (hrefuses : ¬ Refuses result) : ∃ a, result = .ok a :=
  (not_breaksOff_iff.mp hbreak).resolve_right hrefuses

theorem BreaksOff.not_refuses {result : Except Trouble α} (h : BreaksOff result) :
    ¬ Refuses result :=
  fun hrefuses => not_breaksOff_iff.mpr (.inr hrefuses) h

/-- Of two steps, the second refuses what it is given if the first does not. -/
theorem refuses_bind_iff {x : Except Trouble α} {f : α → Except Trouble β} :
    Refuses (x >>= f) ↔ Refuses x ∨ ∃ a, x = .ok a ∧ Refuses (f a) := by
  cases x <;> simp [Refuses, bind, Except.bind]

/-- Of two steps, the second is broken off if the first is not. -/
theorem breaksOff_bind_iff {x : Except Trouble α} {f : α → Except Trouble β} :
    BreaksOff (x >>= f) ↔ BreaksOff x ∨ ∃ a, x = .ok a ∧ BreaksOff (f a) := by
  cases x <;> simp [BreaksOff, bind, Except.bind]

end

/-- Reading settings is broken off where their completions stop the check. -/
theorem Settings.breaksOff_decode_iff {d : Document} {problem : Failure → SettingsProblem} :
    BreaksOff ((decode d).mapError fun failure => failure.trouble problem) ↔
      d.fields.StopCheck := by
  rw [← faults_read_iff]
  cases hdecode : decode d with
  | ok s => simp [Except.mapError, Reading.finish_eq_ok_iff.mp hdecode]
  | error failure =>
      rw [← not_iff_not, ← Reading.ruleFault?_eq_none_iff hdecode, Except.mapError,
        Failure.trouble]
      cases failure.ruleFault? <;> simp

/-! ## Parts -/

namespace Fields

/-- A part of fields is an object. -/
def HasPart (part : String) (fields : Fields) : Prop :=
  ∃ inner, get? part fields = some (.object inner)

/-- A part of fields is there, but is no object. -/
def IsClosed (part : String) (fields : Fields) : Prop :=
  ∃ d, get? part fields = some d ∧ d.isObject = false

/-- Over fields with a part, the part is lost only to what is no object. -/
theorem hasPart_fieldsOver_iff {part : String} {below above : Fields} (hbelow : below.HasPart part)
    (habove : above.HasNames) : (fieldsOver below above).HasPart part ↔ ¬ above.IsClosed part := by
  obtain ⟨inner, hinner⟩ := hbelow
  rw [HasPart, IsClosed, get?_fieldsOver habove, hinner]
  cases get? part above with
  | none => simp [fieldOver]
  | some d => cases d <;> simp [fieldOver, Document.over, isObject, fields?]

/-- Settings were put into fields whose parts and completions stay as they are. -/
structure KeepsParts (fields after : Fields) : Prop where
  /-- The settings for generation. -/
  generator : after.HasPart generatorPart ↔ fields.HasPart generatorPart
  /-- The settings for output. -/
  output : after.HasPart "output" ↔ fields.HasPart "output"
  /-- The completions. -/
  completions : after.StopCheck ↔ fields.StopCheck

theorem KeepsParts.refl (fields : Fields) : fields.KeepsParts fields :=
  ⟨Iff.rfl, Iff.rfl, Iff.rfl⟩

theorem KeepsParts.trans {fields middle after : Fields} (h : fields.KeepsParts middle)
    (hlater : middle.KeepsParts after) : fields.KeepsParts after :=
  ⟨hlater.generator.trans h.generator, hlater.output.trans h.output,
    hlater.completions.trans h.completions⟩

end Fields

/-! ## One step -/

section

variable {part key : String} {value : Option Document} {fields after : Fields}

/-- A part that is no object takes no setting. -/
theorem breaksOff_chooseIn_iff :
    BreaksOff (chooseIn part key value fields) ↔ value ≠ none ∧ ¬ fields.HasPart part := by
  unfold chooseIn Fields.HasPart
  split
  · simp
  · split <;> simp_all

theorem not_refuses_chooseIn : ¬ Refuses (chooseIn part key value fields) := by
  unfold chooseIn
  split
  · simp
  · split <;> simp

/-- A part that is no object is left as it is where there is nothing to put into it. -/
theorem chooseIn_eq_ok_iff_of_not_hasPart (h : ¬ fields.HasPart part) :
    chooseIn part key value fields = .ok after ↔ value = none ∧ after = fields := by
  cases value with
  | none => simp [eq_comm]
  | some d =>
      have hbreak : BreaksOff (chooseIn part key (some d) fields) :=
        breaksOff_chooseIn_iff.mpr ⟨nofun, h⟩
      obtain ⟨trouble, htrouble, -⟩ := hbreak
      simp [htrouble]

/-- A setting of a part leaves all parts as they are. -/
theorem Fields.KeepsParts.of_chooseIn (h : chooseIn part key value fields = .ok after)
    (hkey : key ≠ "dynamic_completions") : fields.KeepsParts after := by
  have hpart : ∀ name, after.HasPart name ↔ fields.HasPart name := by
    intro name
    by_cases hname : name = part
    · subst hname
      unfold chooseIn at h
      split at h
      · cases h
        rfl
      · split at h
        · rename_i inner hinner
          cases h
          simp [Fields.HasPart, hinner, Fields.get?_put]
        · cases h
    · rw [Fields.HasPart, get?_chooseIn h hname, Fields.HasPart]
  refine ⟨hpart _, hpart _, ?_⟩
  rw [Fields.StopCheck, getIn?_chooseIn h, if_neg fun hboth => hkey hboth.2.symm, Fields.StopCheck]

/-- A part that is an object takes any setting. -/
theorem exists_chooseIn_of_hasPart (h : fields.HasPart part) (key : String)
    (hkey : key ≠ "dynamic_completions") (value : Option Document) :
    ∃ after, chooseIn part key value fields = .ok after ∧ fields.KeepsParts after := by
  have hbreak : ¬ BreaksOff (chooseIn part key value fields) := by
    rw [breaksOff_chooseIn_iff]
    exact fun hboth => hboth.2 h
  obtain ⟨after, hafter⟩ := exists_of_not_breaksOff hbreak not_refuses_chooseIn
  exact ⟨after, hafter, .of_chooseIn hafter hkey⟩

theorem Fields.KeepsParts.of_choose (value : Option Document) (fields : Fields) :
    fields.KeepsParts (choose "output_dir" value fields) := by
  constructor
  · rw [Fields.HasPart, get?_choose, if_neg (by decide), Fields.HasPart]
  · rw [Fields.HasPart, get?_choose, if_neg (by decide), Fields.HasPart]
  · rw [Fields.StopCheck, getIn?_choose (by decide), Fields.StopCheck]

end

/-! ## Variables -/

namespace Workspace

variable {w : Workspace} {name : String}

/-- A variable holds a text that is no integer. -/
def RefusesInteger (w : Workspace) (name : String) : Prop :=
  ∃ text, w.filled? name = some text ∧ Text.readInteger? text = none

/-- What the variables for integers hold are integers. -/
def HasIntegers (w : Workspace) : Prop :=
  ¬ w.RefusesInteger "SHAPECLI_MAX_DEPTH" ∧ ¬ w.RefusesInteger "SHAPECLI_WORKERS"

/-- A variable is no integer, and none before it has a setting for generation. -/
def RefusesFirst (w : Workspace) : Prop :=
  w.filled? "SHAPECLI_PREFIX" = none ∧
    (w.RefusesInteger "SHAPECLI_MAX_DEPTH" ∨
      w.filled? "SHAPECLI_MAX_DEPTH" = none ∧ w.RefusesInteger "SHAPECLI_WORKERS")

theorem refuses_integer?_iff : Refuses (w.integer? name) ↔ w.RefusesInteger name := by
  unfold integer? RefusesInteger
  cases w.filled? name with
  | none => simp
  | some text => cases hread : Text.readInteger? text <;> simp [hread]

theorem not_breaksOff_integer? : ¬ BreaksOff (w.integer? name) := by
  unfold integer?
  split
  · simp
  · split <;> simp

theorem integer?_eq_ok_iff {n : Option Int} :
    w.integer? name = .ok n ↔ ¬ w.RefusesInteger name ∧ n = w.variableInteger? name := by
  constructor
  · intro h
    refine ⟨fun hrefuses => ?_, integer?_eq_ok h⟩
    rw [← refuses_integer?_iff, h] at hrefuses
    exact not_refuses_ok n hrefuses
  · rintro ⟨hrefuses, rfl⟩
    rw [← refuses_integer?_iff] at hrefuses
    obtain ⟨n, hn⟩ := exists_of_not_breaksOff not_breaksOff_integer? hrefuses
    rw [hn, integer?_eq_ok hn]

theorem variableInteger?_eq_none_iff :
    w.variableInteger? name = none ↔ w.filled? name = none ∨ w.RefusesInteger name := by
  unfold variableInteger? RefusesInteger
  cases w.filled? name <;> simp

end Workspace

/-! ## The environment and the command line -/

variable {w : Workspace} {c : Choices} {fields after : Fields}

theorem Fields.KeepsParts.of_chooseVariables (h : chooseVariables w fields = .ok after) :
    fields.KeepsParts after := by
  obtain ⟨first, hfirst, h⟩ := bind_eq_ok_iff.mp h
  obtain ⟨_, -, h⟩ := bind_eq_ok_iff.mp h
  obtain ⟨second, hsecond, h⟩ := bind_eq_ok_iff.mp h
  obtain ⟨_, -, h⟩ := bind_eq_ok_iff.mp h
  obtain ⟨third, hthird, h⟩ := bind_eq_ok_iff.mp h
  cases h
  exact (KeepsParts.of_chooseIn hfirst (by decide)).trans
    ((KeepsParts.of_chooseIn hsecond (by decide)).trans
      ((KeepsParts.of_chooseIn hthird (by decide)).trans (.of_choose _ third)))

theorem Fields.KeepsParts.of_choices (h : c.choose fields = .ok after) :
    fields.KeepsParts after := by
  obtain ⟨first, hfirst, h⟩ := bind_eq_ok_iff.mp h
  obtain ⟨second, hsecond, h⟩ := bind_eq_ok_iff.mp h
  obtain ⟨third, hthird, h⟩ := bind_eq_ok_iff.mp h
  exact (KeepsParts.of_chooseIn hfirst (by decide)).trans
    ((KeepsParts.of_chooseIn hsecond (by decide)).trans
      ((KeepsParts.of_chooseIn hthird (by decide)).trans
        ((KeepsParts.of_choose _ third).trans (KeepsParts.of_chooseIn h (by decide)))))

theorem Fields.KeepsParts.of_liftZeroLimit (h : liftZeroLimit fields = .ok after) :
    fields.KeepsParts after := by
  unfold liftZeroLimit at h
  split at h
  · split at h
    · exact .of_chooseIn h (by decide)
    · cases h
      exact .refl fields
  · cases h

/-- Where the part for generation is no object, only a variable that comes first is refused. -/
theorem refuses_chooseVariables_iff (h : ¬ fields.HasPart generatorPart) :
    Refuses (chooseVariables w fields) ↔ w.RefusesFirst := by
  simp only [chooseVariables, refuses_bind_iff, chooseIn_eq_ok_iff_of_not_hasPart h,
    not_refuses_chooseIn, Workspace.refuses_integer?_iff, Workspace.integer?_eq_ok_iff, pure,
    Except.pure, not_refuses_ok, Option.map_eq_none_iff, Workspace.variableInteger?_eq_none_iff,
    false_or, or_false, and_false, and_assoc, exists_and_left, exists_false, exists_eq_left]
  refine and_congr_right fun _ => ?_
  by_cases hdepth : w.RefusesInteger "SHAPECLI_MAX_DEPTH" <;> simp [hdepth]

/-- Where it is an object, settings are put into it one after the other. -/
theorem exists_chooseGenerator_of_hasPart (h : fields.HasPart generatorPart)
    (command depth workers : Option Document) :
    ∃ first second third, chooseIn generatorPart "command_prefix" command fields = .ok first ∧
      chooseIn generatorPart "max_depth" depth first = .ok second ∧
      chooseIn generatorPart "workers" workers second = .ok third ∧ fields.KeepsParts third := by
  obtain ⟨first, hfirst, hkeeps⟩ :=
    exists_chooseIn_of_hasPart h "command_prefix" (by decide) command
  obtain ⟨second, hsecond, hnext⟩ :=
    exists_chooseIn_of_hasPart (hkeeps.generator.mpr h) "max_depth" (by decide) depth
  have hboth := hkeeps.trans hnext
  obtain ⟨third, hthird, hlast⟩ :=
    exists_chooseIn_of_hasPart (hboth.generator.mpr h) "workers" (by decide) workers
  exact ⟨first, second, third, hfirst, hsecond, hthird, hboth.trans hlast⟩

/-- The environment is put into it if the integers are such. -/
theorem chooseVariables_of_hasPart (h : fields.HasPart generatorPart) :
    ¬ BreaksOff (chooseVariables w fields) ∧
      ((∃ after, chooseVariables w fields = .ok after) ↔ w.HasIntegers) := by
  obtain ⟨first, second, third, hfirst, hsecond, hthird, -⟩ := exists_chooseGenerator_of_hasPart h
    ((w.filled? "SHAPECLI_PREFIX").map .text)
    ((w.variableInteger? "SHAPECLI_MAX_DEPTH").map .int)
    ((w.variableInteger? "SHAPECLI_WORKERS").map .int)
  constructor
  · simp [chooseVariables, breaksOff_bind_iff, Workspace.not_breaksOff_integer?,
      Workspace.integer?_eq_ok_iff, hfirst, hsecond, hthird, pure, Except.pure]
  · simp [chooseVariables, bind_eq_ok_iff, Workspace.integer?_eq_ok_iff, hfirst, hsecond, hthird,
      Workspace.HasIntegers, pure, Except.pure]

theorem breaksOff_liftZeroLimit_iff :
    BreaksOff (liftZeroLimit fields) ↔ ¬ fields.HasPart generatorPart := by
  unfold liftZeroLimit
  split
  · rename_i inner hinner
    have hpart : fields.HasPart generatorPart := ⟨inner, hinner⟩
    split <;> simp [breaksOff_chooseIn_iff, hpart]
  · rename_i hinner
    simpa [Fields.HasPart] using hinner

theorem not_refuses_liftZeroLimit : ¬ Refuses (liftZeroLimit fields) := by
  unfold liftZeroLimit
  split
  · split
    · exact not_refuses_chooseIn
    · simp
  · simp

theorem not_refuses_choices : ¬ Refuses (c.choose fields) := by
  simp [Choices.choose, refuses_bind_iff, not_refuses_chooseIn]

/-- The command line can be put into fields whose parts are objects. -/
theorem breaksOff_choices_iff (h : fields.HasPart generatorPart) :
    BreaksOff (c.choose fields) ↔ c.format ≠ none ∧ ¬ fields.HasPart "output" := by
  obtain ⟨first, second, third, hfirst, hsecond, hthird, hkeeps⟩ :=
    exists_chooseGenerator_of_hasPart h (c.commandPrefix.map .text) (c.maxDepth.map .int)
      (c.workers.map .int)
  have houtput := (hkeeps.trans (.of_choose (c.outputDir.map .text) third)).output
  simp only [Choices.choose, breaksOff_bind_iff, hfirst, hsecond, hthird, not_breaksOff_ok,
    Except.ok.injEq, exists_eq_left', false_or]
  simp [breaksOff_chooseIn_iff, houtput]

/-! ## Settings over fields -/

/-- Puts the environment and the command line over fields, and reads what comes out. -/
def Choices.settings (c : Choices) (w : Workspace) (fields : Fields) : Except Trouble Settings := do
  let fields ← chooseVariables w fields
  let fields ← c.choose fields
  let fields ← liftZeroLimit fields
  (Settings.decode (.object fields)).mapError fun failure => failure.trouble .invalid

/-- Where the part for generation is no object, the work is broken off if no variable is refused
first. -/
theorem Choices.breaksOff_settings_of_not_hasPart (h : ¬ fields.HasPart generatorPart) :
    BreaksOff (c.settings w fields) ↔ ¬ w.RefusesFirst := by
  -- What the environment leaves is no object either, so zero cannot be looked up in it.
  have hrest : ∀ first, chooseVariables w fields = .ok first →
      BreaksOff (c.choose first >>= fun second => liftZeroLimit second >>= fun lifted =>
        (Settings.decode (.object lifted)).mapError fun failure => failure.trouble .invalid) := by
    intro first hfirst
    rw [breaksOff_bind_iff]
    refine or_iff_not_imp_left.mpr fun hbreak => ?_
    obtain ⟨second, hsecond⟩ := exists_of_not_breaksOff hbreak not_refuses_choices
    have hkeeps := (Fields.KeepsParts.of_chooseVariables hfirst).trans (.of_choices hsecond)
    have hlift := breaksOff_liftZeroLimit_iff.mpr (mt hkeeps.generator.mp h)
    exact ⟨second, hsecond, breaksOff_bind_iff.mpr (.inl hlift)⟩
  rw [settings, breaksOff_bind_iff, ← refuses_chooseVariables_iff h]
  constructor
  · rintro (hbreak | ⟨first, hfirst, -⟩)
    · exact hbreak.not_refuses
    · rw [hfirst]
      exact not_refuses_ok first
  · intro hrefuses
    refine or_iff_not_imp_left.mpr fun hbreak => ?_
    obtain ⟨first, hfirst⟩ := exists_of_not_breaksOff hbreak hrefuses
    exact ⟨first, hfirst, hrest first hfirst⟩

/-- Where it is an object, zero is lifted and what comes out is read. -/
theorem breaksOff_liftZeroLimit_bind_iff (h : fields.HasPart generatorPart) :
    BreaksOff (liftZeroLimit fields >>= fun lifted =>
        (Settings.decode (.object lifted)).mapError fun failure => failure.trouble .invalid) ↔
      fields.StopCheck := by
  have hbreak : ¬ BreaksOff (liftZeroLimit fields) := by
    rw [breaksOff_liftZeroLimit_iff, not_not]
    exact h
  obtain ⟨lifted, hlifted⟩ := exists_of_not_breaksOff hbreak not_refuses_liftZeroLimit
  rw [hlifted]
  exact Settings.breaksOff_decode_iff.trans (Fields.KeepsParts.of_liftZeroLimit hlifted).completions

/-- The work is broken off then where a format is put into what is no object, or by the
completions. -/
theorem Choices.breaksOff_settings_of_hasPart (h : fields.HasPart generatorPart) :
    BreaksOff (c.settings w fields) ↔
      w.HasIntegers ∧ (c.format ≠ none ∧ ¬ fields.HasPart "output" ∨ fields.StopCheck) := by
  obtain ⟨hvariables, hreturns⟩ := chooseVariables_of_hasPart (w := w) h
  rw [settings, breaksOff_bind_iff, or_iff_right hvariables, ← hreturns, ← exists_and_right]
  refine exists_congr fun first => and_congr_right fun hfirst => ?_
  have hkeeps := Fields.KeepsParts.of_chooseVariables hfirst
  have hpart := hkeeps.generator.mpr h
  rw [breaksOff_bind_iff, breaksOff_choices_iff hpart, ← hkeeps.output, ← hkeeps.completions]
  refine or_congr_right' fun hbreak => ?_
  rw [← breaksOff_choices_iff hpart] at hbreak
  obtain ⟨second, hsecond⟩ := exists_of_not_breaksOff hbreak not_refuses_choices
  have hkeepsSecond := Fields.KeepsParts.of_choices hsecond
  rw [← hkeepsSecond.completions,
    ← breaksOff_liftZeroLimit_bind_iff (hkeepsSecond.generator.mpr hpart), hsecond]
  simp

/-! ## Main statements -/

/-- What breaks the work off that puts the settings in force together, given the settings of the
user. -/
inductive Choices.Break (c : Choices) (w : Workspace) (project : Fields) : Prop
  /-- The project's part for generation is no object, and no variable is refused before something is
  put into it or looked up in it. -/
  | generator (h : project.IsClosed generatorPart) (hfirst : ¬ w.RefusesFirst)
  /-- Its part for output is no object, and a format is to be put into it. -/
  | output (h : project.IsClosed "output") (hformat : c.format ≠ none) (hread : w.HasIntegers)
  /-- Its completions stop the check. -/
  | completions (h : project.StopCheck) (hread : w.HasIntegers)

theorem Workspace.HasIntegers.not_refusesFirst (h : w.HasIntegers) : ¬ w.RefusesFirst := by
  rintro ⟨-, hdepth | ⟨-, hworkers⟩⟩
  · exact h.1 hdepth
  · exact h.2 hworkers

/-- Over settings of the user that were loaded, the work is broken off by the project's parts, where
something is put into them or looked up in them, and by its completions. -/
theorem Settings.breaksOff_layer_iff {user : Settings} {project : Option Fields}
    (huser : user.IsStorable)
    (hproject : (Document.object (project.getD [])).IsMadeOf Json.IsParsed) :
    BreaksOff (user.layer project w c) ↔ c.Break w (project.getD []) := by
  change BreaksOff (c.settings w (fieldsOver user.encode.fields (project.getD []))) ↔ _
  have hgenerator : (fieldsOver user.encode.fields (project.getD [])).HasPart generatorPart ↔
      ¬ (project.getD []).IsClosed generatorPart :=
    Fields.hasPart_fieldsOver_iff ⟨_, rfl⟩ hproject.names
  have houtput : (fieldsOver user.encode.fields (project.getD [])).HasPart "output" ↔
      ¬ (project.getD []).IsClosed "output" :=
    Fields.hasPart_fieldsOver_iff ⟨_, rfl⟩ hproject.names
  by_cases hclosed : (project.getD []).IsClosed generatorPart
  · rw [Choices.breaksOff_settings_of_not_hasPart (hgenerator.not_left.mpr hclosed)]
    constructor
    · exact .generator hclosed
    · rintro (⟨-, hfirst⟩ | ⟨-, -, hread⟩ | ⟨-, hread⟩)
      · exact hfirst
      · exact hread.not_refusesFirst
      · exact hread.not_refusesFirst
  · have hpart := hgenerator.mpr hclosed
    have hopen : ∀ d, Fields.get? generatorPart (fieldsOver user.encode.fields (project.getD [])) =
        some d → d.isObject = true := by
      obtain ⟨inner, hinner⟩ := hpart
      rintro d hd
      rw [hinner] at hd
      cases hd
      rfl
    rw [Choices.breaksOff_settings_of_hasPart hpart, houtput, not_not,
      stopCheck_fieldsOver_iff huser hproject hopen]
    constructor
    · rintro ⟨hread, ⟨hformat, h⟩ | h⟩
      · exact .output h hformat hread
      · exact .completions h hread
    · rintro (⟨h, -⟩ | ⟨h, hformat, hread⟩ | ⟨h, hread⟩)
      · exact absurd h hclosed
      · exact ⟨hread, .inl ⟨hformat, h⟩⟩
      · exact ⟨hread, .inr h⟩

end ServiceShell
