import ServiceShell.Proofs.Command.Configured
import ServiceShell.Proofs.Json.RoundTrip
import ServiceShell.Proofs.Settings.Layers

/-!
# Steps of actions

What it takes for a step of a command to end well, and what it leaves then.  Actions that are put
together from steps end well exactly when each step does.

Main results:

- Theorem `Action.run_bind_eq_ok_iff`: one action after the other.
- Theorems `Action.run_perform_eq_ok_iff`, `Action.run_remark_eq_ok_iff`,
  `Action.run_compiled_eq_ok_iff`, `Action.run_model_eq_ok_iff` and
  `Action.run_operation_eq_ok_iff`: the single steps.
- Definition `Action.ComesTo`: what an action comes to from a workspace, whatever was said before.
- Theorem `Job.workspace_of_settings`: reading the settings leaves the same behind, whatever is
  chosen on the command line.
- Theorem `modelOfInput_write`: a model that was written as JSON can be piped into a command.
-/

namespace ServiceShell

/-! ## Reports -/

namespace Display

theorem output_append (events more : List Event) :
    output (events ++ more) = output events ++ output more := by
  rw [output, List.map_append, String.join_append]
  rfl

/-- What parts of the generator noticed is not printed. -/
theorem output_notices (notices : List Notice) : output (notices.map .notice) = "" := by
  induction notices with
  | nil => rfl
  | cons notice rest ih =>
      rw [List.map_cons, output, List.map_cons, String.join_cons]
      exact (String.empty_append).trans ih

end Display

/-! ## Settings -/

/-- Reading the settings leaves the same behind, whatever is chosen on the command line. -/
theorem Job.workspace_of_settings {w later later' : Workspace} {c c' : Choices} {s s' : Settings}
    (h : (Job.settings c).run w = (.ok s, later))
    (h' : (Job.settings c').run w = (.ok s', later')) : later' = later := by
  obtain ⟨_, _, _, hfile, -⟩ := Job.settings_isTakenFrom h
  obtain ⟨_, _, _, hfile', -⟩ := Job.settings_isTakenFrom h'
  rw [hfile] at hfile'
  cases hfile'
  rfl

/-! ## Ends of steps -/

namespace Action

variable {α β : Type} {s later : Scene}

/-- Two actions end with a value exactly when the first does, and the second does from there. -/
theorem run_bind_eq_ok_iff {action : Action α} {next : α → Action β} {b : β} :
    (action >>= next).run s = (.ok b, later) ↔
      ∃ a middle, action.run s = (.ok a, middle) ∧ (next a).run middle = (.ok b, later) := by
  rw [run_bind]
  rcases action.run s with ⟨_ | a, middle⟩
  · constructor
    · intro h
      cases h
    · rintro ⟨_, _, h, _⟩
      cases h
  · constructor
    · intro h
      exact ⟨a, middle, rfl, h⟩
    · rintro ⟨_, _, ⟨⟩, h⟩
      exact h

/-- What follows goes on where the first action has ended with a value. -/
theorem run_bind_of_ok {action : Action α} {next : α → Action β} {a : α} {middle : Scene}
    (h : action.run s = (.ok a, middle)) :
    (action >>= next).run s = (next a).run middle := by
  rw [run_bind, h]

theorem run_perform_eq_ok_iff {job : Job α} {a : α} :
    (perform job).run s = (.ok a, later) ↔
      ∃ workspace, job.run s.workspace = (.ok a, workspace) ∧ later = { s with workspace } := by
  rw [run_perform]
  rcases job.run s.workspace with ⟨_ | b, workspace⟩
  · constructor
    · intro h
      cases h
    · rintro ⟨_, h, _⟩
      cases h
  · constructor
    · rintro ⟨⟩
      exact ⟨workspace, rfl, rfl⟩
    · rintro ⟨_, ⟨⟩, rfl⟩
      rfl

theorem run_compiled_eq_ok_iff {result : Except CompileError α} {a : α} :
    (compiled result).run s = (.ok a, later) ↔ result = .ok a ∧ later = s := by
  cases result with
  | error e =>
      constructor
      · intro h
        cases h
      · rintro ⟨h, _⟩
        cases h
  | ok b =>
      constructor
      · rintro ⟨⟩
        exact ⟨rfl, rfl⟩
      · rintro ⟨⟨⟩, rfl⟩
        rfl

theorem run_remark_eq_ok_iff {kind : RemarkKind} {text : String} {u : Unit} :
    (remark kind text).run s = (.ok u, later) ↔
      s.shows kind text = true ∧
        later = { s with events := s.events ++ [.remark kind text] } := by
  by_cases hshows : s.shows kind text = true
  · rw [run_remark hshows]
    constructor
    · rintro ⟨⟩
      exact ⟨hshows, rfl⟩
    · rintro ⟨-, rfl⟩
      rfl
  · rw [run_remark_of_not_shows hshows]
    constructor
    · intro h
      cases h
    · rintro ⟨h, -⟩
      exact absurd h hshows

/-- The remark about a model that was read. -/
def loadedText (source : String) : String := "Loaded model from " ++ source

theorem run_model_eq_ok_iff {source : String} {pages : Option String} {d : Document} :
    (model source pages).run s = (.ok d, later) ↔
      ∃ workspace, (Job.modelWith source pages).run s.workspace = (.ok d, workspace) ∧
        s.shows .debug (loadedText source) = true ∧
        later =
          { s with workspace, events := s.events ++ [.remark .debug (loadedText source)] } := by
  constructor
  · intro h
    obtain ⟨d, _, hperform, h⟩ := run_bind_eq_ok_iff.mp h
    obtain ⟨workspace, hread, rfl⟩ := run_perform_eq_ok_iff.mp hperform
    obtain ⟨_, _, hremark, h⟩ := run_bind_eq_ok_iff.mp h
    obtain ⟨hshows, rfl⟩ := run_remark_eq_ok_iff.mp hremark
    cases h
    exact ⟨workspace, hread, hshows, rfl⟩
  · rintro ⟨workspace, hread, hshows, rfl⟩
    have hperform := run_perform_eq_ok_iff.mpr ⟨workspace, hread, rfl⟩
    have hremark : (remark .debug (loadedText source)).run { s with workspace } = _ :=
      run_remark hshows
    exact run_bind_eq_ok_iff.mpr ⟨d, _, hperform, run_bind_eq_ok_iff.mpr ⟨(), _, hremark, rfl⟩⟩

/-- The operation that is looked for is the first one of the model with the name. -/
theorem run_operation_eq_ok_iff {limit : Option Int} {d : Document} {name : String}
    {o : Operation} :
    (operation limit d name).run s = (.ok o, later) ↔
      ∃ operations, Operation.ofModel d limit = .ok operations ∧
        Operation.find? operations name = some o ∧
        later = { s with
          events := s.events ++ (operationNotices d operations).map .notice } := by
  constructor
  · intro h
    obtain ⟨operations, _, hcompiled, hrest⟩ := run_bind_eq_ok_iff.mp h
    obtain ⟨hoperations, rfl⟩ := run_compiled_eq_ok_iff.mp hcompiled
    obtain ⟨_, _, hnotices, hlast⟩ := run_bind_eq_ok_iff.mp hrest
    cases hnotices
    cases hfind : Operation.find? operations name with
    | none =>
        rw [hfind] at hlast
        cases hlast
    | some found =>
        rw [hfind] at hlast
        cases hlast
        exact ⟨operations, mapError_eq_ok_iff.mp hoperations, hfind, rfl⟩
  · rintro ⟨operations, hoperations, hfind, rfl⟩
    have hmade : (Operation.ofModel d limit).mapError CompileError.invalid = .ok operations :=
      mapError_eq_ok_iff.mpr hoperations
    have hcompiled := run_compiled_eq_ok_iff.mpr ⟨hmade, Eq.refl s⟩
    refine run_bind_eq_ok_iff.mpr ⟨operations, s, hcompiled, ?_⟩
    refine run_bind_eq_ok_iff.mpr ⟨(), _, rfl, ?_⟩
    rw [hfind]
    rfl

/-! ## What actions come to -/

/-- From a workspace, an action comes to a value and leaves another workspace, where all remarks can
be shown. -/
def ComesTo (action : Action α) (before : Workspace) (a : α) (after : Workspace) : Prop :=
  ∀ s : Scene, s.workspace = before → (∀ kind text, s.shows kind text = true) →
    ∃ later, action.run s = (.ok a, later) ∧ later.workspace = after ∧ later.shows = s.shows

variable {u v w : Workspace}

theorem comesTo_pure (a : α) : ComesTo (pure a) w a w := fun s hs _ => ⟨s, rfl, hs, rfl⟩

theorem comesTo_sayAll (events : List Event) : ComesTo (sayAll events) w () w :=
  fun _ hs _ => ⟨_, rfl, hs, rfl⟩

theorem comesTo_remark (kind : RemarkKind) (text : String) : ComesTo (remark kind text) w () w :=
  fun _ hs hshows => ⟨_, run_remark (hshows kind text), hs, rfl⟩

theorem comesTo_perform {job : Job α} {a : α} (h : job.run v = (.ok a, w)) :
    ComesTo (perform job) v a w := by
  rintro s rfl -
  exact ⟨_, run_perform_eq_ok_iff.mpr ⟨w, h, rfl⟩, rfl, rfl⟩

theorem comesTo_compiled {result : Except CompileError α} {a : α} (h : result = .ok a) :
    ComesTo (compiled result) w a w := by
  rw [h]
  exact comesTo_pure a

/-- One action after the other. -/
theorem ComesTo.bind {action : Action α} {next : α → Action β} {a : α} {b : β}
    (h : ComesTo action u a v) (hnext : ComesTo (next a) v b w) :
    ComesTo (action >>= next) u b w := by
  intro s hs hshows
  obtain ⟨middle, hrun, hmiddle, hsame⟩ := h s hs hshows
  obtain ⟨later, hlast, hlater, hagain⟩ := hnext middle hmiddle (by rw [hsame]; exact hshows)
  exact ⟨later, run_bind_eq_ok_iff.mpr ⟨a, middle, hrun, hlast⟩, hlater, hagain.trans hsame⟩

end Action

/-! ## A text on the standard input -/

/-- A workspace without any files, and with a text on the standard input. -/
def pipedWorkspace (input : String) : Workspace := { freshWorkspace with input }

/-- The workspace when the settings were read. -/
def Workspace.withFreshFiles (w : Workspace) : Workspace := { w with files := freshFiles }

/-- Only choices make settings there. -/
theorem run_settings_pipedWorkspace {input : String} {c : Choices} {settings : Settings}
    (h : Settings.layer {} none (pipedWorkspace input).withFreshFiles c = .ok settings) :
    (Job.settings c).run (pipedWorkspace input) =
      (.ok settings, (pipedWorkspace input).withFreshFiles) := by
  have hfile : Job.settingsFile.run (pipedWorkspace input) =
      (.ok ⟨"/", ["c", "shapecli", "config.json"]⟩, (pipedWorkspace input).withFreshFiles) :=
    Job.run_settingsFile_eq_ok_iff.mpr
      ⟨_, _, Workspace.settingsDirectory_of_variable rfl rfl, rfl, rfl, rfl⟩
  have huser : (pipedWorkspace input).withFreshFiles.userSettings
      ⟨"/", ["c", "shapecli", "config.json"]⟩ = .ok {} := rfl
  rw [Job.settings, Job.userSettings]
  simp only [Job.run_bind_eq_ok_iff, Job.run_ask_eq_ok_iff]
  exact ⟨_, _, ⟨_, _, hfile, huser, rfl⟩, none, _, ⟨rfl, rfl⟩, h, rfl⟩

/-- What is laid out between brackets begins with the left one. -/
theorem Json.exists_enclose_eq (style : Json.Style) (depth : Nat) (left right : String)
    (parts : List String) : ∃ rest, style.enclose depth left right parts = left ++ rest := by
  unfold Style.enclose
  split
  · exact ⟨right, rfl⟩
  · split <;> simp only [String.append_assoc] <;> exact ⟨_, rfl⟩

/-- A model that was written as JSON can be read from the standard input. -/
theorem modelOfInput_write (style : Json.Style) {fields : Fields}
    (h : (Document.object fields).IsMadeOf Json.IsWritable) :
    modelOfInput (style.write (.object fields) ++ "\n") = .ok fields := by
  have hblank : ¬ isBlankText (style.write (.object fields) ++ "\n") = true := by
    obtain ⟨rest, hrest⟩ := Json.exists_enclose_eq style 0 "\x7b" "\x7d"
      (style.writeFields 1 fields)
    rw [Json.Style.write, Json.Style.writeAt, hrest, isBlankText, List.all_eq_true]
    intro hall
    have hbracket : Text.isBlank '\x7b' = true := hall '\x7b' (by simp)
    cases hbracket
  rw [modelOfInput, if_neg hblank]
  simp only [modelOfText, Json.parse_write_lineEnd style h, modelFields_object]

/-- The model there is the one in the text. -/
theorem run_modelWith_pipedWorkspace {input : String} {fields : Fields}
    (h : modelOfInput input = .ok fields) :
    (Job.modelWith inputSign none).run (pipedWorkspace input).withFreshFiles =
      (.ok (.object fields), (pipedWorkspace "").withFreshFiles) := by
  have hread : (Job.model inputSign).run (pipedWorkspace input).withFreshFiles =
      (.ok fields, (pipedWorkspace "").withFreshFiles) := by
    rw [Job.model, if_pos rfl]
    exact Job.run_bind_eq_ok_iff.mpr ⟨_, _, rfl, Job.run_ask_eq_ok_iff.mpr ⟨h, rfl⟩⟩
  exact Job.run_bind_eq_ok_iff.mpr ⟨_, _, hread, rfl⟩

theorem run_settings_default (input : String) :
    (Job.settings {}).run (pipedWorkspace input) =
      (.ok {}, (pipedWorkspace input).withFreshFiles) :=
  run_settings_pipedWorkspace rfl

end ServiceShell
