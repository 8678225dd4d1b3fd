import ServiceShell.Command.Run
import ServiceShell.Proofs.Workspace.Job

/-!
# Actions that leave files alone

What an action says, and what is still to be done when it ends early, has nothing to do with the
files of a certain name, unless that is the name of a log file.

Main results:

- Definition `Scene.Keeps`: what an action leaves that has nothing to do with the files of a name.
- Theorem `Action.Keeps.bind`: one such action after the other.
- Theorem `Action.finish_of_error`: what becomes of an action that ends early.
-/

namespace ServiceShell

/-- The files of a name are as they were, and the same remarks can be shown. -/
structure Scene.Keeps (name : String) (before after : Scene) : Prop where
  /-- The workspace keeps the files. -/
  workspace : before.workspace.Keeps name after.workspace
  /-- The same remarks can be shown. -/
  shows : after.shows = before.shows

section

variable {name : String} {r s t : Scene}

theorem Scene.Keeps.refl (s : Scene) : s.Keeps name s := ⟨.refl _, rfl⟩

theorem Scene.Keeps.trans (h : r.Keeps name s) (h' : s.Keeps name t) : r.Keeps name t :=
  ⟨h.workspace.trans h'.workspace, h'.shows.trans h.shows⟩

end

/-- No trouble ends well. -/
theorem Trouble.exitCode_ne_zero (trouble : Trouble) : trouble.exitCode ≠ 0 := by
  cases trouble <;> simp [exitCode]

/-! ## Steps -/

namespace Action

variable {α β : Type} {name : String} {s : Scene}

theorem run_perform (job : Job α) (s : Scene) :
    (perform job).run s =
      match job.run s.workspace with
      | (.ok a, workspace) => ((.ok a, { s with workspace }) : Except Ending α × Scene)
      | (.error trouble, workspace) => (.error (.trouble trouble), { s with workspace }) := rfl

/-- A remark that cannot be shown ends the action. -/
theorem run_remark_of_not_shows {kind : RemarkKind} {text : String}
    (h : ¬ s.shows kind text = true) : (remark kind text).run s = (.error .unshown, s) := if_neg h

/-! ## What is left alone -/

/-- An action that leaves the files of a name alone. -/
def Keeps (name : String) (action : Action α) : Prop := ∀ s : Scene, s.Keeps name (action.run s).2

theorem keeps_stop (code : Nat) : Keeps name (stop code : Action α) := fun s => .refl s

theorem keeps_fail (trouble : Trouble) : Keeps name (fail trouble : Action α) := fun s => .refl s

theorem keeps_remark (kind : RemarkKind) (text : String) : Keeps name (remark kind text) := by
  intro s
  by_cases hshows : s.shows kind text = true
  · rw [run_remark hshows]
    exact ⟨.refl _, rfl⟩
  · rw [run_remark_of_not_shows hshows]
    exact .refl s

/-- One such action after the other. -/
theorem Keeps.bind {action : Action α} {next : α → Action β} (h : Keeps name action)
    (hnext : ∀ a, Keeps name (next a)) : Keeps name (action >>= next) := by
  intro s
  have hfirst := h s
  rw [run_bind]
  split <;> rename_i heq <;> rw [heq] at hfirst
  · exact hfirst.trans (hnext _ _)
  · exact hfirst

/-- A job that leaves the files alone does so as an action. -/
theorem keeps_perform {job : Job α} (h : job.Keeps name) : Keeps name (perform job) := by
  intro s
  have hjob := h s.workspace
  rw [run_perform]
  split <;> rename_i heq <;> rw [heq] at hjob <;> exact ⟨hjob, rfl⟩

/-! ## What fails -/

/-- An action that always ends early, with a code for it. -/
def Fails (action : Action α) : Prop :=
  ∀ s, ∃ ending later, action.run s = (.error ending, later) ∧ ending.code ≠ 0

theorem fails_stop {code : Nat} (h : code ≠ 0) : Fails (stop code : Action α) :=
  fun s => ⟨.stop code, s, rfl, h⟩

theorem fails_fail (trouble : Trouble) : Fails (fail trouble : Action α) :=
  fun s => ⟨.trouble trouble, s, rfl, trouble.exitCode_ne_zero⟩

/-- A remark, shown or not, cannot save what fails. -/
theorem fails_remark_bind (kind : RemarkKind) (text : String) {next : Unit → Action α}
    (h : ∀ u, Fails (next u)) : Fails (remark kind text >>= next) := by
  intro s
  rw [run_bind]
  by_cases hshows : s.shows kind text = true
  · rw [run_remark hshows]
    exact h _ _
  · rw [run_remark_of_not_shows hshows]
    exact ⟨.unshown, s, rfl, Nat.one_ne_zero⟩

theorem fails_perform_bind (job : Job α) {next : α → Action β} (h : ∀ a, Fails (next a)) :
    Fails (perform job >>= next) := by
  intro s
  rw [run_bind, run_perform]
  rcases job.run s.workspace with ⟨trouble | a, workspace⟩
  · exact ⟨.trouble trouble, _, rfl, trouble.exitCode_ne_zero⟩
  · exact h a _

/-- What fails and leaves the files alone. -/
theorem Fails.run {action : Action α} (h : Fails action) (hkeeps : Keeps name action) (s : Scene) :
    ∃ ending later, action.run s = (.error ending, later) ∧ s.Keeps name later ∧
      ending.code ≠ 0 := by
  obtain ⟨ending, later, hrun, hcode⟩ := h s
  have hlater := hkeeps s
  rw [hrun] at hlater
  exact ⟨ending, later, hrun, hlater, hcode⟩

end Action

/-! ## Logs -/

/-- Whether a name is that of a log file. -/
def IsLogName (name : String) : Prop := ∃ time, name = "crash-" ++ time ++ ".log"

section

variable {name : String} {α : Type}

/-- Writing a log leaves the files of other names alone. -/
theorem Job.keeps_writeLog (hname : ¬ IsLogName name) (message : String) :
    (writeLog message).Keeps name := by
  refine keeps_dataDirectory.bind fun directory => ?_
  refine (keeps_ensureDirectories _).bind fun _ => ?_
  refine (keeps_ask _).bind fun now => ?_
  refine (keeps_writeText ?_ _).bind fun _ => keeps_pure _
  rintro rfl
  exact hname ⟨logTime now, by simp [Path.join, Path.name]⟩

namespace Action

/-! ## Early ends -/

theorem keeps_breakOff (hname : ¬ IsLogName name) (message : String) :
    Keeps name (breakOff message) :=
  (keeps_perform (Job.keeps_writeLog hname message)).bind fun _ =>
    (keeps_remark _ _).bind fun _ => keeps_stop 1

theorem fails_breakOff (message : String) : Fails (breakOff message) :=
  fails_perform_bind _ fun _ => fails_remark_bind _ _ fun _ => fails_stop Nat.one_ne_zero

/-- Breaking off leaves the files alone, and is no success. -/
theorem run_breakOff (hname : ¬ IsLogName name) (message : String) (s : Scene) :
    ∃ ending later, (breakOff message).run s = (.error ending, later) ∧ s.Keeps name later ∧
      ending.code ≠ 0 :=
  (fails_breakOff message).run (keeps_breakOff hname message) s

/-- Trouble is told or logged; neither is a success. -/
theorem run_tell (hname : ¬ IsLogName name) (trouble : Trouble) (s : Scene) :
    ∃ ending later, (tell trouble).run s = (.error ending, later) ∧ s.Keeps name later ∧
      ending.code ≠ 0 := by
  rw [show (tell trouble).run s = tell trouble s from rfl, tell]
  by_cases hshows : s.shows .error (trouble.message?.getD "") = true
  · rw [run_remark hshows]
    exact ⟨.stop trouble.exitCode, _, rfl, ⟨.refl _, rfl⟩, trouble.exitCode_ne_zero⟩
  · rw [run_remark_of_not_shows hshows]
    exact run_breakOff hname unshownMessage s

/-- An early end leaves the files alone, and does not turn into a success. -/
theorem run_settle (hname : ¬ IsLogName name) (ending : Ending) (s : Scene) :
    ∃ last later, (settle ending).run s = (.error last, later) ∧ s.Keeps name later ∧
      (ending.code ≠ 0 → last.code ≠ 0) := by
  have hfailure : ∀ action : Action Unit, settle ending = action →
      (∃ last later, action.run s = (.error last, later) ∧ s.Keeps name later ∧ last.code ≠ 0) →
      ∃ last later, (settle ending).run s = (.error last, later) ∧ s.Keeps name later ∧
        (ending.code ≠ 0 → last.code ≠ 0) := by
    rintro _ rfl ⟨last, later, hrun, hkeeps, hcode⟩
    exact ⟨last, later, hrun, hkeeps, fun _ => hcode⟩
  match ending with
  | .stop code => exact ⟨.stop code, s, rfl, .refl s, id⟩
  | .unshown => exact hfailure _ rfl (run_breakOff hname _ s)
  | .trouble trouble =>
      cases trouble with
      | unexpected breakdown => exact hfailure _ rfl (run_breakOff hname _ s)
      | _ => exact hfailure _ rfl (run_tell hname _ s)

/-- An action that comes to its end ends well. -/
theorem finish_of_ok {action : Action Unit} {s later : Scene}
    (h : action.run s = (.ok (), later)) : action.finish s = (0, later) := by
  rw [finish, h]

/-- An action that ends early leaves the files alone from then on, and does not end well after
all. -/
theorem finish_of_error (hname : ¬ IsLogName name) {action : Action Unit} {s middle : Scene}
    {ending : Ending} (h : action.run s = (.error ending, middle)) :
    ∃ code later, action.finish s = (code, later) ∧ middle.Keeps name later ∧
      (ending.code ≠ 0 → code ≠ 0) := by
  obtain ⟨last, later, hrun, hkeeps, hcode⟩ := run_settle hname ending middle
  refine ⟨last.code, later, ?_, hkeeps, hcode⟩
  rw [finish, h]
  simp only [hrun]

end Action

end

end ServiceShell
