import ServiceShell.Report.Data
import ServiceShell.Workspace.Basic

/-!
# Actions

What a command does, with the report of what it said so far. An action ends with a value, with
trouble, because everything was said, or because a remark could not be shown.

Main statements:

- `Action.run_bind`: an action that follows another one begins where that one ended, and is not
  begun after an early end.
- `Action.run_remark`: a remark that can be shown comes last in the report.
-/

namespace ServiceShell

/-! ## Scenes -/

/-- Where an action stands: its workspace, and what was said. -/
structure Scene where
  /-- The workspace. -/
  workspace : Workspace
  /-- What was said, in order. -/
  events : List Event := []
  /-- Whether a remark can be shown, if the user wants to see it. -/
  shows : RemarkKind → String → Bool := fun _ _ => true

/-- Why an action ends early. -/
inductive Ending where
  /-- There is trouble, which is still to be told. -/
  | trouble (trouble : Trouble)
  /-- Everything was said; the program ends with a code. -/
  | stop (code : Nat)
  /-- A remark could not be shown. -/
  | unshown

/-- The code with which an early end ends the program. -/
def Ending.code : Ending → Nat
  | .trouble t => t.exitCode
  | .stop code => code
  | .unshown => 1

/-- What a command does. -/
abbrev Action := ExceptT Ending (StateM Scene)

namespace Action

variable {α β : Type}

/-- Says something. -/
def say (event : Event) : Action Unit := fun s => (.ok (), { s with events := s.events ++ [event] })

/-- Says several things. -/
def sayAll (events : List Event) : Action Unit := fun s =>
  (.ok (), { s with events := s.events ++ events })

/-- Ends early, with a code. -/
def stop (code : Nat) : Action α := throw (.stop code)

/-- Ends with trouble. -/
def fail (trouble : Trouble) : Action α := throw (.trouble trouble)

/-- Does a job. -/
def perform (job : Job α) : Action α := fun s =>
  match job.run s.workspace with
  | (.ok a, workspace) => (.ok a, { s with workspace })
  | (.error trouble, workspace) => (.error (.trouble trouble), { s with workspace })

/-- Prints lines of data. -/
def print (lines : List String) : Action Unit := sayAll (lines.map .data)

/-- Makes a remark, unless it cannot be shown. -/
def remark (kind : RemarkKind) (text : String) : Action Unit := fun s =>
  if s.shows kind text then say (.remark kind text) s else (.error .unshown, s)

/-- Passes on what parts of the generator noticed. -/
def pass (notices : List Notice) : Action Unit := sayAll (notices.map .notice)

/-- A remark that can be shown comes last in the report. -/
theorem run_remark {kind : RemarkKind} {text : String} {s : Scene} (h : s.shows kind text = true) :
    (remark kind text).run s = (.ok (), { s with events := s.events ++ [.remark kind text] }) :=
  if_pos h

/-- A value changes nothing. -/
@[simp] theorem run_pure (a : α) (s : Scene) : (pure a : Action α).run s = (.ok a, s) := rfl

/-- An action that follows another one begins where that one ended, and is not begun after an early
end. -/
theorem run_bind (action : Action α) (next : α → Action β) (s : Scene) :
    (action >>= next).run s =
      match action.run s with
      | (.ok a, s) => (next a).run s
      | (.error ending, s) => (.error ending, s) := by
  show (ExceptT.bind action next).run s = _
  simp only [ExceptT.bind, ExceptT.run, ExceptT.mk]
  show (StateT.bind action _) s = _
  simp only [StateT.bind]
  cases action s with
  | mk result s => cases result <;> rfl

end Action

end ServiceShell
